import Mathlib.Data.List.Basic

/-!
Paths as byte strings: their pieces between separators, their lexical resolution, and which
paths lie in a directory.
-/

namespace PlayerFramework.Paths

variable {α : Type*}

def join (separator : α) : List (List α) → List α
  | [] => []
  | [piece] => piece
  | piece :: second :: rest => piece ++ separator :: join separator (second :: rest)

theorem join_cons {separator : α} (first : List α) (rest : List (List α)) :
    join separator (first :: rest) = first ++ rest.flatMap fun piece => separator :: piece := by
  induction rest generalizing first with
  | nil => simp [join]
  | cons second rest ih =>
    rw [join, ih second, List.flatMap_cons, List.cons_append]

theorem join_append {separator : α} {parts : List (List α)} (some : parts ≠ []) (last : List α) :
    join separator (parts ++ [last]) = join separator parts ++ separator :: last := by
  cases parts with
  | nil => exact absurd rfl some
  | cons first rest => simp [join_cons]

variable [DecidableEq α]

/-- The pieces that reading up to each separator yields; after a last separator there is
none. -/
def pieces (separator : α) : List α → List (List α)
  | [] => []
  | head :: rest =>
    if head = separator then [] :: pieces separator rest
    else
      match pieces separator rest with
      | [] => [[head]]
      | first :: more => (head :: first) :: more

variable {separator : α}

theorem pieces_nil_iff {text : List α} : pieces separator text = [] ↔ text = [] := by
  cases text with
  | nil => simp [pieces]
  | cons head rest =>
    unfold pieces
    split
    · simp
    · split <;> simp

/-- A separator in the middle ends a piece, which is empty where another separator stands
before it. -/
theorem pieces_append (first second : List α) : pieces separator (first ++ separator :: second) =
        pieces separator first ++ pieces separator second ∨
      pieces separator (first ++ separator :: second) =
        pieces separator first ++ [] :: pieces separator second := by
  induction first with
  | nil => simp [pieces]
  | cons head rest ih =>
    by_cases here : head = separator
    · simpa [pieces, here] using ih
    by_cases last : rest = []
    · simp [pieces, here, last]
    cases split : pieces separator rest with
    | nil => exact absurd (pieces_nil_iff.mp split) last
    | cons piece more =>
      rcases ih with joined | parted
      · simp [pieces, here, split, joined]
      · simp [pieces, here, split, parted]

theorem pieces_of_clean {text : List α} (clean : separator ∉ text) (nonempty : text ≠ []) :
    pieces separator text = [text] := by
  induction text with
  | nil => exact absurd rfl nonempty
  | cons head rest ih =>
    have here : head ≠ separator := fun same => clean (by simp [same])
    by_cases last : rest = []
    · simp [pieces, here, last]
    · have later := ih (fun member => clean (by simp [member])) last
      simp [pieces, here, later]

theorem pieces_clean_append {piece : List α} (clean : separator ∉ piece) (nonempty : piece ≠ [])
    (text : List α) :
    pieces separator (piece ++ separator :: text) = piece :: pieces separator text := by
  induction piece with
  | nil => exact absurd rfl nonempty
  | cons head rest ih =>
    have here : head ≠ separator := fun same => clean (by simp [same])
    by_cases last : rest = []
    · simp [pieces, here, last]
    · have later := ih (fun member => clean (by simp [member])) last
      rw [List.cons_append, pieces, if_neg here, later]

theorem pieces_join {parts : List (List α)}
    (clean : ∀ part ∈ parts, separator ∉ part ∧ part ≠ []) :
    pieces separator (join separator parts) = parts := by
  induction parts with
  | nil => rfl
  | cons part rest ih =>
    obtain ⟨noSeparator, nonempty⟩ := clean part (by simp)
    cases rest with
    | nil => exact pieces_of_clean noSeparator nonempty
    | cons second rest =>
      have later := ih (fun other member => clean other (by simp [member]))
      rw [join, pieces_clean_append noSeparator nonempty, later]

/-- A text of pieces that goes on behind another one has its pieces first. -/
theorem prefix_of_join {first second : List (List α)} {rest : List α}
    (cleanFirst : ∀ part ∈ first, separator ∉ part ∧ part ≠ [])
    (cleanSecond : ∀ part ∈ second, separator ∉ part ∧ part ≠ [])
    (goesOn : join separator second = join separator first ++ rest)
    (boundary : rest = [] ∨ ∃ tail, rest = separator :: tail) : first <+: second := by
  have parts := congrArg (pieces separator) goesOn
  rw [pieces_join cleanSecond] at parts
  rcases boundary with rfl | ⟨tail, rfl⟩
  · rw [List.append_nil, pieces_join cleanFirst] at parts
    exact parts ▸ List.prefix_refl first
  rcases @pieces_append α _ separator (join separator first) tail with joined | parted
  · rw [joined, pieces_join cleanFirst] at parts
    exact ⟨_, parts.symm⟩
  · rw [parted, pieces_join cleanFirst] at parts
    exact ⟨_, parts.symm⟩

theorem pieces_clean {text : List α} : ∀ piece ∈ pieces separator text, separator ∉ piece := by
  induction text with
  | nil => simp [pieces]
  | cons head rest ih =>
    intro piece member
    unfold pieces at member
    split at member
    · rcases List.mem_cons.mp member with rfl | later
      · simp
      · exact ih piece later
    · rename_i here
      split at member
      · rw [List.mem_singleton.mp member]
        simpa using fun same => here same.symm
      rename_i first more split
      rcases List.mem_cons.mp member with rfl | later
      · have clean := ih first (by simp [split])
        intro inside
        rcases List.mem_cons.mp inside with same | inner
        · exact here same.symm
        · exact clean inner
      · exact ih piece (by simp [split, later])

section Resolution

def slash : UInt8 := 47

def dot : UInt8 := 46

/-- One step of the lexical resolution; above the root there is the root. -/
def enter (names : List (List UInt8)) (name : List UInt8) : List (List UInt8) :=
  if name = [] ∨ name = [dot] then names
  else if name = [dot, dot] then names.dropLast
  else names ++ [name]

/-- The names on the way to what the path means, with `.` and `..` resolved lexically. -/
def resolve (path : List UInt8) : List (List UInt8) := (pieces slash path).foldl enter []

/-- The path means the directory or something below it. -/
def Inside (directory path : List UInt8) : Prop := resolve directory <+: resolve path

def StrictlyInside (directory path : List UInt8) : Prop :=
  Inside directory path ∧ resolve path ≠ resolve directory

theorem resolve_append (directory relative : List UInt8) :
    resolve (directory ++ slash :: relative) =
      (pieces slash relative).foldl enter (resolve directory) := by
  unfold resolve
  rcases @pieces_append UInt8 _ slash directory relative with joined | parted
  · rw [joined, List.foldl_append]
  · have skipped : ∀ names, enter names [] = names := by
      intro names
      simp [enter]
    rw [parted, List.foldl_append, List.foldl_cons, skipped]

theorem enter_clean {names : List (List UInt8)} {name : List UInt8}
    (clean : ∀ part ∈ names, slash ∉ part ∧ part ≠ []) (cleanName : slash ∉ name) :
    ∀ part ∈ enter names name, slash ∉ part ∧ part ≠ [] := by
  intro part member
  unfold enter at member
  split at member
  · exact clean part member
  rename_i meaningful
  split at member
  · exact clean part (List.dropLast_subset names member)
  · rcases List.mem_append.mp member with early | last
    · exact clean part early
    · rw [List.mem_singleton.mp last]
      exact ⟨cleanName, fun empty => meaningful (Or.inl empty)⟩

theorem resolve_clean (path : List UInt8) : ∀ part ∈ resolve path, slash ∉ part ∧ part ≠ [] := by
  have walk : ∀ (texts : List (List UInt8)) (names : List (List UInt8)),
      (∀ text ∈ texts, slash ∉ text) → (∀ part ∈ names, slash ∉ part ∧ part ≠ []) →
        ∀ part ∈ texts.foldl enter names, slash ∉ part ∧ part ≠ [] := by
    intro texts
    induction texts with
    | nil =>
      intro names _ clean
      exact clean
    | cons text rest ih =>
      intro names cleanTexts clean
      exact ih (enter names text) (fun other member => cleanTexts other (by simp [member]))
        (enter_clean clean (cleanTexts text (by simp)))
  exact walk (pieces slash path) [] pieces_clean (by simp)

end Resolution

end PlayerFramework.Paths
