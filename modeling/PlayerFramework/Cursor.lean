import Mathlib.Algebra.Group.Nat.Defs
import Mathlib.Data.List.Basic

/-!
Little-endian integers, and readers that move a position over a byte string.
-/

namespace PlayerFramework.Cursor

def littleEndian : Nat → Nat → List UInt8
  | 0, _ => []
  | width + 1, value => UInt8.ofNat value :: littleEndian width (value / 256)

def ofLittleEndian : List UInt8 → Nat
  | [] => 0
  | byte :: rest => byte.toNat + 256 * ofLittleEndian rest

@[simp] theorem length_littleEndian (width value : Nat) :
    (littleEndian width value).length = width := by
  induction width generalizing value with
  | zero => rfl
  | succ width ih => rw [littleEndian, List.length_cons, ih]

variable {width : Nat}

theorem ofLittleEndian_littleEndian {value : Nat} (fits : value < 256 ^ width) :
    ofLittleEndian (littleEndian width value) = value := by
  induction width generalizing value with
  | zero =>
    have zero : value = 0 := by simpa using fits
    rw [zero]
    rfl
  | succ width ih =>
    have quotient : value / 256 < 256 ^ width := by
      rw [Nat.div_lt_iff_lt_mul (by decide)]
      simpa [Nat.pow_succ] using fits
    have digit : (UInt8.ofNat value).toNat = value % 256 := UInt8.toNat_ofNat'
    rw [littleEndian, ofLittleEndian, ih quotient]
    omega

/-- A reader takes the whole input and a position, and moves the position. -/
abbrev Reader (α : Type) := List UInt8 → StateT Nat Option α

variable {α β : Type} {reader : Reader α} {rest : α → Reader β} {value : α} {bytes : List UInt8}

/-- Wherever `bytes` stand in an input, the reader reads `value` from them. -/
def Reads (reader : Reader α) (bytes : List UInt8) (value : α) : Prop :=
  ∀ before after, reader (before ++ (bytes ++ after)) before.length =
    some (value, before.length + bytes.length)

theorem reads_pure (value : α) : Reads (fun _ => pure value) [] value := by
  intro before after
  rfl

theorem Reads.bind {first second : List UInt8} {result : β} (reads : Reads reader first value)
    (later : Reads (rest value) second result) :
    Reads (fun input => reader input >>= fun value => rest value input) (first ++ second)
      result := by
  intro before after
  have early := reads before (second ++ after)
  have late := later (before ++ first) after
  rw [List.length_append] at late
  change (reader (before ++ (first ++ second ++ after)) before.length).bind
    (fun step => rest step.1 (before ++ (first ++ second ++ after)) step.2) = _
  rw [List.append_assoc first, early, Option.bind_some]
  simp only [List.append_assoc] at late
  rw [late, List.length_append, Nat.add_assoc]

/-- On a cut input the reader goes on as on the whole one, but stops at the cut, and what it
reads before the cut is the same. -/
def Tracks (reader : Reader α) : Prop :=
  ∀ (input : List UInt8) (cut offset next : Nat) (value : α), cut ≤ input.length →
    offset ≤ input.length → reader input offset = some (value, next) →
      offset ≤ next ∧ next ≤ input.length ∧ ∃ short, reader (input.take cut) (min offset cut) =
        some (short, min next cut) ∧ (next ≤ cut → short = value)

/-- At the end of the input the reader reads something and stays there. -/
def AtEnd (reader : Reader α) : Prop :=
  ∀ input : List UInt8, ∃ value, reader input input.length = some (value, input.length)

theorem atEnd_pure (value : α) : AtEnd (fun _ => pure value) := by
  intro input
  exact ⟨value, rfl⟩

theorem AtEnd.bind (ends : AtEnd reader) (later : ∀ value, AtEnd (rest value)) :
    AtEnd (fun input => reader input >>= fun value => rest value input) := by
  intro input
  obtain ⟨value, first⟩ := ends input
  obtain ⟨result, second⟩ := later value input
  refine ⟨result, ?_⟩
  change (reader input input.length).bind (fun step => rest step.1 input step.2) = _
  rw [first, Option.bind_some, second]

theorem tracks_pure (value : α) : Tracks (fun _ => pure value) := by
  intro input cut offset next result _ inside read
  have same : some (value, offset) = some (result, next) := read
  obtain ⟨rfl, rfl⟩ := Prod.mk.inj (Option.some.inj same)
  exact ⟨Nat.le_refl _, inside, value, rfl, fun _ => rfl⟩

theorem Tracks.bind (tracks : Tracks reader) (later : ∀ value, Tracks (rest value))
    (ends : ∀ value, AtEnd (rest value)) :
    Tracks (fun input => reader input >>= fun value => rest value input) := by
  intro input cut offset next result within start read
  obtain ⟨⟨value, middle⟩, first, second⟩ := Option.bind_eq_some_iff.mp read
  obtain ⟨forward, reached, short, cutFirst, same⟩ :=
    tracks input cut offset middle value within start first
  obtain ⟨onward, bounded, shorter, cutSecond, sameLater⟩ :=
    later value input cut middle next result within reached second
  refine ⟨Nat.le_trans forward onward, bounded, ?_⟩
  change ∃ short, (reader (input.take cut) (min offset cut)).bind
    (fun step => rest step.1 (input.take cut) step.2) = _ ∧ _
  rw [cutFirst]
  by_cases inside : middle ≤ cut
  · rw [same inside]
    exact ⟨shorter, cutSecond, sameLater⟩
  -- The cut has been reached, and nothing moves any more.
  have length : (input.take cut).length = cut := by
    rw [List.length_take]
    omega
  obtain ⟨last, stays⟩ := ends short (input.take cut)
  rw [length] at stays
  have here : min middle cut = cut := by omega
  have there : min next cut = cut := by omega
  rw [here, there]
  exact ⟨last, stays, fun fits => by omega⟩

/-- The next `width` bytes; where they are not all there, the position goes to the end. -/
def clamped (width : Nat) (decode : List UInt8 → α) (missing : α) : Reader α :=
  fun input offset =>
    if input.length < offset + width then some (missing, input.length)
    else some (decode ((input.drop offset).take width), offset + width)

theorem clamped_reads {decode : List UInt8 → α} {missing : α} (length : bytes.length = width) :
    Reads (clamped width decode missing) bytes (decode bytes) := by
  intro before after
  have present : ¬ (before ++ (bytes ++ after)).length < before.length + width := by
    simp only [List.length_append]
    omega
  have here : ((before ++ (bytes ++ after)).drop before.length).take width = bytes := by
    rw [List.drop_left, ← length, List.take_left]
  rw [clamped, if_neg present, here, length]

theorem clamped_atEnd (width : Nat) (decode : List UInt8 → α) (missing : α) :
    AtEnd (clamped width decode missing) := by
  intro input
  by_cases nothing : width = 0
  · rw [clamped, if_neg (by omega), nothing]
    exact ⟨_, rfl⟩
  · rw [clamped, if_pos (by omega)]
    exact ⟨_, rfl⟩

theorem clamped_tracks (width : Nat) (decode : List UInt8 → α) (missing : α) :
    Tracks (clamped width decode missing) := by
  intro input cut offset next value within start read
  have length : (input.take cut).length = cut := by
    rw [List.length_take]
    omega
  unfold clamped at read ⊢
  rw [length]
  by_cases short : input.length < offset + width
  · rw [if_pos short] at read
    obtain ⟨rfl, rfl⟩ := Prod.mk.inj (Option.some.inj read)
    have beyond : cut < min offset cut + width := by omega
    rw [if_pos beyond]
    refine ⟨start, Nat.le_refl _, missing, ?_, fun _ => rfl⟩
    rw [Nat.min_eq_right within]
  · rw [if_neg short] at read
    obtain ⟨rfl, rfl⟩ := Prod.mk.inj (Option.some.inj read)
    refine ⟨by omega, by omega, ?_⟩
    by_cases inside : offset + width ≤ cut
    · have same : ((input.take cut).drop offset).take width = (input.drop offset).take width := by
        rw [List.drop_take, List.take_take, Nat.min_eq_left (by omega)]
      have here : min offset cut = offset := by omega
      have there : min (offset + width) cut = offset + width := by omega
      rw [here, there, if_neg (by omega), same]
      exact ⟨_, rfl, fun _ => rfl⟩
    · have there : min (offset + width) cut = cut := by omega
      rw [there]
      by_cases beyond : cut < min offset cut + width
      · rw [if_pos beyond]
        exact ⟨missing, rfl, fun fits => absurd fits inside⟩
      · rw [if_neg beyond]
        have stays : min offset cut + width = cut := by omega
        rw [stays]
        exact ⟨_, rfl, fun fits => absurd fits inside⟩

/-- Wherever `bytes` stand in an input, the reader fails on them. -/
def Refuses (reader : Reader α) (bytes : List UInt8) : Prop :=
  ∀ before after, reader (before ++ (bytes ++ after)) before.length = none

theorem refuses_failure (bytes : List UInt8) : Refuses (fun _ => failure : Reader α) bytes := by
  intro before after
  rfl

theorem Reads.bind_refuses {first second : List UInt8} (reads : Reads reader first value)
    (refuses : Refuses (rest value) second) :
    Refuses (fun input => reader input >>= fun value => rest value input) (first ++ second) := by
  intro before after
  have early := reads before (second ++ after)
  have late := refuses (before ++ first) after
  rw [List.length_append] at late
  change (reader (before ++ (first ++ second ++ after)) before.length).bind
    (fun step => rest step.1 (before ++ (first ++ second ++ after)) step.2) = none
  rw [List.append_assoc first, early]
  simp only [List.append_assoc] at late
  exact late

theorem Refuses.bind (refuses : Refuses reader bytes) (rest : α → Reader β) :
    Refuses (fun input => reader input >>= fun value => rest value input) bytes := by
  intro before after
  change (reader (before ++ (bytes ++ after)) before.length).bind
    (fun step => rest step.1 (before ++ (bytes ++ after)) step.2) = none
  rw [refuses before after]
  rfl

/-- Byte strings of one length. -/
structure Block (width : Nat) where
  bytes : List UInt8
  length : bytes.length = width
deriving DecidableEq

/-- The next `width` bytes, where they are all there. -/
def block (width : Nat) : Reader (Block width) := fun input offset =>
  if whole : ((input.drop offset).take width).length = width then
    some (⟨(input.drop offset).take width, whole⟩, offset + width)
  else none

theorem block_reads (value : Block width) : Reads (block width) value.bytes value := by
  intro before after
  have here : ((before ++ (value.bytes ++ after)).drop before.length).take width = value.bytes := by
    calc ((before ++ (value.bytes ++ after)).drop before.length).take width =
          (value.bytes ++ after).take value.bytes.length := by rw [List.drop_left, value.length]
      _ = value.bytes := List.take_left
  have whole : (((before ++ (value.bytes ++ after)).drop before.length).take width).length =
      width := by
    rw [here, value.length]
  rw [block, dif_pos whole, value.length]
  simp only [here]

theorem Reads.map (reads : Reads reader bytes value) (result : α → β) :
    Reads (fun input => result <$> reader input) bytes (result value) := by
  intro before after
  change (reader (before ++ (bytes ++ after)) before.length).bind
    (fun step => some (result step.1, step.2)) = _
  rw [reads before after]
  rfl

/-- A cut costs such a reader what lies behind it, and nothing else. -/
structure Steady (reader : Reader α) : Prop where
  tracks : Tracks reader
  atEnd : AtEnd reader

theorem steady_pure (value : α) : Steady (fun _ => pure value) :=
  ⟨tracks_pure value, atEnd_pure value⟩

theorem Steady.bind (steady : Steady reader) (later : ∀ value, Steady (rest value)) :
    Steady (fun input => reader input >>= fun value => rest value input) where
  tracks := steady.tracks.bind (fun value => (later value).tracks)
    (fun value => (later value).atEnd)
  atEnd := steady.atEnd.bind fun value => (later value).atEnd

theorem clamped_steady (width : Nat) (decode : List UInt8 → α) (missing : α) :
    Steady (clamped width decode missing) :=
  ⟨clamped_tracks width decode missing, clamped_atEnd width decode missing⟩

end PlayerFramework.Cursor
