import Mathlib.Data.List.Induction
import PlayerFramework.Paths

/-!
The two checks of cache paths: `PathValidator::Validate` (`path_validator.cpp`) and
`DownloadedFileCacheManager::IsValidPath` (`file_cache_manager.cpp`).
-/

namespace PlayerFramework.DownloadedCache

open Paths

def maxPathLength : Nat := 1024

def pathMax : Nat := 4096

def firstPrintableAscii : UInt8 := 32

structure NormalizeResult where
  path : List UInt8
  escaped : Bool
deriving DecidableEq

namespace PathValidator

def normalizeComponent (state : List (List UInt8) × Bool) (component : List UInt8) :
    List (List UInt8) × Bool :=
  if component = [] ∨ component = [dot] then state
  else if component = [dot, dot] then
    if state.1 ≠ [] then (state.1.dropLast, state.2) else (state.1, true)
  else (state.1 ++ [component], state.2)

def appendComponent (resultPath comp : List UInt8) : List UInt8 :=
  if resultPath ≠ [] ∧ resultPath.getLast? ≠ some slash then resultPath ++ [slash] ++ comp
  else resultPath ++ comp

def normalizePath (path : List UInt8) : NormalizeResult :=
  let state := (pieces slash path).foldl normalizeComponent ([], false)
  let resultPath := if path.head? = some slash then [slash] else []
  ⟨state.1.foldl appendComponent resultPath, state.2⟩

def isPathEscaped (resolvedPath rootPath : List UInt8) : Bool :=
  if resolvedPath.length < rootPath.length then true
  else if resolvedPath.take rootPath.length ≠ rootPath then true
  else if rootPath.length < resolvedPath.length ∧
      resolvedPath[rootPath.length]? ≠ some slash then true
  else false

def containsIllegalCharacters (path : List UInt8) : Bool :=
  path.any fun c => decide (c < firstPrintableAscii ∧ c ≠ 9 ∧ c ≠ 10 ∧ c ≠ 13)

def validate (rootPath relativePath : List UInt8) : Bool :=
  if rootPath = [] then false
  else if relativePath = [] then false
  else if maxPathLength < relativePath.length then false
  else if containsIllegalCharacters relativePath then false
  else
    let resolvedResult := normalizePath (rootPath ++ [slash] ++ relativePath)
    if resolvedResult.escaped then false
    else !isPathEscaped resolvedResult.path (normalizePath rootPath).path

end PathValidator

/-- `IsValidPath` of a file cache manager for `cacheDir`. -/
def isValidPath (cacheDir inputPath : List UInt8) : Bool :=
  if pathMax < inputPath.length then false
  else if cacheDir.length < inputPath.length ∧ inputPath.take cacheDir.length = cacheDir then
    if inputPath[cacheDir.length]? ≠ some slash then false
    else
      let relativePath := inputPath.drop (cacheDir.length + 1)
      if relativePath = [] then true else PathValidator.validate cacheDir relativePath
  else decide (inputPath = cacheDir)

namespace PathValidator

theorem normalizeComponent_names (state : List (List UInt8) × Bool) (component : List UInt8) :
    (normalizeComponent state component).1 = enter state.1 component := by
  unfold normalizeComponent enter
  by_cases skipped : component = [] ∨ component = [dot]
  · rw [if_pos skipped, if_pos skipped]
  rw [if_neg skipped, if_neg skipped]
  by_cases up : component = [dot, dot]
  · rw [if_pos up, if_pos up]
    by_cases empty : state.1 = []
    · rw [if_neg (fun some => some empty), empty]
      rfl
    · rw [if_pos empty]
  · rw [if_neg up, if_neg up]

theorem normalize_names (texts : List (List UInt8)) (state : List (List UInt8) × Bool) :
    (texts.foldl normalizeComponent state).1 = texts.foldl enter state.1 := by
  induction texts generalizing state with
  | nil => rfl
  | cons text rest ih =>
    rw [List.foldl_cons, List.foldl_cons, ih, normalizeComponent_names]

variable {path : List UInt8}

theorem appendComponent_going (nonempty : path ≠ []) (open_end : path.getLast? ≠ some slash)
    (comp : List UInt8) :
    appendComponent path comp = path ++ slash :: comp := by
  rw [appendComponent, if_pos ⟨nonempty, open_end⟩, List.append_assoc]
  rfl

theorem appendComponent_first {lead : List UInt8} (leading : lead = [] ∨ lead = [slash])
    (comp : List UInt8) : appendComponent lead comp = lead ++ comp := by
  rcases leading with rfl | rfl
  · rfl
  · rw [appendComponent, if_neg (fun going => going.2 rfl)]

theorem append_open_end {comp : List UInt8} (clean : slash ∉ comp) (nonempty : comp ≠ []) :
    (path ++ comp).getLast? ≠ some slash := by
  rw [List.getLast?_append_of_ne_nil path nonempty]
  intro last
  exact clean (List.mem_of_getLast? last)

theorem appendComponents_going {names : List (List UInt8)}
    (clean : ∀ name ∈ names, slash ∉ name ∧ name ≠ []) (nonempty : path ≠ [])
    (open_end : path.getLast? ≠ some slash) :
    names.foldl appendComponent path = path ++ names.flatMap fun name => slash :: name := by
  induction names generalizing path with
  | nil => simp
  | cons name rest ih =>
    obtain ⟨noSlash, named⟩ := clean name (by simp)
    have later : (path ++ slash :: name).getLast? ≠ some slash := by
      have ends : path ++ slash :: name = (path ++ [slash]) ++ name := by simp
      rw [ends]
      exact append_open_end noSlash named
    rw [List.foldl_cons, appendComponent_going nonempty open_end,
      ih (fun other member => clean other (by simp [member])) (by simp) later,
      List.flatMap_cons, List.append_assoc]

theorem appendComponents {names : List (List UInt8)} {lead : List UInt8}
    (clean : ∀ name ∈ names, slash ∉ name ∧ name ≠ []) (leading : lead = [] ∨ lead = [slash]) :
    names.foldl appendComponent lead = lead ++ join slash names := by
  cases names with
  | nil => simp [join]
  | cons name rest =>
    obtain ⟨noSlash, named⟩ := clean name (by simp)
    rw [List.foldl_cons, appendComponent_first leading,
      appendComponents_going (fun other member => clean other (by simp [member]))
        (by simp [named]) (append_open_end noSlash named),
      join_cons, List.append_assoc]

def lead (path : List UInt8) : List UInt8 := if path.head? = some slash then [slash] else []

theorem lead_cases (path : List UInt8) : lead path = [] ∨ lead path = [slash] := by
  unfold lead
  split
  · exact Or.inr rfl
  · exact Or.inl rfl

theorem lead_append (nonempty : path ≠ []) (more : List UInt8) :
    lead (path ++ more) = lead path := by
  rw [lead, lead, List.head?_append_of_ne_nil path nonempty]

theorem normalizePath_path (path : List UInt8) :
    (normalizePath path).path = lead path ++ join slash (resolve path) := by
  have names : ((pieces slash path).foldl normalizeComponent ([], false)).1 = resolve path :=
    normalize_names (pieces slash path) ([], false)
  have written := appendComponents (resolve_clean path) (lead_cases path)
  rw [← names] at written ⊢
  exact written

/-- Where the check of `IsPathEscaped` passes, the resolved path goes on behind the root at a
separator. -/
theorem isPathEscaped_false {resolvedPath rootPath : List UInt8}
    (kept : isPathEscaped resolvedPath rootPath = false) :
    ∃ rest, resolvedPath = rootPath ++ rest ∧ (rest = [] ∨ ∃ tail, rest = slash :: tail) := by
  unfold isPathEscaped at kept
  by_cases short : resolvedPath.length < rootPath.length
  · rw [if_pos short] at kept
    cases kept
  rw [if_neg short] at kept
  by_cases different : resolvedPath.take rootPath.length ≠ rootPath
  · rw [if_pos different] at kept
    cases kept
  rw [if_neg different] at kept
  have same : resolvedPath.take rootPath.length = rootPath := not_not.mp different
  have whole : resolvedPath = rootPath ++ resolvedPath.drop rootPath.length := by
    calc resolvedPath = resolvedPath.take rootPath.length ++ resolvedPath.drop rootPath.length :=
        (List.take_append_drop _ _).symm
      _ = rootPath ++ resolvedPath.drop rootPath.length := by rw [same]
  refine ⟨resolvedPath.drop rootPath.length, whole, ?_⟩
  cases behind : resolvedPath.drop rootPath.length with
  | nil => exact Or.inl rfl
  | cons next tail =>
    right
    have long : rootPath.length < resolvedPath.length := by
      have length := congrArg List.length behind
      rw [List.length_drop, List.length_cons] at length
      omega
    have at_boundary : resolvedPath[rootPath.length]? = some next := by
      have first := congrArg List.head? behind
      rwa [List.head?_drop, List.head?_cons] at first
    by_cases separator : next = slash
    · exact ⟨tail, by rw [separator]⟩
    have other : resolvedPath[rootPath.length]? ≠ some slash := by
      rw [at_boundary]
      exact fun equal => separator (Option.some.inj equal)
    rw [if_pos ⟨long, other⟩] at kept
    cases kept

section Validated

variable {rootPath relativePath : List UInt8} (valid : validate rootPath relativePath = true)

include valid

theorem validate_checks : rootPath ≠ [] ∧ relativePath ≠ [] ∧ relativePath.length ≤ maxPathLength ∧
      isPathEscaped (normalizePath (rootPath ++ [slash] ++ relativePath)).path
        (normalizePath rootPath).path = false := by
  unfold validate at valid
  by_cases noRoot : rootPath = []
  · rw [if_pos noRoot] at valid
    cases valid
  rw [if_neg noRoot] at valid
  by_cases noPath : relativePath = []
  · rw [if_pos noPath] at valid
    cases valid
  rw [if_neg noPath] at valid
  by_cases long : maxPathLength < relativePath.length
  · rw [if_pos long] at valid
    cases valid
  rw [if_neg long] at valid
  by_cases illegal : containsIllegalCharacters relativePath = true
  · rw [if_pos illegal] at valid
    cases valid
  rw [if_neg illegal] at valid
  by_cases escaped : (normalizePath (rootPath ++ [slash] ++ relativePath)).escaped = true
  · rw [if_pos escaped] at valid
    cases valid
  rw [if_neg escaped] at valid
  exact ⟨noRoot, noPath, Nat.not_lt.mp long, by simpa using valid⟩

theorem validate_legal : containsIllegalCharacters relativePath = false := by
  obtain ⟨rooted, named, short, -⟩ := validate_checks valid
  rw [validate, if_neg rooted, if_neg named, if_neg (Nat.not_lt.mpr short)] at valid
  by_cases illegal : containsIllegalCharacters relativePath = true
  · rw [if_pos illegal] at valid
    cases valid
  · simpa using illegal

theorem validate_no_nul : 0 ∉ relativePath := by
  intro member
  have legal := validate_legal valid
  rw [containsIllegalCharacters, List.any_eq_false] at legal
  exact legal 0 member (by decide)

theorem validate_inside : Inside rootPath (rootPath ++ slash :: relativePath) := by
  obtain ⟨rooted, -, -, kept⟩ := validate_checks valid
  obtain ⟨rest, whole, boundary⟩ := isPathEscaped_false kept
  have path : rootPath ++ [slash] ++ relativePath = rootPath ++ slash :: relativePath := by simp
  rw [path, normalizePath_path, normalizePath_path, lead_append rooted, List.append_assoc] at whole
  exact prefix_of_join (resolve_clean rootPath) (resolve_clean _)
    (List.append_cancel_left whole) boundary

end Validated

/-- A name that is one component of a path and means something. -/
def Plain (name : List UInt8) : Prop :=
  slash ∉ name ∧ name ≠ [] ∧ name ≠ [dot] ∧ name ≠ [dot, dot]

instance (name : List UInt8) : Decidable (Plain name) :=
  inferInstanceAs (Decidable (slash ∉ name ∧ name ≠ [] ∧ name ≠ [dot] ∧ name ≠ [dot, dot]))

variable {names : List (List UInt8)}

theorem normalizeComponents_plain (plain : ∀ name ∈ names, Plain name)
    (state : List (List UInt8) × Bool) :
    names.foldl normalizeComponent state = (state.1 ++ names, state.2) := by
  induction names generalizing state with
  | nil => simp
  | cons name rest ih =>
    obtain ⟨-, named, current, parent⟩ := plain name (by simp)
    have step : normalizeComponent state name = (state.1 ++ [name], state.2) := by
      have meaningful : ¬ (name = [] ∨ name = [dot]) := by
        intro skipped
        rcases skipped with empty | here
        · exact named empty
        · exact current here
      rw [normalizeComponent, if_neg meaningful, if_neg parent]
    rw [List.foldl_cons, step, ih (fun other member => plain other (by simp [member]))]
    simp

theorem normalizePath_plain (plain : ∀ name ∈ names, Plain name) :
    normalizePath (slash :: join slash names) = ⟨slash :: join slash names, false⟩ := by
  have clean : ∀ name ∈ names, slash ∉ name ∧ name ≠ [] :=
    fun name member => ⟨(plain name member).1, (plain name member).2.1⟩
  have components : (pieces slash (slash :: join slash names)).foldl normalizeComponent
      ([], false) = (names, false) := by
    have split : pieces slash (slash :: join slash names) = [] :: names := by
      rw [pieces, if_pos rfl, pieces_join clean]
    rw [split, List.foldl_cons, normalizeComponents_plain plain]
    rfl
  have written := appendComponents clean (Or.inr rfl : [slash] = [] ∨ [slash] = [slash])
  rw [normalizePath]
  simp only [components, List.head?_cons, if_true, written]
  rfl

theorem isPathEscaped_below (rootPath rest : List UInt8) :
    isPathEscaped (rootPath ++ slash :: rest) rootPath = false := by
  have long : ¬ (rootPath ++ slash :: rest).length < rootPath.length := by
    rw [List.length_append]
    omega
  have same : (rootPath ++ slash :: rest).take rootPath.length = rootPath := List.take_left
  have boundary : (rootPath ++ slash :: rest)[rootPath.length]? = some slash := by simp
  rw [isPathEscaped, if_neg long, if_neg (fun other => other same),
    if_neg (fun other => other.2 boundary)]

theorem validate_plain {name : List UInt8} (plain : ∀ part ∈ names, Plain part) (some : names ≠ [])
    (named : Plain name) (short : name.length ≤ maxPathLength)
    (legal : containsIllegalCharacters name = false) :
    validate (slash :: join slash names) name = true := by
  have whole : slash :: join slash names ++ [slash] ++ name =
      slash :: join slash (names ++ [name]) := by
    rw [join_append some]
    simp
  have below : slash :: join slash (names ++ [name]) =
      slash :: join slash names ++ slash :: name := by
    rw [join_append some]
    rfl
  have all : ∀ part ∈ names ++ [name], Plain part := by
    intro part member
    rcases List.mem_append.mp member with early | last
    · exact plain part early
    · rw [List.mem_singleton.mp last]
      exact named
  rw [validate, if_neg (by simp), if_neg named.2.1, if_neg (Nat.not_lt.mpr short),
    if_neg (by simp [legal]), whole, normalizePath_plain all, normalizePath_plain plain]
  simp only [below, isPathEscaped_below]
  rfl

/-- A normalised absolute directory other than the root of the file system. -/
structure RootDirectory where
  names : List (List UInt8)
  plain : ∀ name ∈ names, Plain name
  below : names ≠ []

namespace RootDirectory

def rootPath (root : RootDirectory) : List UInt8 := slash :: join slash root.names

def resolved (root : RootDirectory) (relativePath : List UInt8) : List (List UInt8) :=
  (pieces slash relativePath).foldl enter root.names

def Stays (root : RootDirectory) (relativePath : List UInt8) : Prop :=
  ∀ first, first <+: pieces slash relativePath → root.names <+: first.foldl enter root.names

variable (root : RootDirectory)

theorem clean : ∀ name ∈ root.names, slash ∉ name ∧ name ≠ [] :=
  fun name member => ⟨(root.plain name member).1, (root.plain name member).2.1⟩

theorem pieces_rootPath : pieces slash root.rootPath = [] :: root.names := by
  rw [rootPath, pieces, if_pos rfl, pieces_join root.clean]

theorem normalizePath_root : (normalizePath root.rootPath).path = slash :: join slash root.names :=
  congrArg NormalizeResult.path (normalizePath_plain root.plain)

theorem normalizeComponents_below (relativePath : List UInt8) :
    (pieces slash (root.rootPath ++ slash :: relativePath)).foldl normalizeComponent ([], false) =
      (pieces slash relativePath).foldl normalizeComponent (root.names, false) := by
  have before : (pieces slash root.rootPath).foldl normalizeComponent ([], false) =
      (root.names, false) := by
    rw [root.pieces_rootPath, List.foldl_cons, normalizeComponents_plain root.plain]
    rfl
  rcases @pieces_append UInt8 _ slash root.rootPath relativePath with joined | parted
  · rw [joined, List.foldl_append, before]
  · have skipped : normalizeComponent (root.names, false) [] = (root.names, false) := rfl
    rw [parted, List.foldl_append, before, List.foldl_cons, skipped]

theorem stays_unescaped {root : RootDirectory} {texts : List (List UInt8)}
    (stays : ∀ first, first <+: texts → root.names <+: first.foldl enter root.names) :
    texts.foldl normalizeComponent (root.names, false) = (texts.foldl enter root.names, false) := by
  induction texts using List.reverseRecOn with
  | nil => rfl
  | append_singleton texts text ih =>
    have before := ih fun first shorter => stays first (shorter.trans (List.prefix_append _ _))
    rw [List.foldl_append, List.foldl_append, before]
    have inside := stays texts (List.prefix_append _ _)
    have names := normalizeComponent_names (texts.foldl enter root.names, false) text
    have unescaped : (normalizeComponent (texts.foldl enter root.names, false) text).2 = false := by
      have nonempty : texts.foldl enter root.names ≠ [] := by
        intro empty
        rw [empty, List.prefix_nil] at inside
        exact root.below inside
      unfold normalizeComponent
      split
      · rfl
      · split
        · rfl
        · rfl
    exact Prod.ext names unescaped

theorem below_append (more : List (List UInt8)) :
    isPathEscaped (slash :: join slash (root.names ++ more))
      (slash :: join slash root.names) = false := by
  cases names : root.names with
  | nil => exact absurd names root.below
  | cons first rest =>
    cases more with
    | nil => simp [isPathEscaped]
    | cons next later =>
      have goesOn : slash :: join slash (first :: rest ++ next :: later) =
          slash :: join slash (first :: rest) ++
            slash :: (next ++ later.flatMap fun piece => slash :: piece) := by
        rw [List.cons_append, join_cons, join_cons]
        simp
      rw [goesOn]
      exact isPathEscaped_below _ _

/-- A path that is taken leads into the root, within the limits; and every path that is not
empty, keeps to the limits and never leaves the root is taken. -/
theorem validate_decides (root : RootDirectory) (relativePath : List UInt8) :
    (validate root.rootPath relativePath = true →
      root.names <+: root.resolved relativePath ∧ relativePath.length ≤ maxPathLength ∧
        ∀ c ∈ relativePath, firstPrintableAscii ≤ c ∨ c = 9 ∨ c = 10 ∨ c = 13) ∧
    (relativePath ≠ [] → root.Stays relativePath → relativePath.length ≤ maxPathLength →
      (∀ c ∈ relativePath, firstPrintableAscii ≤ c ∨ c = 9 ∨ c = 10 ∨ c = 13) →
        validate root.rootPath relativePath = true) := by
  have legal_iff : containsIllegalCharacters relativePath = false ↔
      ∀ c ∈ relativePath, firstPrintableAscii ≤ c ∨ c = 9 ∨ c = 10 ∨ c = 13 := by
    rw [containsIllegalCharacters, List.any_eq_false]
    refine forall₂_congr fun c _ => ?_
    rw [decide_eq_true_eq, not_and_or, UInt8.not_lt, not_and_or, not_not, not_and_or, not_not,
      not_not]
  have rooted : root.rootPath ++ [slash] ++ relativePath =
    root.rootPath ++ slash :: relativePath := by
    simp
  constructor
  · intro valid
    refine ⟨?_, (validate_checks valid).2.2.1, legal_iff.mp (validate_legal valid)⟩
    have inside := validate_inside valid
    have start : resolve root.rootPath = root.names := by
      have names := normalize_names (pieces slash root.rootPath) ([], false)
      rw [root.pieces_rootPath, List.foldl_cons, show normalizeComponent ([], false) [] =
        ([], false)
        from rfl, normalizeComponents_plain root.plain] at names
      rw [resolve, root.pieces_rootPath]
      exact names.symm
    rwa [Inside, resolve_append, start] at inside
  · intro nonempty stays short legal
    have components := stays_unescaped stays
    obtain ⟨more, resolved⟩ := stays _ (List.prefix_refl _)
    have clean := resolve_clean (root.rootPath ++ slash :: relativePath)
    have written : normalizePath (root.rootPath ++ slash :: relativePath) =
        ⟨slash :: join slash (root.names ++ more), false⟩ := by
      have names : resolve (root.rootPath ++ slash :: relativePath) = root.names ++ more := by
        have folded := normalize_names (pieces slash (root.rootPath ++ slash :: relativePath))
          ([], false)
        rw [root.normalizeComponents_below, components] at folded
        rw [resolved]
        exact folded.symm
      rw [names] at clean
      have texts := appendComponents clean (Or.inr rfl : [slash] = [] ∨ [slash] = [slash])
      have absolute : (root.rootPath ++ slash :: relativePath).head? = some slash := rfl
      rw [normalizePath]
      simp only [absolute, if_true, root.normalizeComponents_below, components, ← resolved, texts]
      rfl
    rw [validate, if_neg (by simp [rootPath]), if_neg nonempty, if_neg (Nat.not_lt.mpr short),
      if_neg (by simpa using legal_iff.mpr legal), rooted, written, root.normalizePath_root]
    simp only [root.below_append]
    rfl

end RootDirectory

/-- The empty path leaves nothing and keeps to the limits, and is refused. -/
theorem empty_path_refused :
    let root : RootDirectory := ⟨[[97]], by decide, by decide⟩
    root.Stays [] ∧ ([] : List UInt8).length ≤ maxPathLength ∧
      validate root.rootPath [] = false := by
  intro root
  refine ⟨?_, Nat.zero_le _, rfl⟩
  intro first nothing
  rw [List.prefix_nil.mp nothing]
  exact List.prefix_refl _

end PathValidator

/-- On a path that the validator takes, `IsValidPath` asks for the length alone. -/
theorem isValidPath_of_validate {cacheDir relativePath : List UInt8}
    (valid : PathValidator.validate cacheDir relativePath = true) :
    isValidPath cacheDir (cacheDir ++ slash :: relativePath) = true ↔
      (cacheDir ++ slash :: relativePath).length ≤ pathMax := by
  obtain ⟨-, named, -, -⟩ := PathValidator.validate_checks valid
  have below : cacheDir.length < (cacheDir ++ slash :: relativePath).length ∧
      (cacheDir ++ slash :: relativePath).take cacheDir.length = cacheDir := by
    constructor
    · simp
    · rw [List.take_left]
  have boundary : (cacheDir ++ slash :: relativePath)[cacheDir.length]? = some slash := by simp
  have relative : (cacheDir ++ slash :: relativePath).drop (cacheDir.length + 1) =
    relativePath := by
    rw [← List.drop_drop, List.drop_left]
    rfl
  unfold isValidPath
  by_cases long : pathMax < (cacheDir ++ slash :: relativePath).length
  · rw [if_pos long]
    constructor
    · intro impossible
      cases impossible
    · intro fits
      omega
  · rw [if_neg long, if_pos below, if_neg (fun other => other boundary), relative]
    simp only [if_neg named, valid]
    exact ⟨fun _ => Nat.not_lt.mp long, fun _ => trivial⟩

end PlayerFramework.DownloadedCache
