import Mathlib.Data.Char
import Mathlib.Data.List.Lex
import PlayerFramework.Chars
import PlayerFramework.OrderedMap

/-!
The response headers that the loader keeps beside its cached media: `ParseHttpHeader`
(`http_header_parser.cpp`) and the header file of `CreateUrlDir` (`custom_loader_callback.cpp`).
-/

namespace PlayerFramework.StreamCache

open Chars

abbrev HeaderMap := OrderedMap (List Char) (List Char)

/-- What `std::getline` reads one after the other; `line` is what was read of the first. -/
def getlines : List Char → List Char → List (List Char)
  | line, [] => if line = [] then [] else [line]
  | line, char :: rest =>
    if char = '\n' then line :: getlines [] rest else getlines (line ++ [char]) rest

namespace HttpHeaderParser

def trimWhitespace (str : List Char) : List Char :=
  (str.dropWhile isBlank).rdropWhile isBlank

/-- The loop of `ParseHttpHeader` over the lines. -/
def parseLines (headerMap : HeaderMap) : List (List Char) → HeaderMap
  | [] => headerMap
  | line :: rest =>
    let line := if line.getLast? = some '\r' then line.dropLast else line
    if line = [] then headerMap
    else if line.take 5 = "HTTP/".toList then parseLines headerMap rest
    else if ':' ∈ line then
      let key := (trimWhitespace (before ':' line)).map Char.toLower
      let value := trimWhitespace (after ':' line)
      parseLines (headerMap.assign key value) rest
    else parseLines headerMap rest

def parseHttpHeader (headerMap : HeaderMap) (header : List Char) : HeaderMap :=
  if header = [] then headerMap else parseLines headerMap (getlines [] header)

/-- The file that `CreateUrlDir` writes. -/
def headerFile (headerMap : HeaderMap) : List Char :=
  headerMap.entries.flatMap (fun entry =>
    entry.1 ++ ": ".toList ++ entry.2 ++ "\r\n".toList) ++ "\r\n".toList

/-- What the parser makes of keys and values. -/
structure Normal (entry : List Char × List Char) : Prop where
  keyUnbroken : '\n' ∉ entry.1
  keyWhole : ':' ∉ entry.1
  keyLower : entry.1.map Char.toLower = entry.1
  keyTrimmed : trimWhitespace entry.1 = entry.1
  valueUnbroken : '\n' ∉ entry.2
  valueTrimmed : trimWhitespace entry.2 = entry.2

section Trimming

variable {text : List Char}

theorem toLower_toLower (char : Char) : char.toLower.toLower = char.toLower := by
  delta Char.toLower
  split
  · split
    · rename_i upper again
      simp only [UInt32.le_iff_toNat_le, UInt32.toNat_add] at upper again
      simp at upper again
      omega
    · rfl
  · rfl

/-- Only letters change, and into letters. -/
theorem toLower_eq_iff {char other : Char} (letter : other.isAlpha = false) :
    char.toLower = other ↔ char = other := by
  delta Char.isAlpha at letter
  rw [Bool.or_eq_false_iff] at letter
  delta Char.toLower
  split
  · rename_i upper
    have range : 65 ≤ char.val.toNat ∧ char.val.toNat ≤ 90 := upper
    constructor
    · intro same
      have lower : other.isLower = true := by
        have small : char.val.toNat + 32 < 2 ^ 32 := by
          omega
        have moved : (char.val + 32).toNat = char.val.toNat + 32 :=
          (UInt32.toNat_add _ _).trans (Nat.mod_eq_of_lt small)
        have shifted : 97 ≤ (char.val + 32).toNat ∧ (char.val + 32).toNat ≤ 122 := by
          omega
        rw [← same]
        delta Char.isLower
        simp only [Bool.and_eq_true, decide_eq_true_eq, ge_iff_le, UInt32.le_iff_toNat_le]
        exact shifted
      rw [lower] at letter
      cases letter.2
    · rintro rfl
      have isUpper : char.isUpper = true := by
        delta Char.isUpper
        simp only [decide_eq_true_eq, ge_iff_le, UInt32.le_iff_toNat_le]
        exact range
      rw [isUpper] at letter
      cases letter.1
  · rfl

theorem isBlank_toLower (char : Char) : isBlank char.toLower = isBlank char := by
  simp only [isBlank]
  rw [Bool.eq_iff_iff]
  simp only [Bool.or_eq_true, beq_iff_eq]
  rw [toLower_eq_iff (by decide), toLower_eq_iff (by decide)]

theorem trimWhitespace_subset (text : List Char) : trimWhitespace text ⊆ text :=
  List.Subset.trans (List.rdropWhile_prefix _ _).subset (List.dropWhile_subset _)

theorem trimWhitespace_idem (text : List Char) :
    trimWhitespace (trimWhitespace text) = trimWhitespace text := by
  have front : (trimWhitespace text).dropWhile isBlank = trimWhitespace text := by
    cases shape : trimWhitespace text with
    | nil => rfl
    | cons first later =>
      obtain ⟨behind, whole⟩ := List.rdropWhile_prefix isBlank (l := text.dropWhile isBlank)
      have start : text.dropWhile isBlank = first :: (later ++ behind) := by
        rw [← whole]
        change trimWhitespace text ++ behind = _
        rw [shape]
        rfl
      have solid := List.head?_dropWhile_not isBlank text
      rw [start] at solid
      simpa using solid
  rw [trimWhitespace, front, trimWhitespace, List.rdropWhile_idempotent]

theorem trimWhitespace_toLower (text : List Char) :
    trimWhitespace (text.map Char.toLower) = (trimWhitespace text).map Char.toLower := by
  have blank : (isBlank ∘ Char.toLower) = isBlank := funext isBlank_toLower
  rw [trimWhitespace, List.dropWhile_map, List.rdropWhile, ← List.map_reverse, List.dropWhile_map,
    blank, ← List.map_reverse]
  rfl

theorem trimWhitespace_blank (text : List Char) :
    trimWhitespace (' ' :: text) = trimWhitespace text := rfl

end Trimming

section Image

variable {text line : List Char} {entry : List Char × List Char} {headerMap : HeaderMap}

theorem getlines_append (unbroken : '\n' ∉ text) (line rest : List Char) :
    getlines line (text ++ '\n' :: rest) = (line ++ text) :: getlines [] rest := by
  induction text generalizing line with
  | nil => simp [getlines]
  | cons char later ih =>
    rw [List.mem_cons, not_or] at unbroken
    rw [List.cons_append, getlines, if_neg (Ne.symm unbroken.1), ih unbroken.2, List.append_assoc]
    rfl

theorem getlines_unbroken (text : List Char) {line : List Char} (started : '\n' ∉ line) :
    ∀ read ∈ getlines line text, '\n' ∉ read := by
  induction text generalizing line with
  | nil =>
    intro read member
    rw [getlines] at member
    split at member
    · cases member
    · rw [List.mem_singleton.mp member]
      exact started
  | cons char rest ih =>
    rw [getlines]
    split
    · intro read member
      rcases List.mem_cons.mp member with rfl | later
      · exact started
      · exact ih List.not_mem_nil read later
    · rename_i other
      apply ih
      rw [List.mem_append, List.mem_singleton, not_or]
      exact ⟨started, Ne.symm other⟩

theorem normal_parsed (unbroken : '\n' ∉ line) :
    Normal ((trimWhitespace (before ':' line)).map Char.toLower,
      trimWhitespace (after ':' line)) := by
  have lowered : ∀ (other : Char), other.isAlpha = false → other ∉ before ':' line →
      other ∉ (trimWhitespace (before ':' line)).map Char.toLower := by
    intro other letter absent inside
    obtain ⟨char, member, same⟩ := List.mem_map.mp inside
    rw [toLower_eq_iff letter] at same
    exact absent (same ▸ trimWhitespace_subset _ member)
  constructor
  · exact lowered '\n' (by decide) (fun inside => unbroken (List.takeWhile_subset _ inside))
  · apply lowered ':' (by decide)
    intro inside
    have other := List.mem_takeWhile_imp inside
    simp at other
  · rw [List.map_map]
    exact List.map_congr_left fun char _ => toLower_toLower char
  · rw [trimWhitespace_toLower, trimWhitespace_idem]
  · intro inside
    exact unbroken (List.dropWhile_subset _ (List.mem_of_mem_drop (trimWhitespace_subset _ inside)))
  · exact trimWhitespace_idem _

theorem normal_parseLines (lines : List (List Char)) (unbroken : ∀ line ∈ lines, '\n' ∉ line)
    (normal : ∀ entry ∈ headerMap.entries, Normal entry) :
    ∀ entry ∈ (parseLines headerMap lines).entries, Normal entry := by
  induction lines generalizing headerMap with
  | nil => exact normal
  | cons line rest ih =>
    have later := fun other member => unbroken other (List.mem_cons_of_mem line member)
    have trimmed : '\n' ∉ (if line.getLast? = some '\r' then line.dropLast else line) := by
      have whole := unbroken line List.mem_cons_self
      split
      · exact fun inside => whole (List.dropLast_subset _ inside)
      · exact whole
    rw [parseLines]
    generalize (if line.getLast? = some '\r' then line.dropLast else line) = short at trimmed ⊢
    split
    · exact normal
    split
    · exact ih later normal
    split
    · apply ih later
      intro entry member
      rcases OrderedMap.mem_assigned member with rfl | before
      · exact normal_parsed trimmed
      · exact normal entry before
    · exact ih later normal

theorem normal_parseHttpHeader (header : List Char)
    (normal : ∀ entry ∈ headerMap.entries, Normal entry) :
    ∀ entry ∈ (parseHttpHeader headerMap header).entries, Normal entry := by
  unfold parseHttpHeader
  split
  · exact normal
  · exact normal_parseLines _ (getlines_unbroken header List.not_mem_nil) normal

end Image

section Written

variable {entry : List Char × List Char}

/-- The line of an entry, with the carriage return that `std::getline` leaves. -/
def headerLine (entry : List Char × List Char) : List Char :=
  entry.1 ++ ": ".toList ++ entry.2 ++ ['\r']

theorem headerLine_unbroken (normal : Normal entry) : '\n' ∉ headerLine entry := by
  simp [headerLine, normal.keyUnbroken, normal.valueUnbroken]

theorem getlines_headerFile (entries : List (List Char × List Char))
    (normal : ∀ entry ∈ entries, Normal entry) :
    getlines [] (entries.flatMap (fun entry =>
        entry.1 ++ ": ".toList ++ entry.2 ++ "\r\n".toList) ++ "\r\n".toList) =
      entries.map headerLine ++ [['\r']] := by
  induction entries with
  | nil => rfl
  | cons entry rest ih =>
    have unbroken := headerLine_unbroken (normal entry List.mem_cons_self)
    have split : ∀ others : List Char,
        (entry.1 ++ ": ".toList ++ entry.2 ++ "\r\n".toList) ++ others =
          headerLine entry ++ '\n' :: others := by
      intro others
      simp [headerLine]
    rw [List.flatMap_cons, List.append_assoc, split, getlines_append unbroken, List.nil_append,
      ih fun other member => normal other (List.mem_cons_of_mem entry member)]
    rfl

/-- No lower case key makes its line look like a status line. -/
theorem not_status (normal : Normal entry) (rest : List Char) :
    (entry.1 ++ ':' :: rest).take 5 ≠ "HTTP/".toList := by
  intro status
  have first := congrArg List.head? status
  cases shape : entry.1 with
  | nil =>
    rw [shape] at first
    simp at first
  | cons char rest =>
    rw [shape] at first
    have upper : char = 'H' := by simpa using first
    have lower := normal.keyLower
    rw [shape, List.map_cons, List.cons.injEq, upper] at lower
    exact absurd lower.1 (by decide)

theorem parseLines_headerLine (headerMap : HeaderMap) (normal : Normal entry)
    (rest : List (List Char)) :
    parseLines headerMap (headerLine entry :: rest) =
      parseLines (headerMap.assign entry.1 entry.2) rest := by
  have last : (headerLine entry).getLast? = some '\r' := List.getLast?_concat
  have dropped : (headerLine entry).dropLast = entry.1 ++ ':' :: (' ' :: entry.2) := by
    rw [headerLine, List.dropLast_concat, List.append_assoc]
    rfl
  rw [parseLines]
  simp only [last, dropped, if_true]
  rw [if_neg (by simp), if_neg (not_status normal _), if_pos (by simp),
    before_append normal.keyWhole,
    after_append normal.keyWhole, normal.keyTrimmed, normal.keyLower, trimWhitespace_blank,
    normal.valueTrimmed]

theorem parseLines_headerFile (entries : List (List Char × List Char))
    (normal : ∀ entry ∈ entries, Normal entry) (headerMap : HeaderMap) :
    parseLines headerMap (entries.map headerLine ++ [['\r']]) =
      entries.foldl (fun map entry => map.assign entry.1 entry.2) headerMap := by
  induction entries generalizing headerMap with
  | nil => rfl
  | cons entry rest ih =>
    rw [List.map_cons, List.cons_append, parseLines_headerLine _ (normal entry List.mem_cons_self),
      ih (fun other member => normal other (List.mem_cons_of_mem entry member))]
    rfl

theorem parse_headerFile (headerMap : HeaderMap)
    (normal : ∀ entry ∈ headerMap.entries, Normal entry) :
    parseHttpHeader .empty (headerFile headerMap) = headerMap := by
  have some : headerFile headerMap ≠ [] := by
    simp [headerFile]
  rw [parseHttpHeader, if_neg some, headerFile, getlines_headerFile _ normal,
    parseLines_headerFile _ normal]
  exact headerMap.foldl_assign

end Written

/-- Any map that the parser makes of header texts comes back from its header file. -/
theorem header_round_trip (headers : List (List Char)) :
    parseHttpHeader .empty (headerFile (headers.foldl parseHttpHeader .empty)) =
      headers.foldl parseHttpHeader .empty := by
  have normal : ∀ (headers : List (List Char)) (headerMap : HeaderMap),
      (∀ entry ∈ headerMap.entries, Normal entry) →
      ∀ entry ∈ (headers.foldl parseHttpHeader headerMap).entries, Normal entry := by
    intro headers
    induction headers with
    | nil => exact fun _ normal => normal
    | cons header rest ih => exact fun _ normal => ih _ (normal_parseHttpHeader header normal)
  exact parse_headerFile _ (normal headers .empty (List.forall_mem_nil _))

/-- Blanks are trimmed, a later value replaces an earlier one, and a carriage return stays. -/
example : (parseHttpHeader .empty
    "HTTP/1.1 200 OK\r\nA :\t1\r\nb: 2\r\r\na: 3 \r\n\r\nc: 4".toList).entries =
      [("a".toList, "3".toList), ("b".toList, "2\r".toList)] := by
  decide +kernel

end HttpHeaderParser

end PlayerFramework.StreamCache
