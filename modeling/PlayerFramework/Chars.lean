import Mathlib.Algebra.Group.Int.Defs
import Mathlib.Algebra.Group.Nat.Defs
import Mathlib.Data.List.DropRight
import Mathlib.Data.List.TakeWhile

/-!
Reading text as C++ code does: the lines of a buffer, what stands before or after a separator,
and `std::from_chars` on decimal integers.
-/

namespace PlayerFramework.Chars

/-- The lines of the text that their line feed ends; `line` is what was read of the first. -/
def completedLines : List Char → List Char → List (List Char)
  | _, [] => []
  | line, char :: rest =>
    if char = '\n' then line :: completedLines [] rest
    else completedLines (line ++ [char]) rest

variable {text : List Char} {separator : Char} {wanted : Char → Bool}

theorem completedLines_single (unbroken : '\n' ∉ text) (line : List Char) :
    completedLines line (text ++ ['\n']) = [line ++ text] := by
  induction text generalizing line with
  | nil => simp [completedLines]
  | cons char rest ih =>
    have other : char ≠ '\n' := by
      intro same
      simp [same] at unbroken
    have unbrokenRest : '\n' ∉ rest := by
      intro inside
      exact unbroken (List.mem_cons_of_mem char inside)
    rw [List.cons_append, completedLines, if_neg other, ih unbrokenRest]
    simp

/-- The text before the first `separator`, all of it if there is none. -/
def before (separator : Char) (text : List Char) : List Char := text.takeWhile (· != separator)

/-- The text after the first `separator`, empty if there is none. -/
def after (separator : Char) (text : List Char) : List Char :=
  (text.dropWhile (· != separator)).drop 1

theorem before_append (absent : separator ∉ text) (rest : List Char) :
    before separator (text ++ separator :: rest) = text := by
  have others : ∀ char ∈ text, (char != separator) = true := by
    intro char inside
    have differs : char ≠ separator := by
      intro same
      exact absent (same ▸ inside)
    simpa using differs
  rw [before, List.takeWhile_append_of_pos others]
  simp

theorem after_append (absent : separator ∉ text) (rest : List Char) :
    after separator (text ++ separator :: rest) = rest := by
  have others : ∀ char ∈ text, (char != separator) = true := by
    intro char inside
    have differs : char ≠ separator := by
      intro same
      exact absent (same ▸ inside)
    simpa using differs
  rw [after, List.dropWhile_append_of_pos others]
  simp

/-- What precedes a separator keeps every other character read before it. -/
theorem prefix_before (absent : separator ∉ text) (rest : List Char) :
    text <+: before separator (text ++ rest) := by
  induction text with
  | nil => exact List.nil_prefix
  | cons char tail ih =>
    have differs : (char != separator) = true := by
      have other : char ≠ separator := by
        intro same
        simp [same] at absent
      simpa using other
    have absentTail : separator ∉ tail := by
      intro inside
      exact absent (List.mem_cons_of_mem char inside)
    have kept := ih absentTail
    have first : before separator (char :: (tail ++ rest)) =
        char :: before separator (tail ++ rest) := by
      simp [before, differs]
    rw [List.cons_append, first]
    exact List.cons_prefix_cons.mpr ⟨rfl, kept⟩

/-- `find_last_of`: where the last character stands that `wanted` holds of. -/
def findLastOf (wanted : Char → Bool) (text : List Char) : Option Nat :=
  (text.reverse.findIdx? wanted).map fun back => text.length - 1 - back

theorem findLastOf_none : findLastOf wanted text = none ↔ ∀ char ∈ text, wanted char = false := by
  simp [findLastOf]

/-- The last character that is wanted is followed by those after it. -/
theorem findLastOf_some {position : Nat} (found : findLastOf wanted text = some position) :
    ∃ char, wanted char = true ∧
      text.drop position = char :: text.rtakeWhile (fun char => !wanted char) := by
  obtain ⟨back, first, same⟩ := Option.map_eq_some_iff.mp found
  obtain ⟨inside, wants, _⟩ := List.findIdx?_eq_some_iff_getElem.mp first
  have index := (List.findIdx?_eq_some_iff_findIdx_eq.mp first).2
  rw [List.length_reverse] at inside
  have last : position + 1 = text.length - back := by omega
  have tail : text.drop (position + 1) = text.rtakeWhile (fun char => !wanted char) := by
    rw [List.rtakeWhile, List.takeWhile_eq_take_findIdx_not]
    simp only [Bool.not_not]
    rw [index, List.reverse_take, List.reverse_reverse, List.length_reverse, last]
  refine ⟨text[position], ?_, ?_⟩
  · have mirrored : text.reverse[back] = text[position] := by
      rw [List.getElem_reverse]
      congr 1
    rw [← mirrored]
    exact wants
  · rw [List.drop_eq_getElem_cons (by omega), tail]

theorem rtakeWhile_of_none (none : findLastOf wanted text = none) :
    text.rtakeWhile (fun char => !wanted char) = text := by
  rw [List.rtakeWhile_eq_self_iff]
  intro char member
  rw [findLastOf_none.mp none char member]
  rfl

/-- `find` and `substr`: the text before the first separator. -/
theorem take_findIdx? (text : List Char) :
    (match text.findIdx? (· == separator) with
      | some position => text.take position
      | none => text) = before separator text := by
  have whole : before separator text = text.take (text.findIdx (· == separator)) := by
    rw [before, List.takeWhile_eq_take_findIdx_not]
    simp [bne]
  rw [whole]
  split
  · rename_i position found
    rw [(List.findIdx?_eq_some_iff_findIdx_eq.mp found).2]
  · rename_i none
    rw [List.findIdx?_eq_none_iff_findIdx_eq.mp none, List.take_length]

def isBlank (char : Char) : Bool := char == ' ' || char == '\t'

def digitValue (digit : Char) : Nat := digit.toNat - '0'.toNat

def decimalValue (digits : List Char) : Nat :=
  digits.foldl (fun value digit => 10 * value + digitValue digit) 0

/-- `std::from_chars` into a signed integer of `bits` value bits: the number and the text it
stopped at, or nothing where no digit was read or the number does not fit. -/
def fromChars (bits : Nat) (text : List Char) : Option (Int × List Char) :=
  let negative := text.head? == some '-'
  let unsigned := if negative then text.drop 1 else text
  let digits := unsigned.takeWhile Char.isDigit
  let value : Int := if negative then -(decimalValue digits : Int) else decimalValue digits
  if digits = [] ∨ value < -2 ^ bits ∨ 2 ^ bits ≤ value then none
  else some (value, unsigned.dropWhile Char.isDigit)

theorem fromChars_digits {bits : Nat} {digits : List Char}
    (numeric : ∀ char ∈ digits, char.isDigit = true) (nonempty : digits ≠ [])
    (fits : decimalValue digits < 2 ^ bits) :
    fromChars bits digits = some ((decimalValue digits : Int), []) := by
  have unsigned : (digits.head? == some '-') = false := by
    cases digits with
    | nil => exact absurd rfl nonempty
    | cons first rest =>
      have digit := numeric first List.mem_cons_self
      have differs : first ≠ '-' := by
        intro same
        rw [same] at digit
        exact absurd digit (by decide)
      simpa using differs
  have wholeTaken : digits.takeWhile Char.isDigit = digits :=
    List.takeWhile_eq_self_iff.mpr numeric
  have noneLeft : digits.dropWhile Char.isDigit = [] :=
    List.dropWhile_eq_nil_iff.mpr numeric
  have below : (decimalValue digits : Int) < 2 ^ bits := by exact_mod_cast fits
  have above : ¬ (decimalValue digits : Int) < -2 ^ bits := by
    omega
  simp only [fromChars, unsigned, Bool.false_eq_true, if_false, wholeTaken, noneLeft]
  rw [if_neg]
  intro rejected
  rcases rejected with empty | low | high
  · exact nonempty empty
  · exact above low
  · omega

end PlayerFramework.Chars
