import PlayerFramework.Chars
import Mathlib.Data.Int.Order.Basic

/-!
Decimal numbers as text: what `StrToInt` of `uri_helper.cpp` makes of a text, and what
`std::to_string` makes of a number.
-/

namespace PlayerFramework.Utils

open Chars

/-- The text is a decimal number with an optional minus sign. -/
inductive DecimalInt : List Char → Int → Prop
  | unsigned {digits : List Char} (some : digits ≠ [])
      (numeric : ∀ char ∈ digits, char.isDigit = true) :
      DecimalInt digits (decimalValue digits)
  | negative {digits : List Char} (some : digits ≠ [])
      (numeric : ∀ char ∈ digits, char.isDigit = true) :
      DecimalInt ('-' :: digits) (-(decimalValue digits : Int))

def llongMin : Int := -2 ^ 63
def llongMax : Int := 2 ^ 63 - 1
def intMin : Int := -2 ^ 31
def intMax : Int := 2 ^ 31 - 1

/-- `strtoll` on a text that begins with a digit or a minus sign: the number and what follows
it, or nothing where no digit was read or the number is out of range.  The `char` array ends
with a NUL. -/
def strtoll (text : List Char) : Option (Int × List Char) :=
  let negative := text.head? == some '-'
  let unsigned := if negative then text.drop 1 else text
  let digits := unsigned.takeWhile Char.isDigit
  let value : Int := if negative then -(decimalValue digits : Int) else decimalValue digits
  if digits = [] ∨ value < llongMin ∨ llongMax < value then none
  else some (value, unsigned.dropWhile Char.isDigit)

/-- `StrToInt` into a type whose values are those from `low` to `high`. -/
def strToInt (low high : Int) (str : List Char) : Option Int :=
  match str with
  | [] => none
  | first :: _ =>
    if !(first.isDigit || first == '-') then none
    else
      match strtoll str with
      | none => none
      | some (result, rest) =>
        if rest.head?.getD '\x00' ≠ '\x00' then none
        else if result < low ∨ high < result then none
        else some result

/-- `std::to_string`. -/
def toText (value : Int) : List Char :=
  if value < 0 then '-' :: Nat.toDigits 10 value.natAbs else Nat.toDigits 10 value.toNat

theorem decimalValue_toDigits (value : Nat) : decimalValue (Nat.toDigits 10 value) = value :=
  Nat.ofDigitChars_ten_toDigits

theorem toDigits_numeric (value : Nat) : ∀ char ∈ Nat.toDigits 10 value, char.isDigit = true :=
  fun _ member => Nat.isDigit_of_mem_toDigits (by decide) (by decide) member

theorem decimalInt_toText (value : Int) : DecimalInt (toText value) value := by
  rw [toText]
  split
  · have number : DecimalInt ('-' :: Nat.toDigits 10 value.natAbs) _ :=
      .negative Nat.toDigits_ne_nil (toDigits_numeric _)
    rw [decimalValue_toDigits] at number
    have same : -(value.natAbs : Int) = value := by omega
    rwa [same] at number
  · have number : DecimalInt (Nat.toDigits 10 value.toNat) _ :=
      .unsigned Nat.toDigits_ne_nil (toDigits_numeric _)
    rw [decimalValue_toDigits] at number
    have same : (value.toNat : Int) = value := by omega
    rwa [same] at number

variable {text : List Char} {value : Int}

theorem DecimalInt.chars (number : DecimalInt text value) :
    ∀ char ∈ text, char.isDigit = true ∨ char = '-' := by
  cases number with
  | unsigned _ numeric => exact fun char member => .inl (numeric char member)
  | negative _ numeric =>
    intro char member
    rcases List.mem_cons.mp member with sign | digit
    · exact .inr sign
    · exact .inl (numeric char digit)

theorem DecimalInt.avoids (number : DecimalInt text value) {char : Char}
    (other : char.isDigit = false) (unsigned : char ≠ '-') : char ∉ text := by
  intro member
  rcases number.chars char member with digit | sign
  · rw [other] at digit
    cases digit
  · exact unsigned sign

theorem DecimalInt.nonempty (number : DecimalInt text value) : text ≠ [] := by
  cases number with
  | unsigned some _ => exact some
  | negative _ _ => exact List.cons_ne_nil _ _

theorem takeWhile_numeric {digits : List Char} (numeric : ∀ char ∈ digits, char.isDigit = true) :
    digits.takeWhile Char.isDigit = digits ∧ digits.dropWhile Char.isDigit = [] :=
  ⟨List.takeWhile_eq_self_iff.mpr numeric, List.dropWhile_eq_nil_iff.mpr numeric⟩

theorem digit_ne_minus {char : Char} (digit : char.isDigit = true) : char ≠ '-' := by
  rintro rfl
  exact absurd digit (by decide)

theorem strtoll_decimalInt (number : DecimalInt text value) (low : llongMin ≤ value)
    (high : value ≤ llongMax) : strtoll text = some (value, []) := by
  cases number with
  | unsigned some numeric =>
    obtain ⟨taken, left⟩ := takeWhile_numeric numeric
    have positive : (text.head? == Option.some '-') = false := by
      cases text with
      | nil => rfl
      | cons first rest => simpa using digit_ne_minus (numeric first List.mem_cons_self)
    simp only [strtoll, positive, Bool.false_eq_true, if_false, taken, left]
    rw [if_neg]
    rintro (empty | below | above)
    · exact some empty
    · omega
    · omega
  | negative some numeric =>
    obtain ⟨taken, left⟩ := takeWhile_numeric numeric
    simp only [strtoll, List.head?_cons, beq_self_eq_true, if_true, List.drop_one,
      List.tail_cons, taken, left]
    rw [if_neg]
    rintro (empty | below | above)
    · exact some empty
    · omega
    · omega

theorem strToInt_decimalInt {low high : Int} (number : DecimalInt text value)
    (wide : llongMin ≤ low ∧ high ≤ llongMax) (fits : low ≤ value ∧ value ≤ high) :
    strToInt low high text = some value := by
  cases text with
  | nil => exact absurd rfl number.nonempty
  | cons first rest =>
    have begins : (first.isDigit || first == '-') = true := by
      rw [Bool.or_eq_true, beq_iff_eq]
      exact number.chars first List.mem_cons_self
    have read := strtoll_decimalInt number (by omega) (by omega)
    simp only [strToInt, begins, read]
    simp only [Bool.not_true, Bool.false_eq_true, if_false, List.head?_nil, Option.getD_none,
      ne_eq, not_true_eq_false]
    rw [if_neg (by omega)]

theorem takeWhile_digit (text : List Char) :
    ∀ char ∈ text.takeWhile Char.isDigit, char.isDigit = true :=
  fun _ member => List.mem_takeWhile_imp member

theorem decimalInt_of_strtoll {rest : List Char} (read : strtoll text = some (value, rest)) :
    ∃ number, text = number ++ rest ∧ DecimalInt number value := by
  by_cases sign : text.head? = some '-'
  · obtain ⟨tail, rfl⟩ : ∃ tail, text = '-' :: tail := by
      cases text with
      | nil => cases sign
      | cons first tail => exact ⟨tail, by rw [Option.some.inj sign]⟩
    simp only [strtoll, List.head?_cons, beq_self_eq_true, if_true, List.drop_one,
      List.tail_cons] at read
    split at read
    · cases read
    rename_i valid
    cases read
    refine ⟨'-' :: tail.takeWhile Char.isDigit, ?_, .negative ?_ (takeWhile_digit tail)⟩
    · rw [List.cons_append, List.takeWhile_append_dropWhile]
    · exact fun empty => valid (.inl empty)
  · have unsigned : (text.head? == some '-') = false := by simpa using sign
    simp only [strtoll, unsigned, Bool.false_eq_true, if_false] at read
    split at read
    · cases read
    rename_i valid
    cases read
    refine ⟨text.takeWhile Char.isDigit, ?_, .unsigned ?_ (takeWhile_digit text)⟩
    · rw [List.takeWhile_append_dropWhile]
    · exact fun empty => valid (.inl empty)

theorem decimalInt_of_strToInt {low high : Int} (clean : '\x00' ∉ text)
    (read : strToInt low high text = some value) :
    DecimalInt text value ∧ low ≤ value ∧ value ≤ high := by
  cases text with
  | nil => cases read
  | cons first rest =>
    simp only [strToInt] at read
    split at read
    · cases read
    split at read
    · cases read
    rename_i result tail number
    split at read
    · cases read
    rename_i ends
    split at read
    · cases read
    rename_i inside
    cases read
    refine ⟨?_, by omega, by omega⟩
    obtain ⟨whole, same, decimal⟩ := decimalInt_of_strtoll number
    cases tail with
    | nil =>
      rw [same, List.append_nil]
      exact decimal
    | cons next after =>
      have nul : next = '\x00' := not_not.mp ends
      refine absurd ?_ clean
      rw [same, nul]
      simp

end PlayerFramework.Utils
