import Mathlib.Data.List.TakeWhile

/-!
Hexadecimal text: what `strtol` makes of it in base 16, and the bytes that pairs of digits
denote.
-/

namespace PlayerFramework.HexText

def hexDigit (char : Char) : Option Nat :=
  if '0' ≤ char ∧ char ≤ '9' then some (char.toNat - '0'.toNat)
  else if 'a' ≤ char ∧ char ≤ 'f' then some (char.toNat - 'a'.toNat + 10)
  else if 'A' ≤ char ∧ char ≤ 'F' then some (char.toNat - 'A'.toNat + 10)
  else none

/-- The value of the digits before the first other character. -/
def digitsValue (value : Nat) : List Char → Nat
  | [] => value
  | char :: rest =>
    match hexDigit char with
    | none => value
    | some digit => digitsValue (16 * value + digit) rest

/-- The prefix `0x` or `0X`, where a digit follows it. -/
def skipPrefix : List Char → List Char
  | '0' :: mark :: char :: rest =>
    if (mark = 'x' ∨ mark = 'X') ∧ (hexDigit char).isSome then char :: rest
    else '0' :: mark :: char :: rest
  | text => text

def isSpace (char : Char) : Bool :=
  char ∈ [' ', '\t', '\n', '\x0b', '\x0c', '\r']

/-- `strtol(text, NULL, 16)` of a text too short to exceed a `long`. -/
def strtol (text : List Char) : Int :=
  match text.dropWhile isSpace with
  | '-' :: rest => -(digitsValue 0 (skipPrefix rest) : Int)
  | '+' :: rest => digitsValue 0 (skipPrefix rest)
  | rest => digitsValue 0 (skipPrefix rest)

/-- The conversion to `unsigned char`. -/
def toByte (value : Int) : UInt8 := UInt8.ofNat (value % 256).toNat

/-- The bytes that the text denotes, two digits each. -/
def hexBytes : List Char → Option (List UInt8)
  | [] => some []
  | [_] => none
  | first :: second :: rest =>
    (hexDigit first).bind fun high => (hexDigit second).bind fun low =>
      (hexBytes rest).map (UInt8.ofNat (16 * high + low) :: ·)

theorem hexDigit_lt {char : Char} {digit : Nat} (found : hexDigit char = some digit) :
    digit < 16 := by
  unfold hexDigit at found
  split_ifs at found with decimal lower upper
  · have most : char.toNat ≤ '9'.toNat := decimal.2
    have nine : '9'.toNat = 57 := rfl
    have zero : '0'.toNat = 48 := rfl
    have value := Option.some.inj found
    omega
  · have most : char.toNat ≤ 'f'.toNat := lower.2
    have top : 'f'.toNat = 102 := rfl
    have base : 'a'.toNat = 97 := rfl
    have value := Option.some.inj found
    omega
  · have most : char.toNat ≤ 'F'.toNat := upper.2
    have top : 'F'.toNat = 70 := rfl
    have base : 'A'.toNat = 65 := rfl
    have value := Option.some.inj found
    omega

theorem ne_of_hexDigit {char other : Char} {digit : Nat} (found : hexDigit char = some digit)
    (none : hexDigit other = none) : char ≠ other := by
  rintro rfl
  rw [found] at none
  cases none

theorem not_isSpace {char : Char} {digit : Nat} (found : hexDigit char = some digit) :
    isSpace char = false := by
  have differ (other : Char) (none : hexDigit other = none) : char ≠ other :=
    ne_of_hexDigit found none
  simp [isSpace, differ ' ' (by decide), differ '\t' (by decide), differ '\n' (by decide),
    differ '\x0b' (by decide), differ '\x0c' (by decide), differ '\r' (by decide)]

/-- Two digits are read as the byte they denote. -/
theorem strtol_pair {first second : Char} {high low : Nat}
    (foundFirst : hexDigit first = some high) (foundSecond : hexDigit second = some low) :
    strtol [first, second] = (16 * high + low : Nat) := by
  have unspaced : [first, second].dropWhile isSpace = [first, second] := by
    rw [List.dropWhile_cons, if_neg (by simp [not_isSpace foundFirst])]
  have minus : first ≠ '-' := ne_of_hexDigit foundFirst (by decide)
  have plus : first ≠ '+' := ne_of_hexDigit foundFirst (by decide)
  have plain : skipPrefix [first, second] = [first, second] := by
    unfold skipPrefix
    split
    · next heq => simp at heq
    · rfl
  have value : digitsValue 0 [first, second] = 16 * high + low := by
    simp [digitsValue, foundFirst, foundSecond]
  unfold strtol
  rw [unspaced]
  split
  · next heq => exact absurd (List.cons.inj heq).1 minus
  · next heq => exact absurd (List.cons.inj heq).1 plus
  · rw [plain, value]

theorem toByte_natCast {value : Nat} (small : value < 256) :
    toByte (value : Int) = UInt8.ofNat value := by
  unfold toByte
  congr 1
  omega

/-- A text denotes bytes exactly if it has an even number of characters, all of them digits. -/
theorem hexBytes_isSome_iff (text : List Char) :
    (hexBytes text).isSome ↔ text.length % 2 = 0 ∧ ∀ char ∈ text, (hexDigit char).isSome := by
  induction text using hexBytes.induct with
  | case1 | case2 => simp [hexBytes]
  | case3 first second rest ih =>
    have parity : (first :: second :: rest).length % 2 = rest.length % 2 := by
      simp only [List.length_cons]
      omega
    rw [parity, List.forall_mem_cons, List.forall_mem_cons, hexBytes]
    cases hexDigit first with
    | none => simp
    | some high =>
      cases hexDigit second with
      | none => simp
      | some low => simpa using ih

theorem length_hexBytes {text : List Char} {bytes : List UInt8}
    (denoted : hexBytes text = some bytes) : text.length = 2 * bytes.length := by
  induction text using hexBytes.induct generalizing bytes with
  | case1 =>
    cases denoted
    rfl
  | case2 => cases denoted
  | case3 first second rest ih =>
    rw [hexBytes, Option.bind_eq_some_iff] at denoted
    obtain ⟨high, -, denoted⟩ := denoted
    obtain ⟨low, -, denoted⟩ := Option.bind_eq_some_iff.mp denoted
    obtain ⟨others, found, rfl⟩ := Option.map_eq_some_iff.mp denoted
    have shorter := ih found
    simp only [List.length_cons]
    omega

end PlayerFramework.HexText
