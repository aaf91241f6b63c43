import Mathlib.Data.Int.Log
import PlayerFramework.SinglePrecision

/-!
Numbers in double precision, away from overflow and underflow: the nearest number of 53
significant bits.
-/

namespace PlayerFramework.DoublePrecision

open SinglePrecision (roundEven)

/-- The distance of the numbers of 53 significant bits around `value`. -/
def ulp (value : ℚ) : ℚ := 2 ^ (Int.log 2 |value| - 52)

def toDouble (value : ℚ) : ℚ := roundEven (value / ulp value) * ulp value

/-- The conversion to an integer cuts the fraction off. -/
def truncate (value : ℚ) : ℤ := value.num.tdiv value.den

@[simp] theorem truncate_intCast (number : ℤ) : truncate number = number := by
  simp [truncate]

theorem roundEven_intCast (number : ℤ) : roundEven number = number := by
  simp [roundEven]

theorem ulp_pos (value : ℚ) : 0 < ulp value := by
  exact zpow_pos (by norm_num) _

/-- An integer of up to 53 bits is what it is rounded to. -/
theorem toDouble_intCast {number : ℤ} (short : number.natAbs < 2 ^ 53) :
    toDouble number = number := by
  have log : Int.log 2 |(number : ℚ)| = Nat.log 2 number.natAbs := by
    rw [← Int.cast_abs, Int.abs_eq_natAbs]
    exact Int.log_natCast 2 number.natAbs
  have low : Nat.log 2 number.natAbs ≤ 52 :=
    Nat.le_of_lt_succ (Nat.log_lt_of_lt_pow' (by decide) short)
  have step := ulp_pos (number : ℚ)
  have unit : (2 : ℚ) ^ (52 - Nat.log 2 number.natAbs) * ulp number = 1 := by
    rw [ulp, log, ← zpow_natCast, ← zpow_add₀ (by norm_num)]
    push_cast [low]
    simp
  have scaled : (number : ℚ) / ulp number =
      ((number * 2 ^ (52 - Nat.log 2 number.natAbs) : ℤ) : ℚ) := by
    rw [div_eq_iff step.ne']
    push_cast
    rw [mul_assoc, unit, mul_one]
  rw [toDouble, scaled, roundEven_intCast, ← scaled, div_mul_cancel₀ _ step.ne']

example : toDouble (1 / 3) ≠ 1 / 3 := by decide +kernel

end PlayerFramework.DoublePrecision
