import Mathlib.Algebra.Order.Floor.Ring
import Mathlib.Data.Rat.Floor
import Mathlib.Tactic.Linarith
import Mathlib.Tactic.Positivity

/-!
Numbers of one and more in single precision: the nearest number of 24 significant bits, the even
one of two that are equally near.
-/

namespace PlayerFramework.SinglePrecision

def roundEven (value : ℚ) : ℤ :=
  let below := ⌊value⌋
  if value - below < 1 / 2 then below
  else if 1 / 2 < value - below then below + 1
  else below + below % 2

/-- The distance of the numbers of 24 significant bits around `value`. -/
def ulp (value : ℚ) : ℚ := 2 ^ ((Nat.log2 ⌊value⌋.toNat : ℤ) - 23)

def toSingle (value : ℚ) : ℚ := roundEven (value / ulp value) * ulp value

theorem roundEven_near (value : ℚ) : value - 1 / 2 ≤ roundEven value := by
  have below := Int.lt_floor_add_one value
  simp only [roundEven]
  split_ifs with down up
  · linarith
  · push_cast
    linarith
  · have even : (0 : ℚ) ≤ (⌊value⌋ % 2 : ℤ) := by
      exact_mod_cast Int.emod_nonneg ⌊value⌋ (by decide)
    push_cast at even ⊢
    linarith

theorem ulp_pos (value : ℚ) : 0 < ulp value := by
  exact zpow_pos (by norm_num) _

theorem ulp_le {value : ℚ} (one : 1 ≤ value) : ulp value ≤ value / 2 ^ 23 := by
  have floor : 1 ≤ ⌊value⌋ := Int.le_floor.mpr (by exact_mod_cast one)
  have positive : ⌊value⌋.toNat ≠ 0 := by omega
  have power : 2 ^ Nat.log2 ⌊value⌋.toNat ≤ ⌊value⌋.toNat := Nat.log2_self_le positive
  have cast : ((2 : ℚ) ^ Nat.log2 ⌊value⌋.toNat) ≤ (⌊value⌋.toNat : ℚ) := by exact_mod_cast power
  have same : ((⌊value⌋.toNat : ℤ) : ℚ) = (⌊value⌋ : ℚ) := by
    rw [Int.toNat_of_nonneg (by omega)]
  have floor_le := Int.floor_le value
  rw [ulp, zpow_sub₀ (by norm_num), zpow_natCast]
  have bound : ((2 : ℚ) ^ Nat.log2 ⌊value⌋.toNat) ≤ value := by
    refine cast.trans ?_
    push_cast at same
    rw [same]
    exact floor_le
  exact div_le_div_of_nonneg_right bound (by positivity)

theorem toSingle_near {value : ℚ} (one : 1 ≤ value) : value * (9 / 10) ≤ toSingle value := by
  have step := ulp_pos value
  have near := roundEven_near (value / ulp value)
  have small := ulp_le one
  have scaled : (value / ulp value - 1 / 2) * ulp value ≤ toSingle value := by
    exact mul_le_mul_of_nonneg_right near step.le
  have cancel : value / ulp value * ulp value = value := div_mul_cancel₀ value step.ne'
  linarith [sub_mul (value / ulp value) (1 / 2) (ulp value)]

theorem roundEven_intCast (number : ℤ) : roundEven number = number := by
  simp [roundEven]

/-- Whole numbers below the 25th significant bit are exact. -/
theorem toSingle_natCast {number : ℕ} (positive : number ≠ 0) (small : number < 2 ^ 24) :
    toSingle number = number := by
  have bits : Nat.log2 number ≤ 23 := Nat.le_of_lt_succ ((Nat.log2_lt positive).mpr small)
  have scale : ulp number = (2 ^ (23 - Nat.log2 number))⁻¹ := by
    rw [ulp, Int.floor_natCast, Int.toNat_natCast, ← zpow_natCast, ← zpow_neg]
    congr 1
    omega
  have steps : (number : ℚ) / ulp number = ((number * 2 ^ (23 - Nat.log2 number) : ℕ) : ℤ) := by
    rw [scale, div_inv_eq_mul]
    push_cast
    rfl
  rw [toSingle, steps, roundEven_intCast, ← steps, div_mul_cancel₀ _ (ulp_pos _).ne']

example : toSingle 16777217 = 16777216 := by decide +kernel
example : toSingle (3 / 2 * 22519004) = 33778504 := by decide +kernel

end PlayerFramework.SinglePrecision
