import Concurrente.NBody.Common.RealVector

/-!
# Real numbers

The exact arithmetic the results are stated in.
-/

namespace Concurrente.NBody

noncomputable instance : RealArithmetic ℝ :=
  { (inferInstance : Field ℝ), (inferInstance : LinearOrder ℝ),
    (inferInstance : IsStrictOrderedRing ℝ) with
    sqrt := Real.sqrt
    pow := fun base exponent => base ^ exponent
    sqrt_eq_zero := Real.sqrt_eq_zero }

/-- The third power, as the code writes it. -/
theorem pow_three (value : ℝ) : RealArithmetic.pow value 3 = value ^ 3 :=
  Real.rpow_natCast value 3

/-- The cube root of a sum of cubes is not smaller than either side. -/
theorem le_pow_third {value other : ℝ} (nonneg : 0 ≤ value)
    (nonneg' : 0 ≤ other) :
    value ≤ RealArithmetic.pow
      (RealArithmetic.pow value 3 + RealArithmetic.pow other 3) (1 / 3) := by
  have cube : value = (value ^ 3 : ℝ) ^ (1 / 3 : ℝ) := by
    rw [← Real.rpow_natCast, ← Real.rpow_mul nonneg]
    norm_num
  rw [pow_three, pow_three]
  calc value = (value ^ 3 : ℝ) ^ (1 / 3 : ℝ) := cube
    _ ≤ (value ^ 3 + other ^ 3) ^ (1 / 3 : ℝ) :=
      Real.rpow_le_rpow (by positivity) (by linarith [pow_nonneg nonneg' 3])
        (by norm_num)

/-- The cube root of a sum of cubes is not greater than the sum. -/
theorem pow_third_le {value other : ℝ} (nonneg : 0 ≤ value)
    (nonneg' : 0 ≤ other) :
    RealArithmetic.pow
        (RealArithmetic.pow value 3 + RealArithmetic.pow other 3) (1 / 3) ≤
      value + other := by
  have sum : 0 ≤ value + other := add_nonneg nonneg nonneg'
  have cubes : value ^ 3 + other ^ 3 ≤ (value + other) ^ 3 := by
    have mixed : 0 ≤ 3 * value * other * (value + other) := by positivity
    linarith [mixed, show (value + other) ^ 3 =
      value ^ 3 + other ^ 3 + 3 * value * other * (value + other) by ring]
  rw [pow_three, pow_three]
  calc (value ^ 3 + other ^ 3) ^ (1 / 3 : ℝ)
      ≤ ((value + other) ^ 3 : ℝ) ^ (1 / 3 : ℝ) :=
        Real.rpow_le_rpow (by positivity) cubes (by norm_num)
    _ = value + other := by
        rw [← Real.rpow_natCast, ← Real.rpow_mul sum]
        norm_num

end Concurrente.NBody
