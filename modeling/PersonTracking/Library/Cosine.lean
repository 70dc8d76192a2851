import Mathlib.Analysis.InnerProductSpace.Basic

/-!
# The angle with a sum

The cosine of the angle between a unit vector and a sum of vectors, as an inner product
over a norm, and what becomes of it when the unit vector itself is added to the sum.

* `div_norm_le_div_norm_add` — the angle does not grow, where it is at most a right one.
* `half_le_div_norm_add` — it is small, where the sum is short.
-/

namespace PersonTracking.Library

variable {V : Type*} [NormedAddCommGroup V] [InnerProductSpace ℝ V] {e sum : V}

/-- The inner product with a sum that has the unit vector in it. -/
theorem inner_add_self (unit : ‖e‖ = 1) : inner ℝ e (sum + e) = inner ℝ e sum + 1 := by
  rw [inner_add_right, real_inner_self_eq_norm_sq, unit, one_pow]

/-- A sum that has the unit vector in it is not short, if the rest does not point away. -/
theorem one_le_norm_add (unit : ‖e‖ = 1) (towards : 0 ≤ inner ℝ e sum) : 1 ≤ ‖sum + e‖ := by
  have bound := real_inner_le_norm e (sum + e)
  rw [inner_add_self unit, unit, one_mul] at bound
  linarith

/-- **The angle does not grow** when a unit vector that it is measured from is added. -/
theorem div_norm_le_div_norm_add (unit : ‖e‖ = 1) (towards : 0 ≤ inner ℝ e sum) :
    inner ℝ e sum / ‖sum‖ ≤ inner ℝ e (sum + e) / ‖sum + e‖ := by
  have long := one_le_norm_add unit towards
  have cauchy := real_inner_le_norm e sum
  rw [unit, one_mul] at cauchy
  rcases (norm_nonneg sum).eq_or_lt with zero | positive
  · rw [← zero, div_zero, inner_add_self unit]
    positivity
  have square : ‖sum + e‖ ^ 2 = ‖sum‖ ^ 2 + 2 * inner ℝ e sum + 1 := by
    rw [norm_add_sq_real, unit, one_pow, real_inner_comm]
  rw [div_le_div_iff₀ positive (by linarith), inner_add_self unit]
  -- Both sides are at least zero, so their squares may be compared.
  refine le_of_sq_le_sq ?_ (mul_nonneg (by linarith) positive.le)
  rw [mul_pow, mul_pow, square]
  nlinarith [mul_self_le_mul_self towards cauchy]

/-- A sum that is shorter than one is soon turned. -/
theorem half_le_div_norm_add (unit : ‖e‖ = 1) (towards : 0 ≤ inner ℝ e sum)
    (short : ‖sum‖ ≤ 1) : 1 / 2 ≤ inner ℝ e (sum + e) / ‖sum + e‖ := by
  have long := one_le_norm_add unit towards
  have bound := norm_add_le sum e
  rw [inner_add_self unit, div_le_div_iff₀ two_pos (by linarith)]
  linarith

end PersonTracking.Library
