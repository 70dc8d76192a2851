import Mathlib.Analysis.SpecialFunctions.Trigonometric.Inverse
import Mathlib.Geometry.Euclidean.Angle.Unoriented.TriangleInequality

/-!
# Great circles

A latitude `φ` and a longitude `θ` name a point of the unit sphere.  The haversine formula
computes the angle between two such points, for all real `φ` and `θ`: the root it takes is
of a number between `0` and `1`, so that the inverse sine is defined.

Angles satisfy the triangle inequality, and so does what the formula computes.
-/

namespace PersonTracking.Library

open Real InnerProductGeometry

/-- The point of the unit sphere with a latitude and a longitude. -/
noncomputable def spherePoint (φ θ : ℝ) : EuclideanSpace ℝ (Fin 3) :=
  WithLp.toLp _ ![cos φ * cos θ, cos φ * sin θ, sin φ]

/-- What the formula takes the root of. -/
noncomputable def haversine (φ₁ θ₁ φ₂ θ₂ : ℝ) : ℝ :=
  sin ((φ₂ - φ₁) / (2 : ℕ)) ^ 2 + cos φ₁ * cos φ₂ * sin ((θ₂ - θ₁) / (2 : ℕ)) ^ 2

/-- The angle between two points of the sphere. -/
noncomputable def centralAngle (φ₁ θ₁ φ₂ θ₂ : ℝ) : ℝ :=
  angle (spherePoint φ₁ θ₁) (spherePoint φ₂ θ₂)

variable (φ₁ θ₁ φ₂ θ₂ φ₃ θ₃ : ℝ)

theorem inner_spherePoint :
    inner ℝ (spherePoint φ₁ θ₁) (spherePoint φ₂ θ₂) =
      cos φ₁ * cos φ₂ * cos (θ₂ - θ₁) + sin φ₁ * sin φ₂ := by
  simp [spherePoint, PiLp.inner_apply, Fin.sum_univ_three, cos_sub]
  ring

@[simp] theorem norm_spherePoint (φ θ : ℝ) : ‖spherePoint φ θ‖ = 1 := by
  have square : ‖spherePoint φ θ‖ ^ 2 = 1 := by
    rw [← real_inner_self_eq_norm_sq, inner_spherePoint, sub_self, cos_zero, mul_one,
      ← sq, ← sq, cos_sq_add_sin_sq]
  exact (pow_eq_one_iff_of_nonneg (norm_nonneg _) two_ne_zero).mp square

theorem sin_half_sq (x : ℝ) : sin (x / 2) ^ 2 = (1 - cos x) / 2 := by
  rw [sin_sq_eq_half_sub, mul_div_cancel₀ x two_ne_zero]
  ring

/-- The haversine is half of what the cosine of the angle lacks to `1`. -/
theorem haversine_eq :
    haversine φ₁ θ₁ φ₂ θ₂ = (1 - cos (centralAngle φ₁ θ₁ φ₂ θ₂)) / 2 := by
  rw [centralAngle, cos_angle, norm_spherePoint, norm_spherePoint, mul_one, div_one,
    inner_spherePoint, haversine, Nat.cast_ofNat, sin_half_sq, sin_half_sq, cos_sub]
  ring

theorem haversine_nonneg : 0 ≤ haversine φ₁ θ₁ φ₂ θ₂ := by
  rw [haversine_eq]
  linarith [cos_le_one (centralAngle φ₁ θ₁ φ₂ θ₂)]

theorem centralAngle_le_pi : centralAngle φ₁ θ₁ φ₂ θ₂ ≤ π := angle_le_pi _ _

theorem sqrt_haversine :
    √(haversine φ₁ θ₁ φ₂ θ₂) = sin (centralAngle φ₁ θ₁ φ₂ θ₂ / 2) := by
  have lower : 0 ≤ centralAngle φ₁ θ₁ φ₂ θ₂ := angle_nonneg _ _
  have upper := centralAngle_le_pi φ₁ θ₁ φ₂ θ₂
  rw [haversine_eq, ← sin_half_sq]
  exact sqrt_sq (sin_nonneg_of_nonneg_of_le_pi (by linarith) (by linarith))

/-- **The haversine formula.** -/
theorem two_mul_arcsin_sqrt_haversine :
    2 * arcsin √(haversine φ₁ θ₁ φ₂ θ₂) = centralAngle φ₁ θ₁ φ₂ θ₂ := by
  have lower : 0 ≤ centralAngle φ₁ θ₁ φ₂ θ₂ := angle_nonneg _ _
  have upper := centralAngle_le_pi φ₁ θ₁ φ₂ θ₂
  rw [sqrt_haversine, arcsin_sin (by linarith) (by linarith)]
  ring

theorem sqrt_haversine_le_one : √(haversine φ₁ θ₁ φ₂ θ₂) ≤ 1 := by
  rw [sqrt_haversine]
  exact sin_le_one _

@[simp] theorem centralAngle_self (φ θ : ℝ) : centralAngle φ θ φ θ = 0 := by
  have nonzero : spherePoint φ θ ≠ 0 := fun zero => by
    have one := norm_spherePoint φ θ
    rw [zero, norm_zero] at one
    exact zero_ne_one one
  exact angle_self nonzero

theorem centralAngle_triangle :
    centralAngle φ₁ θ₁ φ₃ θ₃ ≤ centralAngle φ₁ θ₁ φ₂ θ₂ + centralAngle φ₂ θ₂ φ₃ θ₃ :=
  angle_le_angle_add_angle _ _ _

end PersonTracking.Library
