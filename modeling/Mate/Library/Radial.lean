import Mate.Library.Numerals
import Mathlib.Analysis.CStarAlgebra.Classes
import Mathlib.Analysis.Seminorm
import Mathlib.Analysis.SpecialFunctions.Complex.Arg
import Mathlib.Tactic

set_option autoImplicit false

/-! # Changing lengths along rays

Two seminorms that are zero at the origin only measure a vector differently; `rescale p q` keeps its
ray and makes it as long for `q` as it was for `p` (`rescale_apply`). That is undone by `rescale q p`
(`rescale_rescale`).

In the plane the square becomes the disc. The factor is a cosine of the angle, which is turned by
right angles until it is at most half a right angle (`cos_smul_eq_rescale`).
-/

namespace Radial

/-! ## Rescaling -/

section Rescale

variable {E : Type*} [AddCommGroup E] [Module ℝ E] (p q : Seminorm ℝ E)

/-- The vector on the ray of `x` that is as long for `q` as `x` is for `p`. -/
noncomputable def rescale (x : E) : E := (p x / q x) • x

variable {p q}

theorem apply_rescale (r : Seminorm ℝ E) (x : E) : r (rescale p q x) = p x / q x * r x := by
  have hnonneg : 0 ≤ p x / q x := div_nonneg (apply_nonneg p x) (apply_nonneg q x)
  rw [rescale, map_smul_eq_mul, Real.norm_of_nonneg hnonneg]

theorem rescale_apply (hq : ∀ x, q x = 0 → x = 0) (x : E) : q (rescale p q x) = p x := by
  rw [apply_rescale]
  by_cases h : q x = 0
  · simp [hq x h]
  · exact div_mul_cancel₀ (p x) h

theorem rescale_rescale (hp : ∀ x, p x = 0 → x = 0) (hq : ∀ x, q x = 0 → x = 0) (x : E) :
    rescale q p (rescale p q x) = x := by
  by_cases h : x = 0
  · simp [rescale, h]
  · have hpx : p x ≠ 0 := fun hzero => h (hp x hzero)
    have hqx : q x ≠ 0 := fun hzero => h (hq x hzero)
    have hone : p x / (p x / q x * p x) * (p x / q x) = 1 := by field_simp
    calc rescale q p (rescale p q x)
        = (q (rescale p q x) / p (rescale p q x)) • (p x / q x) • x := rfl
      _ = (p x / (p x / q x * p x)) • (p x / q x) • x := by rw [rescale_apply hq, apply_rescale]
      _ = x := by rw [smul_smul, hone, one_smul]

/-- No two vectors become one. -/
theorem rescale_injective (hp : ∀ x, p x = 0 → x = 0) (hq : ∀ x, q x = 0 → x = 0) :
    Function.Injective (rescale p q) :=
  Function.LeftInverse.injective (rescale_rescale hp hq)

end Rescale

/-! ## The square and the disc -/

open Real

/-- The greatest coordinate. -/
noncomputable def maxSeminorm : Seminorm ℝ ℂ :=
  (normSeminorm ℝ ℝ).comp Complex.reLm ⊔ (normSeminorm ℝ ℝ).comp Complex.imLm

@[simp] theorem maxSeminorm_apply (z : ℂ) : maxSeminorm z = max |z.re| |z.im| := rfl

theorem eq_zero_of_maxSeminorm {z : ℂ} (h : maxSeminorm z = 0) : z = 0 := by
  rw [maxSeminorm_apply] at h
  have hre : |z.re| ≤ 0 := h ▸ le_max_left _ _
  have him : |z.im| ≤ 0 := h ▸ le_max_right _ _
  exact Complex.ext (abs_nonpos_iff.mp hre) (abs_nonpos_iff.mp him)

theorem eq_zero_of_normSeminorm {z : ℂ} (h : normSeminorm ℝ ℂ z = 0) : z = 0 := norm_eq_zero.mp h

/-- A right angle swaps the coordinates. -/
theorem periodic_max_cos_sin : Function.Periodic (fun θ => max |cos θ| |sin θ|) (π / 2) := by
  intro θ
  show max |cos (θ + π / 2)| |sin (θ + π / 2)| = _
  rw [cos_add_pi_div_two, sin_add_pi_div_two, abs_neg, max_comm]

theorem abs_sin_le_cos {φ : ℝ} (h : |φ| ≤ π / 4) : |sin φ| ≤ cos φ := by
  obtain ⟨hlow, hhigh⟩ := abs_le.mp h
  have hpi := pi_pos
  have hcos : 0 ≤ cos φ := cos_nonneg_of_mem_Icc ⟨by linarith, by linarith⟩
  refine abs_le_of_sq_le_sq ?_ hcos
  -- the difference is the cosine of twice the angle
  have htwice : 0 ≤ cos (2 * φ) := cos_nonneg_of_mem_Icc ⟨by linarith, by linarith⟩
  have hcircle := sin_sq_add_cos_sq φ
  rw [cos_two_mul] at htwice
  linarith

/-- **The greater coordinate** of a point of the circle is a cosine. -/
theorem cos_eq_max {θ φ : ℝ} {k : ℤ} (h : θ = φ + k * (π / 2)) (hφ : |φ| ≤ π / 4) :
    cos φ = max |cos θ| |sin θ| := by
  have hsin := abs_sin_le_cos hφ
  have hcos : 0 ≤ cos φ := (abs_nonneg _).trans hsin
  have hturns : max |cos θ| |sin θ| = max |cos φ| |sin φ| := by
    rw [h]
    exact periodic_max_cos_sin.int_mul k φ
  rw [hturns, abs_of_nonneg hcos, max_eq_left hsin]

/-- The square becomes the disc. -/
theorem cos_smul_eq_rescale {z : ℂ} {φ : ℝ} {k : ℤ} (h : Complex.arg z = φ + k * (π / 2))
    (hφ : |φ| ≤ π / 4) : cos φ • z = rescale maxSeminorm (normSeminorm ℝ ℂ) z := by
  by_cases hz : z = 0
  · simp [rescale, hz]
  · have hnorm : 0 < ‖z‖ := norm_pos_iff.mpr hz
    have hmax : maxSeminorm z / ‖z‖ = max (|z.re| / ‖z‖) (|z.im| / ‖z‖) :=
      (max_div_div_right hnorm.le _ _).symm
    show cos φ • z = (maxSeminorm z / ‖z‖) • z
    rw [hmax, cos_eq_max h hφ, Complex.cos_arg hz, Complex.sin_arg, abs_div, abs_div, abs_norm]

end Radial
