import Mate.Library.Numerals
import Mathlib.Analysis.CStarAlgebra.Classes
import Mathlib.Analysis.Complex.Basic
import Mathlib.Analysis.InnerProductSpace.Basic

set_option autoImplicit false

/-! # Reflections of the plane

An axis through the origin is given by a unit vector `u` on it; the reflection about it takes `z`
to `u² z̄`. It is real-linear (`reflect_add`, `reflect_smul`), keeps norms and scalar products
(`norm_reflect`, `inner_reflect`) and is its own inverse (`reflect_reflect`). `reflectAt` reflects
about the parallel line through a point.
-/

namespace PlaneReflection

open Complex

/-- A line through the origin. -/
structure Axis where
  direction : ℂ
  norm_direction : ‖direction‖ = 1

namespace Axis

variable (axis : Axis)

/-- The reflection about the axis. -/
noncomputable def reflect (z : ℂ) : ℂ := axis.direction ^ 2 * (starRingEnd ℂ) z

/-- The reflection about the line through `p` along the axis. -/
noncomputable def reflectAt (p z : ℂ) : ℂ := p + axis.reflect (z - p)

@[simp] theorem reflect_zero : axis.reflect 0 = 0 := by
  rw [reflect, map_zero, mul_zero]

theorem reflect_add (z w : ℂ) : axis.reflect (z + w) = axis.reflect z + axis.reflect w := by
  rw [reflect, reflect, reflect, map_add, mul_add]

theorem reflect_sub (z w : ℂ) : axis.reflect (z - w) = axis.reflect z - axis.reflect w := by
  rw [reflect, reflect, reflect, map_sub, mul_sub]

theorem reflect_smul (r : ℝ) (z : ℂ) : axis.reflect (r • z) = r • axis.reflect z := by
  rw [reflect, reflect, Complex.real_smul, Complex.real_smul, map_mul, Complex.conj_ofReal]
  ring

theorem direction_mul_conj : axis.direction * (starRingEnd ℂ) axis.direction = 1 := by
  rw [Complex.mul_conj, Complex.normSq_eq_norm_sq, axis.norm_direction]
  norm_num

@[simp] theorem reflect_reflect (z : ℂ) : axis.reflect (axis.reflect z) = z := by
  unfold reflect
  rw [map_mul, map_pow, Complex.conj_conj]
  calc axis.direction ^ 2 * ((starRingEnd ℂ) axis.direction ^ 2 * z)
      = (axis.direction * (starRingEnd ℂ) axis.direction) ^ 2 * z := by ring
    _ = z := by rw [direction_mul_conj, one_pow, one_mul]

@[simp] theorem norm_reflect (z : ℂ) : ‖axis.reflect z‖ = ‖z‖ := by
  rw [reflect, norm_mul, norm_pow, axis.norm_direction, one_pow, one_mul, Complex.norm_conj]

theorem reflect_eq_zero {z : ℂ} : axis.reflect z = 0 ↔ z = 0 := by
  rw [← norm_eq_zero, norm_reflect, norm_eq_zero]

/-- A product with a conjugate is turned over. -/
theorem reflect_mul_conj_reflect (z w : ℂ) :
    axis.reflect z * (starRingEnd ℂ) (axis.reflect w) = (starRingEnd ℂ) z * w := by
  unfold reflect
  rw [map_mul, map_pow, Complex.conj_conj]
  calc axis.direction ^ 2 * (starRingEnd ℂ) z * ((starRingEnd ℂ) axis.direction ^ 2 * w)
      = (axis.direction * (starRingEnd ℂ) axis.direction) ^ 2 * ((starRingEnd ℂ) z * w) := by ring
    _ = (starRingEnd ℂ) z * w := by rw [direction_mul_conj, one_pow, one_mul]

@[simp] theorem inner_reflect (z w : ℂ) :
    inner ℝ (axis.reflect z) (axis.reflect w) = inner ℝ z w := by
  have hconj : (starRingEnd ℂ) w * z = (starRingEnd ℂ) (w * (starRingEnd ℂ) z) := by
    rw [map_mul, Complex.conj_conj]
  rw [Complex.inner, Complex.inner, reflect_mul_conj_reflect, hconj, Complex.conj_re]

@[simp] theorem reflectAt_reflectAt (p z : ℂ) : axis.reflectAt p (axis.reflectAt p z) = z := by
  unfold reflectAt
  rw [add_sub_cancel_left, reflect_reflect, add_sub_cancel]

theorem sub_reflectAt (p z : ℂ) : p - axis.reflectAt p z = axis.reflect (p - z) := by
  unfold reflectAt
  rw [reflect_sub, reflect_sub]
  ring

end Axis

end PlaneReflection
