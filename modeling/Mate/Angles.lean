import Mate.Utils
import Mathlib.Analysis.InnerProductSpace.Basic
import Mathlib.Analysis.Complex.Basic
import Mathlib.Tactic

set_option autoImplicit false

/-! # Angles modulo a full turn

`normalizeAngle` gives the angle of `[-180, 180)` that differs from its argument by full turns,
which polar coordinates do not see.
-/

namespace Mate

/-! ## Full turns -/

/-- The number of turns that `normalizeAngle` takes off. -/
noncomputable def turns (angle : ℝ) : ℤ := ⌊(angle + 180) / 360⌋

theorem normalizeAngle_eq (angle : ℝ) : normalizeAngle angle = angle - 360 * turns angle := by
  unfold normalizeAngle pyMod turns
  ring

theorem le_normalizeAngle (angle : ℝ) : -180 ≤ normalizeAngle angle := by
  have hfloor := Int.floor_le ((angle + 180) / 360)
  have := (le_div_iff₀ (by norm_num)).mp hfloor
  rw [normalizeAngle_eq, turns]
  linarith

theorem normalizeAngle_lt (angle : ℝ) : normalizeAngle angle < 180 := by
  have hfloor := Int.lt_floor_add_one ((angle + 180) / 360)
  have := (div_lt_iff₀ (by norm_num)).mp hfloor
  rw [normalizeAngle_eq, turns]
  linarith

theorem turns_add (angle : ℝ) (k : ℤ) : turns (angle + 360 * k) = turns angle + k := by
  have : (angle + 360 * k + 180) / 360 = (angle + 180) / 360 + k := by ring
  rw [turns, this, Int.floor_add_intCast, turns]

theorem turns_of_mem {angle : ℝ} (h : -180 ≤ angle) (h' : angle < 180) : turns angle = 0 := by
  unfold turns
  rw [Int.floor_eq_zero_iff, Set.mem_Ico]
  constructor
  · apply div_nonneg <;> linarith
  · rw [div_lt_one (by norm_num)]
    linarith

@[simp] theorem normalizeAngle_add_turns (angle : ℝ) (k : ℤ) :
    normalizeAngle (angle + 360 * k) = normalizeAngle angle := by
  rw [normalizeAngle_eq, turns_add, normalizeAngle_eq]
  push_cast
  ring

theorem normalizeAngle_of_mem {angle : ℝ} (h : -180 ≤ angle) (h' : angle < 180) :
    normalizeAngle angle = angle := by
  rw [normalizeAngle_eq, turns_of_mem h h', Int.cast_zero, mul_zero, sub_zero]

@[simp] theorem normalizeAngle_normalizeAngle (angle : ℝ) :
    normalizeAngle (normalizeAngle angle) = normalizeAngle angle :=
  normalizeAngle_of_mem (le_normalizeAngle angle) (normalizeAngle_lt angle)

theorem normalizeAngle_add_360 (angle : ℝ) :
    normalizeAngle (angle + 360) = normalizeAngle angle := by
  have := normalizeAngle_add_turns angle 1
  rwa [Int.cast_one, mul_one] at this

theorem normalizeAngle_180 : normalizeAngle 180 = -180 := by
  have hturn : normalizeAngle 180 = normalizeAngle (-180 + 360) := by norm_num
  rw [hturn, normalizeAngle_add_360, normalizeAngle_of_mem (by norm_num) (by norm_num)]

theorem normalizeAngle_neg_eq (angle : ℝ) :
    normalizeAngle (-angle) = normalizeAngle (-normalizeAngle angle) := by
  have hneg : -angle = -normalizeAngle angle + 360 * (-turns angle : ℤ) := by
    rw [normalizeAngle_eq]
    push_cast
    ring
  rw [hneg, normalizeAngle_add_turns]

/-- An opposite angle, but for the one behind, which is its own opposite. -/
theorem normalizeAngle_neg {angle : ℝ} (h : normalizeAngle angle ≠ -180) :
    normalizeAngle (-angle) = -normalizeAngle angle := by
  have hlow : -180 < normalizeAngle angle := lt_of_le_of_ne (le_normalizeAngle angle) h.symm
  have hhigh := normalizeAngle_lt angle
  rw [normalizeAngle_neg_eq, normalizeAngle_of_mem (by linarith) (by linarith)]

/-- Opposite angles are as far from zero. -/
theorem abs_normalizeAngle_neg (angle : ℝ) : |normalizeAngle (-angle)| = |normalizeAngle angle| := by
  by_cases hback : normalizeAngle angle = -180
  · rw [normalizeAngle_neg_eq, hback, neg_neg, normalizeAngle_180]
  · rw [normalizeAngle_neg hback, abs_neg]

/-! ## Polar coordinates -/

theorem deg2rad_sub (x y : ℝ) : deg2rad (x - y) = deg2rad x - deg2rad y := sub_mul _ _ _

theorem deg2rad_add (x y : ℝ) : deg2rad (x + y) = deg2rad x + deg2rad y := add_mul _ _ _

theorem deg2rad_turns (k : ℤ) : deg2rad (360 * k) = k * (2 * Real.pi) := by
  unfold deg2rad
  ring

@[simp] theorem polar2cartesian_add_turns (rho angle : ℝ) (k : ℤ) :
    polar2cartesian rho (angle + 360 * k) = polar2cartesian rho angle := by
  unfold polar2cartesian
  rw [deg2rad_add, deg2rad_turns, Real.cos_add_int_mul_two_pi, Real.sin_add_int_mul_two_pi]

@[simp] theorem polar2cartesian_normalizeAngle (rho angle : ℝ) :
    polar2cartesian rho (normalizeAngle angle) = polar2cartesian rho angle := by
  have h : normalizeAngle angle = angle + 360 * (-turns angle : ℤ) := by
    rw [normalizeAngle_eq]
    push_cast
    ring
  rw [h, polar2cartesian_add_turns]

theorem polar2cartesian_eq_smul (rho angle : ℝ) :
    polar2cartesian rho angle = rho • polar2cartesian 1 angle := by
  apply Complex.ext <;> simp [polar2cartesian]

theorem polar2cartesian_add_180 (rho angle : ℝ) :
    polar2cartesian rho (angle + 180) = -polar2cartesian rho angle := by
  have h : deg2rad 180 = Real.pi := by
    unfold deg2rad
    ring
  apply Complex.ext <;>
    simp [polar2cartesian, deg2rad_add, h, Real.cos_add_pi, Real.sin_add_pi]

/-- A vector from polar coordinates, also with a negative norm. -/
theorem Vector2D.ofPolar_vector (origin : ℂ) (rho angle : ℝ) :
    (Vector2D.ofPolar origin rho angle).vector = polar2cartesian rho angle := by
  show polar2cartesian |rho| (if rho < 0 then _ else _) = _
  split
  · rename_i hneg
    rw [polar2cartesian_normalizeAngle, polar2cartesian_add_180, polar2cartesian_normalizeAngle,
      polar2cartesian_eq_smul, polar2cartesian_eq_smul rho, abs_of_neg hneg, neg_smul, neg_neg]
  · rename_i hpos
    rw [abs_of_nonneg (not_lt.mp hpos), polar2cartesian_normalizeAngle]

theorem polar2cartesian_ne_zero {rho : ℝ} (h : rho ≠ 0) (angle : ℝ) :
    polar2cartesian rho angle ≠ 0 := by
  rw [← norm_pos_iff, norm_polar2cartesian]
  exact abs_pos.mpr h

theorem inner_polar2cartesian_polar2cartesian (rho rho' angle angle' : ℝ) :
    inner ℝ (polar2cartesian rho angle) (polar2cartesian rho' angle')
      = rho * rho' * Real.cos (deg2rad (angle' - angle)) := by
  rw [deg2rad_sub, Real.cos_sub, Complex.inner]
  simp [polar2cartesian]
  ring

theorem arctan2Deg_mem (z : ℂ) : -180 < arctan2Deg z ∧ arctan2Deg z ≤ 180 := by
  have hpi := Real.pi_pos
  have hscale : (0 : ℝ) < 180 / Real.pi := by positivity
  have harg := Complex.arg_mem_Ioc z
  have h180 : Real.pi * (180 / Real.pi) = 180 := mul_div_cancel₀ _ hpi.ne'
  unfold arctan2Deg rad2deg
  constructor
  · have := mul_lt_mul_of_pos_right harg.1 hscale
    linarith
  · have := mul_le_mul_of_nonneg_right harg.2 hscale.le
    linarith

/-- The direction at a difference of angles. -/
theorem polar2cartesian_one_sub (x y : ℝ) : polar2cartesian 1 (x - y)
    = polar2cartesian 1 x * (starRingEnd ℂ) (polar2cartesian 1 y) := by
  apply Complex.ext
  · simp [polar2cartesian, deg2rad_sub, Real.cos_sub]
  · simp [polar2cartesian, deg2rad_sub, Real.sin_sub]
    ring

/-- A direction determines its angle up to full turns. -/
theorem normalizeAngle_eq_of_polar2cartesian {x y : ℝ}
    (h : polar2cartesian 1 x = polar2cartesian 1 y) : normalizeAngle x = normalizeAngle y := by
  have hcos : Real.cos (deg2rad x) = Real.cos (deg2rad y) := by
    simpa [polar2cartesian] using congrArg Complex.re h
  have hsin : Real.sin (deg2rad x) = Real.sin (deg2rad y) := by
    simpa [polar2cartesian] using congrArg Complex.im h
  obtain ⟨k, hk⟩ := Real.Angle.angle_eq_iff_two_pi_dvd_sub.mp (Real.Angle.cos_sin_inj hcos hsin)
  have hpi := Real.pi_pos
  have hturn : x = y + 360 * (k : ℝ) := by
    unfold deg2rad at hk
    field_simp at hk
    linarith
  rw [hturn, normalizeAngle_add_turns]

/-- The projection of a vector on a direction. -/
theorem inner_polar2cartesian (z : ℂ) (rho angle : ℝ) :
    inner ℝ z (polar2cartesian rho angle)
      = ‖z‖ * rho * Real.cos (deg2rad (angle - arctan2Deg z)) := by
  rw [deg2rad_sub, arctan2Deg, deg2rad_rad2deg, Real.cos_sub, Complex.inner]
  have hre := Complex.norm_mul_cos_arg z
  have him := Complex.norm_mul_sin_arg z
  calc ((polar2cartesian rho angle) * (starRingEnd ℂ) z).re
      = rho * Real.cos (deg2rad angle) * z.re + rho * Real.sin (deg2rad angle) * z.im := by
        simp [polar2cartesian]
    _ = rho * Real.cos (deg2rad angle) * (‖z‖ * Real.cos z.arg)
        + rho * Real.sin (deg2rad angle) * (‖z‖ * Real.sin z.arg) := by rw [hre, him]
    _ = _ := by ring

end Mate
