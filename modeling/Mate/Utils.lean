import Mate.Constants
import Mathlib.Analysis.SpecialFunctions.Complex.Arg

set_option autoImplicit false

/-! # Angles, plane vectors and hash keys

Angles are in degrees, as everywhere in the source. A `Vector2D` is kept in the coordinates it
was last written in: Cartesian, or polar with a non-negative norm. `setNorm` keeps the angle,
so it scales a vector that is not zero (`setNorm_vector`).
-/

namespace Mate

inductive Team
  | camera
  | target
  deriving DecidableEq, Repr

/-- What a call raises. The last one is no exception of the source: it bounds its `while`. -/
inductive Error
  | assertionError (message : String)
  | valueError (message : String)
  | indexError (message : String)
  | keyError (message : String)
  | typeError (message : String)
  | attributeError (message : String)
  | zeroDivisionError (message : String)
  | runtimeError (message : String)
  | outOfFuel
  deriving DecidableEq, Repr

/-! ## Angles -/

noncomputable def deg2rad (x : ℝ) : ℝ := x * (Real.pi / 180)

noncomputable def rad2deg (x : ℝ) : ℝ := x * (180 / Real.pi)

noncomputable def sinDeg (x : ℝ) : ℝ := Real.sin (deg2rad x)

noncomputable def arcsinDeg (x : ℝ) : ℝ := rad2deg (Real.arcsin x)

/-- `arctan2_deg(y, x)` of the point `x + yi`. -/
noncomputable def arctan2Deg (z : ℂ) : ℝ := rad2deg (Complex.arg z)

noncomputable def polar2cartesian (rho phi : ℝ) : ℂ :=
  ⟨rho * Real.cos (deg2rad phi), rho * Real.sin (deg2rad phi)⟩

/-- `x % y` of the source's floats, with the sign of `y`. -/
noncomputable def pyMod (x y : ℝ) : ℝ := x - y * ⌊x / y⌋

/-- Normalize an angle to `[-180, 180)`. -/
noncomputable def normalizeAngle (angle : ℝ) : ℝ := pyMod (angle + 180) 360 - 180

theorem deg2rad_rad2deg (x : ℝ) : deg2rad (rad2deg x) = x := by
  have := Real.pi_ne_zero
  rw [deg2rad, rad2deg]
  field_simp

theorem norm_polar2cartesian (rho phi : ℝ) : ‖polar2cartesian rho phi‖ = |rho| := by
  have h : polar2cartesian rho phi
      = (rho : ℂ) * (Real.cos (deg2rad phi) + Real.sin (deg2rad phi) * Complex.I) := by
    apply Complex.ext <;> simp [polar2cartesian, Complex.cos_ofReal_re, Complex.sin_ofReal_re]
  rw [h, norm_mul, Complex.norm_real, Real.norm_eq_abs, Complex.ofReal_cos, Complex.ofReal_sin,
    Complex.norm_cos_add_sin_mul_I, mul_one]

/-- The polar coordinates of a vector that is not zero. -/
theorem polar2cartesian_arctan2Deg (rho : ℝ) {z : ℂ} (hz : z ≠ 0) :
    polar2cartesian rho (arctan2Deg z) = (rho / ‖z‖) • z := by
  have hn : ‖z‖ ≠ 0 := norm_ne_zero_iff.mpr hz
  apply Complex.ext
  · simp [polar2cartesian, arctan2Deg, deg2rad_rad2deg, Complex.cos_arg hz]
    field_simp
  · simp [polar2cartesian, arctan2Deg, deg2rad_rad2deg, Complex.sin_arg]
    field_simp

/-! ## Plane vectors -/

/-- The coordinates a vector was last written in. -/
inductive Coords
  | cartesian (vector : ℂ)
  | polar (norm : ℝ) (norm_nonneg : 0 ≤ norm) (angle : ℝ)

/-- A vector of the plane attached to a point. The caches of the source hold what these reads
compute again. -/
structure Vector2D where
  origin : ℂ
  coords : Coords

namespace Vector2D

def ofVector (origin vector : ℂ) : Vector2D := ⟨origin, .cartesian vector⟩

/-- `Vector2D(norm=..., angle=..., origin=...)`. The angle is set first, so a negative norm
turns it around. -/
noncomputable def ofPolar (origin : ℂ) (norm angle : ℝ) : Vector2D :=
  let angle := normalizeAngle angle
  ⟨origin, .polar |norm| (abs_nonneg norm)
    (if norm < 0 then normalizeAngle (angle + 180) else angle)⟩

noncomputable def vector (v : Vector2D) : ℂ :=
  match v.coords with
  | .cartesian z => z
  | .polar norm _ angle => polar2cartesian norm angle

noncomputable def norm (v : Vector2D) : ℝ :=
  match v.coords with
  | .cartesian z => ‖z‖
  | .polar norm _ _ => norm

noncomputable def angle (v : Vector2D) : ℝ :=
  match v.coords with
  | .cartesian z => arctan2Deg z
  | .polar _ _ angle => angle

noncomputable def endpoint (v : Vector2D) : ℂ := v.origin + v.vector

def setVector (v : Vector2D) (vector : ℂ) : Vector2D := { v with coords := .cartesian vector }

noncomputable def setNorm (v : Vector2D) (value : ℝ) : Vector2D :=
  { v with
    coords := .polar |value| (abs_nonneg value)
      (if value < 0 then normalizeAngle (v.angle + 180) else v.angle) }

noncomputable def neg (v : Vector2D) : Vector2D := ofVector v.origin (-v.vector)

@[simp] theorem ofVector_vector (o z : ℂ) : (ofVector o z).vector = z := rfl
@[simp] theorem ofVector_origin (o z : ℂ) : (ofVector o z).origin = o := rfl
@[simp] theorem setVector_vector (v : Vector2D) (z : ℂ) : (v.setVector z).vector = z := rfl
@[simp] theorem setVector_origin (v : Vector2D) (z : ℂ) : (v.setVector z).origin = v.origin := rfl
@[simp] theorem setNorm_origin (v : Vector2D) (r : ℝ) : (v.setNorm r).origin = v.origin := rfl
@[simp] theorem neg_origin (v : Vector2D) : v.neg.origin = v.origin := rfl
@[simp] theorem neg_vector (v : Vector2D) : v.neg.vector = -v.vector := rfl

/-- Both coordinates give the same norm. -/
theorem norm_eq (v : Vector2D) : v.norm = ‖v.vector‖ := by
  obtain ⟨o, z | ⟨n, hn, a⟩⟩ := v
  · rfl
  · show n = ‖polar2cartesian n a‖
    rw [norm_polar2cartesian, abs_of_nonneg hn]

/-- The angle read from a vector that is not zero is an angle of it. -/
theorem polar2cartesian_angle (v : Vector2D) (rho : ℝ) (hv : v.vector ≠ 0) :
    polar2cartesian rho v.angle = (rho / ‖v.vector‖) • v.vector := by
  obtain ⟨o, z | ⟨n, hn, a⟩⟩ := v
  · exact polar2cartesian_arctan2Deg rho hv
  · have hn0 : n ≠ 0 := by
      rintro rfl
      exact hv (by apply Complex.ext <;> simp [vector, polar2cartesian])
    show polar2cartesian rho a = (rho / ‖polar2cartesian n a‖) • polar2cartesian n a
    rw [norm_polar2cartesian, abs_of_nonneg hn]
    apply Complex.ext <;> simp [polar2cartesian] <;> field_simp

/-- Setting a non-negative norm scales a vector that is not zero. -/
theorem setNorm_vector {v : Vector2D} {r : ℝ} (hr : 0 ≤ r) (hv : v.vector ≠ 0) :
    (v.setNorm r).vector = (r / ‖v.vector‖) • v.vector := by
  have h : (v.setNorm r).vector = polar2cartesian r v.angle := by
    simp [setNorm, vector, abs_of_nonneg hr, not_lt.mpr hr]
  rw [h, polar2cartesian_angle v r hv]

end Vector2D

/-! ## Spatial hashing -/

/-- `int(x)` of a float: the fraction is cut off, towards zero. -/
noncomputable def truncate (x : ℝ) : ℤ := if 0 ≤ x then ⌊x⌋ else ⌈x⌉

/-- `SpatialHashmap.hash_key` for the grid step `step`. -/
noncomputable def hashKey (step : ℝ) (name : ℂ) : ℤ × ℤ :=
  (truncate (name.re / step), truncate (name.im / step))

theorem truncate_mono {x y : ℝ} (h : x ≤ y) : truncate x ≤ truncate y := by
  unfold truncate
  split <;> split
  · exact Int.floor_mono h
  · linarith
  · rename_i hx hy
    exact (Int.ceil_le.mpr (by push_cast; linarith)).trans (Int.floor_nonneg.mpr hy)
  · exact Int.ceil_mono h

end Mate
