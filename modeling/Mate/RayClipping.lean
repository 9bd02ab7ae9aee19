import Mate.Entities.Obstacle
import Mate.Library.Chord
import Mathlib.Analysis.Complex.Basic

set_option autoImplicit false

/-! # Clipping a ray at a disc

The tests of `Disc.obstruct` are those of a ball that the ray runs into (`obstruct_eq`). So the ray
is clipped at the first point inside of the disc, or at the last one (`obstruct_clips`), and with
`keep_tangential` it is the deflection of a step by a ball (`obstruct_vector`).
-/

namespace Mate

open Ball

/-- The disc as seen from `origin`. -/
noncomputable def Disc.ball (d : Disc) (origin : ℂ) : Ball ℂ := ⟨d.location - origin, d.radius⟩

/-! ## The tests of the source -/

theorem dot_eq_inner (z w : ℂ) : dot z w = inner ℝ z w := by
  rw [Complex.inner, dot]
  simp
  ring

/-- The cosine of the source times the distance of the center is the projection, whether or
not the cosine had to be cut to `1`. -/
theorem norm_mul_min_cos (b : Ball ℂ) {v : ℂ} (hv : v ≠ 0) :
    ‖b.center‖ * min 1 (inner ℝ b.center v / (‖b.center‖ * ‖v‖)) = b.along v := by
  have hv' : 0 < ‖v‖ := norm_pos_iff.mpr hv
  by_cases hc : b.center = 0
  · simp [hc, along]
  · have hc' : 0 < ‖b.center‖ := norm_pos_iff.mpr hc
    have hle : inner ℝ b.center v / (‖b.center‖ * ‖v‖) ≤ 1 :=
      (div_le_one (mul_pos hc' hv')).mpr (real_inner_le_norm _ _)
    rw [min_eq_right hle, along]
    field_simp

theorem norm_mul_sqrt_eq_offset (b : Ball ℂ) {v : ℂ} (hv : v ≠ 0) :
    ‖b.center‖ * √(1 - min 1 (inner ℝ b.center v / (‖b.center‖ * ‖v‖)) ^ 2) = b.offset v := by
  rw [offset, ← norm_mul_min_cos b hv, mul_pow, ← mul_one_sub,
    Real.sqrt_mul (sq_nonneg _), Real.sqrt_sq (norm_nonneg _)]

theorem obstruct_origin (d : Disc) (ray : Vector2D) (keepTangential outer : Bool) :
    (d.obstruct ray keepTangential outer).origin = ray.origin := by
  simp only [Disc.obstruct]
  split_ifs <;> rfl

/-- Where `obstruct` stops a ray that runs through the disc. -/
noncomputable def Disc.stop (d : Disc) (outer : Bool) (ray : Vector2D) : ℝ :=
  if outer then (d.ball ray.origin).exit ray.vector else (d.ball ray.origin).entry ray.vector

theorem entry_le_stop (d : Disc) (outer : Bool) (ray : Vector2D) :
    (d.ball ray.origin).entry ray.vector ≤ d.stop outer ray := by
  have := (d.ball ray.origin).chord_nonneg ray.vector
  unfold Disc.stop entry exit
  split_ifs <;> linarith

/-- `ray` with `keep_tangential`, once it is stopped at `newNorm`. -/
noncomputable def Disc.tangential (d : Disc) (ray : Vector2D) (newNorm : ℝ) : Vector2D :=
  (ray.setNorm newNorm).setVector
    (ray.vector + ((ray.norm - newNorm) * (d.ball ray.origin).chord ray.vector / d.radius ^ 2 : ℝ)
      * ((ray.setNorm newNorm).endpoint - d.location))

open Classical in
/-- **What `obstruct` does to a ray that starts outside of the disc**, by the geometry of the line
of the ray. -/
theorem obstruct_eq (d : Disc) (ray : Vector2D) (keepTangential outer : Bool)
    (hout : d.radius ≤ ‖d.location - ray.origin‖) (hv : ray.vector ≠ 0) :
    d.obstruct ray keepTangential outer =
      if (d.ball ray.origin).Crossed ray.vector ∧ d.stop outer ray < ray.norm then
        if keepTangential then d.tangential ray (d.stop outer ray)
        else ray.setNorm (d.stop outer ray)
      else ray := by
  set b := d.ball ray.origin with hb
  have hbout : b.radius ≤ ‖b.center‖ := hout
  have hnorm := ray.norm_eq
  have hpos : 0 < ray.norm := hnorm ▸ norm_pos_iff.mpr hv
  have hfirst : ¬ (ray.norm = 0 ∨ ‖b.center‖ < b.radius) :=
    not_or.mpr ⟨hpos.ne', not_lt.mpr hbout⟩
  have hle : b.entry ray.vector ≤ d.stop outer ray := entry_le_stop d outer ray
  by_cases hfar : ray.norm + b.radius ≤ ‖b.center‖
  · -- a disc out of reach does not block the ray
    have hno : ¬ (b.Crossed ray.vector ∧ d.stop outer ray < ray.norm) := by
      rintro ⟨hcrossed, hlt⟩
      have hblocks := (blocks_iff hv).mpr ⟨hcrossed, hnorm ▸ hle.trans_lt hlt⟩
      have := hblocks.norm_center_lt hbout
      rw [← hnorm] at this
      linarith
    rw [if_neg hno, Disc.obstruct]
    exact (if_neg hfirst).trans (if_pos hfar)
  -- the tests of the source are those of `Crossed` and the comparison of the norms
  have halong := norm_mul_min_cos b hv
  have hoffset := norm_mul_sqrt_eq_offset b hv
  rw [← hnorm] at halong hoffset
  simp only [Disc.obstruct, dot_eq_inner]
  rw [show d.location - ray.origin = b.center from rfl, show d.radius = b.radius from rfl,
    halong, hoffset, if_neg hfirst, if_neg hfar]
  by_cases hinner : 0 ≤ inner ℝ b.center ray.vector
  · by_cases hoff : b.offset ray.vector < b.radius
    · have hcrossed : b.Crossed ray.vector := ⟨(inner_nonneg_iff b hv).mp hinner, hoff⟩
      have hstop : (if outer then
            max 0 (b.along ray.vector + √(b.radius ^ 2 - b.offset ray.vector ^ 2))
          else max 0 (b.along ray.vector - √(b.radius ^ 2 - b.offset ray.vector ^ 2)))
          = d.stop outer ray := by
        have hnonneg := hcrossed.entry_nonneg hv hbout
        cases outer with
        | true => exact max_eq_right (hnonneg.trans hle)
        | false => exact max_eq_right hnonneg
      rw [if_pos hinner, if_pos hoff, hstop]
      by_cases hlt : d.stop outer ray < ray.norm
      · have hstopped : b.Crossed ray.vector ∧ d.stop outer ray < ray.norm := ⟨hcrossed, hlt⟩
        rw [if_pos hlt, if_pos hstopped]
        rfl
      · rw [if_neg hlt, if_neg (fun h => hlt h.2)]
    · rw [if_pos hinner, if_neg hoff, if_neg (fun h => hoff h.1.2)]
  · rw [if_neg hinner, if_neg (fun h => hinner ((inner_nonneg_iff b hv).mpr h.1.1))]

/-- **Obstructing a ray is deflecting a step**, for a disc the ray starts outside of. -/
theorem obstruct_vector (d : Disc) (ray : Vector2D)
    (hout : d.radius ≤ ‖d.location - ray.origin‖) :
    (d.obstruct ray true false).vector = deflect ray.vector (d.ball ray.origin) := by
  set b := d.ball ray.origin with hb
  have hbout : b.radius ≤ ‖b.center‖ := hout
  by_cases hv : ray.vector = 0
  · rw [deflect_of_not_blocks (fun h => h.ne_zero hbout hv), Disc.obstruct,
      if_pos (Or.inl (by rw [ray.norm_eq, hv, norm_zero])), Vector2D.neg_vector, hv, neg_zero]
  have hstop : d.stop false ray = b.entry ray.vector := rfl
  rw [obstruct_eq d ray true false hout hv, hstop, ray.norm_eq]
  by_cases h : b.Blocks ray.vector
  · have hend : (ray.setNorm (b.entry ray.vector)).endpoint - d.location
        = b.entryPoint ray.vector - b.center := by
      rw [Vector2D.endpoint, Vector2D.setNorm_vector (h.entry_nonneg hbout) hv,
        Vector2D.setNorm_origin, entryPoint, direction, smul_smul, ← div_eq_mul_inv]
      show _ = _ - (d.location - ray.origin)
      ring
    rw [if_pos ((blocks_iff hv).mp h), if_pos rfl, deflect_of_blocks h, Disc.tangential,
      Vector2D.setVector_vector, hend, slide, Complex.real_smul, ray.norm_eq]
    rfl
  · rw [if_neg (fun hblocks => h ((blocks_iff hv).mpr hblocks)), deflect_of_not_blocks h]

/-! ## Ray clipping -/

/-- The distances along the ray at which it is inside of the open disc. -/
def Disc.inside (d : Disc) (ray : Vector2D) : Set ℝ :=
  {t | 0 ≤ t ∧ ‖ray.origin + (t / ray.norm : ℝ) * ray.vector - d.location‖ < d.radius}

/-- `clipped` is `ray` with its direction and the smaller norm `s`. -/
structure Shortened (ray clipped : Vector2D) (s : ℝ) : Prop where
  origin : clipped.origin = ray.origin
  angle : clipped.angle = ray.angle
  norm : clipped.norm = s
  vector : clipped.vector = (s / ray.norm : ℝ) * ray.vector
  nonneg : 0 ≤ s
  lt : s < ray.norm

theorem inside_eq_hits (d : Disc) (ray : Vector2D) :
    d.inside ray = (d.ball ray.origin).hits ray.vector := by
  ext t
  have hpoint : ray.origin + (t / ray.norm : ℝ) * ray.vector - d.location
      = t • direction ray.vector - (d.ball ray.origin).center := by
    unfold direction Disc.ball
    rw [smul_smul, ← div_eq_mul_inv, ← ray.norm_eq, Complex.real_smul]
    ring
  unfold Disc.inside hits
  rw [Set.mem_ofPred_eq, Set.mem_ofPred_eq, hpoint]
  rfl

theorem shortened_setNorm {ray : Vector2D} {s : ℝ} (hs : 0 ≤ s) (hlt : s < ray.norm) :
    Shortened ray (ray.setNorm s) s := by
  have hv : ray.vector ≠ 0 := by
    rw [← norm_pos_iff, ← ray.norm_eq]
    exact hs.trans_lt hlt
  refine ⟨rfl, ?_, abs_of_nonneg hs, ?_, hs, hlt⟩
  · show (if s < 0 then normalizeAngle (ray.angle + 180) else ray.angle) = ray.angle
    rw [if_neg (not_lt.mpr hs)]
  · rw [Vector2D.setNorm_vector hs hv, ray.norm_eq, Complex.real_smul]

/-- A ray that is shortened is not the ray it was. -/
theorem Shortened.ne {ray clipped : Vector2D} {s : ℝ} (h : Shortened ray clipped s) :
    clipped ≠ ray := by
  rintro rfl
  exact absurd h.norm h.lt.ne'

/-- **Ray clipping.** A ray that is nowhere inside of the disc before its end is left as it is.
Another one keeps its direction and ends where it first is inside; of the outer boundary, where it
last is, if that is nearer than its end. With `keep_tangential` the ray is not longer than before
and does not end inside. -/
theorem obstruct_clips (d : Disc) (ray : Vector2D)
    (hout : d.radius ≤ ‖d.location - ray.origin‖) (hnorm : 0 < ray.norm) :
    (d.obstruct ray false false = ray ↔ ¬ ∃ t ∈ d.inside ray, t < ray.norm)
    ∧ ((∃ t ∈ d.inside ray, t < ray.norm) → ∃ entry, IsGLB (d.inside ray) entry
      ∧ Shortened ray (d.obstruct ray false false) entry)
    ∧ ((¬ ∃ t ∈ d.inside ray, t < ray.norm) → d.obstruct ray false true = ray)
    ∧ ((∃ t ∈ d.inside ray, t < ray.norm) → ∃ exit, IsLUB (d.inside ray) exit
      ∧ (exit < ray.norm → Shortened ray (d.obstruct ray false true) exit)
      ∧ (ray.norm ≤ exit → d.obstruct ray false true = ray))
    ∧ (d.obstruct ray true false).norm ≤ ray.norm
    ∧ d.radius ≤ ‖(d.obstruct ray true false).endpoint - d.location‖ := by
  have hv : ray.vector ≠ 0 := by
    rw [← norm_pos_iff, ← ray.norm_eq]
    exact hnorm
  have hbout : (d.ball ray.origin).radius ≤ ‖(d.ball ray.origin).center‖ := hout
  have heq := fun outer => obstruct_eq d ray false outer hout hv
  -- around the origin of the ray, the disc is a ball that does not contain zero
  have hhit := exists_hit_lt_iff hv hbout ray.norm
  rw [← inside_eq_hits] at hhit
  rw [heq, heq, hhit, if_neg Bool.false_ne_true, if_neg Bool.false_ne_true]
  set b := d.ball ray.origin with hb
  have hentry : d.stop false ray = b.entry ray.vector := rfl
  have hexit : d.stop true ray = b.exit ray.vector := rfl
  rw [hentry, hexit]
  have hshort : ∀ h : b.Crossed ray.vector ∧ b.entry ray.vector < ray.norm,
      Shortened ray (ray.setNorm (b.entry ray.vector)) (b.entry ray.vector) :=
    fun h => shortened_setNorm (h.1.entry_nonneg hv hbout) h.2
  refine ⟨⟨fun h hblocked => ?_, fun h => if_neg h⟩, fun h => ?_, fun h => ?_, fun h => ?_, ?_⟩
  · rw [if_pos hblocked] at h
    exact (hshort hblocked).ne h
  · rw [if_pos h]
    refine ⟨_, ?_, hshort h⟩
    rw [inside_eq_hits]
    exact h.1.isGLB_hits hv hbout
  · rw [if_neg (fun hleft => h ⟨hleft.1, hleft.1.entry_lt_exit.trans hleft.2⟩)]
  · refine ⟨b.exit ray.vector, ?_, fun hlt => ?_, fun hle => ?_⟩
    · rw [inside_eq_hits]
      exact h.1.isLUB_hits hv hbout
    · rw [if_pos ⟨h.1, hlt⟩]
      exact shortened_setNorm
        ((h.1.entry_nonneg hv hbout).trans h.1.entry_lt_exit.le) hlt
    · rw [if_neg (fun hleft => absurd hleft.2 (not_lt.mpr hle))]
  · -- `keep_tangential`: the ray slides along the disc
    have hdeflect := obstruct_vector d ray hout
    constructor
    · rw [Vector2D.norm_eq, ray.norm_eq, hdeflect]
      exact norm_deflect_le hbout
    · have hend : (d.obstruct ray true false).endpoint - d.location
          = deflect ray.vector b - b.center := by
        unfold Vector2D.endpoint
        rw [obstruct_origin, hdeflect]
        show _ = _ - (d.location - ray.origin)
        ring
      rw [hend]
      by_cases h : b.Blocks ray.vector
      · rw [deflect_of_blocks h]
        exact h.radius_le_norm_slide_sub hbout
      · rw [deflect_of_not_blocks h]
        by_contra hlt
        exact h (blocks_of_norm_sub_lt hbout (not_le.mp hlt))

theorem obstruct_clips_ahead :
    (Disc.obstruct ⟨5, 1⟩ (.ofVector 0 10) true false).norm ≤ (Vector2D.ofVector 0 10).norm :=
  (obstruct_clips ⟨5, 1⟩ (.ofVector 0 10) (by simp) (by simp [Vector2D.norm,
    Vector2D.ofVector])).2.2.2.2.1

end Mate
