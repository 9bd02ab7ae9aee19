import Mate.Library.Ball

set_option autoImplicit false

/-! # The part of a half line that is inside a ball

The half line of `v` from the origin is inside a ball at the distances `Ball.hits`. For an origin
outside of the ball these are the distances between `Ball.entry` and `Ball.exit`
(`mem_hits_iff`), which depend on the direction of `v` only; a step runs into the ball before its
end when one of them is below its length (`blocks_iff`).
-/

namespace Ball

variable {E : Type*} [NormedAddCommGroup E] [InnerProductSpace ℝ E]

/-- The distance at which the line of the step leaves the ball. -/
noncomputable def exit (b : Ball E) (v : E) : ℝ := b.along v + b.chord v

/-- The distances at which the half line of the step is inside the ball. -/
def hits (b : Ball E) (v : E) : Set ℝ := {t | 0 ≤ t ∧ ‖t • direction v - b.center‖ < b.radius}

/-- The half line of the step runs through the ball. -/
def Crossed (b : Ball E) (v : E) : Prop := 0 ≤ b.along v ∧ b.offset v < b.radius

/-- The half line of the step touches the sphere. -/
def Tangent (b : Ball E) (v : E) : Prop := 0 ≤ b.along v ∧ b.offset v = b.radius

variable {b : Ball E} {v : E}

theorem inner_nonneg_iff (b : Ball E) (hv : v ≠ 0) : 0 ≤ inner ℝ b.center v ↔ 0 ≤ b.along v := by
  have hpos : 0 < ‖v‖ := norm_pos_iff.mpr hv
  rw [along, le_div_iff₀ hpos, zero_mul]

theorem chord_pos (h : b.offset v < b.radius) : 0 < b.chord v := by
  unfold chord
  apply Real.sqrt_pos.mpr
  have := pow_lt_pow_left₀ h (b.offset_nonneg v) two_ne_zero
  linarith

/-- Inside of the ball the line is less than half a chord from its middle. -/
theorem norm_sub_lt_iff (hv : v ≠ 0) (hr : 0 ≤ b.radius) (t : ℝ) :
    ‖t • direction v - b.center‖ < b.radius ↔
      b.offset v < b.radius ∧ |t - b.along v| < b.chord v := by
  have hpyth := norm_smul_direction_sub_sq b hv t
  rw [← sq_lt_sq₀ (norm_nonneg _) hr, hpyth]
  constructor
  · intro h
    have hoff : b.offset v < b.radius := by
      apply (sq_lt_sq₀ (b.offset_nonneg v) hr).mp
      nlinarith [sq_nonneg (t - b.along v)]
    refine ⟨hoff, abs_lt_of_sq_lt_sq ?_ (b.chord_nonneg v)⟩
    rw [chord_sq hoff]
    linarith
  · rintro ⟨hoff, habs⟩
    have hsq := sq_lt_sq' (abs_lt.mp habs).1 (abs_lt.mp habs).2
    rw [chord_sq hoff] at hsq
    linarith

/-- From outside of the ball, half a chord does not reach back to the origin. -/
theorem chord_le_abs_along (hv : v ≠ 0) (hb : b.radius ≤ ‖b.center‖) (h : b.offset v < b.radius) :
    b.chord v ≤ |b.along v| := by
  have hr : 0 ≤ b.radius := (b.offset_nonneg v).trans h.le
  apply (sq_le_sq₀ (b.chord_nonneg v) (abs_nonneg _)).mp
  rw [sq_abs, chord_sq h, offset_sq b hv]
  have := pow_le_pow_left₀ hr hb 2
  linarith

theorem Crossed.entry_nonneg (h : b.Crossed v) (hv : v ≠ 0) (hb : b.radius ≤ ‖b.center‖) :
    0 ≤ b.entry v := by
  have hle := chord_le_abs_along hv hb h.2
  rw [abs_of_nonneg h.1] at hle
  exact sub_nonneg.mpr hle

theorem Crossed.entry_pos (h : b.Crossed v) (hv : v ≠ 0) (hb : b.radius < ‖b.center‖) :
    0 < b.entry v := by
  have hr : 0 ≤ b.radius := (b.offset_nonneg v).trans h.2.le
  have hlt : b.chord v < b.along v := by
    apply (sq_lt_sq₀ (b.chord_nonneg v) h.1).mp
    rw [chord_sq h.2, offset_sq b hv]
    have := pow_lt_pow_left₀ hb hr two_ne_zero
    linarith
  exact sub_pos.mpr hlt

theorem Crossed.entry_lt_exit (h : b.Crossed v) : b.entry v < b.exit v := by
  have := chord_pos h.2
  unfold entry exit
  linarith

/-- **The half line is inside the ball from the entry to the exit.** -/
theorem mem_hits_iff (hv : v ≠ 0) (hb : b.radius ≤ ‖b.center‖) (t : ℝ) :
    t ∈ b.hits v ↔ b.Crossed v ∧ b.entry v < t ∧ t < b.exit v := by
  constructor
  · rintro ⟨ht, hinside⟩
    have hr : 0 ≤ b.radius := (norm_nonneg _).trans hinside.le
    obtain ⟨hoff, habs⟩ := (norm_sub_lt_iff hv hr t).mp hinside
    obtain ⟨hentry, hexit⟩ := abs_lt.mp habs
    have halong : 0 ≤ b.along v := by
      by_contra hneg
      -- behind the origin the line leaves the ball before it comes to the origin
      have hle := chord_le_abs_along hv hb hoff
      rw [abs_of_neg (not_le.mp hneg)] at hle
      linarith
    refine ⟨⟨halong, hoff⟩, ?_, ?_⟩
    · unfold entry
      linarith
    · unfold exit
      linarith
  · rintro ⟨h, hentry, hexit⟩
    have hr : 0 ≤ b.radius := (b.offset_nonneg v).trans h.2.le
    refine ⟨(h.entry_nonneg hv hb).trans hentry.le, (norm_sub_lt_iff hv hr t).mpr ⟨h.2, ?_⟩⟩
    unfold entry at hentry
    unfold exit at hexit
    rw [abs_lt]
    constructor <;> linarith

theorem hits_eq_Ioo (hv : v ≠ 0) (hb : b.radius ≤ ‖b.center‖) (h : b.Crossed v) :
    b.hits v = Set.Ioo (b.entry v) (b.exit v) := by
  ext t
  rw [mem_hits_iff hv hb]
  exact ⟨And.right, fun ht => ⟨h, ht⟩⟩

/-- The entry is the first point inside. -/
theorem Crossed.isGLB_hits (h : b.Crossed v) (hv : v ≠ 0) (hb : b.radius ≤ ‖b.center‖) :
    IsGLB (b.hits v) (b.entry v) := by
  rw [hits_eq_Ioo hv hb h]
  exact isGLB_Ioo h.entry_lt_exit

/-- The exit is the last point inside. -/
theorem Crossed.isLUB_hits (h : b.Crossed v) (hv : v ≠ 0) (hb : b.radius ≤ ‖b.center‖) :
    IsLUB (b.hits v) (b.exit v) := by
  rw [hits_eq_Ioo hv hb h]
  exact isLUB_Ioo h.entry_lt_exit

/-- Below a length the half line is inside when the entry is below that length. -/
theorem exists_hit_lt_iff (hv : v ≠ 0) (hb : b.radius ≤ ‖b.center‖) (s : ℝ) :
    (∃ t ∈ b.hits v, t < s) ↔ b.Crossed v ∧ b.entry v < s := by
  constructor
  · rintro ⟨t, ht, hts⟩
    obtain ⟨h, hentry, -⟩ := (mem_hits_iff hv hb t).mp ht
    exact ⟨h, hentry.trans hts⟩
  · rintro ⟨h, hlt⟩
    obtain ⟨t, hentry, ht⟩ := exists_between (lt_min hlt h.entry_lt_exit)
    obtain ⟨hts, hexit⟩ := lt_min_iff.mp ht
    exact ⟨t, (mem_hits_iff hv hb t).mpr ⟨h, hentry, hexit⟩, hts⟩

/-- A step runs into a ball when it is inside before its end. -/
theorem blocks_iff (hv : v ≠ 0) : b.Blocks v ↔ b.Crossed v ∧ b.entry v < ‖v‖ := by
  unfold Blocks Crossed
  rw [inner_nonneg_iff b hv, and_assoc]

/-! ## The foot of the center -/

/-- The segment of the step touches the sphere, and is nowhere inside of it. -/
def Touches (b : Ball E) (v : E) : Prop :=
  (∃ t ∈ Set.Icc (0 : ℝ) 1, ‖t • v - b.center‖ = b.radius) ∧
    ∀ t ∈ Set.Icc (0 : ℝ) 1, b.radius ≤ ‖t • v - b.center‖

/-- The foot of the center is at the distance of the line. -/
theorem norm_along_smul_direction_sub (b : Ball E) (hv : v ≠ 0) :
    ‖b.along v • direction v - b.center‖ = b.offset v := by
  have hsq := norm_smul_direction_sub_sq b hv (b.along v)
  rw [sub_self, zero_pow two_ne_zero, zero_add] at hsq
  exact (sq_eq_sq₀ (norm_nonneg _) (b.offset_nonneg v)).mp hsq

theorem div_norm_smul (v : E) (t : ℝ) : (t / ‖v‖) • v = t • direction v := by
  rw [direction, smul_smul, div_eq_mul_inv]

/-- A line at the distance of the radius touches the sphere, if the foot is on the segment. -/
theorem touches_of_offset_eq (hv : v ≠ 0) (h : b.offset v = b.radius) (h0 : 0 ≤ b.along v)
    (h1 : b.along v ≤ ‖v‖) : b.Touches v := by
  have hpos : 0 < ‖v‖ := norm_pos_iff.mpr hv
  refine ⟨⟨b.along v / ‖v‖, ⟨div_nonneg h0 hpos.le, (div_le_one hpos).mpr h1⟩, ?_⟩, fun t _ => ?_⟩
  · rw [div_norm_smul, norm_along_smul_direction_sub b hv, h]
  · have hsq := norm_smul_direction_sub_sq b hv (t * ‖v‖)
    rw [← div_norm_smul, mul_div_cancel_right₀ t hpos.ne'] at hsq
    apply (sq_le_sq₀ (h ▸ b.offset_nonneg v) (norm_nonneg _)).mp
    rw [hsq, h]
    exact le_add_of_nonneg_left (sq_nonneg _)

/-- A step from one point outside of the ball to another one runs into it when the foot of the center
is between them, and is inside. -/
theorem blocks_iff_foot (hv : v ≠ 0) (hb : b.radius < ‖b.center‖)
    (hend : b.radius < ‖v - b.center‖) :
    b.Blocks v ↔ 0 < b.along v ∧ b.along v < ‖v‖ ∧ b.offset v < b.radius := by
  rw [blocks_iff hv]
  constructor
  · rintro ⟨⟨halong, hoff⟩, hentry⟩
    have hpos : 0 < b.entry v := Crossed.entry_pos ⟨halong, hoff⟩ hv hb
    have hr : 0 ≤ b.radius := (b.offset_nonneg v).trans hoff.le
    have hchord := b.chord_nonneg v
    rw [entry] at hpos hentry
    refine ⟨by linarith, ?_, hoff⟩
    -- otherwise the end of the step is inside as well
    by_contra hle
    have hinside : ‖‖v‖ • direction v - b.center‖ < b.radius := by
      rw [norm_sub_lt_iff hv hr]
      refine ⟨hoff, abs_lt.mpr ⟨?_, ?_⟩⟩
      · linarith
      · linarith [chord_pos hoff]
    rw [norm_smul_direction] at hinside
    exact absurd hinside (not_lt.mpr hend.le)
  · rintro ⟨halong, hlt, hoff⟩
    have hchord := b.chord_nonneg v
    refine ⟨⟨halong.le, hoff⟩, ?_⟩
    rw [entry]
    linarith

/-! ## Directions -/

theorem along_smul (b : Ball E) (v : E) {c : ℝ} (hc : 0 < c) : b.along (c • v) = b.along v := by
  unfold along
  rw [real_inner_smul_right, norm_smul, Real.norm_of_nonneg hc.le, mul_div_mul_left _ _ hc.ne']

theorem offset_smul (b : Ball E) (v : E) {c : ℝ} (hc : 0 < c) : b.offset (c • v) = b.offset v := by
  unfold offset
  rw [along_smul b v hc]

theorem entry_smul (b : Ball E) (v : E) {c : ℝ} (hc : 0 < c) : b.entry (c • v) = b.entry v := by
  unfold entry chord
  rw [along_smul b v hc, offset_smul b v hc]

theorem crossed_smul (b : Ball E) (v : E) {c : ℝ} (hc : 0 < c) :
    b.Crossed (c • v) ↔ b.Crossed v := by
  unfold Crossed
  rw [along_smul b v hc, offset_smul b v hc]

/-- The entry is no nearer than the nearest point of the ball. -/
theorem Crossed.norm_center_le (h : b.Crossed v) (hv : v ≠ 0) (hb : b.radius ≤ ‖b.center‖) :
    ‖b.center‖ ≤ b.entry v + b.radius := by
  have hpos : 0 < ‖v‖ := norm_pos_iff.mpr hv
  apply le_of_forall_pos_lt_add
  intro ε hε
  -- the half line cut a little behind the entry
  have hlength : 0 < b.entry v + ε := add_pos_of_nonneg_of_pos (h.entry_nonneg hv hb) hε
  have hc : 0 < (b.entry v + ε) / ‖v‖ := div_pos hlength hpos
  have hnorm : ‖((b.entry v + ε) / ‖v‖) • v‖ = b.entry v + ε := by
    rw [norm_smul, Real.norm_of_nonneg hc.le, div_mul_cancel₀ _ hpos.ne']
  have hblocks : b.Blocks (((b.entry v + ε) / ‖v‖) • v) := by
    apply (blocks_iff (smul_ne_zero hc.ne' hv)).mpr
    rw [crossed_smul b v hc, entry_smul b v hc, hnorm]
    exact ⟨h, by linarith⟩
  have := hblocks.norm_center_lt hb
  rw [hnorm] at this
  linarith

end Ball
