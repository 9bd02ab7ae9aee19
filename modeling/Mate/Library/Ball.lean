import Mate.Library.Numerals
import Mathlib.Analysis.InnerProductSpace.Basic
import Mathlib.Tactic

set_option autoImplicit false

/-! # A step from the origin deflected by balls

A step is a vector `v` of a real inner product space, taken from the origin. A ball the step
runs into (`Ball.Blocks`) stops it at the first point of the ball it meets, at the distance
`Ball.entry`, and lets it continue along the tangent there (`Ball.slide`).

The main results are about a finite family of balls whose gaps are at least the length of the
step. At most one of them blocks the step, no other one blocks the step that is deflected by
it (`Ball.Blocks.not_blocks_slide`), and so the step deflected by all of them, in any order,
is the same (`Ball.deflectAll_perm`), is no longer than the original one and ends outside every
ball (`Ball.norm_deflectAll_le`, `Ball.radius_le_deflectAll`).

A ball that contains the origin turns the step around. Without any bound on the gaps, balls that
are out of the reach of the step may be left out (`Ball.turnAll_filter`).
-/

/-- A ball of a normed space. The radius may be negative; the ball is then empty. -/
structure Ball (E : Type*) where
  center : E
  radius : ℝ

namespace Ball

variable {E : Type*} [NormedAddCommGroup E] [InnerProductSpace ℝ E]

/-! ## The line of the step and the ball -/

/-- The direction of a step. -/
noncomputable def direction (v : E) : E := ‖v‖⁻¹ • v

/-- How far along the step the center is. -/
noncomputable def along (b : Ball E) (v : E) : ℝ := inner ℝ b.center v / ‖v‖

/-- The distance of the center from the line of the step. -/
noncomputable def offset (b : Ball E) (v : E) : ℝ := √(‖b.center‖ ^ 2 - b.along v ^ 2)

/-- Half the length of the chord the ball cuts out of the line of the step. -/
noncomputable def chord (b : Ball E) (v : E) : ℝ := √(b.radius ^ 2 - b.offset v ^ 2)

/-- The distance at which the line of the step enters the ball. -/
noncomputable def entry (b : Ball E) (v : E) : ℝ := b.along v - b.chord v

/-- The point at which the line of the step enters the ball. -/
noncomputable def entryPoint (b : Ball E) (v : E) : E := b.entry v • direction v

/-- The step runs into the ball before its end. -/
def Blocks (b : Ball E) (v : E) : Prop :=
  0 ≤ inner ℝ b.center v ∧ b.offset v < b.radius ∧ b.entry v < ‖v‖

/-- The step stopped at the entry point and continued along the tangent of the ball there. -/
noncomputable def slide (b : Ball E) (v : E) : E :=
  v + ((‖v‖ - b.entry v) * b.chord v / b.radius ^ 2) • (b.entryPoint v - b.center)

variable {b b' : Ball E} {v : E}

theorem norm_direction (hv : v ≠ 0) : ‖direction v‖ = 1 := by
  rw [direction, norm_smul, norm_inv, norm_norm]
  exact inv_mul_cancel₀ (norm_ne_zero_iff.mpr hv)

theorem norm_smul_direction (v : E) : ‖v‖ • direction v = v := by
  by_cases hv : v = 0
  · simp [hv, direction]
  · rw [direction, smul_smul, mul_inv_cancel₀ (norm_ne_zero_iff.mpr hv), one_smul]

theorem inner_direction (b : Ball E) (v : E) : inner ℝ b.center (direction v) = b.along v := by
  rw [direction, real_inner_smul_right, along]
  ring

theorem along_sq_le (b : Ball E) (hv : v ≠ 0) : b.along v ^ 2 ≤ ‖b.center‖ ^ 2 := by
  have h := abs_real_inner_le_norm b.center (direction v)
  rw [norm_direction hv, mul_one, inner_direction] at h
  rw [← sq_abs (b.along v)]
  exact pow_le_pow_left₀ (abs_nonneg _) h 2

theorem offset_nonneg (b : Ball E) (v : E) : 0 ≤ b.offset v := Real.sqrt_nonneg _

theorem chord_nonneg (b : Ball E) (v : E) : 0 ≤ b.chord v := Real.sqrt_nonneg _

theorem offset_sq (b : Ball E) (hv : v ≠ 0) :
    b.offset v ^ 2 = ‖b.center‖ ^ 2 - b.along v ^ 2 :=
  Real.sq_sqrt (sub_nonneg.mpr (b.along_sq_le hv))

theorem chord_sq (h : b.offset v < b.radius) :
    b.chord v ^ 2 = b.radius ^ 2 - b.offset v ^ 2 :=
  Real.sq_sqrt (sub_nonneg.mpr (pow_le_pow_left₀ (b.offset_nonneg v) h.le 2))

/-- Pythagoras: the distance of a point of the line of the step from the center. -/
theorem norm_smul_direction_sub_sq (b : Ball E) (hv : v ≠ 0) (t : ℝ) :
    ‖t • direction v - b.center‖ ^ 2 = (t - b.along v) ^ 2 + b.offset v ^ 2 := by
  rw [norm_sub_sq_real, norm_smul, norm_direction hv, real_inner_smul_left,
    real_inner_comm, inner_direction, offset_sq b hv, Real.norm_eq_abs, mul_one, sq_abs]
  ring

/-! ## A step that is blocked -/

theorem Blocks.ne_zero (h : b.Blocks v) (hb : b.radius ≤ ‖b.center‖) : v ≠ 0 := by
  rintro rfl
  -- for `v = 0` the projection is `0 / 0 = 0`, so the offset is the distance of the center
  have : b.offset (0 : E) = ‖b.center‖ := by simp [offset, along]
  have := h.2.1
  linarith

theorem Blocks.radius_pos (h : b.Blocks v) : 0 < b.radius :=
  lt_of_le_of_lt (b.offset_nonneg v) h.2.1

theorem Blocks.entry_nonneg (h : b.Blocks v) (hb : b.radius ≤ ‖b.center‖) : 0 ≤ b.entry v := by
  have hv := h.ne_zero hb
  have halong : 0 ≤ b.along v := div_nonneg h.1 (norm_nonneg v)
  have hsq : b.chord v ^ 2 ≤ b.along v ^ 2 := by
    rw [chord_sq h.2.1, offset_sq b hv]
    have := pow_le_pow_left₀ h.radius_pos.le hb 2
    linarith
  exact sub_nonneg.mpr ((sq_le_sq₀ (b.chord_nonneg v) halong).mp hsq)

/-- The entry point is on the sphere. -/
theorem Blocks.norm_entryPoint_sub (h : b.Blocks v) (hb : b.radius ≤ ‖b.center‖) :
    ‖b.entryPoint v - b.center‖ = b.radius := by
  have hsq : ‖b.entryPoint v - b.center‖ ^ 2 = b.radius ^ 2 := by
    rw [entryPoint, norm_smul_direction_sub_sq b (h.ne_zero hb), entry, sub_sub_cancel_left,
      neg_sq, chord_sq h.2.1, sub_add_cancel]
  exact (sq_eq_sq₀ (norm_nonneg _) h.radius_pos.le).mp hsq

theorem Blocks.norm_entryPoint (h : b.Blocks v) (hb : b.radius ≤ ‖b.center‖) :
    ‖b.entryPoint v‖ = b.entry v := by
  rw [entryPoint, norm_smul, norm_direction (h.ne_zero hb), mul_one, Real.norm_eq_abs,
    abs_of_nonneg (h.entry_nonneg hb)]

/-- A ball that blocks the step is within its reach. -/
theorem Blocks.norm_center_lt (h : b.Blocks v) (hb : b.radius ≤ ‖b.center‖) :
    ‖b.center‖ < ‖v‖ + b.radius := by
  calc ‖b.center‖
      ≤ ‖b.entryPoint v‖ + ‖b.center - b.entryPoint v‖ := norm_le_insert' _ _
    _ = b.entry v + b.radius := by
        rw [h.norm_entryPoint hb, norm_sub_rev, h.norm_entryPoint_sub hb]
    _ < ‖v‖ + b.radius := add_lt_add_left h.2.2 _

/-- The tangential part of the direction of the step at the entry point. -/
private noncomputable def tangent (b : Ball E) (v : E) : E :=
  direction v + (b.chord v / b.radius ^ 2) • (b.entryPoint v - b.center)

/-- The direction of the step and the outward normal at the entry point. -/
private theorem inner_direction_normal (b : Ball E) (hv : v ≠ 0) :
    inner ℝ (direction v) (b.entryPoint v - b.center) = -b.chord v := by
  rw [inner_sub_right, entryPoint, real_inner_smul_right, real_inner_self_eq_norm_sq,
    norm_direction hv, real_inner_comm, inner_direction, entry]
  ring

private theorem Blocks.inner_tangent_normal (h : b.Blocks v) (hb : b.radius ≤ ‖b.center‖) :
    inner ℝ (b.tangent v) (b.entryPoint v - b.center) = 0 := by
  have hr := h.radius_pos.ne'
  rw [tangent, inner_add_left, inner_direction_normal b (h.ne_zero hb), real_inner_smul_left,
    real_inner_self_eq_norm_sq, h.norm_entryPoint_sub hb]
  field_simp
  ring

private theorem Blocks.norm_tangent_le (h : b.Blocks v) (hb : b.radius ≤ ‖b.center‖) :
    ‖b.tangent v‖ ≤ 1 := by
  have hr := h.radius_pos.ne'
  have hsq : ‖b.tangent v‖ ^ 2 = 1 - b.chord v ^ 2 / b.radius ^ 2 := by
    rw [tangent, norm_add_sq_real, norm_direction (h.ne_zero hb), real_inner_smul_right,
      inner_direction_normal b (h.ne_zero hb), norm_smul, h.norm_entryPoint_sub hb, mul_pow,
      Real.norm_eq_abs, sq_abs]
    field_simp
    ring
  have : ‖b.tangent v‖ ^ 2 ≤ 1 ^ 2 := by
    rw [hsq, one_pow]
    have : 0 ≤ b.chord v ^ 2 / b.radius ^ 2 := by positivity
    linarith
  exact (sq_le_sq₀ (norm_nonneg _) zero_le_one).mp this

private theorem slide_eq (b : Ball E) (v : E) :
    b.slide v = b.entryPoint v + (‖v‖ - b.entry v) • b.tangent v := by
  have hv : v = b.entryPoint v + (‖v‖ - b.entry v) • direction v := by
    rw [entryPoint, ← add_smul, add_sub_cancel, norm_smul_direction]
  rw [slide, tangent, smul_add, smul_smul, ← add_assoc, mul_div_assoc, ← hv]

/-- The tangential part of a deflected step is no longer than what the ball cut off. -/
theorem Blocks.norm_slide_sub_entryPoint_le (h : b.Blocks v) (hb : b.radius ≤ ‖b.center‖) :
    ‖b.slide v - b.entryPoint v‖ ≤ ‖v‖ - b.entry v := by
  have hm : 0 ≤ ‖v‖ - b.entry v := (sub_pos.mpr h.2.2).le
  rw [slide_eq, add_sub_cancel_left, norm_smul, Real.norm_eq_abs, abs_of_nonneg hm]
  exact mul_le_of_le_one_right hm (h.norm_tangent_le hb)

/-- A deflected step is no longer than the original one. -/
theorem Blocks.norm_slide_le (h : b.Blocks v) (hb : b.radius ≤ ‖b.center‖) :
    ‖b.slide v‖ ≤ ‖v‖ := by
  calc ‖b.slide v‖
      ≤ ‖b.entryPoint v‖ + ‖b.slide v - b.entryPoint v‖ := norm_le_insert' _ _
    _ ≤ b.entry v + (‖v‖ - b.entry v) :=
        add_le_add (h.norm_entryPoint hb).le (h.norm_slide_sub_entryPoint_le hb)
    _ = ‖v‖ := add_sub_cancel _ _

/-- A deflected step ends outside the ball that deflected it. -/
theorem Blocks.radius_le_norm_slide_sub (h : b.Blocks v) (hb : b.radius ≤ ‖b.center‖) :
    b.radius ≤ ‖b.slide v - b.center‖ := by
  have hsq : b.radius ^ 2 ≤ ‖b.slide v - b.center‖ ^ 2 := by
    rw [slide_eq, add_sub_right_comm, norm_add_sq_real, h.norm_entryPoint_sub hb,
      real_inner_smul_right, real_inner_comm, h.inner_tangent_normal hb]
    nlinarith [sq_nonneg ‖(‖v‖ - b.entry v) • b.tangent v‖]
  exact (sq_le_sq₀ h.radius_pos.le (norm_nonneg _)).mp hsq

/-- A step that ends inside a ball it started outside of is blocked by it. -/
theorem blocks_of_norm_sub_lt (hb : b.radius ≤ ‖b.center‖) (h : ‖v - b.center‖ < b.radius) :
    b.Blocks v := by
  have hr : 0 < b.radius := lt_of_le_of_lt (norm_nonneg _) h
  have hsq : ‖v - b.center‖ ^ 2 < b.radius ^ 2 := pow_lt_pow_left₀ h (norm_nonneg _) two_ne_zero
  have hbsq : b.radius ^ 2 ≤ ‖b.center‖ ^ 2 := pow_le_pow_left₀ hr.le hb 2
  have hv : v ≠ 0 := by
    rintro rfl
    rw [zero_sub, norm_neg] at h
    exact absurd h (not_lt.mpr hb)
  have hinner : 0 ≤ inner ℝ b.center v := by
    rw [norm_sub_sq_real, real_inner_comm] at hsq
    nlinarith [sq_nonneg ‖v‖]
  have hpyth := norm_smul_direction_sub_sq b hv ‖v‖
  rw [norm_smul_direction] at hpyth
  have hoff : b.offset v < b.radius := by
    refine (sq_lt_sq₀ (b.offset_nonneg v) hr.le).mp ?_
    nlinarith [sq_nonneg (‖v‖ - b.along v)]
  refine ⟨hinner, hoff, ?_⟩
  have hchord : (‖v‖ - b.along v) ^ 2 < b.chord v ^ 2 := by
    rw [chord_sq hoff]
    linarith
  have := (abs_lt_of_sq_lt_sq hchord (b.chord_nonneg v))
  rw [entry]
  linarith [(abs_lt.mp this).1]

/-! ## Balls far apart -/

/-- The gap of two balls is at least `s`. -/
def Separated (s : ℝ) (b b' : Ball E) : Prop := b.radius + b'.radius + s ≤ ‖b.center - b'.center‖

omit [InnerProductSpace ℝ E] in
theorem Separated.symm {s : ℝ} (h : Separated s b b') : Separated s b' b := by
  rw [Separated, norm_sub_rev, add_comm b'.radius]
  exact h

instance (s : ℝ) : Std.Symm (Separated s : Ball E → Ball E → Prop) := ⟨fun _ _ h => h.symm⟩

omit [InnerProductSpace ℝ E] in
/-- Points of two separated balls are at least the gap apart. -/
theorem Separated.le_norm_sub {s : ℝ} (h : Separated s b b') {x y : E}
    (hx : ‖x - b.center‖ ≤ b.radius) (hy : ‖y - b'.center‖ ≤ b'.radius) : s ≤ ‖x - y‖ := by
  have htri : ‖b.center - b'.center‖ ≤ ‖x - b.center‖ + ‖x - y‖ + ‖y - b'.center‖ := by
    have heq : b.center - b'.center = -(x - b.center) + (x - y) + (y - b'.center) := by abel
    calc ‖b.center - b'.center‖
        = ‖-(x - b.center) + (x - y) + (y - b'.center)‖ := by rw [← heq]
      _ ≤ ‖-(x - b.center)‖ + ‖x - y‖ + ‖y - b'.center‖ := norm_add₃_le
      _ = ‖x - b.center‖ + ‖x - y‖ + ‖y - b'.center‖ := by rw [norm_neg]
  have := h
  rw [Separated] at this
  linarith

/-- Two balls whose gap is at least the length of the step do not both block it. -/
theorem Blocks.not_blocks {s : ℝ} (h : b.Blocks v) (hb : b.radius ≤ ‖b.center‖)
    (hb' : b'.radius ≤ ‖b'.center‖) (hsep : Separated s b b') (hs : ‖v‖ ≤ s) :
    ¬ b'.Blocks v := by
  intro h'
  have hgap := hsep.le_norm_sub (h.norm_entryPoint_sub hb).le (h'.norm_entryPoint_sub hb').le
  rw [entryPoint, entryPoint, ← sub_smul, norm_smul, norm_direction (h.ne_zero hb), mul_one,
    Real.norm_eq_abs] at hgap
  have hlt : |b.entry v - b'.entry v| < ‖v‖ :=
    abs_lt.mpr ⟨by linarith [h.entry_nonneg hb, h'.2.2], by linarith [h'.entry_nonneg hb', h.2.2]⟩
  linarith

/-- Once deflected by one ball, the step is not blocked by a ball far from it. -/
theorem Blocks.not_blocks_slide {s : ℝ} (h : b.Blocks v) (hb : b.radius ≤ ‖b.center‖)
    (hb' : b'.radius ≤ ‖b'.center‖) (hsep : Separated s b b') (hs : ‖v‖ ≤ s) :
    ¬ b'.Blocks (b.slide v) := by
  intro h'
  have hgap := hsep.le_norm_sub (h.norm_entryPoint_sub hb).le (h'.norm_entryPoint_sub hb').le
  -- the second entry point is the fraction `t < 1` of the deflected step
  set w := b.slide v with hw
  have hw0 : 0 < ‖w‖ := norm_pos_iff.mpr (h'.ne_zero hb')
  set t := b'.entry w / ‖w‖ with ht
  have ht0 : 0 ≤ t := div_nonneg (h'.entry_nonneg hb') hw0.le
  have ht1 : t < 1 := (div_lt_one hw0).mpr h'.2.2
  have hpoint : b'.entryPoint w = t • w := by
    rw [entryPoint, direction, smul_smul, ht, div_eq_mul_inv]
  have hdiff : b.entryPoint v - b'.entryPoint w
      = (1 - t) • b.entryPoint v - t • (w - b.entryPoint v) := by
    rw [hpoint, sub_smul, one_smul, smul_sub]
    abel
  have hle : ‖b.entryPoint v - b'.entryPoint w‖ ≤ (1 - t) * b.entry v + t * (‖v‖ - b.entry v) := by
    calc ‖b.entryPoint v - b'.entryPoint w‖
        ≤ ‖(1 - t) • b.entryPoint v‖ + ‖t • (w - b.entryPoint v)‖ := by
          rw [hdiff]; exact norm_sub_le _ _
      _ = (1 - t) * b.entry v + t * ‖w - b.entryPoint v‖ := by
          rw [norm_smul, norm_smul, h.norm_entryPoint hb, Real.norm_eq_abs, Real.norm_eq_abs,
            abs_of_nonneg (sub_nonneg.mpr ht1.le), abs_of_nonneg ht0]
      _ ≤ (1 - t) * b.entry v + t * (‖v‖ - b.entry v) := by
          gcongr
          exact h.norm_slide_sub_entryPoint_le hb
  have hlt : (1 - t) * b.entry v + t * (‖v‖ - b.entry v) < ‖v‖ := by
    have he0 := h.entry_nonneg hb
    have he1 := h.2.2
    nlinarith [mul_pos (sub_pos.mpr ht1) (sub_pos.mpr he1), mul_nonneg ht0 he0]
  linarith

/-- Once deflected by one ball, the step ends outside a ball far from it. -/
theorem Blocks.radius_le_norm_slide_sub_of_separated {s : ℝ} (h : b.Blocks v)
    (hb : b.radius ≤ ‖b.center‖) (hsep : Separated s b b') (hs : ‖v‖ ≤ s) :
    b'.radius ≤ ‖b.slide v - b'.center‖ := by
  by_contra hlt
  rw [not_le] at hlt
  have he := h.entry_nonneg hb
  have hmid : ‖b.entryPoint v - b'.center‖ < b'.radius + (‖v‖ - b.entry v) := by
    calc ‖b.entryPoint v - b'.center‖
        ≤ ‖b.entryPoint v - b.slide v‖ + ‖b.slide v - b'.center‖ :=
          norm_sub_le_norm_sub_add_norm_sub _ _ _
      _ < (‖v‖ - b.entry v) + b'.radius := by
          rw [norm_sub_rev]
          exact add_lt_add_of_le_of_lt (h.norm_slide_sub_entryPoint_le hb) hlt
      _ = b'.radius + (‖v‖ - b.entry v) := add_comm _ _
  have hcenter : ‖b.center - b'.center‖ ≤ b.radius + ‖b.entryPoint v - b'.center‖ := by
    calc ‖b.center - b'.center‖
        ≤ ‖b.center - b.entryPoint v‖ + ‖b.entryPoint v - b'.center‖ :=
          norm_sub_le_norm_sub_add_norm_sub _ _ _
      _ = b.radius + ‖b.entryPoint v - b'.center‖ := by
          rw [norm_sub_rev, h.norm_entryPoint_sub hb]
  rw [Separated] at hsep
  linarith

/-! ## Many balls -/

open Classical in
/-- The step after one ball: it slides along the ball if the ball blocks it. -/
noncomputable def deflect (v : E) (b : Ball E) : E := if b.Blocks v then b.slide v else v

/-- The step after the balls of a list, one after the other. -/
noncomputable def deflectAll (v : E) (l : List (Ball E)) : E := l.foldl deflect v

theorem deflect_of_blocks (h : b.Blocks v) : deflect v b = b.slide v := by
  rw [deflect, if_pos h]

theorem deflect_of_not_blocks (h : ¬ b.Blocks v) : deflect v b = v := by
  rw [deflect, if_neg h]

theorem deflectAll_cons (v : E) (b : Ball E) (l : List (Ball E)) :
    deflectAll v (b :: l) = deflectAll (deflect v b) l := rfl

/-- Balls that do not block the step leave it alone. -/
theorem deflectAll_of_not_blocks (l : List (Ball E)) (h : ∀ b ∈ l, ¬ b.Blocks v) :
    deflectAll v l = v := by
  induction l with
  | nil => rfl
  | cons b l ih =>
      rw [deflectAll_cons, deflect_of_not_blocks (h b List.mem_cons_self)]
      exact ih (fun b' hb' => h b' (List.mem_cons_of_mem b hb'))

/-- Of balls that are far apart, the one that blocks the step is the only one to deflect it. -/
theorem deflectAll_of_blocks {s : ℝ} (hs : ‖v‖ ≤ s) (l : List (Ball E))
    (hout : ∀ b ∈ l, b.radius ≤ ‖b.center‖) (hsep : l.Pairwise (Separated s))
    (hmem : b ∈ l) (h : b.Blocks v) : deflectAll v l = b.slide v := by
  induction l with
  | nil => cases hmem
  | cons a l ih =>
      obtain ⟨ha, hl⟩ := List.pairwise_cons.mp hsep
      have hout' : ∀ b ∈ l, b.radius ≤ ‖b.center‖ := fun b' hb' => hout b' (List.mem_cons_of_mem a hb')
      have hbout := hout b hmem
      rw [deflectAll_cons]
      rcases List.mem_cons.mp hmem with rfl | hmem'
      · rw [deflect_of_blocks h]
        exact deflectAll_of_not_blocks l
          (fun b' hb' => h.not_blocks_slide hbout (hout' b' hb') (ha b' hb') hs)
      · have hna : ¬ a.Blocks v :=
          h.not_blocks hbout (hout a List.mem_cons_self) (ha b hmem').symm hs
        rw [deflect_of_not_blocks hna]
        exact ih hout' hl hmem'

/-- Deflecting never makes a step longer. -/
theorem norm_deflectAll_le {s : ℝ} (hs : ‖v‖ ≤ s) (l : List (Ball E))
    (hout : ∀ b ∈ l, b.radius ≤ ‖b.center‖) (hsep : l.Pairwise (Separated s)) :
    ‖deflectAll v l‖ ≤ ‖v‖ := by
  by_cases h : ∃ b ∈ l, b.Blocks v
  · obtain ⟨b, hmem, hb⟩ := h
    rw [deflectAll_of_blocks hs l hout hsep hmem hb]
    exact hb.norm_slide_le (hout b hmem)
  · rw [deflectAll_of_not_blocks l (fun b hmem hb => h ⟨b, hmem, hb⟩)]

/-- A step deflected by balls that are far apart ends outside all of them. -/
theorem radius_le_deflectAll {s : ℝ} (hs : ‖v‖ ≤ s) (l : List (Ball E))
    (hout : ∀ b ∈ l, b.radius ≤ ‖b.center‖) (hsep : l.Pairwise (Separated s)) (hmem : b ∈ l) :
    b.radius ≤ ‖deflectAll v l - b.center‖ := by
  by_cases h : ∃ a ∈ l, a.Blocks v
  · obtain ⟨a, ha, hblocks⟩ := h
    rw [deflectAll_of_blocks hs l hout hsep ha hblocks]
    by_cases hab : a = b
    · subst hab
      exact hblocks.radius_le_norm_slide_sub (hout a ha)
    · have hsab : Separated s a b := hsep.forall ha hmem hab
      exact hblocks.radius_le_norm_slide_sub_of_separated (hout a ha) hsab hs
  · rw [deflectAll_of_not_blocks l (fun a ha hb => h ⟨a, ha, hb⟩)]
    by_contra hlt
    exact h ⟨b, hmem, blocks_of_norm_sub_lt (hout b hmem) (not_le.mp hlt)⟩

/-- The first ball that changes the step is one that blocks the original step. -/
theorem blocks_of_deflectAll_take_ne {s : ℝ} (hs : ‖v‖ ≤ s) (l : List (Ball E))
    (hout : ∀ b ∈ l, b.radius ≤ ‖b.center‖) (hsep : l.Pairwise (Separated s)) {i : ℕ}
    (hi : deflectAll v (l.take (i + 1)) ≠ deflectAll v (l.take i)) :
    ∃ h : i < l.length, (l[i]).Blocks v := by
  have hlt : i < l.length := by
    by_contra hge
    rw [List.take_of_length_le (by omega), List.take_of_length_le (by omega)] at hi
    exact hi rfl
  refine ⟨hlt, ?_⟩
  have hblocks : (l[i]).Blocks (deflectAll v (l.take i)) := by
    by_contra hnot
    rw [List.take_add_one, List.getElem?_eq_getElem hlt, deflectAll, List.foldl_append] at hi
    exact hi (deflect_of_not_blocks hnot)
  by_cases h : ∃ a ∈ l.take i, a.Blocks v
  · -- the ball that slid the step leaves nothing to block for the others
    obtain ⟨a, ha, hav⟩ := h
    have hal : a ∈ l := List.mem_of_mem_take ha
    rw [deflectAll_of_blocks hs _ (fun b hb => hout b (List.mem_of_mem_take hb))
      (hsep.sublist (List.take_sublist i l)) ha hav] at hblocks
    obtain ⟨k, hk, rfl⟩ := List.mem_iff_getElem.mp ha
    have hki : k < i := by
      rw [List.length_take] at hk
      omega
    rw [List.getElem_take] at hav hblocks
    have hsepk := List.pairwise_iff_getElem.mp hsep k i (hki.trans hlt) hlt hki
    exact absurd hblocks (hav.not_blocks_slide (hout _ (List.getElem_mem _))
      (hout _ (List.getElem_mem _)) hsepk hs)
  · rwa [deflectAll_of_not_blocks _ (fun a ha hav => h ⟨a, ha, hav⟩)] at hblocks

/-- At most one of the balls that are far apart changes the step. -/
theorem deflectAll_take_ne_unique {s : ℝ} (hs : ‖v‖ ≤ s) (l : List (Ball E))
    (hout : ∀ b ∈ l, b.radius ≤ ‖b.center‖) (hsep : l.Pairwise (Separated s)) {i j : ℕ}
    (hi : deflectAll v (l.take (i + 1)) ≠ deflectAll v (l.take i))
    (hj : deflectAll v (l.take (j + 1)) ≠ deflectAll v (l.take j)) : i = j := by
  obtain ⟨hil, hbi⟩ := blocks_of_deflectAll_take_ne hs l hout hsep hi
  obtain ⟨hjl, hbj⟩ := blocks_of_deflectAll_take_ne hs l hout hsep hj
  have houti := hout _ (List.getElem_mem hil)
  have houtj := hout _ (List.getElem_mem hjl)
  rcases Nat.lt_trichotomy i j with hlt | heq | hgt
  · have hsepij := List.pairwise_iff_getElem.mp hsep i j hil hjl hlt
    exact absurd hbj (hbi.not_blocks houti houtj hsepij hs)
  · exact heq
  · have hsepji := List.pairwise_iff_getElem.mp hsep j i hjl hil hgt
    exact absurd hbi (hbj.not_blocks houtj houti hsepji hs)

/-- The order of balls that are far apart does not matter. -/
theorem deflectAll_perm {s : ℝ} (hs : ‖v‖ ≤ s) {l l' : List (Ball E)} (hperm : l.Perm l')
    (hout : ∀ b ∈ l, b.radius ≤ ‖b.center‖) (hsep : l.Pairwise (Separated s)) :
    deflectAll v l = deflectAll v l' := by
  have hout' : ∀ b ∈ l', b.radius ≤ ‖b.center‖ := fun b hb => hout b (hperm.mem_iff.mpr hb)
  have hsep' : l'.Pairwise (Separated s) := hperm.pairwise hsep (fun h => h.symm)
  by_cases h : ∃ b ∈ l, b.Blocks v
  · obtain ⟨b, hb, hbv⟩ := h
    rw [deflectAll_of_blocks hs l hout hsep hb hbv,
      deflectAll_of_blocks hs l' hout' hsep' (hperm.mem_iff.mp hb) hbv]
  · rw [deflectAll_of_not_blocks l (fun b hb hbv => h ⟨b, hb, hbv⟩),
      deflectAll_of_not_blocks l' (fun b hb hbv => h ⟨b, hperm.mem_iff.mpr hb, hbv⟩)]

/-! ## Balls that may contain the origin -/

open Classical in
/-- The step after one ball: a ball that contains the origin turns the step around. -/
noncomputable def turn (v : E) (b : Ball E) : E :=
  if ‖b.center‖ < b.radius then -v else deflect v b

/-- The step after the balls of a list, one after the other. -/
noncomputable def turnAll (v : E) (l : List (Ball E)) : E := l.foldl turn v

theorem turn_of_lt (h : ‖b.center‖ < b.radius) : turn v b = -v := by
  rw [turn, if_pos h]

theorem turn_of_le (h : b.radius ≤ ‖b.center‖) : turn v b = deflect v b := by
  rw [turn, if_neg (not_lt.mpr h)]

theorem norm_deflect_le (h : b.radius ≤ ‖b.center‖) : ‖deflect v b‖ ≤ ‖v‖ := by
  by_cases hb : b.Blocks v
  · rw [deflect_of_blocks hb]
    exact hb.norm_slide_le h
  · rw [deflect_of_not_blocks hb]

theorem norm_turn_le (v : E) (b : Ball E) : ‖turn v b‖ ≤ ‖v‖ := by
  by_cases h : ‖b.center‖ < b.radius
  · rw [turn_of_lt h, norm_neg]
  · rw [turn_of_le (not_lt.mp h)]
    exact norm_deflect_le (not_lt.mp h)

/-- A ball that changes the step has a point in its reach. -/
theorem exists_norm_sub_le_of_turn_ne (h : turn v b ≠ v) :
    ∃ p : E, ‖p‖ ≤ ‖v‖ ∧ ‖p - b.center‖ ≤ b.radius := by
  by_cases hb : ‖b.center‖ < b.radius
  · refine ⟨0, ?_, ?_⟩
    · rw [norm_zero]
      exact norm_nonneg v
    · rw [zero_sub, norm_neg]
      exact hb.le
  · have hout := not_lt.mp hb
    rw [turn_of_le hout] at h
    have hblocks : b.Blocks v := by
      by_contra hnot
      exact h (deflect_of_not_blocks hnot)
    exact ⟨b.entryPoint v, (hblocks.norm_entryPoint hout).le.trans hblocks.2.2.le,
      (hblocks.norm_entryPoint_sub hout).le⟩

/-- Balls that are out of the reach of the step may be left out. The balls are the entries of a
table, and `p` tells which of them are kept. -/
theorem turnAll_filter {ι : Type*} {s : ℝ} (table : ι → Option (Ball E)) (p : ι → Bool)
    (order : List ι)
    (hfar : ∀ i ∈ order, p i = false → ∀ b, table i = some b → ∀ q : E, ‖q‖ ≤ s →
      b.radius < ‖q - b.center‖)
    {v : E} (hv : ‖v‖ ≤ s) :
    turnAll v ((order.filter p).filterMap table) = turnAll v (order.filterMap table) := by
  induction order generalizing v with
  | nil => rfl
  | cons i order ih =>
      have hrest := fun j hj => hfar j (List.mem_cons_of_mem i hj)
      have hbound := fun b => (norm_turn_le v b).trans hv
      cases hb : table i with
      | none =>
          rw [List.filterMap_cons_none hb, ← ih hrest hv]
          cases hp : p i with
          | true => rw [List.filter_cons_of_pos hp, List.filterMap_cons_none hb]
          | false => rw [List.filter_cons_of_neg (by simp [hp])]
      | some b =>
          rw [List.filterMap_cons_some hb]
          cases hp : p i with
          | true =>
              rw [List.filter_cons_of_pos hp, List.filterMap_cons_some hb]
              exact ih hrest (hbound b)
          | false =>
              -- a ball that is left out cannot be reached, so that the step does not turn at it
              have hsame : turn v b = v := by
                by_contra hne
                obtain ⟨q, hq, hqb⟩ := exists_norm_sub_le_of_turn_ne hne
                have := hfar i List.mem_cons_self hp b hb q (hq.trans hv)
                linarith
              rw [List.filter_cons_of_neg (by simp [hp])]
              show _ = turnAll (turn v b) _
              rw [hsame]
              exact ih hrest hv

end Ball
