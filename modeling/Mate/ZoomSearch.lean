import Mate.Advertised
import Mate.Agents.GreedyCamera
import Mate.Library.Alternating
import Mate.PoseScores
import Mathlib.Analysis.Calculus.Deriv.MeanValue
import Mathlib.Analysis.SpecialFunctions.Trigonometric.Bounds
import Mate.Entities.Camera
import Mate.Entities.Target

set_option autoImplicit false

/-! # Cameras that track a selection

`HierarchicalCamera` turns a selection of targets into an action: the camera looks at the center of
the targets that it selects and sees, and zooms so that the center stays in its range.
-/

namespace Mate

/-- `camera.action_space.low`. -/
noncomputable def Camera.actionLow (params : CameraConfig) : ℂ :=
  ⟨-((params.rotationStep : ℚ) : ℝ), -((params.zoomingStep : ℚ) : ℝ)⟩

/-- `camera.action_space.high`. -/
noncomputable def Camera.actionHigh (params : CameraConfig) : ℂ :=
  ⟨(params.rotationStep : ℚ), (params.zoomingStep : ℚ)⟩

namespace Rllib

namespace HierarchicalCamera

variable {params : CameraConfig} {targetParams : TargetConfig} {G : Type}

/-- `best_orientation()`. -/
noncomputable def bestOrientation (camera : Camera params G) (center : ℂ) : ℝ :=
  arctan2Deg (center - camera.location)

/-- `best_viewing_angle()`. -/
noncomputable def bestViewingAngle (camera : Camera params G) (center : ℂ) : ℝ :=
  let distance := ‖center - camera.location‖
  let minViewingAngle : ℝ := (params.minViewingAngle : ℚ)
  if (params.maxSightRange : ℚ) ≤ distance * (1 + sinDeg (minViewingAngle / 2)) then
    minViewingAngle
  else
    let areaProduct := camera.viewingAngle * camera.sightRange ^ 2
    let widest := min 180 (MAX_CAMERA_VIEWING_ANGLE : ℝ)
    if distance ≤ √(areaProduct / 180) / 2 then widest
    else
      let best := (fun best =>
        let sightRange := distance * (1 + sinDeg (min (best / 2) 90))
        areaProduct / sightRange ^ 2)^[20] widest
      Camera.clip minViewingAngle MAX_CAMERA_VIEWING_ANGLE best

/-- `track`. -/
noncomputable def track (camera : Camera params G) (targets : List (Target targetParams G)) : ℂ :=
  if targets = [] then Camera.actionLow params
  else
    let center := (targets.map (fun target => target.location)).sum / (targets.length : ℂ)
    let low := Camera.actionLow params
    let high := Camera.actionHigh params
    ⟨Camera.clip low.re high.re
        (normalizeAngle (bestOrientation camera center - camera.orientation)),
      Camera.clip low.im high.im (bestViewingAngle camera center - camera.viewingAngle)⟩

/-- `executor`: the camera tracks the targets that are selected and seen. -/
noncomputable def executor (camera : Camera params G) (targets : List (Target targetParams G))
    (targetSelectionBits targetViewMask : List Bool) : ℂ :=
  let targetBits := List.zipWith (· && ·) targetSelectionBits targetViewMask
  track camera ((targets.zip targetBits).filterMap
    (fun (target, selected) => if selected then some target else none))

end HierarchicalCamera

end Rllib

end Mate

/-! ## The zoom search of a camera

A camera keeps the product of its viewing angle and the square of its range. To look at a point it
wants the viewing angle at which the incircle of its sector is centred there, and it searches that
angle by iterating a decreasing map twenty times from 180 degrees. The search stands in the source
twice. Both guards before it matter: one keeps the iterates in the interval, the other one keeps the
angle above the smallest one.
-/

namespace Mate

open Set Filter Topology

/-! ## A quotient with a sine -/

theorem two_mul_mul_cos_lt {x : ℝ} (h : 0 < x) (h' : x < Real.pi / 2) :
    2 * x * Real.cos x < 1 + Real.sin x := by
  have hcos : 0 < Real.cos x := Real.cos_pos_of_mem_Ioo ⟨by linarith, h'⟩
  have htan := Real.lt_tan h h'
  rw [Real.tan_eq_sin_div_cos, lt_div_iff₀ hcos] at htan
  calc 2 * x * Real.cos x = x * Real.cos x + x * Real.cos x := by ring
    _ < Real.sin x + Real.sin x := add_lt_add htan htan
    _ ≤ 1 + Real.sin x := add_le_add_left (Real.sin_le_one x) _

/-- The trigonometric inequality behind the search. -/
theorem strictMonoOn_div_one_add_sin_sq :
    StrictMonoOn (fun x : ℝ => x / (1 + Real.sin x) ^ 2) (Icc 0 (Real.pi / 2)) := by
  have hpos : ∀ x ∈ Icc 0 (Real.pi / 2), 0 < 1 + Real.sin x := by
    intro x hx
    have hsin := Real.sin_nonneg_of_nonneg_of_le_pi hx.1 (by linarith [hx.2, Real.pi_pos])
    linarith
  refine strictMonoOn_of_deriv_pos (convex_Icc _ _) ?_ (fun x hx => ?_)
  · refine continuousOn_id.div (by fun_prop) (fun x hx => ?_)
    exact pow_ne_zero _ (hpos x hx).ne'
  · rw [interior_Icc] at hx
    have hden := hpos x ⟨hx.1.le, hx.2.le⟩
    have hderiv : HasDerivAt (fun x : ℝ => x / (1 + Real.sin x) ^ 2)
        ((1 + Real.sin x - 2 * x * Real.cos x) / (1 + Real.sin x) ^ 3) x := by
      have hsq := ((Real.hasDerivAt_sin x).const_add 1).pow 2
      refine ((hasDerivAt_id' x).div hsq (pow_ne_zero _ hden.ne')).congr_deriv ?_
      simp only [Pi.pow_apply]
      field_simp
      ring
    rw [hderiv.deriv]
    exact div_pos (by linarith [two_mul_mul_cos_lt hx.1 hx.2]) (pow_pos hden 3)

theorem sinDeg_lt_sinDeg {x y : ℝ} (hx : -90 ≤ x) (hxy : x < y) (hy : y ≤ 90) :
    sinDeg x < sinDeg y := by
  have hpi := Real.pi_pos
  apply Real.sin_lt_sin_of_lt_of_le_pi_div_two (neg_pi_div_two_le_deg2rad hx)
    (deg2rad_le_pi_div_two hy)
  unfold deg2rad
  gcongr

/-- The same for viewing angles. -/
theorem strictMonoOn_div_one_add_sinDeg_sq :
    StrictMonoOn (fun b : ℝ => b / (1 + sinDeg (b / 2)) ^ 2) (Icc 0 180) := by
  have hpi := Real.pi_pos
  have hmem : ∀ b ∈ Icc (0 : ℝ) 180, deg2rad (b / 2) ∈ Icc 0 (Real.pi / 2) := by
    intro b hb
    unfold deg2rad
    constructor
    · exact mul_nonneg (by linarith [hb.1]) (by positivity)
    · calc b / 2 * (Real.pi / 180) ≤ 180 / 2 * (Real.pi / 180) := by gcongr; exact hb.2
        _ = Real.pi / 2 := by ring
  have hscale : ∀ b : ℝ, b / (1 + sinDeg (b / 2)) ^ 2
      = 360 / Real.pi * (deg2rad (b / 2) / (1 + Real.sin (deg2rad (b / 2))) ^ 2) := by
    intro b
    rw [sinDeg, ← mul_div_assoc]
    congr 1
    unfold deg2rad
    field_simp
    ring
  intro b hb b' hb' hlt
  show b / (1 + sinDeg (b / 2)) ^ 2 < b' / (1 + sinDeg (b' / 2)) ^ 2
  have hrad : deg2rad (b / 2) < deg2rad (b' / 2) := by
    unfold deg2rad
    gcongr
  rw [hscale b, hscale b']
  exact mul_lt_mul_of_pos_left
    (strictMonoOn_div_one_add_sin_sq (hmem b hb) (hmem b' hb') hrad) (by positivity)

/-! ## One step -/

/-- The range at which the incircle of a sector with viewing angle `best` is centred at
`distance`, as the loop computes it. -/
noncomputable def requiredRange (distance best : ℝ) : ℝ :=
  distance * (1 + sinDeg (min (best / 2) 90))

/-- The body of the loop. -/
noncomputable def zoomStep (areaProduct distance best : ℝ) : ℝ :=
  areaProduct / requiredRange distance best ^ 2

section

variable {areaProduct distance b b' : ℝ}

theorem requiredRange_of_le (h : b ≤ 180) :
    requiredRange distance b = distance * (1 + sinDeg (b / 2)) := by
  rw [requiredRange, min_eq_left (by linarith)]

theorem requiredRange_of_ge (h : 180 ≤ b) : requiredRange distance b = distance * 2 := by
  rw [requiredRange, min_eq_right (by linarith), sinDeg_90]
  norm_num

theorem lt_requiredRange (hd : 0 < distance) (hb : 0 < b) : distance < requiredRange distance b := by
  have hsin : 0 < sinDeg (min (b / 2) 90) :=
    sinDeg_pos (lt_min (by linarith) (by norm_num)) ((min_le_right _ _).trans_lt (by norm_num))
  unfold requiredRange
  nlinarith

theorem requiredRange_pos (hd : 0 < distance) (hb : 0 < b) : 0 < requiredRange distance b :=
  hd.trans (lt_requiredRange hd hb)

theorem requiredRange_lt (hd : 0 < distance) (hb : 0 < b) (hlt : b < b') (hb' : b' ≤ 180) :
    requiredRange distance b < requiredRange distance b' := by
  rw [requiredRange_of_le (hlt.le.trans hb'), requiredRange_of_le hb']
  have hsin := sinDeg_lt_sinDeg (x := b / 2) (y := b' / 2) (by linarith) (by linarith) (by linarith)
  gcongr

theorem zoomStep_pos (hA : 0 < areaProduct) (hd : 0 < distance) (hb : 0 < b) :
    0 < zoomStep areaProduct distance b :=
  div_pos hA (pow_pos (requiredRange_pos hd hb) 2)

theorem zoomStep_lt (hA : 0 < areaProduct) (hd : 0 < distance) (hb : 0 < b) (hlt : b < b')
    (hb' : b' ≤ 180) : zoomStep areaProduct distance b' < zoomStep areaProduct distance b := by
  have hrange := requiredRange_lt hd hb hlt hb'
  have hpos := requiredRange_pos hd hb
  unfold zoomStep
  gcongr

theorem continuousOn_zoomStep (hd : 0 < distance) :
    ContinuousOn (zoomStep areaProduct distance) (Ioi 0) := by
  refine continuousOn_const.div ?_ (fun b hb => (pow_pos (requiredRange_pos hd hb) 2).ne')
  unfold requiredRange sinDeg deg2rad
  fun_prop

/-- The fixed points of the step are the angles at which the range of the camera is the required
one. -/
theorem zoomStep_eq_iff (hd : 0 < distance) (hb : 0 < b) :
    zoomStep areaProduct distance b = b ↔ √(areaProduct / b) = requiredRange distance b := by
  have hpos := requiredRange_pos hd hb
  rw [zoomStep, div_eq_iff (pow_pos hpos 2).ne', Real.sqrt_eq_iff_mul_self_eq_of_pos hpos,
    eq_div_iff hb.ne']
  constructor
  · intro h
    rw [h]
    ring
  · intro h
    rw [← h]
    ring

/-- After a step the range of the camera is the one that was required before it. -/
theorem sqrt_div_zoomStep (hA : 0 < areaProduct) (hd : 0 < distance) (hb : 0 < b) :
    √(areaProduct / zoomStep areaProduct distance b) = requiredRange distance b := by
  have hpos := requiredRange_pos hd hb
  rw [zoomStep, div_div_cancel₀ hA.ne', Real.sqrt_sq hpos.le]

/-- No two viewing angles are swapped. -/
theorem zoomStep_not_swaps (hA : 0 < areaProduct) (hd : 0 < distance) (hb : 0 < b) (hb' : b ≤ 180)
    (hle : zoomStep areaProduct distance b ≤ 180)
    (h : zoomStep areaProduct distance (zoomStep areaProduct distance b) = b) :
    zoomStep areaProduct distance b = b := by
  have hc := zoomStep_pos hA hd hb
  set c := zoomStep areaProduct distance b with hcdef
  have hrb := requiredRange_pos hd hb
  have hrc := requiredRange_pos hd hc
  have hfirst : areaProduct = c * requiredRange distance b ^ 2 :=
    (div_eq_iff (pow_pos hrb 2).ne').mp hcdef.symm
  have hsecond : areaProduct = b * requiredRange distance c ^ 2 :=
    (div_eq_iff (pow_pos hrc 2).ne').mp h
  refine (strictMonoOn_div_one_add_sinDeg_sq.injOn ⟨hc.le, hle⟩ ⟨hb.le, hb'⟩ ?_)
  show c / (1 + sinDeg (c / 2)) ^ 2 = b / (1 + sinDeg (b / 2)) ^ 2
  rw [requiredRange_of_le hb'] at hfirst hrb
  rw [requiredRange_of_le hle] at hsecond hrc
  have hsb := pos_of_mul_pos_right hrb hd.le
  have hsc := pos_of_mul_pos_right hrc hd.le
  rw [div_eq_div_iff (pow_pos hsc 2).ne' (pow_pos hsb 2).ne']
  have hsame := hfirst.symm.trans hsecond
  rw [mul_pow, mul_pow] at hsame
  have hcancel := mul_left_cancel₀ (pow_pos hd 2).ne'
    (show distance ^ 2 * (c * (1 + sinDeg (b / 2)) ^ 2)
      = distance ^ 2 * (b * (1 + sinDeg (c / 2)) ^ 2) by linarith)
  exact hcancel

end

/-! ## The search -/

/-- What holds when neither guard returns early, for a camera that keeps its area product. -/
structure Searching (areaProduct minViewingAngle maxSightRange distance : ℝ) : Prop where
  maxSightRange_pos : 0 < maxSightRange
  minViewingAngle_pos : 0 < minViewingAngle
  minViewingAngle_le : minViewingAngle ≤ 180
  product : areaProduct = minViewingAngle * maxSightRange ^ 2
  distance_pos : 0 < distance
  far : distance * (1 + sinDeg (minViewingAngle / 2)) < maxSightRange
  near : √(areaProduct / 180) / 2 < distance

namespace Searching

variable {areaProduct minViewingAngle maxSightRange distance b : ℝ}

theorem areaProduct_pos (h : Searching areaProduct minViewingAngle maxSightRange distance) :
    0 < areaProduct := by
  rw [h.product]
  exact mul_pos h.minViewingAngle_pos (pow_pos h.maxSightRange_pos 2)

/-- The first guard: at the smallest viewing angle the range is larger than required. -/
theorem lt_zoomStep_min (h : Searching areaProduct minViewingAngle maxSightRange distance) :
    minViewingAngle < zoomStep areaProduct distance minViewingAngle := by
  have hpos := requiredRange_pos h.distance_pos h.minViewingAngle_pos
  have hfar := h.far
  rw [← requiredRange_of_le h.minViewingAngle_le] at hfar
  rw [zoomStep, lt_div_iff₀ (pow_pos hpos 2), h.product]
  exact mul_lt_mul_of_pos_left (pow_lt_pow_left₀ hfar hpos.le two_ne_zero) h.minViewingAngle_pos

/-- The second guard: at 180 degrees the range is smaller than required. -/
theorem zoomStep_180_lt (h : Searching areaProduct minViewingAngle maxSightRange distance) :
    zoomStep areaProduct distance 180 < 180 := by
  have hd := h.distance_pos
  have hnear : √(areaProduct / 180) < distance * 2 := by linarith [h.near]
  rw [Real.sqrt_lt' (by positivity)] at hnear
  rw [zoomStep, requiredRange_of_ge le_rfl, div_lt_iff₀ (by positivity)]
  linarith

/-- The iterates cannot leave the interval at its upper end. -/
theorem zoomStep_zoomStep_180_lt
    (h : Searching areaProduct minViewingAngle maxSightRange distance) :
    zoomStep areaProduct distance (zoomStep areaProduct distance 180) < 180 := by
  have hd := h.distance_pos
  have hlow := zoomStep_pos h.areaProduct_pos hd (b := 180) (by norm_num)
  have hlt := h.zoomStep_180_lt
  have hrange : areaProduct = zoomStep areaProduct distance 180 * (distance * 2) ^ 2 := by
    rw [zoomStep, requiredRange_of_ge le_rfl, div_mul_cancel₀ _ (by positivity)]
  set q := zoomStep areaProduct distance 180
  have hpos := requiredRange_pos hd hlow
  have hquot := strictMonoOn_div_one_add_sinDeg_sq (a := q) (b := 180) ⟨hlow.le, hlt.le⟩
    ⟨by norm_num, le_rfl⟩ hlt
  have hhalf : (180 : ℝ) / 2 = 90 := by norm_num
  simp only [hhalf, sinDeg_90] at hquot
  rw [requiredRange_of_le hlt.le] at hpos
  have hsin := pos_of_mul_pos_right hpos hd.le
  rw [div_lt_div_iff₀ (pow_pos hsin 2) (by norm_num)] at hquot
  rw [zoomStep, requiredRange_of_le hlt.le, div_lt_iff₀ (pow_pos hpos 2), hrange]
  calc q * (distance * 2) ^ 2 = distance ^ 2 * (q * (1 + 1) ^ 2) := by ring
    _ < distance ^ 2 * (180 * (1 + sinDeg (q / 2)) ^ 2) := by gcongr
    _ = 180 * (distance * (1 + sinDeg (q / 2))) ^ 2 := by ring

theorem swings (h : Searching areaProduct minViewingAngle maxSightRange distance) :
    Alternating.Swings (zoomStep areaProduct distance) (zoomStep areaProduct distance 180) 180 := by
  have hA := h.areaProduct_pos
  have hd := h.distance_pos
  have hlow := zoomStep_pos hA hd (b := 180) (by norm_num)
  have hanti : StrictAntiOn (zoomStep areaProduct distance)
      (Icc (zoomStep areaProduct distance 180) 180) :=
    fun b hb b' hb' hlt => zoomStep_lt hA hd (hlow.trans_le hb.1) hlt hb'.2
  exact
    { le := h.zoomStep_180_lt.le
      anti := hanti
      back := h.zoomStep_zoomStep_180_lt
      mapsTo := fun b hb =>
        ⟨hanti.antitoneOn hb ⟨h.zoomStep_180_lt.le, le_rfl⟩ hb.2,
          (hanti.antitoneOn ⟨le_rfl, h.zoomStep_180_lt.le⟩ hb hb.1).trans
            h.zoomStep_zoomStep_180_lt.le⟩ }

/-- A fixed point lies in the interval. -/
theorem fixed_mem (h : Searching areaProduct minViewingAngle maxSightRange distance) (hb : 0 < b)
    (hfixed : zoomStep areaProduct distance b = b) :
    b ∈ Icc (zoomStep areaProduct distance 180) 180 := by
  rcases le_or_gt b 180 with hle | hgt
  · refine ⟨?_, hle⟩
    rcases hle.eq_or_lt with rfl | hlt
    · exact hfixed.le
    · exact ((zoomStep_lt h.areaProduct_pos h.distance_pos hb hlt le_rfl).trans_eq hfixed).le
  · -- beyond 180 degrees the step is constant
    have hsame : zoomStep areaProduct distance b = zoomStep areaProduct distance 180 := by
      rw [zoomStep, zoomStep, requiredRange_of_ge hgt.le, requiredRange_of_ge le_rfl]
    rw [← hfixed, hsame]
    exact ⟨le_rfl, h.zoomStep_180_lt.le⟩

theorem continuousOn (h : Searching areaProduct minViewingAngle maxSightRange distance) :
    ContinuousOn (zoomStep areaProduct distance)
      (Icc (zoomStep areaProduct distance 180) 180) := by
  have hlow := zoomStep_pos h.areaProduct_pos h.distance_pos (b := 180) (by norm_num)
  exact (continuousOn_zoomStep h.distance_pos).mono (fun b hb => hlow.trans_le hb.1)

theorem not_swaps (h : Searching areaProduct minViewingAngle maxSightRange distance) :
    ∀ b ∈ Icc (zoomStep areaProduct distance 180) 180,
      zoomStep areaProduct distance (zoomStep areaProduct distance b) = b →
        zoomStep areaProduct distance b = b := by
  intro b hb
  have hlow := zoomStep_pos h.areaProduct_pos h.distance_pos (b := 180) (by norm_num)
  exact zoomStep_not_swaps h.areaProduct_pos h.distance_pos (hlow.trans_le hb.1) hb.2
    (h.swings.mapsTo hb).2

theorem exists_fixed (h : Searching areaProduct minViewingAngle maxSightRange distance) :
    ∃ best, 0 < best ∧ best < 180 ∧ minViewingAngle < best
      ∧ ∀ b, 0 < b → (zoomStep areaProduct distance b = b ↔ b = best) := by
  have hd := h.distance_pos
  have hlow := zoomStep_pos h.areaProduct_pos hd (b := 180) (by norm_num)
  obtain ⟨best, hmem, hfixed⟩ := h.swings.exists_fixed h.continuousOn
  have hpos := hlow.trans_le hmem.1
  refine ⟨best, hpos, h.swings.fixed_lt hmem hfixed, ?_, fun b hb => ⟨fun hfb => ?_, ?_⟩⟩
  · by_contra hnot
    have hle : best ≤ minViewingAngle := not_lt.mp hnot
    have hstep : zoomStep areaProduct distance minViewingAngle ≤ best := by
      rcases hle.eq_or_lt with heq | hlt
      · rw [← heq, hfixed]
      · exact ((zoomStep_lt h.areaProduct_pos hd hpos hlt h.minViewingAngle_le).trans_eq hfixed).le
    exact absurd h.lt_zoomStep_min (not_lt.mpr (hstep.trans hle))
  · exact h.swings.fixed_unique (h.fixed_mem hb hfb) hmem hfb hfixed
  · rintro rfl
    exact hfixed

end Searching

/-! ## Both copies -/

/-- A call of `best_viewing_angle`: of a greedy camera for the state of a target, or of
`HierarchicalCamera.track` for the center of the selected targets. -/
inductive ZoomCall (G : Type)
  | act (agent : GreedyCameraAgent G) (targetState : TargetStatePublic)
  | track (params : CameraConfig) (camera : Camera params G) (center : ℂ)

namespace ZoomCall

variable {G : Type}

noncomputable def viewingAngle : ZoomCall G → ℝ
  | act agent _ => agent.state.viewingAngle
  | track _ camera _ => camera.viewingAngle

noncomputable def sightRange : ZoomCall G → ℝ
  | act agent _ => agent.state.sightRange
  | track _ camera _ => camera.sightRange

noncomputable def minViewingAngle : ZoomCall G → ℝ
  | act agent _ => agent.state.minViewingAngle
  | track params _ _ => (params.minViewingAngle : ℚ)

noncomputable def maxSightRange : ZoomCall G → ℝ
  | act agent _ => agent.state.maxSightRange
  | track params _ _ => (params.maxSightRange : ℚ)

noncomputable def distance : ZoomCall G → ℝ
  | act agent targetState => (targetState.sub agent.state).norm
  | track _ camera center => ‖center - camera.location‖

/-- What the call returns. -/
noncomputable def bestViewingAngle : ZoomCall G → ℝ
  | act agent targetState => agent.bestViewingAngle targetState
  | track _ camera center => Rllib.HierarchicalCamera.bestViewingAngle camera center

noncomputable def areaProduct (call : ZoomCall G) : ℝ := call.viewingAngle * call.sightRange ^ 2

/-- `best` after `n` turns of the loop. -/
noncomputable def iterate (call : ZoomCall G) (n : ℕ) : ℝ :=
  (zoomStep call.areaProduct call.distance)^[n] 180

/-- The pose of a camera: its viewing angle is within the bounds, and the area product is kept. -/
structure IsPose (call : ZoomCall G) : Prop where
  maxSightRange_pos : 0 < call.maxSightRange
  minViewingAngle_pos : 0 < call.minViewingAngle
  minViewingAngle_le : call.minViewingAngle ≤ call.viewingAngle
  viewingAngle_le : call.viewingAngle ≤ 180
  product : call.viewingAngle * call.sightRange ^ 2
    = call.minViewingAngle * call.maxSightRange ^ 2

/-- The cameras of an environment are in such a pose. -/
theorem isPose_of_bounded {params : CameraConfig} {camera : Camera params G} (h : camera.Bounded)
    (center : ℂ) : (track params camera center).IsPose := by
  have hmin : (0 : ℝ) < (params.minViewingAngle : ℚ) := by exact_mod_cast params.minViewingAngle.2
  have hmax : (0 : ℝ) < (params.maxSightRange : ℚ) := by exact_mod_cast params.maxSightRange.2
  have hview := hmin.trans_le h.viewingAngle_ge
  refine ⟨hmax, hmin, h.viewingAngle_ge, ?_, ?_⟩
  · have hle := h.viewingAngle_le
    norm_num [MAX_CAMERA_VIEWING_ANGLE] at hle
    exact hle
  · show camera.viewingAngle * camera.sightRange ^ 2
      = (params.minViewingAngle : ℚ) * (params.maxSightRange : ℚ) ^ 2
    have hpos : (0 : ℝ) ≤ Camera.areaProduct params / camera.viewingAngle := by
      rw [Camera.areaProduct]
      push_cast
      positivity
    rw [h.sightRange, Camera.sightRangeOf, Real.sq_sqrt hpos, mul_div_cancel₀ _ hview.ne',
      Camera.areaProduct]
    push_cast
    rfl

/-- So is the state that an agent reads of such a camera. -/
theorem isPose_of_state {params : CameraConfig} {camera : Camera params G} (h : camera.Bounded)
    {agent : GreedyCameraAgent G} (hstate : agent.state.state = camera.statePrivate)
    (targetState : TargetStatePublic) : (act agent targetState).IsPose := by
  have hpose := isPose_of_bounded h 0
  have hsight : (act agent targetState).sightRange = camera.sightRange := by
    show ‖(⟨agent.state.entry 3, agent.state.entry 4⟩ : ℂ)‖ = camera.sightRange
    unfold StateBase.entry
    rw [hstate]
    refine (norm_polar2cartesian camera.sightRange camera.orientation).trans (abs_of_nonneg ?_)
    rw [h.sightRange]
    exact Real.sqrt_nonneg _
  have hview : (act agent targetState).viewingAngle = camera.viewingAngle := by
    show agent.state.entry 5 = camera.viewingAngle
    unfold StateBase.entry
    rw [hstate]
    rfl
  have hmax : (act agent targetState).maxSightRange = (params.maxSightRange : ℚ) := by
    show agent.state.entry 6 = _
    unfold StateBase.entry
    rw [hstate]
    rfl
  have hpos : (0 : ℝ) < (params.maxSightRange : ℚ) := hpose.maxSightRange_pos
  have hproduct : camera.viewingAngle * camera.sightRange ^ 2
      = (params.minViewingAngle : ℚ) * (params.maxSightRange : ℚ) ^ 2 := hpose.product
  -- the agent computes the minimal viewing angle from the product that the camera keeps
  have hmin : (act agent targetState).minViewingAngle = (params.minViewingAngle : ℚ) := by
    show (act agent targetState).viewingAngle * ((act agent targetState).sightRange
      / (act agent targetState).maxSightRange) ^ 2 = _
    rw [hview, hsight, hmax, div_pow, ← mul_div_assoc, hproduct]
    exact mul_div_cancel_right₀ _ (pow_pos hpos 2).ne'
  refine ⟨?_, ?_, ?_, ?_, ?_⟩
  · rw [hmax]
    exact hpos
  · rw [hmin]
    exact hpose.minViewingAngle_pos
  · rw [hmin, hview]
    exact hpose.minViewingAngle_le
  · rw [hview]
    exact hpose.viewingAngle_le
  · rw [hview, hsight, hmin, hmax]
    exact hproduct

/-- In both places the call is two guards, then the loop and a clip. -/
theorem bestViewingAngle_eq (call : ZoomCall G) : call.bestViewingAngle =
    if call.maxSightRange ≤ call.distance * (1 + sinDeg (call.minViewingAngle / 2)) then
      call.minViewingAngle
    else if call.distance ≤ √(call.areaProduct / 180) / 2 then 180
    else min (max (call.iterate 20) call.minViewingAngle) 180 := by
  have hmax : (MAX_CAMERA_VIEWING_ANGLE : ℝ) = 180 := by norm_num [MAX_CAMERA_VIEWING_ANGLE]
  cases call with
  | act agent targetState =>
      unfold bestViewingAngle GreedyCameraAgent.bestViewingAngle
      simp only [hmax, min_self]
      rfl
  | track params camera center =>
      unfold bestViewingAngle Rllib.HierarchicalCamera.bestViewingAngle
      simp only [hmax, min_self]
      rfl

theorem searching {call : ZoomCall G} (hpose : call.IsPose) (hdistance : 0 < call.distance)
    (hfar : ¬ call.maxSightRange ≤ call.distance * (1 + sinDeg (call.minViewingAngle / 2)))
    (hnear : ¬ call.distance ≤ √(call.areaProduct / 180) / 2) :
    Searching call.areaProduct call.minViewingAngle call.maxSightRange call.distance where
  maxSightRange_pos := hpose.maxSightRange_pos
  minViewingAngle_pos := hpose.minViewingAngle_pos
  minViewingAngle_le := hpose.minViewingAngle_le.trans hpose.viewingAngle_le
  product := hpose.product
  distance_pos := hdistance
  far := not_le.mp hfar
  near := not_le.mp hnear

/-- **The zoom search.** When neither guard returns early there is exactly one viewing angle at
which the range of the camera is the required one. The iterates close in on it from both sides, and
the last one is a little too wide, so that the clip has nothing to do and the point stays in
range. -/
theorem bestViewingAngle_spec (call : ZoomCall G) (hpose : call.IsPose)
    (hdistance : 0 < call.distance)
    (hfar : ¬ call.maxSightRange ≤ call.distance * (1 + sinDeg (call.minViewingAngle / 2)))
    (hnear : ¬ call.distance ≤ √(call.areaProduct / 180) / 2) :
    ∃ best, 0 < best ∧ best ≤ 180
      ∧ (∀ b, 0 < b → b ≤ 180 →
          (√(call.areaProduct / b) = call.distance * (1 + sinDeg (b / 2)) ↔ b = best))
      ∧ (∀ b, 0 < b →
          (√(call.areaProduct / b) = call.distance * (1 + sinDeg (min (b / 2) 90)) ↔ b = best))
      ∧ StrictAnti (fun n => call.iterate (2 * n))
      ∧ StrictMono (fun n => call.iterate (2 * n + 1))
      ∧ (∀ n, best < call.iterate (2 * n) ∧ call.iterate (2 * n + 1) < best)
      ∧ Tendsto (fun n => call.iterate (2 * n)) atTop (𝓝 best)
      ∧ Tendsto (fun n => call.iterate (2 * n + 1)) atTop (𝓝 best)
      ∧ call.bestViewingAngle = call.iterate 20
      ∧ best ≤ call.bestViewingAngle ∧ call.bestViewingAngle ≤ 180
      ∧ call.minViewingAngle < call.bestViewingAngle
      ∧ call.distance ≤ √(call.areaProduct / call.bestViewingAngle) := by
  have h := searching hpose hdistance hfar hnear
  have hA := h.areaProduct_pos
  have hlow := zoomStep_pos hA hdistance (b := 180) (by norm_num)
  -- the angle of the required range is the fixed point of the step
  obtain ⟨best, hpos, hlt, hmin, hunique⟩ := h.exists_fixed
  have hfixed := (hunique best hpos).mpr rfl
  have hmem := h.fixed_mem hpos hfixed
  have hbest : best < call.iterate 20 := (h.swings.brackets hmem hfixed 10).1
  have hlast : call.iterate 20 ≤ 180 := (h.swings.iterate_mem 20).2
  have hbefore := hlow.trans_le (h.swings.iterate_mem 19).1
  -- the loop ends after twenty steps, on the upper side
  have hresult : call.bestViewingAngle = call.iterate 20 := by
    rw [bestViewingAngle_eq, if_neg hfar, if_neg hnear,
      max_eq_left (hmin.le.trans hbest.le), min_eq_left hlast]
  refine ⟨best, hpos, hlt.le, fun b hb hb' => ?_, fun b hb => ?_, h.swings.strictAnti_even,
    h.swings.strictMono_odd, h.swings.brackets hmem hfixed,
    h.swings.tendsto_even h.continuousOn h.not_swaps hmem hfixed,
    h.swings.tendsto_odd h.continuousOn h.not_swaps hmem hfixed,
    hresult, ?_, ?_, ?_, ?_⟩
  · rw [← requiredRange_of_le hb', ← zoomStep_eq_iff hdistance hb]
    exact hunique b hb
  · exact (zoomStep_eq_iff hdistance hb).symm.trans (hunique b hb)
  · rw [hresult]
    exact hbest.le
  · rw [hresult]
    exact hlast
  · rw [hresult]
    exact hmin.trans hbest
  · rw [hresult, iterate, Function.iterate_succ_apply', sqrt_div_zoomStep hA hdistance hbefore]
    exact (lt_requiredRange hdistance hbefore).le

/-- The camera of the next run: it is zoomed in and looks at a point at a third of its range. -/
noncomputable def oneThirdAway : ZoomCall Unit :=
  track
    { placement := ⟨[(0, 0)], []⟩
      radius := ⟨40, Positive.forty_pos⟩
      minViewingAngle := ⟨60, by norm_num⟩
      maxSightRange := ⟨3, by norm_num⟩
      rotationStep := ⟨5, Positive.five_pos⟩
      zoomingStep := ⟨5, Positive.five_pos⟩ }
    { location := 0
      locationRandomRange := ⟨0, 0⟩
      rng := ()
      orientation := 0
      viewingAngle := 60
      sightRange := 3
      boundary := []
      boundaryOuter := []
      sightRangeFunc := ⟨[]⟩
      sightRangeOuterFunc := none
      obstacles := ∅ } 1

theorem bestViewingAngle_spec_oneThirdAway :
    60 < oneThirdAway.bestViewingAngle ∧ oneThirdAway.bestViewingAngle ≤ 180
      ∧ 1 ≤ √(60 * 3 ^ 2 / oneThirdAway.bestViewingAngle) := by
  have hmin : oneThirdAway.minViewingAngle = 60 := by norm_num [oneThirdAway, minViewingAngle]
  have hmax : oneThirdAway.maxSightRange = 3 := by norm_num [oneThirdAway, maxSightRange]
  have hdistance : oneThirdAway.distance = 1 := by norm_num [oneThirdAway, distance]
  have hproduct : oneThirdAway.areaProduct = 60 * 3 ^ 2 := rfl
  have hpose : oneThirdAway.IsPose :=
    { maxSightRange_pos := by rw [hmax]; norm_num
      minViewingAngle_pos := by rw [hmin]; norm_num
      minViewingAngle_le := by rw [hmin]; exact le_refl (60 : ℝ)
      viewingAngle_le := show (60 : ℝ) ≤ 180 by norm_num
      product := by rw [hmin, hmax]; rfl }
  have hsin : sinDeg 30 = 1 / 2 := by
    rw [sinDeg, deg2rad, show (30 : ℝ) * (Real.pi / 180) = Real.pi / 6 by ring, Real.sin_pi_div_six]
  obtain ⟨best, -, -, -, -, -, -, -, -, -, -, -, hle, hgt, hrange⟩ :=
    bestViewingAngle_spec oneThirdAway hpose (by rw [hdistance]; norm_num)
      (by rw [hmin, hmax, hdistance, show (60 : ℝ) / 2 = 30 by norm_num, hsin]; norm_num)
      (by
        rw [hdistance, hproduct, not_le, div_lt_iff₀ two_pos, Real.sqrt_lt' (by norm_num)]
        norm_num)
  rw [hmin] at hgt
  rw [hdistance, hproduct] at hrange
  exact ⟨hgt, hle, hrange⟩

end ZoomCall

end Mate
