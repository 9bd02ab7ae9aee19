import Mate.Advertised
import Mate.Angles
import Mate.DiscreteTargets
import Mate.FocusCodec
import Mate.Motion
import Mate.Rllib.ActionPrior
import Mate.Transport

set_option autoImplicit false

/-! # The priors score the poses of the simulator

The learners repeat the step of a camera in radians, from what they decode: the orientation and the
sight range come from the sight vector, the area product is recomputed from them. With the constants
of the environment the pose in which an action is scored is the one that the camera has after the
action (`ScoredPose.Follows`), as long as the floors of the learners are not reached. A camera with
a short sight reaches them (`nearConfig`).
-/

namespace Mate

open Fallible Runs Rllib Rllib.Focus

/-! ## Cameras keep their area -/

/-- The viewing angle is one that the camera can have, and determines the sight range. -/
structure Camera.Zoomed {params : CameraConfig} {G : Type} (c : Camera params G) : Prop where
  viewingAngle_ge : ((params.minViewingAngle : ℚ) : ℝ) ≤ c.viewingAngle
  viewingAngle_le : c.viewingAngle ≤ (MAX_CAMERA_VIEWING_ANGLE : ℚ)
  sightRange : c.sightRange = Camera.sightRangeOf params c.viewingAngle

namespace Camera

variable {params : CameraConfig} {G : Type} {c : Camera params G}

theorem minViewingAngle_pos (params : CameraConfig) :
    (0 : ℝ) < ((params.minViewingAngle : ℚ) : ℝ) := by
  exact_mod_cast params.minViewingAngle.2

theorem Zoomed.viewingAngle_pos (h : c.Zoomed) : 0 < c.viewingAngle :=
  (minViewingAngle_pos params).trans_le h.viewingAngle_ge

/-- The area product, from the field of view. -/
theorem Zoomed.area (h : c.Zoomed) :
    c.sightRange ^ 2 * c.viewingAngle = ((areaProduct params : ℚ) : ℝ) := by
  have hview := h.viewingAngle_pos
  have hnonneg : 0 ≤ ((areaProduct params : ℚ) : ℝ) / c.viewingAngle := by
    have hmin := minViewingAngle_pos params
    rw [areaProduct]
    push_cast
    positivity
  rw [h.sightRange, sightRangeOf, Real.sq_sqrt hnonneg, div_mul_cancel₀ _ hview.ne']

theorem Zoomed.simulate (h : c.Zoomed) (action : ℝ × ℝ) : (c.simulate action).Zoomed where
  viewingAngle_ge := le_min (le_max_right _ _) (h.viewingAngle_ge.trans h.viewingAngle_le)
  viewingAngle_le := min_le_right _ _
  sightRange := rfl

theorem reset_zoomed [RandomState G]
    (hangle : (params.minViewingAngle : ℚ) ≤ MAX_CAMERA_VIEWING_ANGLE) (c : Camera params G) :
    Ensures c.reset Zoomed := by
  intro c' h
  have hle : ((params.minViewingAngle : ℚ) : ℝ) ≤ ((MAX_CAMERA_VIEWING_ANGLE : ℚ) : ℝ) := by
    exact_mod_cast hangle
  unfold reset at h
  dsimp only at h
  split at h
  · cases h
    exact ⟨(uniform_mem hle _).1, (uniform_mem hle _).2, rfl⟩
  · cases h

end Camera

/-! ## One action -/

/-- None of the floors of the learners is above what the camera has before and after an action. -/
structure AboveFloors {params : CameraConfig} {G : Type} (before after : Camera params G) : Prop where
  halfAngle : 1 / 1000 ≤ before.fov.halfAngle
  sightRange : 1 ≤ before.sightRange
  nextAngle : 1 / 1000 ≤ after.viewingAngle
  nextRange : 1 ≤ after.sightRange

/-- A camera is scored in the pose that it has after an action, the sight range being at least that of
the camera and at most what the stabilizer makes of it. -/
structure Rllib.Focus.ScoredPose.Of {params : CameraConfig} {G : Type} (pose : ScoredPose)
    (before after : Camera params G) : Prop where
  orientation : (pose.orient : Real.Angle) = ((deg2rad after.orientation : ℝ) : Real.Angle)
  viewingAngle : pose.nextAngle = after.viewingAngle
  sightRange_ge : after.sightRange ≤ pose.nextRange
  sightRange_le : pose.nextRange
    ≤ √(after.sightRange ^ 2 + before.viewingAngle / after.viewingAngle / 10 ^ 8)

/-- The same, where no floor is in the way. None concerns the orientation. -/
structure Rllib.Focus.ScoredPose.Follows {params : CameraConfig} {G : Type} (pose : ScoredPose)
    (before after : Camera params G) : Prop where
  orientation : (pose.orient : Real.Angle) = ((deg2rad after.orientation : ℝ) : Real.Angle)
  viewingAngle : 1 / 1000 ≤ before.fov.halfAngle → pose.nextAngle = after.viewingAngle
  above : AboveFloors before after → pose.Of before after

/-- The constants of an environment. -/
noncomputable def Rllib.Focus.ActionBias.forEnv (config : ActionBias) (cfg : Config) : ActionBias :=
  { config with
    nTargets := cfg.numTargets
    rotationStep := (cfg.cameraParams.rotationStep : ℚ)
    zoomingStep := (cfg.cameraParams.zoomingStep : ℚ)
    minViewingAngle := (cfg.cameraParams.minViewingAngle : ℚ)
    maxViewingAngle := (MAX_CAMERA_VIEWING_ANGLE : ℚ)
    maxSightRange := (cfg.cameraParams.maxSightRange : ℚ) }

theorem coe_deg2rad_normalizeAngle (angle : ℝ) :
    ((deg2rad (normalizeAngle angle) : ℝ) : Real.Angle) = ((deg2rad angle : ℝ) : Real.Angle) := by
  refine Real.Angle.angle_eq_iff_two_pi_dvd_sub.mpr ⟨-turns angle, ?_⟩
  rw [normalizeAngle_eq, deg2rad_sub, deg2rad_turns]
  push_cast
  ring

theorem Camera.clip_step {step x : ℝ} (hstep : 0 ≤ step) (hx : |x| ≤ 1) :
    Camera.clip (-step) step (step * x) = step * x := by
  apply clip_eq_self
  rw [abs_mul, abs_of_nonneg hstep]
  exact mul_le_of_le_one_right hstep hx

section

variable {cfg : Config} {G : Type} {c : Camera cfg.cameraParams G} {w : DiscreteCamera cfg}

/-- Both coordinates of a row of the grid. -/
theorem DiscreteCamera.abs_grid_le (w : DiscreteCamera cfg) (k : Fin (w.levels * w.levels)) :
    |(w.normalizedActionGrid k).re| ≤ 1 ∧ |(w.normalizedActionGrid k).im| ≤ 1 := by
  have hlevels : 2 ≤ w.levels := by
    have := w.three_le
    omega
  exact max_le_iff.mp (maxSeminorm_uniformGrid_le hlevels k)

/-- The action is within the space of the camera, so that nothing is clipped. -/
theorem Camera.simulate_continuous (c : Camera cfg.cameraParams G) (k : Fin (w.levels * w.levels)) :
    (c.simulate (w.continuous k)).orientation = normalizeAngle (c.orientation
        + (cfg.cameraParams.rotationStep : ℚ) * (w.normalizedActionGrid k).re)
      ∧ (c.simulate (w.continuous k)).viewingAngle
        = Camera.clip (cfg.cameraParams.minViewingAngle : ℚ) (MAX_CAMERA_VIEWING_ANGLE : ℚ)
          (c.viewingAngle + (cfg.cameraParams.zoomingStep : ℚ) * (w.normalizedActionGrid k).im) := by
  obtain ⟨hre, him⟩ := w.abs_grid_le k
  have hrotation : (0 : ℝ) ≤ ((cfg.cameraParams.rotationStep : ℚ) : ℝ) := by
    exact_mod_cast cfg.cameraParams.rotationStep.2.le
  have hzooming : (0 : ℝ) ≤ ((cfg.cameraParams.zoomingStep : ℚ) : ℝ) := by
    exact_mod_cast cfg.cameraParams.zoomingStep.2.le
  constructor
  · exact congrArg (fun turn => normalizeAngle (c.orientation + turn))
      (Camera.clip_step hrotation hre)
  · exact congrArg (fun zoom => Camera.clip _ _ (c.viewingAngle + zoom))
      (Camera.clip_step hzooming him)

/-- The orientation is right whatever the field of view is. -/
theorem scoredPose_orient (config : ActionBias) (k : Fin (w.levels * w.levels)) :
    ((scoredPose (config.forEnv cfg) c.fov (w.normalizedActionGrid k)).orient : Real.Angle)
      = ((deg2rad (c.simulate (w.continuous k)).orientation : ℝ) : Real.Angle) := by
  rw [(c.simulate_continuous k).1, coe_deg2rad_normalizeAngle, deg2rad_add]
  show ((((deg2rad c.orientation : ℝ) : Real.Angle).toReal + (w.normalizedActionGrid k).re
    * (((cfg.cameraParams.rotationStep : ℚ) : ℝ) * Real.pi / 180) : ℝ) : Real.Angle) = _
  rw [Real.Angle.coe_add, Real.Angle.coe_add, Real.Angle.coe_toReal]
  congr 2
  unfold deg2rad
  ring

/-- The viewing angle that the learner starts from. -/
theorem currentAngle_eq (h : c.Zoomed) (hhalf : 1 / 1000 ≤ c.fov.halfAngle) :
    Camera.clip (cfg.cameraParams.minViewingAngle : ℚ) (MAX_CAMERA_VIEWING_ANGLE : ℚ)
      (max c.fov.halfAngle (1 / 1000) * 2 * 180 / Real.pi) = c.viewingAngle := by
  have hpi := Real.pi_ne_zero
  have hangle : c.fov.halfAngle * 2 * 180 / Real.pi = c.viewingAngle := by
    show c.viewingAngle * (Real.pi / 180) / 2 * 2 * 180 / Real.pi = _
    field_simp
  rw [max_eq_left hhalf, hangle]
  unfold Camera.clip
  rw [max_eq_left h.viewingAngle_ge, min_eq_left h.viewingAngle_le]

theorem scoredPose_nextAngle (h : c.Zoomed) (hhalf : 1 / 1000 ≤ c.fov.halfAngle)
    (config : ActionBias) (k : Fin (w.levels * w.levels)) :
    (scoredPose (config.forEnv cfg) c.fov (w.normalizedActionGrid k)).nextAngle
      = (c.simulate (w.continuous k)).viewingAngle := by
  rw [(c.simulate_continuous k).2]
  show Camera.clip _ _ (Camera.clip _ _ _ + (w.normalizedActionGrid k).im * _) = _
  rw [mul_comm (w.normalizedActionGrid k).im]
  exact congrArg (fun angle => Camera.clip _ _ (angle + _)) (currentAngle_eq h hhalf)

/-- The sight range, under the root. -/
theorem scoredPose_nextRange (h : c.Zoomed) (config : ActionBias) (k : Fin (w.levels * w.levels))
    (hfloors : AboveFloors c (c.simulate (w.continuous k))) :
    (scoredPose (config.forEnv cfg) c.fov (w.normalizedActionGrid k)).nextRange
      = Camera.clip 1 (cfg.cameraParams.maxSightRange : ℚ)
        √((c.simulate (w.continuous k)).sightRange ^ 2
          + c.viewingAngle / (c.simulate (w.continuous k)).viewingAngle / 10 ^ 8) := by
  set after := c.simulate (w.continuous k) with hafter
  have hzoomed : after.Zoomed := h.simulate _
  have hnext : 0 < after.viewingAngle := hzoomed.viewingAngle_pos
  have hnextAngle := scoredPose_nextAngle h hfloors.halfAngle config k
  have hcurrent := currentAngle_eq h hfloors.halfAngle
  have hown : 1 ≤ c.fov.sightRange := by
    show 1 ≤ √(c.sightRange ^ 2 + 1 / 10 ^ 8)
    refine Real.one_le_sqrt.mpr ?_
    nlinarith [hfloors.sightRange]
  have hsq : c.fov.sightRange ^ 2 = c.sightRange ^ 2 + 1 / 10 ^ 8 :=
    Real.sq_sqrt (by positivity)
  -- both fields of view have the same area
  have harea : c.sightRange ^ 2 * c.viewingAngle = after.sightRange ^ 2 * after.viewingAngle :=
    h.area.trans hzoomed.area.symm
  have hratio : c.fov.sightRange ^ 2 * c.viewingAngle / after.viewingAngle
      = after.sightRange ^ 2 + c.viewingAngle / after.viewingAngle / 10 ^ 8 := by
    calc c.fov.sightRange ^ 2 * c.viewingAngle / after.viewingAngle
        = (c.sightRange ^ 2 * c.viewingAngle + c.viewingAngle / 10 ^ 8) / after.viewingAngle := by
          rw [hsq]
          ring
      _ = (after.sightRange ^ 2 * after.viewingAngle + c.viewingAngle / 10 ^ 8)
            / after.viewingAngle := by rw [harea]
      _ = _ := by field_simp
  show Camera.clip 1 _ √(max c.fov.sightRange 1 ^ 2 * Camera.clip _ _ _
    / max (scoredPose (config.forEnv cfg) c.fov (w.normalizedActionGrid k)).nextAngle (1 / 1000)) = _
  rw [hnextAngle, max_eq_left hown, max_eq_left hfloors.nextAngle]
  refine congrArg (fun x => Camera.clip 1 _ √x) ?_
  rw [← hratio]
  exact congrArg (fun angle => c.fov.sightRange ^ 2 * angle / after.viewingAngle) hcurrent

/-- **The pose of an action** is the one that the camera has after it. -/
theorem scoredPose_follows (h : c.Zoomed) (config : ActionBias) (k : Fin (w.levels * w.levels)) :
    (scoredPose (config.forEnv cfg) c.fov (w.normalizedActionGrid k)).Follows c
      (c.simulate (w.continuous k)) where
  orientation := scoredPose_orient config k
  viewingAngle hhalf := scoredPose_nextAngle h hhalf config k
  above hfloors := by
    have hafter := h.simulate (w.continuous k)
    have hextra : 0 ≤ c.viewingAngle / (c.simulate (w.continuous k)).viewingAngle / 10 ^ 8 := by
      have hpos := h.viewingAngle_pos
      have hnext := hafter.viewingAngle_pos
      positivity
    have hrange := scoredPose_nextRange h config k hfloors
    have hone := hfloors.nextRange
    unfold Camera.clip at hrange
    refine ⟨scoredPose_orient config k, scoredPose_nextAngle h hfloors.halfAngle config k, ?_, ?_⟩
    · rw [hrange]
      refine le_min (le_max_of_le_left ?_) ?_
      · exact Real.le_sqrt_of_sq_le (by linarith)
      · rw [hafter.sightRange]
        exact Camera.sightRangeOf_le hafter.viewingAngle_ge
    · rw [hrange]
      refine (min_le_left _ _).trans (max_le le_rfl (Real.one_le_sqrt.mpr ?_))
      nlinarith

end

/-! ## What is decoded -/

theorem Rllib.Focus.levelsOf_sq (levels : ℕ) : levelsOf (levels * levels) = levels := by
  unfold levelsOf
  rw [Nat.cast_mul, Real.sqrt_mul_self (Nat.cast_nonneg _), round_natCast]
  rfl

/-- What the prior is made of, once everything has been decoded. -/
theorem Rllib.Focus.focusActionQBias_of {state : List ℝ} {config : ActionBias} {nAgents levels : ℕ}
    {requireEta : Bool} {cameras : List CameraFov} {targets : List ℂ} {weights : List ℝ}
    (heta : requireEta = true → 0 < config.eta)
    (hlong : 13 + nAgents * 9 + config.nTargets * 14 ≤ state.length)
    (hcameras : extractCameraFov state nAgents = .ok cameras)
    (htargets : extractTargetPositions state nAgents config.nTargets = .ok targets)
    (hweights : targetWeights state config nAgents = .ok weights) :
    focusActionQBias (some state) (some config) nAgents (levels * levels) requireEta
      = .ok (some (cameras.map (fun camera => actionBias config levels camera (fun pose =>
          (List.zipWith (fun target weight => targetScore config camera.position pose target * weight)
            targets weights).sum)))) := by
  have hfits : ¬ state.length < Focus.PRESERVED_DIM + nAgents * Focus.CAMERA_STATE_DIM_PRIVATE
      + config.nTargets * Focus.TARGET_STATE_DIM_PRIVATE := not_lt.mpr hlong
  unfold focusActionQBias
  dsimp only
  rw [levelsOf_sq, if_neg (fun hand => absurd (heta hand.1) (not_lt.mpr hand.2)),
    if_neg (fun hne => hne rfl), if_neg hfits]
  exact bind_eq_ok.mpr ⟨cameras, hcameras, bind_eq_ok.mpr ⟨targets, htargets,
    bind_eq_ok.mpr ⟨weights, hweights, rfl⟩⟩⟩

namespace Env

variable {cfg : Config} {G V : Type} {e : Env cfg G V}

/-- A target is loaded when it has a goal. -/
theorem Consistent.loaded_iff {total : ℤ} (h : e.Consistent total) (t : Fin cfg.numTargets) :
    (∃ w, e.cargo.goalBits t w ≠ 0) ↔ e.cargo.targetGoals t ≠ none := by
  obtain ⟨hbits, hload⟩ := h.valid.load t
  rw [hbits]
  cases hgoal : e.cargo.targetGoals t with
  | none =>
      rw [hgoal] at hload
      simp [hload.bits]
  | some goal =>
      rw [hgoal] at hload
      obtain ⟨weight, hw⟩ := hload
      have hpos := hw.pos
      refine ⟨fun _ => by simp, fun _ => ⟨goal, ?_⟩⟩
      rw [hw.bits, Pi.single_eq_same]
      omega

/-- How much a target counts: nothing, if it carries no cargo and only those that do count. -/
def countOf (e : Env cfg G V) (realOnly : Bool) (t : Fin cfg.numTargets) : ℝ :=
  if realOnly = true ∧ e.cargo.targetGoals t = none then 0 else 1

/-- **The weights of the targets.** -/
theorem Consistent.targetWeights_eq {total : ℤ} (h : e.Consistent total) (config : ActionBias) :
    targetWeights (rescaledRow (stateSpace cfg) e.globalState) (config.forEnv cfg) cfg.numCameras
      = .ok (List.ofFn (e.countOf config.realOnly)) := by
  have hfield := targets_fieldAt e
  -- the fourth entry of a target tells whether it carries a cargo
  have hentry : ∀ t : Fin cfg.numTargets, Focus.entry (rescaledRow (stateSpace cfg) e.globalState)
      (13 + cfg.numCameras * 9 + (t : ℕ) * 14 + 3)
      = .ok (if ∃ w, e.cargo.goalBits t w ≠ 0 then 1 else 0) := by
    intro t
    refine (hfield.entry t (by decide) rfl rfl (hfield.getElem? t (by decide))).trans ?_
    exact congrArg Except.ok (rescaleEntry_flag _)
  unfold targetWeights
  cases hreal : config.realOnly with
  | true =>
      rw [if_pos (show (config.forEnv cfg).realOnly = true from hreal)]
      refine bind_eq_ok.mpr ⟨_, mapM_range_eq_ok hentry,
        bind_eq_ok.mpr ⟨_, stack_ofFn cfg.numTargets_pos _, ?_⟩⟩
      show Except.ok (List.map (Camera.clip 0 1)
        (List.ofFn (fun t : Fin cfg.numTargets => if ∃ w, e.cargo.goalBits t w ≠ 0 then 1 else 0))) = _
      rw [List.map_ofFn]
      refine congrArg (fun f => Except.ok (List.ofFn f)) (funext (fun t => ?_))
      show Camera.clip 0 1 (if _ then 1 else 0) = _
      unfold countOf Camera.clip
      by_cases hgoal : e.cargo.targetGoals t = none
      · rw [if_neg (fun hbits => (h.loaded_iff t).mp hbits hgoal), if_pos ⟨rfl, hgoal⟩]
        norm_num
      · rw [if_pos ((h.loaded_iff t).mpr hgoal), if_neg (fun hand => hgoal hand.2)]
        norm_num
  | false =>
      rw [if_neg (fun htrue => by cases hreal.symm.trans htrue)]
      refine congrArg Except.ok ?_
      have hone : e.countOf false = fun _ => 1 :=
        funext (fun t => if_neg (fun hand => by cases hand.1))
      rw [hone, List.ofFn_const]
      rfl

/-- The score of a pose, for a camera that knows where the targets are. -/
noncomputable def poseScore (e : Env cfg G V) (config : ActionBias) (c : Fin cfg.numCameras)
    (pose : ScoredPose) : ℝ :=
  ∑ t, targetScore config (e.cameras c).location pose (e.targets t).location
    * e.countOf config.realOnly t

theorem zipWith_poseScore (e : Env cfg G V) (config : ActionBias) (c : Fin cfg.numCameras)
    (pose : ScoredPose) :
    (List.zipWith (fun target weight => targetScore config (e.cameras c).location pose target * weight)
      (List.ofFn (fun t => (e.targets t).location)) (List.ofFn (e.countOf config.realOnly))).sum
      = e.poseScore config c pose := by
  rw [List.ofFn_eq_map, List.ofFn_eq_map, List.zipWith_map, List.zipWith_self, ← List.ofFn_eq_map,
    List.sum_ofFn, poseScore]

/-- **The prior from the state.** -/
theorem Consistent.focusActionQBias_eq {total : ℤ} (h : e.Consistent total)
    (hsight : ∀ c, 0 < (e.cameras c).sightRange) (w : DiscreteCamera cfg) (config : ActionBias)
    {requireEta : Bool} (heta : requireEta = true → 0 < config.eta) :
    focusActionQBias (some (rescaledRow (stateSpace cfg) e.globalState)) (some (config.forEnv cfg))
        cfg.numCameras (w.levels * w.levels) requireEta
      = .ok (some (List.ofFn (fun c => actionBias (config.forEnv cfg) w.levels (e.cameras c).fov
          (e.poseScore (config.forEnv cfg) c)))) := by
  have hlong : 13 + cfg.numCameras * 9 + cfg.numTargets * 14
      ≤ (rescaledRow (stateSpace cfg) e.globalState).length := by
    rw [length_rescaledRow e.length_globalState]
    simp only [stateSpace, Space.dim, List.length_append, length_tile]
    show _ ≤ 13 + cfg.numCameras * 9 + cfg.numTargets * 14 + _ + _
    omega
  have hcameras := (extractCameraFov_eq hsight).trans (stack_ofFn w.numCameras_pos _)
  have htargets : extractTargetPositions (rescaledRow (stateSpace cfg) e.globalState) cfg.numCameras
      (config.forEnv cfg).nTargets = _ :=
    extractTargetPositions_eq.trans (stack_ofFn cfg.numTargets_pos _)
  have heta : requireEta = true → 0 < (config.forEnv cfg).eta := heta
  rw [focusActionQBias_of heta hlong hcameras htargets (h.targetWeights_eq config), List.map_ofFn]
  refine congrArg (fun f => Except.ok (some (List.ofFn f))) (funext (fun c => ?_))
  dsimp only [Function.comp]
  exact congrArg (actionBias (config.forEnv cfg) w.levels (e.cameras c).fov)
    (funext (e.zipWith_poseScore (config.forEnv cfg) c))

/-- **The prior from an observation**, for any targets. -/
theorem focusActionBiasFromLocalTargets_eq {c : Fin cfg.numCameras}
    (hsight : 0 < (e.cameras c).sightRange) (levels : ℕ) (config : ActionBias) (targetPos : List ℂ)
    {targetMask : Option (List Bool)}
    (hmask : ∀ mask, targetMask = some mask → mask.length = targetPos.length) :
    focusActionBiasFromLocalTargets (some ((⟨true, true⟩ : Preprocessing).transform .camera
          cfg.numCameras cfg.numTargets cfg.numObstacles (e.jointObservation.1.camera c)))
        (some targetPos) config (levels * levels) targetMask
      = .ok (some (actionBias config levels (e.cameras c).fov
          (localScore config (e.cameras c).location targetPos targetMask))) := by
  have hfits : ¬ ∃ mask, targetMask = some mask ∧ mask.length ≠ targetPos.length := by
    rintro ⟨mask, hsome, hne⟩
    exact hne (hmask mask hsome)
  unfold focusActionBiasFromLocalTargets
  dsimp only
  rw [levelsOf_sq, if_neg (fun hne => hne rfl), if_neg hfits, Preprocessing.transform_both]
  exact bind_eq_ok.mpr ⟨_, cameraFovAt_own c hsight, rfl⟩

end Env

/-! ## Runs -/

section

variable {cfg : Config} {G V : Type}

/-- Every camera is zoomed. -/
def zoomed (cfg : Config) (G : Type) : EntityInvariant cfg G where
  camera := Camera.Zoomed
  target _ := True
  obstacle _ := True

variable [RandomState G] [SetOrder]

theorem zoomed_kept : (zoomed cfg G).Kept where
  cameraRng _ _ he := ⟨he.viewingAngle_ge, he.viewingAngle_le, he.sightRange⟩
  cameraReset e he := Camera.reset_zoomed
    (by exact_mod_cast he.viewingAngle_ge.trans he.viewingAngle_le) e
  cameraObstacles _ _ he := ⟨he.viewingAngle_ge, he.viewingAngle_le, he.sightRange⟩
  cameraSimulate _ action he := he.simulate action
  targetRng _ _ _ := trivial
  targetCapacity _ _ _ := trivial
  targetReset _ _ := trivial
  targetSimulate _ _ _ _ := trivial
  obstacleRng _ _ _ := trivial
  obstacleReset _ _ _ := trivial
  obstacleZero _ _ := trivial

namespace MultiAgentTracking

/-- What the priors rely on. -/
structure Posed (e : MultiAgentTracking cfg G V) : Prop where
  decodable : e.Decodable
  zoomed : (zoomed cfg G).Holds e.toEnv
  consistent : ∃ total, e.toEnv.Consistent total

omit [SetOrder] in
theorem init_posed {memory : Memory V} {start : MultiAgentTracking cfg G V}
    (h : init cfg memory = .ok start) : start.Posed := by
  have hdecodable := init_decodable h
  obtain ⟨env, henv, heq⟩ := bind_eq_ok.mp h
  cases heq
  have hconsistent := Env.init_consistent memory env henv
  obtain ⟨cameras, hcameras, henv⟩ := bind_eq_ok.mp henv
  obtain ⟨r, -, henv⟩ := bind_eq_ok.mp henv
  cases henv
  have hzoomed : ∀ i < cfg.numCameras, Ensures (Camera.init cfg.cameraParams
      (cfg.cameraParams.placement.box i) : Except Error (Camera cfg.cameraParams G))
      Camera.Zoomed := by
    intro i _
    unfold Camera.init
    split
    · rename_i hangle
      exact Camera.reset_zoomed hangle _
    · exact fun _ hinit => by cases hinit
  have hall := initAll_ensures cfg.numCameras hzoomed cameras hcameras
  refine ⟨hdecodable, ⟨fun c => ?_, fun _ => trivial, fun _ => trivial⟩, 0, hconsistent⟩
  exact ⟨(hall c).viewingAngle_ge, (hall c).viewingAngle_le, (hall c).sightRange⟩

theorem Does.posed {e e' : MultiAgentTracking cfg G V} {method : Method cfg V} (h : e.Posed)
    (hdoes : Does e method e') : e'.Posed := by
  obtain ⟨total, hconsistent⟩ := h.consistent
  suffices hkept : (Mate.zoomed cfg G).Holds e'.toEnv ∧ ∃ total, e'.toEnv.Consistent total from
    ⟨hdoes.decodable h.decodable, hkept.1, hkept.2⟩
  cases hdoes with
  | reset hreset =>
      obtain ⟨⟨observations, reg, env⟩, henv, heq⟩ := bind_eq_ok.mp hreset
      cases heq
      exact ⟨zoomed_kept.toKeptByReset.reset h.zoomed henv, _, Env.reset_consistent henv⟩
  | call hnext =>
      exact ⟨zoomed_kept.next h.zoomed hnext, total, hnext.consistent hconsistent⟩
  | state =>
      unfold MultiAgentTracking.state
      split
      · exact ⟨h.zoomed, total, hconsistent⟩
      · exact ⟨h.zoomed, total, hconsistent⟩

theorem run_posed {memory : Memory V} {start e : MultiAgentTracking cfg G V}
    {history : List (Method cfg V)} (hstart : init cfg memory = .ok start)
    (hrun : Run Does start history e) : e.Posed :=
  hrun.invariant Posed (init_posed hstart) (fun _ _ _ h hdoes => hdoes.posed h)

end MultiAgentTracking

end

/-! ## A camera with a short sight -/

namespace Env

/-- The camera sees as far as one, and zooms out in a single step. -/
def nearConfig : Config :=
  { leakyConfig with
    camera := some
      { placement := ⟨[(-990, 0)], []⟩
        radius := ⟨1, Positive.one_pos⟩
        minViewingAngle := ⟨90, Positive.ninety_pos⟩
        maxSightRange := ⟨1, Positive.one_pos⟩
        rotationStep := ⟨360, Positive.threeSixty_pos⟩
        zoomingStep := ⟨90, Positive.ninety_pos⟩ }
    numTargets_pos := Nat.one_pos }

def nearCamera : DiscreteCamera nearConfig where
  levels := 3
  three_le := Nat.le_refl _
  odd := rfl
  numCameras_pos := Nat.one_pos

/-- Zooming out as far as possible. -/
def zoomOut : Fin (nearCamera.levels * nearCamera.levels) := ⟨7, by decide⟩

open MultiAgentTracking in
/-- The environment can be reset. -/
theorem exists_near :
    letI := rotating
    letI := SetOrder.increasing
    ∃ (start e : MultiAgentTracking nearConfig (Fin 4) Unit) (history : List (Method nearConfig Unit)),
      MultiAgentTracking.init nearConfig ⟨0, fun _ => ()⟩ = .ok start ∧ Run Does start history e
        ∧ history ≠ [] := by
  let _ := rotating
  let _ := SetOrder.increasing
  have hpass : ∀ g : Fin 4, Cargo.allSend (Cargo.fillPass 4 0 g).1 = true := by decide
  have hcameras : Returns (initAll (fun i => Camera.init (G := Fin 4) nearConfig.cameraParams
      (nearConfig.cameraParams.placement.box i)) nearConfig.numCameras) (fun _ => True) := by
    refine (initAll_returns 1 (P := fun _ => True) (fun i _ => ?_)).mono (fun _ _ => trivial)
    exact (Camera.init_returns (by decide +kernel) (le_refl (360 : ℚ)) _).mono (fun _ _ => trivial)
  obtain ⟨cameras, hok, -⟩ := hcameras
  obtain ⟨self, hinit⟩ : ∃ self : Env nearConfig (Fin 4) Unit,
      Env.init nearConfig ⟨0, fun _ => ()⟩ = .ok self := ⟨_, bind_eq_ok.mpr ⟨cameras, hok, rfl⟩⟩
  have htransparent : nearConfig.obstacleTransmittance = 1 := leakyConfig_scales.2.2
  obtain ⟨⟨observations, reg, e⟩, hreset, -⟩ : Returns (self.reset 2 none) (fun _ => True) :=
    reset_transparent rfl htransparent (le_refl (360 : ℚ))
      (fun awaiting g => Cargo.fillCargoes_ne_outOfFuel 1 0 awaiting g (hpass g)) none self
  have hdoes : Does (⟨self, none⟩ : MultiAgentTracking nearConfig (Fin 4) Unit)
      (.reset 2 none observations) ⟨e, none⟩ := .reset (bind_eq_ok.mpr ⟨_, hreset, rfl⟩)
  exact ⟨_, _, _, bind_eq_ok.mpr ⟨_, hinit, rfl⟩, Run.single hdoes, List.cons_ne_nil _ _⟩

/-- Whatever its viewing angle is, the camera ends up with half of its area of vision. -/
theorem near_zoomed_out {G : Type} {c : Camera nearConfig.cameraParams G} (h : c.Zoomed) :
    (c.simulate (nearCamera.continuous zoomOut)).viewingAngle = 180
      ∧ (c.simulate (nearCamera.continuous zoomOut)).sightRange ^ 2 = 1 / 2 := by
  have hgrid : (nearCamera.normalizedActionGrid zoomOut).im = 1 := by
    show linspaceAt (-1) 1 (3 - 1) (7 / 3) = 1
    norm_num [linspaceAt]
  have hge : (90 : ℝ) ≤ c.viewingAngle := by
    have hmin : ((90 : ℚ) : ℝ) ≤ c.viewingAngle := h.viewingAngle_ge
    exact_mod_cast hmin
  have hview : (c.simulate (nearCamera.continuous zoomOut)).viewingAngle = 180 := by
    rw [(c.simulate_continuous zoomOut).2, hgrid]
    show min (max (c.viewingAngle + ((90 : ℚ) : ℝ) * 1) _) ((180 : ℚ) : ℝ) = 180
    rw [min_eq_right]
    · norm_num
    · refine le_max_of_le_left ?_
      push_cast
      linarith
  refine ⟨hview, ?_⟩
  have harea := (h.simulate (nearCamera.continuous zoomOut)).area
  rw [hview] at harea
  have hproduct : ((Camera.areaProduct nearConfig.cameraParams : ℚ) : ℝ) = 90 := by
    have : Camera.areaProduct nearConfig.cameraParams = 90 := by decide +kernel
    rw [this]
    norm_num
  rw [hproduct] at harea
  linarith

end Env

/-! ## The priors -/

section

variable {cfg : Config} {G V : Type} [RandomState G] [SetOrder]

namespace MultiAgentTracking

/-- **The priors score the poses of the simulator**, after any history and with the constants of the
environment: where no floor is in the way, both functions score an action of a camera by the pose
that the camera has after it. Of the targets, those that carry a cargo count, if only those are to
count. -/
theorem priors_score_simulated {memory : Memory V} {start e : MultiAgentTracking cfg G V}
    {history : List (Method cfg V)} (hstart : init cfg memory = .ok start)
    (hrun : Run Does start history e) (w : DiscreteCamera cfg) (config : ActionBias) :
    (∃ normalized, normalizeObservation e.state.1 (stateSpace cfg) = .ok normalized ∧
      ∀ requireEta, (requireEta = true → 0 < config.eta) →
        focusActionQBias (some normalized) (some (config.forEnv cfg)) cfg.numCameras
            (w.levels * w.levels) requireEta
          = .ok (some (List.ofFn (fun c => actionBias (config.forEnv cfg) w.levels (e.cameras c).fov
              (e.toEnv.poseScore (config.forEnv cfg) c))))) ∧
    (∀ c, ∃ obs, (⟨true, true⟩ : Preprocessing).apply (e.toEnv.jointObservation.1.camera c) .camera
        cfg.numCameras cfg.numTargets cfg.numObstacles = .ok obs ∧
      ∀ targetPos targetMask, (∀ mask, targetMask = some mask → mask.length = targetPos.length) →
        focusActionBiasFromLocalTargets (some obs) (some targetPos) (config.forEnv cfg)
            (w.levels * w.levels) targetMask
          = .ok (some (actionBias (config.forEnv cfg) w.levels (e.cameras c).fov
              (localScore (config.forEnv cfg) (e.cameras c).location targetPos targetMask)))) ∧
    ∀ (jointAction : List ℤ) (h : w.Contains jointAction)
        (targetJointAction : Fin cfg.numTargets → ℂ),
      w.action (jointAction, targetJointAction)
        = .ok (fun c => w.continuous (h.row c), targetJointAction) ∧
      ∀ c, (scoredPose (config.forEnv cfg) (e.cameras c).fov (w.normalizedActionGrid (h.row c))).Follows
        (e.cameras c) ((e.cameras c).simulate (w.continuous (h.row c))) := by
  have hposed := run_posed hstart hrun
  have hsight := hposed.decodable.sighted.cameras
  obtain ⟨total, hconsistent⟩ := hposed.consistent
  refine ⟨⟨_, hposed.decodable.normalizeObservation_state, fun requireEta heta =>
    hconsistent.focusActionQBias_eq hsight w config heta⟩, fun c => ?_, fun jointAction h b => ?_⟩
  · have hentities : 0 < cfg.numCameras + cfg.numTargets + cfg.numObstacles := by
      have := w.numCameras_pos
      omega
    exact ⟨_, Preprocessing.apply_eq_ok _ hentities
      (Env.length_camera_row hposed.decodable.obstacleRows c), fun targetPos targetMask hmask =>
        Env.focusActionBiasFromLocalTargets_eq (hsight c) w.levels _ targetPos hmask⟩
  · exact ⟨dif_pos h, fun c => scoredPose_follows (hposed.zoomed.cameras c) config (h.row c)⟩

end MultiAgentTracking

end

namespace Env

open MultiAgentTracking in
/-- The near environment after a reset, with the default options and without an `eta`. -/
theorem near_priors :
    letI := rotating
    letI := SetOrder.increasing
    ∃ (start e : MultiAgentTracking nearConfig (Fin 4) Unit) (history : List (Method nearConfig Unit))
      (normalized : List ℝ) (bias : List (List ℝ)),
      Run Does start history e ∧ history ≠ []
        ∧ normalizeObservation e.state.1 (stateSpace nearConfig) = .ok normalized
        ∧ focusActionQBias (some normalized) (some (({ } : ActionBias).forEnv nearConfig)) 1 9 false
          = .ok (some bias) := by
  let _ := rotating
  let _ := SetOrder.increasing
  obtain ⟨start, e, history, hstart, hrun, hne⟩ := exists_near
  obtain ⟨⟨normalized, hnormalized, hbias⟩, -⟩ :=
    priors_score_simulated hstart hrun nearCamera { }
  exact ⟨_, _, _, normalized, _, hrun, hne, hnormalized,
    hbias false (fun htrue => absurd htrue (by decide))⟩

open MultiAgentTracking in
/-- **The camera is scored with the wrong sight range**: after zooming out it sees less than one far,
and is scored as if it saw as far as one. -/
theorem near_camera_misscored :
    letI := rotating
    letI := SetOrder.increasing
    ∃ (start e : MultiAgentTracking nearConfig (Fin 4) Unit) (history : List (Method nearConfig Unit))
      (c : Fin nearConfig.numCameras),
      MultiAgentTracking.init nearConfig ⟨0, fun _ => ()⟩ = .ok start ∧ Run Does start history e
        ∧ history ≠ [] ∧ ∀ config : ActionBias,
          (scoredPose (config.forEnv nearConfig) (e.cameras c).fov
              (nearCamera.normalizedActionGrid zoomOut)).nextRange = 1
            ∧ ((e.cameras c).simulate (nearCamera.continuous zoomOut)).sightRange ^ 2 = 1 / 2
            ∧ ¬ (scoredPose (config.forEnv nearConfig) (e.cameras c).fov
                (nearCamera.normalizedActionGrid zoomOut)).Of (e.cameras c)
              ((e.cameras c).simulate (nearCamera.continuous zoomOut)) := by
  let _ := rotating
  let _ := SetOrder.increasing
  obtain ⟨start, e, history, hstart, hrun, hne⟩ := exists_near
  let c : Fin nearConfig.numCameras := ⟨0, Nat.one_pos⟩
  have hzoomed := (run_posed hstart hrun).zoomed.cameras c
  obtain ⟨hview, hsight⟩ := near_zoomed_out hzoomed
  refine ⟨start, e, history, c, hstart, hrun, hne, fun config => ?_⟩
  have hscored : (scoredPose (config.forEnv nearConfig) (e.cameras c).fov
      (nearCamera.normalizedActionGrid zoomOut)).nextRange = 1 := by
    show min (max _ 1) (((1 : ℚ) : ℝ)) = 1
    rw [Rat.cast_one]
    exact min_eq_right (le_max_right _ _)
  refine ⟨hscored, hsight, fun hof => ?_⟩
  have hle := hof.sightRange_le
  rw [hscored, hsight, hview, Real.one_le_sqrt] at hle
  have hmax := hzoomed.viewingAngle_le
  norm_num [MAX_CAMERA_VIEWING_ANGLE] at hmax
  linarith

end Env

end Mate
