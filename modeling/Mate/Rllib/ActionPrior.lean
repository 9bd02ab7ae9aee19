import Mate.Rllib.ActionCredit
import Mate.Rllib.FocusState
import Mate.Wrappers.DiscreteActions

set_option autoImplicit false

/-! # The geometry prior of the FOCUS learners

`focus_action_q_bias` decodes the cameras and the targets from the normalized state,
`focus_action_bias_from_local_targets` decodes a camera from its own observation and is given the
targets. Both score every discrete action by the pose that it is thought to lead to. They are written
for batches; what follows is for one state and one observation. Of the action values they only read
shapes.
-/

namespace Mate.Rllib.Focus

open Nets

/-- The entries of a `focus_config` that begin with `action_bias_`, and the number of targets. -/
structure ActionBias where
  eta : ℝ := 0
  nTargets : ℕ := 8
  rotationStep : ℝ := 5
  zoomingStep : ℝ := 5 / 2
  minViewingAngle : ℝ := 30
  maxViewingAngle : ℝ := 180
  maxSightRange : ℝ := 1500
  angularTemp : ℝ := 18 / 100
  rangeTemp : ℝ := 150
  realOnly : Bool := true
  clip : ℝ := 3

/-- `int(round(n_actions ** 0.5))`. -/
noncomputable def levelsOf (nActions : ℕ) : ℕ := (round √(nActions : ℝ)).toNat

/-! ## What is decoded -/

/-- `_extract_focus_camera_fov`, a copy of `_extract_camera_fov`. -/
noncomputable def extractFocusCameraFov (state : List ℝ) (nAgents : ℕ) :
    Except Error (List CameraFov) :=
  extractCameraFov state nAgents

/-- `_extract_focus_target_positions`, a copy of `_extract_target_positions`. -/
noncomputable def extractFocusTargetPositions (state : List ℝ) (nAgents nTargets : ℕ) :
    Except Error (List ℂ) :=
  extractTargetPositions state nAgents nTargets

/-- `_local_camera_fov_from_obs`. -/
noncomputable def localCameraFovFromObs (obs : List ℝ) : Except Error CameraFov :=
  cameraFovAt obs PRESERVED_DIM

/-- `target_weight`. -/
noncomputable def targetWeights (state : List ℝ) (config : ActionBias) (nAgents : ℕ) :
    Except Error (List ℝ) :=
  if config.realOnly then do
    let targetStart := PRESERVED_DIM + nAgents * CAMERA_STATE_DIM_PRIVATE
    let weights ← (List.range config.nTargets).mapM (fun j : ℕ =>
      entry state (targetStart + j * TARGET_STATE_DIM_PRIVATE + 3))
    let weights ← stack weights
    return weights.map (Camera.clip 0 1)
  else return List.replicate config.nTargets 1

/-! ## Scores -/

/-- The pose in which an action is scored. The orientation and `nextHalf` are in radians. -/
structure ScoredPose where
  orient : ℝ
  nextAngle : ℝ
  nextRange : ℝ
  nextHalf : ℝ

/-- The pose of a camera after the action at a point of the grid. -/
noncomputable def scoredPose (config : ActionBias) (camera : CameraFov) (grid : ℂ) : ScoredPose :=
  let deltaOrient := grid.re * (config.rotationStep * Real.pi / 180)
  let ownRange := max camera.sightRange 1
  let ownHalf := max camera.halfAngle (1 / 1000)
  let currentAngle :=
    Camera.clip config.minViewingAngle config.maxViewingAngle (ownHalf * 2 * 180 / Real.pi)
  let nextAngle := Camera.clip config.minViewingAngle config.maxViewingAngle
    (currentAngle + grid.im * config.zoomingStep)
  let areaProduct := ownRange ^ 2 * currentAngle
  { orient := camera.orientation + deltaOrient
    nextAngle
    nextRange := Camera.clip 1 config.maxSightRange √(areaProduct / max nextAngle (1 / 1000))
    nextHalf := nextAngle * (Real.pi / 180) / 2 }

/-- `angular_score * range_score` of a target. -/
noncomputable def targetScore (config : ActionBias) (position : ℂ) (pose : ScoredPose) (target : ℂ) :
    ℝ :=
  let rel := target - position
  let dist := √(rel.re ^ 2 + rel.im ^ 2 + 1 / 10 ^ 8)
  let delta := Complex.arg rel - pose.orient
  let angleDelta := |Complex.arg ⟨Real.cos delta, Real.sin delta⟩|
  Real.sigmoid ((pose.nextHalf - angleDelta) / config.angularTemp)
    * Real.sigmoid ((pose.nextRange - dist) / config.rangeTemp)

/-- The prior of a camera over its actions, from the scores of their poses. -/
noncomputable def actionBias (config : ActionBias) (levels : ℕ) (camera : CameraFov)
    (score : ScoredPose → ℝ) : List ℝ :=
  List.ofFn (fun k => Camera.clip (-config.clip) config.clip
    (standardize (fun k => score (scoredPose config camera (uniformGrid levels k))) (1 / 10 ^ 4) k))

/-! ## Priors -/

/-- `focus_action_q_bias`, for `n_agents` cameras. A `focus_config` that is empty is none. -/
noncomputable def focusActionQBias (state : Option (List ℝ)) (focusConfig : Option ActionBias)
    (nAgents nActions : ℕ) (requireEta : Bool) : Except Error (Option (List (List ℝ))) :=
  match state, focusConfig with
  | some state, some config =>
      let levels := levelsOf nActions
      let requiredDim := PRESERVED_DIM + nAgents * CAMERA_STATE_DIM_PRIVATE
        + config.nTargets * TARGET_STATE_DIM_PRIVATE
      -- an inactive bias, actions that are no grid, or a state that is too short
      if requireEta = true ∧ config.eta ≤ 0 then .ok none
      else if levels * levels ≠ nActions then .ok none
      else if state.length < requiredDim then .ok none
      else do
        let cameras ← extractFocusCameraFov state nAgents
        let targets ← extractFocusTargetPositions state nAgents config.nTargets
        let weights ← targetWeights state config nAgents
        return some (cameras.map (fun camera => actionBias config levels camera (fun pose =>
          (List.zipWith (fun target weight => targetScore config camera.position pose target * weight)
            targets weights).sum)))
  | _, _ => .ok none

/-- The score of a pose for targets that are given. Without a mask every target counts; a masked score
is divided by the number of the targets that count. -/
noncomputable def localScore (config : ActionBias) (position : ℂ) (targetPos : List ℂ)
    (targetMask : Option (List Bool)) (pose : ScoredPose) : ℝ :=
  let perTarget := targetPos.map (targetScore config position pose)
  match targetMask with
  | some mask =>
      let mask := mask.map (fun seen => if seen then (1 : ℝ) else 0)
      (List.zipWith (· * ·) perTarget mask).sum / max mask.sum 1
  | none => perTarget.sum

/-- `focus_action_bias_from_local_targets`. -/
noncomputable def focusActionBiasFromLocalTargets (obs : Option (List ℝ))
    (targetPos : Option (List ℂ)) (config : ActionBias) (nActions : ℕ)
    (targetMask : Option (List Bool)) : Except Error (Option (List ℝ)) :=
  match obs, targetPos with
  | some obs, some targetPos =>
      let levels := levelsOf nActions
      if levels * levels ≠ nActions then .ok none
      else if ∃ mask, targetMask = some mask ∧ mask.length ≠ targetPos.length then .ok none
      else do
        let camera ← localCameraFovFromObs obs
        return some (actionBias config levels camera
          (localScore config camera.position targetPos targetMask))
  | _, _ => .ok none

end Mate.Rllib.Focus
