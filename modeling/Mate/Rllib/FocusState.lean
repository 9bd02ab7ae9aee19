import Mate.Utils
import Mathlib.Data.Fin.VecNotation

set_option autoImplicit false

/-! # What the FOCUS learner reads of a state

The learner decodes the normalized global state, and the observations of the cameras, with constants
of its own. It is written for batches; what follows is for one state and one observation.
-/

namespace Mate.Rllib.Focus

/-! ## Constants -/

def PRESERVED_DIM : ℕ := 13

def CAMERA_STATE_DIM_PRIVATE : ℕ := 9

def TARGET_STATE_DIM_PUBLIC : ℕ := 4

def TARGET_STATE_DIM_PRIVATE : ℕ := 14

def OBSTACLE_STATE_DIM : ℕ := 3

def CAM_LOW : Fin 9 → ℚ := ![-2000, -2000, 0, -2000, -2000, 0, 0, 0, 0]

def CAM_HIGH : Fin 9 → ℚ := ![2000, 2000, 1000, 2000, 2000, 180, 2000, 180, 180]

/-! ## Entries -/

/-- `state[:, :, k]`. -/
def entry (state : List ℝ) (k : ℕ) : Except Error ℝ :=
  match state[k]? with
  | some x => .ok x
  | none => .error (.indexError "index is out of bounds for dimension")

/-- `torch.stack` of what a loop has collected. -/
def stack {α : Type} (entries : List α) : Except Error (List α) :=
  if entries.isEmpty then .error (.runtimeError "stack expects a non-empty TensorList")
  else .ok entries

/-- `_denorm_camera`. -/
noncomputable def denormCamera (value : ℝ) (idx : Fin 9) : ℝ :=
  (value + 1) / 2 * ((CAM_HIGH idx : ℝ) - CAM_LOW idx) + CAM_LOW idx

/-- `(value + 1.0) / 2.0 * 4000.0 - 2000.0`. -/
noncomputable def toWorld (value : ℝ) : ℝ := (value + 1) / 2 * 4000 - 2000

/-! ## Entities -/

structure CameraFov where
  position : ℂ
  orientation : ℝ
  sightRange : ℝ
  halfAngle : ℝ

/-- The field of view of the camera whose private state begins at `start`. -/
noncomputable def cameraFovAt (state : List ℝ) (start : ℕ) : Except Error CameraFov := do
  let x ← entry state start
  let y ← entry state (start + 1)
  let vx ← entry state (start + 3)
  let vy ← entry state (start + 4)
  let va ← entry state (start + 5)
  let vx := denormCamera vx 3
  let vy := denormCamera vy 4
  return {
    position := ⟨denormCamera x 0, denormCamera y 1⟩
    orientation := Complex.arg ⟨vx, vy⟩
    sightRange := √(vx ^ 2 + vy ^ 2 + 1 / 10 ^ 8)
    halfAngle := denormCamera va 5 * (Real.pi / 180) / 2 }

/-- The location that begins at `start`. -/
noncomputable def locationAt (state : List ℝ) (start : ℕ) : Except Error ℂ := do
  let x ← entry state start
  let y ← entry state (start + 1)
  return ⟨toWorld x, toWorld y⟩

/-- `_extract_camera_fov`. -/
noncomputable def extractCameraFov (state : List ℝ) (nAgents : ℕ) :
    Except Error (List CameraFov) := do
  let fovs ← (List.range nAgents).mapM (fun i : ℕ =>
    cameraFovAt state (PRESERVED_DIM + i * CAMERA_STATE_DIM_PRIVATE))
  stack fovs

/-- `_extract_target_positions`. -/
noncomputable def extractTargetPositions (state : List ℝ) (nAgents nTargets : ℕ) :
    Except Error (List ℂ) := do
  let targetStart := PRESERVED_DIM + nAgents * CAMERA_STATE_DIM_PRIVATE
  let positions ← (List.range nTargets).mapM (fun j : ℕ =>
    locationAt state (targetStart + j * TARGET_STATE_DIM_PRIVATE))
  stack positions

/-- `_extract_obstacles`, as pairs of a position and a radius. -/
noncomputable def extractObstacles (state : List ℝ) (nAgents nTargets nObstacles : ℕ) :
    Except Error (List (ℂ × ℝ)) := do
  let obstacleStart := PRESERVED_DIM + nAgents * CAMERA_STATE_DIM_PRIVATE
    + nTargets * TARGET_STATE_DIM_PRIVATE
  let obstacles ← (List.range nObstacles).mapM (fun o : ℕ => do
    let start := obstacleStart + o * OBSTACLE_STATE_DIM
    let position ← locationAt state start
    let radius ← entry state (start + 2)
    return (position, (radius + 1) / 2 * 1000))
  stack obstacles

/-- `_local_visible_target_positions`, as pairs of a position and a mask. An observation that is too
short has none. -/
noncomputable def localVisibleTargetPositions (obs : List ℝ) (nTargets : ℕ) :
    Except Error (Option (List (ℂ × Bool))) := do
  let targetStart := PRESERVED_DIM + CAMERA_STATE_DIM_PRIVATE
  let targetBlock := TARGET_STATE_DIM_PUBLIC + 1
  if obs.length < targetStart + nTargets * targetBlock then return none
  else
    let camera ← cameraFovAt obs PRESERVED_DIM
    let targets ← (List.range nTargets).mapM (fun j : ℕ => do
      let start := targetStart + j * targetBlock
      let offset ← locationAt obs start
      let flag ← entry obs (start + TARGET_STATE_DIM_PUBLIC)
      return (camera.position + offset, decide (0 < flag)))
    let targets ← stack targets
    return some targets

end Mate.Rllib.Focus
