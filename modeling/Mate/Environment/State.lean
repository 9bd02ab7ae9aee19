import Mate.Entities.Target
import Mate.Environment.Cargo
import Mate.Environment.Messages

set_option autoImplicit false

/-! # The state of an environment, and what its entities see

The lists of entities are kept by their current positions. `cameras_ordered` and the like hold
the same objects, so a permutation says where they are. The rows of a two-dimensional array
are kept apart, so that an array with no rows or no columns needs no case of its own.
-/

namespace Mate

/-- The constants of the cameras; without a section `camera` there are none. -/
def Config.cameraParams (cfg : Config) : CameraConfig :=
  cfg.camera.getD
    { placement := ⟨[], []⟩
      radius := ⟨40, Positive.forty_pos⟩
      minViewingAngle := ⟨90, Positive.ninety_pos⟩
      maxSightRange := ⟨500, Positive.fiveHundred_pos⟩
      rotationStep := ⟨5, Positive.five_pos⟩
      zoomingStep := ⟨5 / 2, Positive.five_halves_pos⟩ }

/-- A joint observation: the rows of the cameras and of the targets. -/
structure Observations (cfg : Config) where
  camera : Fin cfg.numCameras → List ℝ
  target : Fin cfg.numTargets → List ℝ

structure Env (cfg : Config) (G V : Type) where
  rng : G
  /-- The generator of the box that the radii of all obstacles are drawn from. -/
  radiusRng : G
  cameras : Fin cfg.numCameras → Camera cfg.cameraParams G
  targets : Fin cfg.numTargets → Target cfg.target G
  obstacles : Fin cfg.numObstacles → Obstacle G
  /-- `cameras[i]` is `cameras_ordered[cameraOrder i]`. -/
  cameraOrder : Equiv.Perm (Fin cfg.numCameras)
  targetOrder : Equiv.Perm (Fin cfg.numTargets)
  obstacleOrder : Equiv.Perm (Fin cfg.numObstacles)
  cameraTargetViewMask : Fin cfg.numCameras → Fin cfg.numTargets → Bool
  targetCameraViewMask : Fin cfg.numTargets → Fin cfg.numCameras → Bool
  cameraObstacleViewMask : Fin cfg.numCameras → Fin cfg.numObstacles → Bool
  targetObstacleViewMask : Fin cfg.numTargets → Fin cfg.numObstacles → Bool
  cameraCameraViewMask : Fin cfg.numCameras → Fin cfg.numCameras → Bool
  targetTargetViewMask : Fin cfg.numTargets → Fin cfg.numTargets → Bool
  trackedBits : Fin cfg.numTargets → Bool
  obstacleStatesFlagged : Fin cfg.numObstacles → List ℝ
  cameraObstacleObservations : Fin cfg.numCameras → Fin cfg.numObstacles → List ℝ
  cargo : Cargo cfg.numTargets
  targetWarehouseDistances : Fin cfg.numTargets → Warehouse → ℝ
  targetOrientations : Fin cfg.numTargets → ℝ
  targetTeamEpisodeReward : ℤ
  delayedTargetTeamEpisodeReward : ℤ
  coverageRate : ℚ
  realCoverageRate : ℚ
  meanTransportRate : ℚ
  episodeStep : ℕ
  mail : Mail cfg V

namespace Env

theorem stepSize_pos {cfg : Config} {G V : Type} (self : Env cfg G V) (t : Fin cfg.numTargets) :
    0 < (self.targets t).stepSize := (self.targets t).stepSize_pos

variable {cfg : Config} {G V : Type} [RandomState G]

/-! ## Where the targets are -/

/-- `supremum <= consts.WAREHOUSE_RADIUS`. -/
noncomputable def inWarehouse (location : ℂ) (w : Warehouse) : Bool :=
  let direction := location - warehouseLocation w
  decide (max |direction.re| |direction.im| ≤ (WAREHOUSE_RADIUS : ℚ))

noncomputable def inside (self : Env cfg G V) (t : Fin cfg.numTargets) (w : Warehouse) : Bool :=
  inWarehouse (self.targets t).location w

/-- The distances that `_assign_goals` stores. -/
noncomputable def measureDistances (self : Env cfg G V) : Env cfg G V :=
  { self with
    targetWarehouseDistances := fun t w => ‖(self.targets t).location - warehouseLocation w‖ }

/-! ## Views -/

/-- One call of `camera.perceive`, for the camera `c` of an array of cameras. -/
noncomputable def lookAt (cameras : Fin cfg.numCameras → Camera cfg.cameraParams G)
    (c : Fin cfg.numCameras) (location : ℂ) (transmittance : ℝ) :
    Except Error (Bool × (Fin cfg.numCameras → Camera cfg.cameraParams G)) := do
  let (seen, camera) ← (cameras c).perceive location transmittance
  return (seen, Function.update cameras c camera)

/-- `mask[i, j] = value`. -/
def setMask {m n : ℕ} (mask : Fin m → Fin n → Bool) (i : Fin m) (j : Fin n) (value : Bool) :
    Fin m → Fin n → Bool :=
  Function.update mask i (Function.update (mask i) j value)

/-- The cameras look at the targets. -/
noncomputable def lookAtTargets (self : Env cfg G V) : Except Error (Env cfg G V) :=
  let pairs := (List.finRange cfg.numTargets).flatMap
    (fun t => (List.finRange cfg.numCameras).map (fun c => (t, c)))
  pairs.foldlM
    (fun self (t, c) => do
      let (seen, cameras) ←
        lookAt self.cameras c (self.targets t).location (cfg.obstacleTransmittance : ℚ)
      return { self with
        cameras
        cameraTargetViewMask := setMask self.cameraTargetViewMask c t seen })
    { self with cameraTargetViewMask := fun _ _ => false }

/-- The cameras look at each other. -/
noncomputable def lookAtCameras (self : Env cfg G V) : Except Error (Env cfg G V) :=
  let pairs := (List.finRange cfg.numCameras).flatMap
    (fun c => (List.finRange cfg.numCameras).map (fun other => (c, other)))
  pairs.foldlM
    (fun self (c, other) =>
      if c = other then
        .ok { self with cameraCameraViewMask := setMask self.cameraCameraViewMask c c true }
      else do
        let (seen, cameras) ← lookAt self.cameras c (self.cameras other).location 0
        return { self with
          cameras
          cameraCameraViewMask := setMask self.cameraCameraViewMask c other seen })
    { self with cameraCameraViewMask := fun _ _ => false }

/-- What the targets see; nothing is in the way of a target. -/
noncomputable def lookAround (self : Env cfg G V) : Env cfg G V :=
  { self with
    targetCameraViewMask := fun t c =>
      (self.targets t).perceive (self.cameras c).location (cfg.cameraParams.radius : ℚ)
    targetObstacleViewMask := fun t o =>
      (self.targets t).perceive (self.obstacles o).location (self.obstacles o).radius
    targetTargetViewMask := fun t other =>
      decide (t = other) || (self.targets t).perceive (self.targets other).location TARGET_RADIUS }

/-- `_update_view`. -/
noncomputable def updateView (self : Env cfg G V) : Except Error (Env cfg G V) := do
  let self ← self.lookAtTargets
  let self ← self.lookAround.lookAtCameras
  return { self with
    trackedBits := fun t => decide (∃ c, self.cameraTargetViewMask c t = true) }

/-! ## Motion -/

/-- `_simulate`, where the class attributes of `Target` are `reg`. -/
noncomputable def simulate [SetOrder] (reg : Registry) (self : Env cfg G V)
    (cameraJointAction : Fin cfg.numCameras → ℝ × ℝ) (targetJointAction : Fin cfg.numTargets → ℂ) :
    Except Error (Env cfg G V) :=
  let targets := fun t => (self.targets t).simulate reg (targetJointAction t)
  updateView
    { self with
      cameras := fun c => (self.cameras c).simulate (cameraJointAction c)
      targets
      targetOrientations := fun t =>
        let moved := (targets t).location - (self.targets t).location
        if moved ≠ 0 then arctan2Deg moved else self.targetOrientations t }

/-! ## Observations -/

/-- `preserved_data`. -/
noncomputable def preservedData (cfg : Config) : List ℝ :=
  [(cfg.numCameras : ℝ), (cfg.numTargets : ℝ), (cfg.numObstacles : ℝ), 0]
    ++ (List.finRange NUM_WAREHOUSES).flatMap
        (fun w => [((WAREHOUSES w).1 : ℝ), ((WAREHOUSES w).2 : ℝ)])
    ++ [(WAREHOUSE_RADIUS : ℝ)]

/-- A state with the flag of its presence. -/
def flagged (state : List ℝ) : List ℝ := state ++ [1]

/-- A row of `np.where(mask, rows, 0.0)`. -/
def whereMask (mask : Bool) (row : List ℝ) : List ℝ :=
  if mask then row else List.replicate row.length 0

noncomputable def cameraStatePublic (self : Env cfg G V) (c : Fin cfg.numCameras) : List ℝ :=
  (self.cameras c).statePublic

noncomputable def targetStatePublic (self : Env cfg G V) (t : Fin cfg.numTargets) : List ℝ :=
  (self.targets t).statePublic (self.cargo.goalBits t)

noncomputable def targetStatePrivate (self : Env cfg G V) (t : Fin cfg.numTargets) : List ℝ :=
  (self.targets t).statePrivate (self.cargo.goalBits t) (self.cargo.emptyBits t)

/-- The rows of an array one after the other, as `ravel` has them. -/
def ravel {n : ℕ} (rows : Fin n → List ℝ) : List ℝ := (List.finRange n).flatMap rows

/-- The row of a camera, before the index of the agent is set. -/
noncomputable def cameraObservation (self : Env cfg G V) (c : Fin cfg.numCameras) : List ℝ :=
  preservedData cfg ++ (self.cameras c).statePrivate
    ++ ravel (fun t => whereMask (self.cameraTargetViewMask c t) (flagged (self.targetStatePublic t)))
    ++ ravel (self.cameraObstacleObservations c)
    ++ ravel (fun other =>
        whereMask (self.cameraCameraViewMask c other) (flagged (self.cameraStatePublic other)))

/-- The row of a target, before the index of the agent is set. -/
noncomputable def targetObservation (self : Env cfg G V) (t : Fin cfg.numTargets) : List ℝ :=
  preservedData cfg ++ self.targetStatePrivate t
    ++ ravel (fun c => whereMask (self.targetCameraViewMask t c) (flagged (self.cameraStatePublic c)))
    ++ ravel (fun o => whereMask (self.targetObstacleViewMask t o) (self.obstacleStatesFlagged o))
    ++ ravel (fun other =>
        whereMask (self.targetTargetViewMask t other) (flagged (self.targetStatePublic other)))

/-- The arrays `joint_observation` returns. -/
noncomputable def observe (self : Env cfg G V) : Observations cfg where
  camera c := (self.cameraObservation c).set 3 (c : ℕ)
  target t := (self.targetObservation t).set 3 (t : ℕ)

/-- The rates `joint_observation` computes on its way. -/
def updateRates (self : Env cfg G V) : Env cfg G V :=
  let withBounty := fun t => decide (0 < self.cargo.bounties t)
  let numWithBounty := ∑ t, if withBounty t then 1 else 0
  let numTracked := ∑ t, if self.trackedBits t then 1 else 0
  let numTrackedWithBounty := ∑ t, if self.trackedBits t && withBounty t then 1 else 0
  { self with
    coverageRate := numTracked / cfg.numTargets
    realCoverageRate := if 0 < numWithBounty then numTrackedWithBounty / numWithBounty else 0
    meanTransportRate :=
      if 0 < self.cargo.numDeliveredCargoes then
        self.delayedTargetTeamEpisodeReward / (cfg.rewardScale * self.cargo.numDeliveredCargoes)
      else 0 }

/-- `joint_observation`. -/
noncomputable def jointObservation (self : Env cfg G V) : Observations cfg × Env cfg G V :=
  (self.observe, self.updateRates)

end Env

end Mate
