import Mate.Utils
import Mathlib.Data.Rat.Floor
import Mathlib.Tactic

set_option autoImplicit false

/-! # The configuration

`RawConfig` is the mapping a user gives, with every key optional; `Config` is what
`validate_config` leaves of it, with the defaults filled in and the checks kept as proofs.
Every `Config` is accepted (`validateConfig_toRaw`), so a statement about every `Config` is one
about every accepted configuration. Numbers are exact rationals.
-/

namespace Mate

/-- A `spaces.Box` of locations. -/
structure Box where
  low : ℚ × ℚ
  high : ℚ × ℚ

/-- Where the entities of one kind are: at fixed locations, or anywhere in a box. -/
structure Placement where
  location : List (ℚ × ℚ)
  locationRandomRange : List Box

/-- The box of every entity, those at fixed locations first. -/
def Placement.boxes (p : Placement) : List Box :=
  p.location.map (fun z => ⟨z, z⟩) ++ p.locationRandomRange

abbrev Positive := {q : ℚ // 0 < q}

/-! ### Sizes that occur in a configuration -/

namespace Positive

theorem one_pos : (0 : ℚ) < 1 := by norm_num
theorem five_halves_pos : (0 : ℚ) < 5 / 2 := by norm_num
theorem five_pos : (0 : ℚ) < 5 := by norm_num
theorem ten_pos : (0 : ℚ) < 10 := by norm_num
theorem forty_pos : (0 : ℚ) < 40 := by norm_num
theorem ninety_pos : (0 : ℚ) < 90 := by norm_num
theorem oneEighty_pos : (0 : ℚ) < 180 := by norm_num
theorem threeSixty_pos : (0 : ℚ) < 360 := by norm_num
theorem fiveHundred_pos : (0 : ℚ) < 500 := by norm_num
theorem threeThousand_pos : (0 : ℚ) < 3000 := by norm_num
theorem fourThousand_pos : (0 : ℚ) < 4000 := by norm_num

end Positive

/-! ## Raw configurations -/

structure RawCamera where
  placement : Placement
  radius : Option ℚ
  minViewingAngle : Option ℚ
  maxSightRange : Option ℚ
  rotationStep : Option ℚ
  zoomingStep : Option ℚ

structure RawTarget where
  placement : Placement
  sightRange : Option ℚ
  stepSize : Option ℚ

/-- The section `obstacle`, which `validate_config` does not look into. -/
structure ObstacleConfig where
  placement : Placement
  radius : Option ℚ
  radiusRandomRange : Option (ℚ × ℚ)
  transmittance : Option ℚ

structure RawConfig where
  maxEpisodeSteps : Option ℤ
  rewardType : Option String
  target : Option RawTarget
  numCargoesPerTarget : Option ℤ
  highCapacityTargetSplit : Option ℚ
  targetsStartWithCargoes : Option Bool
  bountyFactor : Option ℚ
  shuffleEntities : Option Bool
  camera : Option RawCamera
  obstacle : Option ObstacleConfig

/-! ## Validated configurations -/

inductive RewardType
  | dense
  | sparse
  deriving DecidableEq

structure CameraConfig where
  placement : Placement
  radius : Positive
  minViewingAngle : Positive
  maxSightRange : Positive
  rotationStep : Positive
  zoomingStep : Positive

structure TargetConfig where
  placement : Placement
  sightRange : Positive
  stepSize : Positive

structure Config where
  maxEpisodeSteps : ℕ
  rewardType : RewardType
  target : TargetConfig
  numCargoesPerTarget : ℕ
  highCapacityTargetSplit : ℚ
  targetsStartWithCargoes : Bool
  bountyFactor : ℚ
  shuffleEntities : Bool
  /-- `none` when the section is missing; there are no cameras then. -/
  camera : Option CameraConfig
  obstacle : Option ObstacleConfig
  maxEpisodeSteps_pos : 0 < maxEpisodeSteps
  numTargets_pos : 0 < target.placement.boxes.length
  le_numCargoesPerTarget : NUM_WAREHOUSES ≤ numCargoesPerTarget
  split_nonneg : 0 ≤ highCapacityTargetSplit
  split_le_one : highCapacityTargetSplit ≤ 1
  bountyFactor_nonneg : 0 ≤ bountyFactor

def RewardType.ofString? : String → Option RewardType
  | "dense" => some .dense
  | "sparse" => some .sparse
  | _ => none

def RewardType.toString : RewardType → String
  | .dense => "dense"
  | .sparse => "sparse"

/-! ## Validation -/

/-- One round of the loop over `Entity.DEFAULTS`: fill in the default, then check the sign. -/
def positiveKey (key : String) (default : Positive) (value : Option ℚ) : Except Error Positive :=
  match value with
  | none => .ok default
  | some q =>
      if h : 0 < q then .ok ⟨q, h⟩
      else .error (.valueError ("`" ++ key ++ "` must be a positive number."))

def validateCamera (raw : RawCamera) : Except Error CameraConfig := do
  let radius ← positiveKey "camera/radius" ⟨40, Positive.forty_pos⟩ raw.radius
  let minViewingAngle ←
    positiveKey "camera/min_viewing_angle" ⟨90, Positive.ninety_pos⟩ raw.minViewingAngle
  let maxSightRange ←
    positiveKey "camera/max_sight_range" ⟨500, Positive.fiveHundred_pos⟩ raw.maxSightRange
  let rotationStep ← positiveKey "camera/rotation_step" ⟨5, Positive.five_pos⟩ raw.rotationStep
  let zoomingStep ←
    positiveKey "camera/zooming_step" ⟨5 / 2, Positive.five_halves_pos⟩ raw.zoomingStep
  return { placement := raw.placement, radius, minViewingAngle, maxSightRange, rotationStep,
           zoomingStep }

def validateTarget (raw : RawTarget) : Except Error TargetConfig := do
  let sightRange ← positiveKey "target/sight_range" ⟨500, Positive.fiveHundred_pos⟩ raw.sightRange
  let stepSize ← positiveKey "target/step_size" ⟨10, Positive.ten_pos⟩ raw.stepSize
  return { placement := raw.placement, sightRange, stepSize }

/-- The loop over `(Camera, Target)` for the section `camera`, which may be missing. -/
def validateCamera? : Option RawCamera → Except Error (Option CameraConfig)
  | none => .ok none
  | some raw => do
      let camera ← validateCamera raw
      return some camera

theorem validateTarget_placement {raw : RawTarget} {target : TargetConfig}
    (h : validateTarget raw = .ok target) : target.placement = raw.placement := by
  unfold validateTarget at h
  cases h₁ : positiveKey "target/sight_range" ⟨500, by norm_num⟩ raw.sightRange with
  | error e => rw [h₁] at h; cases h
  | ok sightRange =>
      cases h₂ : positiveKey "target/step_size" ⟨10, by norm_num⟩ raw.stepSize with
      | error e => rw [h₁, h₂] at h; cases h
      | ok stepSize =>
          rw [h₁, h₂] at h
          cases h
          rfl

/-- `validate_config`: the first check that fails raises. -/
def validateConfig (raw : RawConfig) : Except Error Config :=
  let maxEpisodeSteps := raw.maxEpisodeSteps.getD 10000
  if hsteps : maxEpisodeSteps ≤ 0 then
    .error (.valueError "`max_episode_steps` must be a positive integer.")
  else
  let rewardName := raw.rewardType.getD "dense"
  match RewardType.ofString? rewardName with
  | none => .error (.valueError ("Invalid reward type " ++ rewardName ++ "."))
  | some rewardType =>
  -- the cameras and the obstacles may be missing, the targets may not
  match raw.target with
  | none =>
      .error (.valueError
        "Missing key \"target\". There must be at least one target in the environment.")
  | some rawTarget =>
  if hnum : rawTarget.placement.boxes.length = 0 then
    .error (.valueError "There must be at least one target in the environment.")
  else
  match raw.numCargoesPerTarget with
  | none => .error (.valueError "Missing key \"num_cargoes_per_target\".")
  | some numCargoesPerTarget =>
  if hcargo : numCargoesPerTarget < NUM_WAREHOUSES then
    .error (.valueError "`num_cargoes_per_target` should be no less than 4.")
  else
  let split := raw.highCapacityTargetSplit.getD (1 / 2)
  if hsplit : ¬ (0 ≤ split ∧ split ≤ 1) then
    .error (.valueError "`high_capacity_target_split` must be between 0 and 1.")
  else
  let bountyFactor := raw.bountyFactor.getD 1
  if hbounty : ¬ 0 ≤ bountyFactor then
    .error (.valueError "`bounty_factor` must be a non-negative number.")
  else
  match validateCamera? raw.camera with
  | .error e => .error e
  | .ok camera =>
  match htarget : validateTarget rawTarget with
  | .error e => .error e
  | .ok target =>
    .ok
      { maxEpisodeSteps := maxEpisodeSteps.toNat
        rewardType
        target
        numCargoesPerTarget := numCargoesPerTarget.toNat
        highCapacityTargetSplit := split
        targetsStartWithCargoes := raw.targetsStartWithCargoes.getD true
        bountyFactor
        shuffleEntities := raw.shuffleEntities.getD true
        camera
        obstacle := raw.obstacle
        -- what the checks have let through
        maxEpisodeSteps_pos := by omega
        numTargets_pos := by
          rw [validateTarget_placement htarget]
          exact Nat.pos_of_ne_zero hnum
        le_numCargoesPerTarget := by
          have := Int.not_lt.mp hcargo
          omega
        split_nonneg := (not_not.mp hsplit).1
        split_le_one := (not_not.mp hsplit).2
        bountyFactor_nonneg := not_not.mp hbounty }

/-! ## Every validated configuration is accepted -/

def CameraConfig.toRaw (c : CameraConfig) : RawCamera where
  placement := c.placement
  radius := some c.radius
  minViewingAngle := some c.minViewingAngle
  maxSightRange := some c.maxSightRange
  rotationStep := some c.rotationStep
  zoomingStep := some c.zoomingStep

def TargetConfig.toRaw (c : TargetConfig) : RawTarget where
  placement := c.placement
  sightRange := some c.sightRange
  stepSize := some c.stepSize

def Config.toRaw (cfg : Config) : RawConfig where
  maxEpisodeSteps := some cfg.maxEpisodeSteps
  rewardType := some cfg.rewardType.toString
  target := some cfg.target.toRaw
  numCargoesPerTarget := some cfg.numCargoesPerTarget
  highCapacityTargetSplit := some cfg.highCapacityTargetSplit
  targetsStartWithCargoes := some cfg.targetsStartWithCargoes
  bountyFactor := some cfg.bountyFactor
  shuffleEntities := some cfg.shuffleEntities
  camera := cfg.camera.map CameraConfig.toRaw
  obstacle := cfg.obstacle

/-- A default is itself a value that passes the check of its key. -/
theorem positiveKey_some (key : String) (default q : Positive) :
    positiveKey key default (some q) = .ok q := by
  rw [positiveKey, dif_pos q.2]

theorem validateCamera_toRaw (c : CameraConfig) : validateCamera c.toRaw = .ok c := by
  simp only [validateCamera, CameraConfig.toRaw, positiveKey_some]
  rfl

theorem validateTarget_toRaw (c : TargetConfig) : validateTarget c.toRaw = .ok c := by
  simp only [validateTarget, TargetConfig.toRaw, positiveKey_some]
  rfl

theorem RewardType.ofString?_toString (r : RewardType) :
    RewardType.ofString? r.toString = some r := by
  cases r <;> rfl

/-- Validation changes nothing in a configuration that is already complete. -/
theorem validateConfig_toRaw (cfg : Config) : validateConfig cfg.toRaw = .ok cfg := by
  have hcamera : validateCamera? (cfg.camera.map CameraConfig.toRaw) = .ok cfg.camera := by
    cases cfg.camera with
    | none => rfl
    | some c =>
        show (validateCamera c.toRaw >>= fun camera => pure (some camera)) = _
        rw [validateCamera_toRaw]
        rfl
  have hsteps : ¬ (cfg.maxEpisodeSteps : ℤ) ≤ 0 := by
    have := cfg.maxEpisodeSteps_pos
    omega
  have hcargo : ¬ (cfg.numCargoesPerTarget : ℤ) < NUM_WAREHOUSES := by
    have := cfg.le_numCargoesPerTarget
    omega
  have hnum : ¬ cfg.target.toRaw.placement.boxes.length = 0 := cfg.numTargets_pos.ne'
  have hsplit : ¬ ¬ (0 ≤ cfg.highCapacityTargetSplit ∧ cfg.highCapacityTargetSplit ≤ 1) :=
    not_not.mpr ⟨cfg.split_nonneg, cfg.split_le_one⟩
  have hbounty : ¬ ¬ 0 ≤ cfg.bountyFactor := not_not.mpr cfg.bountyFactor_nonneg
  simp only [validateConfig, Config.toRaw, Option.getD_some, RewardType.ofString?_toString,
    dif_neg hsteps, dif_neg hcargo, dif_neg hnum, dif_neg hsplit, dif_neg hbounty, hcamera]
  split
  · rename_i e he
    rw [validateTarget_toRaw] at he
    cases he
  · rename_i target ht
    rw [validateTarget_toRaw] at ht
    cases ht
    cases cfg
    simp

/-! ## The numbers the environment derives from it -/

namespace Config

variable (cfg : Config)

def numCameras : ℕ := (cfg.camera.map (fun c => c.placement.boxes.length)).getD 0

def numTargets : ℕ := cfg.target.placement.boxes.length

def numObstacles : ℕ := (cfg.obstacle.map (fun o => o.placement.boxes.length)).getD 0

def numHighCapacityTargets : ℕ := ⌊cfg.numTargets * cfg.highCapacityTargetSplit⌋₊

/-- `np.ceil(consts.TERRAIN_WIDTH / self.target_step_size)`. -/
def freightScale : ℤ := ⌈TERRAIN_WIDTH / cfg.target.stepSize⌉

/-- `np.ceil(self.freight_scale * self.bounty_factor)`. -/
def bountyScale : ℤ := ⌈cfg.freightScale * cfg.bountyFactor⌉

def rewardScale : ℤ := cfg.freightScale + cfg.bountyScale

def maxTargetTeamEpisodeReward : ℤ :=
  cfg.rewardScale * cfg.numCargoesPerTarget * cfg.numTargets

/-- The transmittance of the obstacles, clamped to `[0, 1]`. -/
def obstacleTransmittance : ℚ :=
  min (max 0 ((cfg.obstacle.bind ObstacleConfig.transmittance).getD 0)) 1

theorem freightScale_pos : 0 < cfg.freightScale := by
  refine Int.ceil_pos.mpr (div_pos ?_ cfg.target.stepSize.2)
  norm_num [TERRAIN_WIDTH, TERRAIN_SIZE]

theorem bountyScale_nonneg : 0 ≤ cfg.bountyScale := by
  have h : (0 : ℚ) ≤ cfg.freightScale := by exact_mod_cast cfg.freightScale_pos.le
  exact Int.ceil_nonneg (mul_nonneg h cfg.bountyFactor_nonneg)

theorem rewardScale_pos : 0 < cfg.rewardScale :=
  add_pos_of_pos_of_nonneg cfg.freightScale_pos cfg.bountyScale_nonneg

theorem maxTargetTeamEpisodeReward_pos : 0 < cfg.maxTargetTeamEpisodeReward := by
  have hcargo : 0 < cfg.numCargoesPerTarget :=
    lt_of_lt_of_le (by decide) cfg.le_numCargoesPerTarget
  have htargets : 0 < cfg.numTargets := cfg.numTargets_pos
  exact mul_pos (mul_pos cfg.rewardScale_pos (by exact_mod_cast hcargo))
    (by exact_mod_cast htargets)

end Config

end Mate
