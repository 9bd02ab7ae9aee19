import Mate.Environment.State
import Mate.Spaces

set_option autoImplicit false

/-! # Stacks of wrappers

A wrapper caches some attributes in its constructor and looks all others up in what it wraps
(`gym.Wrapper.__getattr__`, and the properties `action_space` and `observation_space`).
`load_config` is a method of some wrappers only: they hand it on and run their constructors
again. The others forward the call like any attribute, and keep what they have cached.
-/

namespace Mate

/-! ## Spaces -/

/-- A space with its bounds. -/
inductive SpaceTree
  | box (low high : List (WithTop ℚ))
  | discrete (n : ℕ)
  | tuple (spaces : List SpaceTree)

/-- `space.spaces[i]`. -/
def SpaceTree.component : SpaceTree → ℕ → Except Error SpaceTree
  | .tuple spaces, i =>
      match spaces[i]? with
      | some space => .ok space
      | none => .error (.indexError "tuple index out of range")
  | _, _ => .error (.attributeError "object has no attribute 'spaces'")

/-- `spaces.Tuple(spaces=(space,) * n)`. -/
def SpaceTree.joint (space : SpaceTree) (n : ℕ) : SpaceTree := .tuple (List.replicate n space)

def Space.toTree (s : Space) : SpaceTree := .box (s.low.map (↑)) s.high

/-- One entry of `normalize_observation`, where `low` and `high` bound the entry. -/
def normalizeEntry (low : ℚ) (high x : WithTop ℚ) : WithTop ℚ :=
  match high with
  | ⊤ => x.map (· - low)
  | (high : ℚ) =>
      if low < high then x.map (fun x => 2 * (x - low) / (high - low) - 1) else x.map (· - low)

/-- `normalize_observation`, for a vector of the dimension of the space. -/
def Space.normalize (s : Space) (x : List (WithTop ℚ)) : List (WithTop ℚ) :=
  List.zipWith (fun (bounds : ℚ × WithTop ℚ) x => normalizeEntry bounds.1 bounds.2 x)
    (s.low.zip s.high) x

/-! ## The spaces of the environment -/

inductive SpaceKind
  | action
  | jointAction
  | observation
  | jointObservation
  deriving DecidableEq

/-- `action_space`, `observation_space`, and those of a team, such as
`camera_joint_observation_space`. -/
inductive SpaceName
  | actionSpace
  | observationSpace
  | of (team : Team) (kind : SpaceKind)
  deriving DecidableEq

namespace Config

/-- The cameras have the same steps; without cameras the bounds are zero. -/
def actionSpaceOf (cfg : Config) : Team → SpaceTree
  | .camera =>
      if cfg.numCameras = 0 then .box [0, 0] [0, 0]
      else
        let rotation : ℚ := cfg.cameraParams.rotationStep
        let zooming : ℚ := cfg.cameraParams.zoomingStep
        .box [((-rotation : ℚ) : WithTop ℚ), ((-zooming : ℚ) : WithTop ℚ)] [↑rotation, ↑zooming]
  | .target =>
      let step : ℚ := cfg.target.stepSize
      .box [((-step : ℚ) : WithTop ℚ), ((-step : ℚ) : WithTop ℚ)] [↑step, ↑step]

/-- `observation_space_of` for the numbers of the configuration. -/
def observationSpaceOf (cfg : Config) (team : Team) : Space :=
  Mate.observationSpaceOf team cfg.numCameras cfg.numTargets cfg.numObstacles

def space (cfg : Config) : SpaceName → SpaceTree
  | .actionSpace =>
      .tuple [(cfg.actionSpaceOf .camera).joint cfg.numCameras,
        (cfg.actionSpaceOf .target).joint cfg.numTargets]
  | .observationSpace =>
      .tuple [(cfg.observationSpaceOf .camera).toTree.joint cfg.numCameras,
        (cfg.observationSpaceOf .target).toTree.joint cfg.numTargets]
  | .of team .action => cfg.actionSpaceOf team
  | .of team .jointAction => (cfg.actionSpaceOf team).joint (cfg.teamSize team)
  | .of team .observation => (cfg.observationSpaceOf team).toTree
  | .of team .jointObservation => (cfg.observationSpaceOf team).toTree.joint (cfg.teamSize team)

end Config

/-! ## Wrapper classes -/

/-- `Literal['both', 'camera', 'target', 'none']`. -/
inductive Teams
  | both
  | camera
  | target
  | none

/-- A wrapper class and the arguments of its constructor, other than agents and functions. The
delay of `ExtraCommunicationDelays` may be a function. -/
inductive WrapperSpec
  | enhancedObservation (team : Teams)
  | sharedFieldOfView (team : Teams)
  | rescaledObservation
  | relativeCoordinates
  | moreTrainingInformation
  | discreteCamera (levels : ℤ)
  | discreteTarget (levels : ℤ)
  | auxiliaryCameraRewards (keys : List String) (reduction : String)
  | auxiliaryTargetRewards (keys : List String) (reduction : String)
  | multi (team : Team)
  | single (team : Team)
  | messageFilter
  | restrictedCommunicationRange (rangeLimit : ℚ)
  | randomMessageDropout (dropoutRate : ℚ)
  | noCommunication (team : Teams)
  | extraCommunicationDelays (delay : Option ℤ)
  | renderCommunication (duration : ℤ)
  | repeatedRewardIndividualDone (targetDoneAtDestination : Bool)

/-- The attributes that a constructor sets, as far as they depend on the environment. -/
structure Attributes where
  space : SpaceName → Option SpaceTree := fun _ => none
  /-- `teammate_action_space` and so on. -/
  teammate : SpaceKind → Option SpaceTree := fun _ => none
  opponent : SpaceKind → Option SpaceTree := fun _ => none
  numTeammates : Option ℕ := none
  numOpponents : Option ℕ := none
  cameraSlices : Option ObservationSlices := none
  targetSlices : Option ObservationSlices := none
  targetEmptyBitsSlice : Option Slice := none
  /-- The rows of `action_high`. -/
  actionHigh : Option (List (List ℚ)) := none
  /-- The lengths of the sides of `camera_comm_matrix` and `target_comm_matrix`. -/
  commMatrices : Option (ℕ × ℕ) := none

/-- An environment, or a wrapper with its attributes around what it wraps. -/
inductive Wrapped
  | env (cfg : Config)
  | wrap (spec : WrapperSpec) (inner : Wrapped) (attributes : Attributes)

namespace WrapperSpec

/-- Whether the class has a method `load_config` of its own. -/
def hasLoadConfig : WrapperSpec → Bool
  | enhancedObservation _ | sharedFieldOfView _ | discreteCamera _ | discreteTarget _ | multi _
  | single _ | renderCommunication _ => true
  | _ => false

def isRescaledObservation : WrapperSpec → Bool
  | rescaledObservation => true
  | _ => false

def isRelativeCoordinates : WrapperSpec → Bool
  | relativeCoordinates => true
  | _ => false

def isMoreTrainingInformation : WrapperSpec → Bool
  | moreTrainingInformation => true
  | _ => false

def isDiscrete : Team → WrapperSpec → Bool
  | .camera, discreteCamera _ => true
  | .target, discreteTarget _ => true
  | _, _ => false

def isAuxiliaryRewards : Team → WrapperSpec → Bool
  | .camera, auxiliaryCameraRewards _ _ => true
  | .target, auxiliaryTargetRewards _ _ => true
  | _, _ => false

def isRepeatedRewardIndividualDone : WrapperSpec → Bool
  | repeatedRewardIndividualDone _ => true
  | _ => false

/-- The instances of `SingleTeamSingleAgent`. -/
def isSingleAgent : WrapperSpec → Bool
  | single _ => true
  | _ => false

/-- The instances of `MultiCamera` and of `MultiTarget`. -/
def isMulti : Team → WrapperSpec → Bool
  | team, multi team' => decide (team = team')
  | _, _ => false

/-- The team of an instance of `SingleTeamHelper`. -/
def team? : WrapperSpec → Option Team
  | multi team => some team
  | single team => some team
  | _ => none

end WrapperSpec

namespace Wrapped

/-- The classes of a stack, from the outside to the inside. -/
def specs : Wrapped → List WrapperSpec
  | env _ => []
  | wrap spec inner _ => spec :: inner.specs

/-- `unwrapped.config`. -/
def config : Wrapped → Config
  | env cfg => cfg
  | wrap _ inner _ => inner.config

/-- A space is looked up in the wrapper first. -/
def space : Wrapped → SpaceName → SpaceTree
  | env cfg, name => cfg.space name
  | wrap _ inner attributes, name => (attributes.space name).getD (inner.space name)

/-- The spaces of the teammates, which the environment does not have. -/
def teammate : Wrapped → SpaceKind → Option SpaceTree
  | env _, _ => none
  | wrap _ inner attributes, kind => (attributes.teammate kind).orElse (fun _ => inner.teammate kind)

def opponent : Wrapped → SpaceKind → Option SpaceTree
  | env _, _ => none
  | wrap _ inner attributes, kind => (attributes.opponent kind).orElse (fun _ => inner.opponent kind)

def numTeammates : Wrapped → Option ℕ
  | env _ => none
  | wrap _ inner attributes => attributes.numTeammates.orElse (fun _ => inner.numTeammates)

def numOpponents : Wrapped → Option ℕ
  | env _ => none
  | wrap _ inner attributes => attributes.numOpponents.orElse (fun _ => inner.numOpponents)

/-- `env.team`, if there is a wrapper for a single team. -/
def team? (self : Wrapped) : Option Team := self.specs.findSome? WrapperSpec.team?

end Wrapped

/-! ## Constructors -/

/-- `assert p, message`. -/
def assertThat (p : Prop) [Decidable p] (message : String) : Except Error Unit :=
  if p then .ok () else .error (.assertionError message)

/-- `not isinstance(env, ...)`, which looks through the wrappers. -/
def noInstance (p : WrapperSpec → Bool) (inner : List WrapperSpec) : Prop :=
  ∀ spec ∈ inner, p spec = false

instance (p : WrapperSpec → Bool) (inner : List WrapperSpec) : Decidable (noInstance p inner) :=
  inferInstanceAs (Decidable (∀ spec ∈ inner, p spec = false))

def assertMultiAgentEnvironment (inner : List WrapperSpec) : Except Error Unit :=
  assertThat (noInstance WrapperSpec.isSingleAgent inner)
    "You should provide a multi-agent environment."

def assertBaseEnvironment (inner : List WrapperSpec) : Except Error Unit := do
  assertMultiAgentEnvironment inner
  assertThat (noInstance (fun spec => spec.team?.isSome) inner)
    "You should provide a instance of the basic setting of the Multi-Agent Tracking Environment"

namespace WrapperSpec

/-- `AuxiliaryCameraRewards.ACCEPTABLE_KEYS` and `AuxiliaryTargetRewards.ACCEPTABLE_KEYS`. -/
def acceptableKeys : Team → List String
  | .camera =>
      ["raw_reward", "coverage_rate", "real_coverage_rate", "mean_transport_rate",
        "soft_coverage_score", "num_tracked", "baseline"]
  | .target =>
      ["raw_reward", "coverage_rate", "real_coverage_rate", "mean_transport_rate",
        "normalized_goal_distance", "sparse_delivery", "soft_coverage_score", "is_tracked",
        "is_colliding", "baseline"]

/-- The reductions that the constructors accept; that of the targets leaves out the minimum. -/
def acceptableReductions : Team → List String
  | .camera => ["mean", "sum", "max", "min", "none"]
  | .target => ["mean", "sum", "max", "none"]

/-- The assertions of `EnhancedObservation` and `SharedFieldOfView`. -/
def checkMasks (inner : List WrapperSpec) : Except Error Unit := do
  assertBaseEnvironment inner
  assertThat (noInstance isRelativeCoordinates inner)
    "You should use this wrapper before `RelativeCoordinates`."
  assertThat (noInstance isRescaledObservation inner)
    "You should use this wrapper before `RescaledObservation`."

/-- The assertions of `DiscreteCamera` and `DiscreteTarget`. -/
def checkDiscrete (team : Team) (levels : ℤ) (inner : List WrapperSpec) : Except Error Unit := do
  assertBaseEnvironment inner
  assertThat (noInstance (isDiscrete team) inner) "You should not use this wrapper more than once."
  assertThat (3 ≤ levels ∧ levels % 2 = 1)
    "The discrete level must be an odd number that not less than 3."

/-- The assertions of `AuxiliaryCameraRewards` and `AuxiliaryTargetRewards`. -/
def checkAuxiliaryRewards (team other : Team) (keys : List String) (reduction : String)
    (inner : List WrapperSpec) : Except Error Unit := do
  assertMultiAgentEnvironment inner
  assertThat (¬ noInstance isRepeatedRewardIndividualDone inner)
    "You should use this wrapper with wrapper `RepeatedRewardIndividualDone`."
  assertThat (noInstance (isMulti other) inner)
    "You should not use this wrapper with a wrapper for the other team."
  assertThat (noInstance (isAuxiliaryRewards team) inner)
    "You should not use this wrapper more than once."
  assertThat (reduction ∈ acceptableReductions team) "Invalid reduction method"
  assertThat (∀ key ∈ keys, key ∈ acceptableKeys team) "The coefficient mapping only accepts keys"

/-- The assertions of a constructor about its arguments and about what it wraps. -/
def check : WrapperSpec → List WrapperSpec → Except Error Unit
  | enhancedObservation _, inner => checkMasks inner
  | sharedFieldOfView _, inner => checkMasks inner
  | rescaledObservation, inner =>
      assertThat (noInstance isRescaledObservation inner)
        "You should not use this wrapper more than once."
  | relativeCoordinates, inner =>
      assertThat (noInstance isRelativeCoordinates inner)
        "You should not use this wrapper more than once."
  | moreTrainingInformation, inner => do
      assertBaseEnvironment inner
      assertThat (noInstance isMoreTrainingInformation inner)
        "You should not use this wrapper more than once."
  | discreteCamera levels, inner => checkDiscrete .camera levels inner
  | discreteTarget levels, inner => checkDiscrete .target levels inner
  | auxiliaryCameraRewards keys reduction, inner =>
      checkAuxiliaryRewards .camera .target keys reduction inner
  | auxiliaryTargetRewards keys reduction, inner =>
      checkAuxiliaryRewards .target .camera keys reduction inner
  | multi _, inner => assertBaseEnvironment inner
  | single _, inner => assertBaseEnvironment inner
  -- a filter of messages can be stacked at will
  | messageFilter, _ => .ok ()
  | restrictedCommunicationRange _, _ => .ok ()
  | randomMessageDropout dropoutRate, _ =>
      assertThat (0 ≤ dropoutRate ∧ dropoutRate ≤ 1)
        "Dropout rate must be a float number between 0 and 1."
  | noCommunication _, _ => .ok ()
  | extraCommunicationDelays delay, _ =>
      assertThat (∀ d, delay = some d → 0 < d)
        "The argument `delay` should be a callable function or a constant positive integer."
  | renderCommunication duration, _ =>
      assertThat (0 < duration) "The argument `duration` should be a positive integer."
  | repeatedRewardIndividualDone _, inner => do
      assertMultiAgentEnvironment inner
      assertThat (noInstance isRepeatedRewardIndividualDone inner)
        "You should not use this wrapper more than once."

/-- The slices of `EnhancedObservation` and `SharedFieldOfView`. -/
def maskAttributes (cfg : Config) : Attributes :=
  let indices := targetObservationIndicesOf cfg.numCameras cfg.numTargets cfg.numObstacles
  { cameraSlices :=
      some (cameraObservationSlicesOf cfg.numCameras cfg.numTargets cfg.numObstacles)
    targetSlices :=
      some (targetObservationSlicesOf cfg.numCameras cfg.numTargets cfg.numObstacles)
    targetEmptyBitsSlice := some { start := indices 2 - NUM_WAREHOUSES, stop := indices 2 } }

/-- The rows of `action_high` of `DiscreteCamera` and `DiscreteTarget`. -/
def actionHighOf (cfg : Config) : Team → List (List ℚ)
  | .camera => [[cfg.cameraParams.rotationStep, cfg.cameraParams.zoomingStep]]
  | .target => List.replicate cfg.numTargets [cfg.target.stepSize, cfg.target.stepSize]

/-- `DiscreteCamera` and `DiscreteTarget`. -/
def discreteAttributes (team : Team) (levels : ℤ) (inner : Wrapped) : Attributes :=
  let space := SpaceTree.discrete (levels * levels).toNat
  let joint := space.joint (inner.config.teamSize team)
  { space := fun
      | .actionSpace => some (.tuple (match team with
          | .camera => [joint, inner.space (.of .target .jointAction)]
          | .target => [inner.space (.of .camera .jointAction), joint]))
      | .of team' .action => if team' = team then some space else none
      | .of team' .jointAction => if team' = team then some joint else none
      | _ => none
    actionHigh := some (actionHighOf inner.config team) }

def otherTeam : Team → Team
  | .camera => .target
  | .target => .camera

/-- `team.value`. -/
def teamValue : Team → ℕ
  | .camera => 0
  | .target => 1

/-- `SingleTeamHelper`. -/
def helperAttributes (team : Team) (inner : Wrapped) : Attributes where
  teammate := fun kind => some (inner.space (.of team kind))
  opponent := fun kind => some (inner.space (.of (otherTeam team) kind))
  numTeammates := some (inner.config.teamSize team)
  numOpponents := some (inner.config.teamSize (otherTeam team))

/-- `action_space` and `observation_space` of a wrapper that sets both. -/
def ownSpaces (action observation : SpaceTree) : SpaceName → Option SpaceTree
  | .actionSpace => some action
  | .observationSpace => some observation
  | .of _ _ => none

/-- `RescaledObservation.rescale_observation` of both bounds of a box. -/
def rescaleBox (s : Space) : SpaceTree → Except Error SpaceTree
  | .box low high => .ok (.box (s.normalize low) (s.normalize high))
  | _ => .error (.attributeError "object has no attribute 'low'")

/-- `RescaledObservation`, with the rescaled spaces of the teams. -/
def rescaledAttributes (inner : Wrapped) (rescaled : Team → SpaceTree) : Attributes :=
  let joint := fun team => (rescaled team).joint (inner.config.teamSize team)
  -- around both teams their spaces are paired, around one team only its own is shown
  match inner.team? with
  | none =>
      { space := fun
          | .observationSpace => some (.tuple [joint .camera, joint .target])
          | .of team .observation => some (rescaled team)
          | .of team .jointObservation => some (joint team)
          | _ => none }
  | some team =>
      { space := fun
          | .observationSpace =>
              if noInstance isSingleAgent inner.specs then
                some ((rescaled team).joint (inner.numTeammates.getD 0))
              else some (rescaled team)
          | .of team' .observation => if team' = team then some (rescaled team) else none
          | .of team' .jointObservation => if team' = team then some (joint team) else none
          | _ => none
        teammate := fun
          | .observation => some (rescaled team)
          | .jointObservation => some (joint team)
          | _ => none
        opponent := fun
          | .observation => some (rescaled (otherTeam team))
          | .jointObservation => some (joint (otherTeam team))
          | _ => none }

/-- What a constructor caches. -/
def attributes : WrapperSpec → Wrapped → Except Error Attributes
  | enhancedObservation _, inner => .ok (maskAttributes inner.config)
  | sharedFieldOfView _, inner => .ok (maskAttributes inner.config)
  | rescaledObservation, inner => do
      let camera ← rescaleBox (inner.config.observationSpaceOf .camera)
        (inner.space (.of .camera .observation))
      let target ← rescaleBox (inner.config.observationSpaceOf .target)
        (inner.space (.of .target .observation))
      return rescaledAttributes inner (fun
        | .camera => camera
        | .target => target)
  | discreteCamera levels, inner => do
      assertThat (0 < inner.config.numCameras)
        "There must be at least one camera in the environment."
      return discreteAttributes .camera levels inner
  | discreteTarget levels, inner => .ok (discreteAttributes .target levels inner)
  | multi team, inner => do
      assertThat (0 < inner.config.teamSize team)
        "There must be at least one agent in the team."
      let action ← (inner.space .actionSpace).component (teamValue team)
      let observation ← (inner.space .observationSpace).component (teamValue team)
      return { helperAttributes team inner with space := ownSpaces action observation }
  | single team, inner => do
      assertThat (0 < inner.config.teamSize team)
        "There must be at least one agent in the team."
      return { helperAttributes team inner with
        space := ownSpaces (inner.space (.of team .action)) (inner.space (.of team .observation)) }
  | renderCommunication _, inner =>
      .ok { commMatrices := some (inner.config.numCameras, inner.config.numTargets) }
  | _, _ => .ok {}

/-- `spec(env)`. -/
def construct (spec : WrapperSpec) (inner : Wrapped) : Except Error Wrapped := do
  spec.check inner.specs
  let attributes ← spec.attributes inner
  return .wrap spec inner attributes

end WrapperSpec

namespace Wrapped

/-- A stack around a new environment, with the outermost wrapper first. -/
def build : List WrapperSpec → Config → Except Error Wrapped
  | [], cfg => .ok (.env cfg)
  | spec :: specs, cfg => do
      let inner ← build specs cfg
      spec.construct inner

/-- `load_config`. The environment makes itself new; a wrapper that has the method runs its
constructor again; any other forwards the call, and stays as it is. -/
def loadConfig : Wrapped → Config → Except Error Wrapped
  | env _, cfg => .ok (.env cfg)
  | wrap spec inner attributes, cfg => do
      let inner ← inner.loadConfig cfg
      if spec.hasLoadConfig then spec.construct inner else return .wrap spec inner attributes

end Wrapped

end Mate
