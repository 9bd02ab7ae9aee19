import Mate.Library.Machines
import Mate.Rllib.Coordinator
import Mate.Rllib.FrameSkip
import Mate.Rllib.TrackingTeam
import Mathlib.Data.List.MinMax

set_option autoImplicit false

/-! # Cameras with tasks

Executors are trained behind `HiTMACWrapper`, which runs the coordinators of all cameras on the
observations that came through the other wrappers, and puts the targets that a camera should track
behind its observation. Deployed, an executor is a `HiTMACQPLEXCameraAgent`, which has a coordinator
of its own that it calls on the raw observation. Without a coordinator, either assigns targets
greedily.
-/

namespace Mate.Rllib

open Fallible

/-! ## The greedy assigner -/

/-- `_GreedyAssigner`. -/
structure GreedyAssigner where
  numCameras : ℕ
  targetViewMaskSlice : Slice

namespace GreedyAssigner

variable {numTargets : ℕ}

/-- `base_observations[c]`. -/
def readRow (baseObservations : List (List ℝ)) (c : ℕ) : Except Error (List ℝ) :=
  match baseObservations[c]? with
  | some row => .ok row
  | none => .error (.indexError "index is out of bounds for axis 0")

/-- Entry `t` of the mask that the slice reads, as a Boolean. -/
noncomputable def isVisible (slice : Slice) (row : List ℝ) (t : Fin numTargets) : Bool :=
  decide ((slice.read row).getD t 0 ≠ 0)

/-- `indices[np.argmin(target_coverage[indices])]`. -/
def leastCovered (targetCoverage : Fin numTargets → ℕ) (indices : List (Fin numTargets)) :
    Except Error (Fin numTargets) :=
  match indices.argmin targetCoverage with
  | some t => .ok t
  | none => .error (.valueError "attempt to get argmin of an empty sequence")

/-- The loop over the cameras: what camera `c` is assigned, and the coverage after it. -/
noncomputable def assignOne (self : GreedyAssigner) (baseObservations : List (List ℝ))
    (targetCoverage : Fin numTargets → ℕ) (c : ℕ) :
    Except Error ((Fin numTargets → Bool) × (Fin numTargets → ℕ)) := do
  let row ← readRow baseObservations c
  let visibleIndices := (List.finRange numTargets).filter (isVisible self.targetViewMaskSlice row)
  let least ←
    if visibleIndices.isEmpty then leastCovered targetCoverage (List.finRange numTargets)
    else leastCovered targetCoverage visibleIndices
  return (fun t => decide (t = least),
    Function.update targetCoverage least (targetCoverage least + 1))

noncomputable def assign (numTargets : ℕ) (self : GreedyAssigner)
    (baseObservations : List (List ℝ)) : Except Error (List (Fin numTargets → Bool)) :=
  outputs (self.assignOne baseObservations) (fun _ => 0) (List.range self.numCameras)

end GreedyAssigner

/-! ## The wrappers below -/

/-- The observations of all cameras, through the wrappers. -/
noncomputable def preprocessEach (cfg : Config) (flags : Preprocessing) (rows : List (List ℝ)) :
    Except Error (List (List ℝ)) :=
  rows.mapM (fun row => flags.apply row .camera cfg.numCameras cfg.numTargets cfg.numObstacles)

/-- A team of cameras behind `RelativeCoordinates` and `RescaledObservation`. -/
noncomputable def TeamEnv.preprocessed {S A : Type} (cfg : Config) (flags : Preprocessing)
    (env : TeamEnv S A (List ℝ)) : TeamEnv S A (List ℝ) where
  numTeammates := env.numTeammates
  numTeammates_pos := env.numTeammates_pos
  reset seed s := do
    let (observations, s) ← env.reset seed s
    let observations ← preprocessEach cfg flags observations
    return (observations, s)
  step s action := do
    let (outcome, s) ← env.step s action
    let observations ← preprocessEach cfg flags outcome.observations
    return ({ outcome with observations }, s)
  length_reset := by
    intro seed s observations s' h
    obtain ⟨⟨rows, s₁⟩, hreset, h⟩ := bind_eq_ok.mp h
    obtain ⟨rows', hrows, h⟩ := bind_eq_ok.mp h
    cases h
    exact (length_of_mapM hrows).trans (env.length_reset hreset)
  step_complete := by
    intro s action outcome s' h
    obtain ⟨⟨before, s₁⟩, hstep, h⟩ := bind_eq_ok.mp h
    obtain ⟨rows', hrows, h⟩ := bind_eq_ok.mp h
    cases h
    have hcomplete := env.step_complete hstep
    exact ⟨(length_of_mapM hrows).trans hcomplete.observations, hcomplete.infos, hcomplete.keys⟩

/-! ## What training and deployment share -/

/-- The wrappers around the environment, and the periods of the decisions. -/
structure Schedule where
  flags : Preprocessing
  coordPeriod : ℕ
  frameSkip : ℕ
  coordPeriod_pos : 0 < coordPeriod
  frameSkip_pos : 0 < frameSkip

/-- A schedule with the coordinator, if there is a checkpoint of one. -/
structure HierarchyConfig (Hidden : Type) (numTargets : ℕ) extends Schedule where
  coordinator : Option (Coordinator Hidden numTargets)

/-- `np.concatenate([observation, assignment])`. -/
structure AugmentedObservation (numTargets : ℕ) where
  observation : List ℝ
  taskBits : Fin numTargets → Bool

/-! ## The wrapper -/

namespace HiTMACWrapper

variable {cfg : Config} {Hidden G S A : Type} [RandomState G]

def INFO_KEYS : Metrics :=
  [(.key "raw_reward", .sum),
    (.key "normalized_raw_reward", .sum),
    (.family "auxiliary_reward", .sum),
    (.family "reward_coefficient", .mean),
    (.key "coverage_rate", .mean),
    (.key "real_coverage_rate", .mean),
    (.key "mean_transport_rate", .last),
    (.key "num_delivered_cargoes", .last),
    (.key "num_tracked", .mean),
    (.key "num_assigned_targets", .mean),
    (.key "assignment_coverage_rate", .mean)]

/-- The fields that the tasks depend on. -/
structure Tasks (Hidden G : Type) (numTargets : ℕ) where
  coordinatorAgents : Option (List (HRLMAPPOCameraAgent Hidden G numTargets))
  currentAssignments : List (Fin numTargets → Bool)
  episodeStep : ℕ

structure State (S Hidden G : Type) (numTargets : ℕ) where
  env : S
  lastBaseObservations : List (List ℝ)
  tasks : Tasks Hidden G numTargets

/-- `mate.camera_observation_slices_of(...)['opponent_mask']`. -/
def targetViewMaskSlice (cfg : Config) : Slice :=
  (cameraObservationSlicesOf cfg.numCameras cfg.numTargets cfg.numObstacles).opponentMask

/-- A loop over `enumerate(agents)`, in which every agent gets its row of the observations. -/
def forEach {α β : Type} (f : α → List ℝ → Except Error β) :
    List α → List (List ℝ) → Except Error (List β)
  | agent :: agents, row :: rows => do
      let result ← f agent row
      let results ← forEach f agents rows
      return result :: results
  | _ :: _, [] => .error (.indexError "index is out of bounds for axis 0")
  | [], _ => return []

/-- `_run_coordinator`. -/
noncomputable def runCoordinator
    (coordinatorAgents : Option (List (HRLMAPPOCameraAgent Hidden G cfg.numTargets)))
    (baseObservations : List (List ℝ)) :
    Except Error (List (Fin cfg.numTargets → Bool)
      × Option (List (HRLMAPPOCameraAgent Hidden G cfg.numTargets))) :=
  match coordinatorAgents with
  | some agents => do
      let agents ← forEach HRLMAPPOCameraAgent.act agents baseObservations
      return ((List.range cfg.numCameras).map (fun c =>
        (agents[c]?.bind HRLMAPPOCameraAgent.lastSelection).getD (fun _ => false)), some agents)
  | none => do
      let assignments ←
        GreedyAssigner.assign cfg.numTargets ⟨cfg.numCameras, targetViewMaskSlice cfg⟩ baseObservations
      return (assignments, none)

/-- `_augment_observations`. -/
def augmentObservations (baseObservations : List (List ℝ))
    (currentAssignments : List (Fin cfg.numTargets → Bool)) :
    List (AugmentedObservation cfg.numTargets) :=
  List.zipWith AugmentedObservation.mk baseObservations currentAssignments

/-- `reset`. The coordinators come with their generators. -/
noncomputable def reset (config : HierarchyConfig Hidden cfg.numTargets)
    (env : TeamEnv S A (List ℝ)) (generators : List G) (seed : Option ℕ) (s : S) :
    Except Error (List (AugmentedObservation cfg.numTargets) × State S Hidden G cfg.numTargets) := do
  let (baseObservations, s) ← env.reset seed s
  let agents ←
    match config.coordinator with
    | some settings => do
        let agents ← forEach (HRLMAPPOCameraAgent.reset settings) generators baseObservations
        pure (some agents)
    | none => pure none
  let (currentAssignments, coordinatorAgents) ← runCoordinator agents baseObservations
  return (augmentObservations baseObservations currentAssignments,
    ⟨s, baseObservations, ⟨coordinatorAgents, currentAssignments, 0⟩⟩)

/-- The tasks after a frame. -/
noncomputable def Tasks.tick (config : HierarchyConfig Hidden cfg.numTargets)
    (self : Tasks Hidden G cfg.numTargets) (baseObservations : List (List ℝ)) :
    Except Error (Tasks Hidden G cfg.numTargets) :=
  if (self.episodeStep + 1) % config.coordPeriod = 0 then do
    let (currentAssignments, coordinatorAgents) ←
      runCoordinator self.coordinatorAgents baseObservations
    return ⟨coordinatorAgents, currentAssignments, self.episodeStep + 1⟩
  else return { self with episodeStep := self.episodeStep + 1 }

/-- The metrics of the assignment of a camera, in its info. -/
noncomputable def assignmentMetrics (row : List ℝ) (assignment : Fin cfg.numTargets → Bool)
    (info : Dict) : Dict :=
  let visible := GreedyAssigner.isVisible (targetViewMaskSlice cfg) row
  let numAssigned := (List.finRange cfg.numTargets).countP assignment
  let numAssignedAndVisible :=
    (List.finRange cfg.numTargets).countP (fun t => assignment t && visible t)
  (info.insert "num_assigned_targets" (numAssigned : ℝ)).insert "assignment_coverage_rate"
    ((numAssignedAndVisible : ℝ) / ((max 1 numAssigned : ℕ) : ℝ))

/-- The variables of the loop in `step`. -/
structure Fragment (Hidden G : Type) (numTargets : ℕ) where
  tasks : Tasks Hidden G numTargets
  outcome : Option (Outcome (List ℝ)) := none
  fragmentRewards : List (List ℝ) := []
  metricCollectors : List MetricCollector

section

variable [WordCharacters]

/-- The body of the loop, after the step of the environment. -/
noncomputable def Fragment.add (config : HierarchyConfig Hidden cfg.numTargets)
    (self : Fragment Hidden G cfg.numTargets) (outcome : Outcome (List ℝ)) :
    Except Error (Fragment Hidden G cfg.numTargets) := do
  let tasks ← self.tasks.tick config outcome.observations
  let infos := List.zipWith (fun tasked info => assignmentMetrics tasked.1 tasked.2 info)
    (outcome.observations.zip tasks.currentAssignments) outcome.infos
  return {
    tasks
    outcome := some { outcome with infos }
    fragmentRewards := self.fragmentRewards ++ [outcome.rewards]
    metricCollectors := FrameSkip.addEach self.metricCollectors infos }

/-- The loop over at most so many frames. -/
noncomputable def frames (config : HierarchyConfig Hidden cfg.numTargets)
    (env : TeamEnv S A (List ℝ)) (action : A) :
    ℕ → Fragment Hidden G cfg.numTargets → S → Except Error (Fragment Hidden G cfg.numTargets × S)
  | 0, fragment, s => pure (fragment, s)
  | f + 1, fragment, s => do
      let (outcome, s) ← env.step s action
      let fragment ← fragment.add config outcome
      if outcome.allDone then return (fragment, s)
      frames config env action f fragment s

/-- The fragment before the first frame. There are collectors only if frames are skipped. -/
def start (config : HierarchyConfig Hidden cfg.numTargets) (tasks : Tasks Hidden G cfg.numTargets) :
    Fragment Hidden G cfg.numTargets where
  tasks := tasks
  metricCollectors :=
    if 1 < config.frameSkip then List.replicate cfg.numCameras { metrics := INFO_KEYS } else []

/-- What is returned after the loop. -/
noncomputable def Fragment.result (config : HierarchyConfig Hidden cfg.numTargets)
    (self : Fragment Hidden G cfg.numTargets) :
    Except Error (Outcome (AugmentedObservation cfg.numTargets) × List (List ℝ)) :=
  match self.outcome with
  | none => .error (.runtimeError "local variable 'rewards' referenced before assignment")
  | some outcome =>
      .ok ({
        observations := augmentObservations outcome.observations self.tasks.currentAssignments
        rewards :=
          if 1 < config.frameSkip then FrameSkip.sumRows self.fragmentRewards else outcome.rewards
        dones := outcome.dones
        infos := FrameSkip.updateEach self.metricCollectors outcome.infos }, outcome.observations)

noncomputable def step (config : HierarchyConfig Hidden cfg.numTargets)
    (env : TeamEnv S A (List ℝ)) (s : State S Hidden G cfg.numTargets) (action : A) :
    Except Error (Outcome (AugmentedObservation cfg.numTargets)
      × State S Hidden G cfg.numTargets) := do
  let (fragment, e) ← frames config env action config.frameSkip (start config s.tasks) s.env
  let (outcome, lastBaseObservations) ← fragment.result config
  return (outcome, ⟨e, lastBaseObservations, fragment.tasks⟩)

/-- The observations of an episode: those of the reset, and those of the steps. -/
noncomputable def observed (config : HierarchyConfig Hidden cfg.numTargets)
    (env : TeamEnv S A (List ℝ)) (generators : List G) (seed : Option ℕ) (actions : List A) (s : S) :
    Except Error (List (List (AugmentedObservation cfg.numTargets))) := do
  let (observations, s) ← reset config env generators seed s
  let (outcomes, _) ← rollout (step config env) actions s
  return observations :: outcomes.map Outcome.observations

end

end HiTMACWrapper

/-! ## The deployed agent -/

/-- An agent after its first `reset`. -/
structure HiTMACQPLEXCameraAgent (Hidden G : Type) (numTargets : ℕ) where
  base : AgentBase .camera G
  coordinatorAgent : Option (HRLMAPPOCameraAgent Hidden G numTargets)
  currentAssignment : Fin numTargets → Bool

namespace HiTMACQPLEXCameraAgent

variable {Hidden G : Type} {numTargets : ℕ}

/-- `self.coordinator_agent.frame_skip = 1`, in `_init_coordinator`. -/
def everyCall (settings : Coordinator Hidden numTargets) : Coordinator Hidden numTargets :=
  { settings with frameSkip := 1, frameSkip_pos := Nat.one_pos }

noncomputable def reset [RandomState G] (config : HierarchyConfig Hidden numTargets)
    (npRandom coordinatorNpRandom : G) (observation : List ℝ) :
    Except Error (HiTMACQPLEXCameraAgent Hidden G numTargets) := do
  let base ← AgentBase.reset .camera npRandom observation
  let coordinatorAgent ←
    match config.coordinator with
    | some settings => do
        let agent ← HRLMAPPOCameraAgent.reset (everyCall settings) coordinatorNpRandom observation
        pure (some agent)
    | none => pure none
  return { base, coordinatorAgent, currentAssignment := fun _ => false }

/-- `observe`, of the base class. -/
def observe (self : HiTMACQPLEXCameraAgent Hidden G numTargets) (observation : List ℝ) :
    Except Error (HiTMACQPLEXCameraAgent Hidden G numTargets) := do
  let (state, base) ← self.base.checkInputs observation
  return { self with base := { base with state } }

/-- `_get_coordinator_assignment`. The greedy assigner has the counts of the agent, and is given
its observation as an array of one row. -/
noncomputable def getCoordinatorAssignment (self : HiTMACQPLEXCameraAgent Hidden G numTargets)
    (observation : List ℝ) :
    Except Error ((Fin numTargets → Bool) × Option (HRLMAPPOCameraAgent Hidden G numTargets)) :=
  match self.coordinatorAgent with
  | some agent => do
      let agent ← agent.act observation
      return (agent.lastSelection.getD (fun _ => false), some agent)
  | none => do
      let slices := cameraObservationSlicesOf self.base.numCameras self.base.numTargets 0
      let singleAssignments ←
        GreedyAssigner.assign numTargets ⟨self.base.numCameras, slices.opponentMask⟩ [observation]
      match singleAssignments with
      | assignment :: _ => return (assignment, none)
      | [] => .error (.indexError "index 0 is out of bounds for axis 0 with size 0")

/-- `act`, up to the augmented observation that is given to the executor, if it is. What the
executor makes of it is left out. -/
noncomputable def act (config : HierarchyConfig Hidden numTargets)
    (self : HiTMACQPLEXCameraAgent Hidden G numTargets) (observation : List ℝ) :
    Except Error (Option (AugmentedObservation numTargets)
      × HiTMACQPLEXCameraAgent Hidden G numTargets) := do
  let (state, base) ← self.base.checkInputs observation
  let base := { base with state }
  let (currentAssignment, coordinatorAgent) ←
    if base.episodeStep % (config.coordPeriod : ℤ) = 0 then
      ({ self with base } : HiTMACQPLEXCameraAgent Hidden G numTargets).getCoordinatorAssignment
        observation
    else pure (self.currentAssignment, self.coordinatorAgent)
  -- the executor acts at the multiples of the frame skip only
  let augmented ←
    if base.episodeStep % (config.frameSkip : ℤ) = 0 then do
      let preprocessed ← base.preprocessRawObservation config.flags observation
      pure (some ⟨preprocessed, currentAssignment⟩)
    else pure none
  return (augmented, { base, coordinatorAgent, currentAssignment })

/-- An agent observes and acts at every step of the environment. -/
noncomputable def envStep (config : HierarchyConfig Hidden numTargets)
    (self : HiTMACQPLEXCameraAgent Hidden G numTargets) (observation : List ℝ) :
    Except Error (Option (AugmentedObservation numTargets)
      × HiTMACQPLEXCameraAgent Hidden G numTargets) := do
  let self ← self.observe observation
  self.act config observation

/-- What the executor is given in an episode, step by step. The agent is reset on the first
observation. -/
noncomputable def augmented [RandomState G] (config : HierarchyConfig Hidden numTargets)
    (npRandom coordinatorNpRandom : G) :
    List (List ℝ) → Except Error (List (Option (AugmentedObservation numTargets)))
  | [] => pure []
  | observation :: observations => do
      let agent ← reset config npRandom coordinatorNpRandom observation
      outputs (envStep config) agent (observation :: observations)

end HiTMACQPLEXCameraAgent

end Mate.Rllib

/-! ## Cameras with the nearest tasks

HiTMAC v2 assigns every camera its closest target, as far as the observations tell where the
camera and the targets are.
-/

namespace Mate.Rllib.HiTMACv2

open Fallible GreedyAssigner

/-- `_GreedyAssigner`. -/
structure NearestAssigner where
  numCameras : ℕ
  selfStateSlice : Slice
  opponentStatesSlice : Slice

namespace NearestAssigner

variable {numTargets : ℕ}

/-- `TARGET_STATE_DIM_PUBLIC(4) + visibility_mask(1)`. -/
def stride : ℕ := 5

/-- `a - b`, for arrays of one dimension. -/
noncomputable def subtract (a b : List ℝ) : Except Error (List ℝ) :=
  if a.length = b.length then .ok (List.zipWith (· - ·) a b)
  else
    match a, b with
    | _, [y] => .ok (a.map (· - y))
    | [x], _ => .ok (b.map (x - ·))
    | _, _ => .error (.valueError "operands could not be broadcast together")

/-- `np.sqrt(np.sum((cam_xy - target_xy) ** 2))`. -/
noncomputable def distance (camXy targetXy : List ℝ) : Except Error ℝ := do
  let offset ← subtract camXy targetXy
  return √(offset.map (· ^ 2)).sum

/-- `np.lexsort((target_coverage, distances))`: by distance, then by coverage. -/
noncomputable def lexsort (targetCoverage : Fin numTargets → ℕ) (distances : List ℝ) :
    List (Fin numTargets) :=
  (List.finRange numTargets).insertionSort (fun t u =>
    toLex (distances.getD t 0, targetCoverage t) ≤ toLex (distances.getD u 0, targetCoverage u))

/-- `order[0]`. -/
def first (order : List (Fin numTargets)) : Except Error (Fin numTargets) :=
  match order with
  | nearest :: _ => .ok nearest
  | [] => .error (.indexError "index 0 is out of bounds for axis 0 with size 0")

/-- The loop over the cameras: what camera `c` is assigned, and the coverage after it. -/
noncomputable def assignOne (self : NearestAssigner) (baseObservations : List (List ℝ))
    (targetCoverage : Fin numTargets → ℕ) (c : ℕ) :
    Except Error ((Fin numTargets → Bool) × (Fin numTargets → ℕ)) := do
  let row ← readRow baseObservations c
  let camXy := (self.selfStateSlice.read row).take 2
  let opponentBlock := self.opponentStatesSlice.read row
  let distances ← (List.range numTargets).mapM (fun t =>
    distance camXy (Layout.slice (t * stride) (t * stride + 2) opponentBlock))
  let nearest ← first (lexsort targetCoverage distances)
  return (fun t => decide (t = nearest),
    Function.update targetCoverage nearest (targetCoverage nearest + 1))

noncomputable def assign (numTargets : ℕ) (self : NearestAssigner)
    (baseObservations : List (List ℝ)) : Except Error (List (Fin numTargets → Bool)) :=
  outputs (self.assignOne baseObservations) (fun _ => 0) (List.range self.numCameras)

end NearestAssigner

/-- The assigner that the wrapper makes, with its `observation_slices`. -/
def nearestAssigner (cfg : Config) : NearestAssigner :=
  let slices := cameraObservationSlicesOf cfg.numCameras cfg.numTargets cfg.numObstacles
  { numCameras := cfg.numCameras
    selfStateSlice := slices.selfState
    opponentStatesSlice := slices.opponentStatesWithMask }

/-- `_run_coordinator`, without coordinators as in `make_env`. -/
noncomputable def runCoordinator (cfg : Config) (baseObservations : List (List ℝ)) :
    Except Error (List (Fin cfg.numTargets → Bool)) :=
  (nearestAssigner cfg).assign cfg.numTargets baseObservations

/-- The observations of all cameras, through `RelativeCoordinates` and `RescaledObservation`. -/
noncomputable def baseObservations {cfg : Config} {G V : Type} (env : Env cfg G V) :
    Except Error (List (List ℝ)) :=
  preprocessEach cfg ⟨true, true⟩ (rowsOf env.jointObservation.1 .camera)

end Mate.Rllib.HiTMACv2
