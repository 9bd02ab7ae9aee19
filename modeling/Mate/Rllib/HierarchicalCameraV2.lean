import Mate.Rllib.TrackingTeam
import Mate.Rllib.Hitmac

set_option autoImplicit false

/-! # High-level assignment strategies

The upper level of HRL V2 assigns targets to cameras. An assigner gets the cameras and the targets
themselves, and the observations of the cameras.
-/

namespace Mate.Rllib

open Fallible GreedyAssigner

/-- `mate.camera_observation_slices_of(num_cameras, num_targets,
num_obstacles=0)['opponent_mask']`. -/
def opponentMaskSlice (numCameras numTargets : ℕ) : Slice :=
  (cameraObservationSlicesOf numCameras numTargets 0).opponentMask

/-! ## Nearest targets -/

/-- Where the cameras and the targets are. -/
structure EntityLocations (numCameras numTargets : ℕ) where
  cameras : Fin numCameras → ℂ
  targets : Fin numTargets → ℂ

namespace GreedyDistanceAssigner

variable {numCameras numTargets : ℕ}

noncomputable def distance (locations : EntityLocations numCameras numTargets) (c : Fin numCameras)
    (t : Fin numTargets) : ℝ :=
  ‖locations.cameras c - locations.targets t‖

/-- `np.argmin(distances)`, over all targets. -/
noncomputable def closestTarget (locations : EntityLocations numCameras numTargets) (c : Fin numCameras) :
    Except Error (Fin numTargets) :=
  match (List.finRange numTargets).argmin (distance locations c) with
  | some t => .ok t
  | none => .error (.valueError "attempt to get argmin of an empty sequence")

/-- The loop over the cameras. -/
noncomputable def assignOne (maxAssignments : ℕ) (locations : EntityLocations numCameras numTargets)
    (observations : List (List ℝ)) (c : Fin numCameras) :
    Except Error (Fin numTargets → Bool) := do
  let row ← readRow observations c
  let visibleTargets :=
    (List.finRange numTargets).filter (isVisible (opponentMaskSlice numCameras numTargets) row)
  if visibleTargets.isEmpty then
    let closest ← closestTarget locations c
    return fun t => decide (t = closest)
  else
    let sorted :=
      visibleTargets.insertionSort (fun t u => distance locations c t ≤ distance locations c u)
    return fun t => decide (t ∈ sorted.take maxAssignments)

noncomputable def assign (maxAssignments : ℕ) (locations : EntityLocations numCameras numTargets)
    (observations : List (List ℝ)) : Except Error (List (Fin numTargets → Bool)) :=
  (List.finRange numCameras).mapM (assignOne maxAssignments locations observations)

end GreedyDistanceAssigner

/-- `LearnedAssigner.assign`, which is greedy until something has been learned. -/
noncomputable def LearnedAssigner.assign {numCameras numTargets : ℕ}
    (locations : EntityLocations numCameras numTargets) (observations : List (List ℝ)) :
    Except Error (List (Fin numTargets → Bool)) :=
  GreedyDistanceAssigner.assign 1 locations observations

/-! ## Coverage -/

namespace GreedyCoverageAssigner

variable {numTargets : ℕ}

noncomputable def visibilityMatrix (numCameras numTargets : ℕ) (observations : List (List ℝ)) :
    Except Error (List (Fin numTargets → Bool)) :=
  (List.range numCameras).mapM (fun c => do
    let row ← readRow observations c
    return isVisible (opponentMaskSlice numCameras numTargets) row)

/-- `coverage_count`, after the loop that builds the visibility matrix. -/
def coverageCount (visibilityMatrix : List (Fin numTargets → Bool)) (t : Fin numTargets) : ℕ :=
  visibilityMatrix.countP (fun visible => visible t)

/-- The greedy loop, for a row of the visibility matrix. -/
def assignOne (coverageCount : Fin numTargets → ℕ) (visible : Fin numTargets → Bool) :
    Except Error (Fin numTargets → Bool) := do
  let visibleTargets := (List.finRange numTargets).filter visible
  let target ←
    if visibleTargets.isEmpty then leastCovered coverageCount (List.finRange numTargets)
    else leastCovered coverageCount visibleTargets
  return fun t => decide (t = target)

/-- The greedy loop. -/
def assignAll (visibilityMatrix : List (Fin numTargets → Bool)) :
    Except Error (List (Fin numTargets → Bool)) :=
  visibilityMatrix.mapM (assignOne (coverageCount visibilityMatrix))

noncomputable def assign (numCameras numTargets : ℕ) (observations : List (List ℝ)) :
    Except Error (List (Fin numTargets → Bool)) := do
  let visibilityMatrix ← visibilityMatrix numCameras numTargets observations
  assignAll visibilityMatrix

end GreedyCoverageAssigner

/-- `MaxCoverageAssigner.assign`. -/
noncomputable def MaxCoverageAssigner.assign (numCameras numTargets : ℕ)
    (observations : List (List ℝ)) : Except Error (List (Fin numTargets → Bool)) :=
  GreedyCoverageAssigner.assign numCameras numTargets observations

end Mate.Rllib

/-! # Hierarchical camera control, version 2

`HierarchicalCameraV2` asks an assigner for the targets of the cameras, and puts the assignment
into what the executors observe. It asks after every reset, and at the beginning of every step.
-/

namespace Mate.Rllib

open Fallible

/-- A `HighLevelAssigner`. It gets the cameras and the targets, and the observations of the cameras.
An assigner may have a state of its own. -/
structure HighLevelAssigner (numCameras numTargets : ℕ) (V Q : Type) where
  assign : Q → V → List (List ℝ) → Except Error (List (Fin numTargets → Bool) × Q)
  length_assign : ∀ {q entities observations assignments q'},
    assign q entities observations = .ok (assignments, q') → assignments.length = numCameras

/-- A `GreedyDistanceAssigner`. -/
noncomputable def greedyDistanceAssigner (numCameras numTargets maxAssignments : ℕ) :
    HighLevelAssigner numCameras numTargets (EntityLocations numCameras numTargets) Unit where
  assign _ locations observations := do
    let assignments ← GreedyDistanceAssigner.assign maxAssignments locations observations
    return (assignments, ())
  length_assign := by
    intro q locations observations assignments q' h
    obtain ⟨rows, hrows, h⟩ := bind_eq_ok.mp h
    cases h
    rw [length_of_mapM hrows, List.length_finRange]

/-- The locations of the cameras and of the targets of an environment. -/
noncomputable def TrackingTeam.entityLocations {cfg : Config} {G V T : Type}
    (self : TrackingTeam cfg G V T) : EntityLocations cfg.numCameras cfg.numTargets :=
  ⟨fun c => (self.env.cameras c).location, fun t => (self.env.targets t).location⟩

/-- What an executor observes. -/
structure AssignedObservation (numTargets : ℕ) where
  obs : List ℝ
  assignment : Option (Fin numTargets → Bool)

namespace HierarchicalCameraV2

variable {numTargets : ℕ} {S A V Q : Type}

def INFO_KEYS : Metrics :=
  [(.key "raw_reward", .sum),
    (.key "normalized_raw_reward", .sum),
    (.family "auxiliary_reward", .sum),
    (.family "reward_coefficient", .mean),
    (.key "coverage_rate", .mean),
    (.key "real_coverage_rate", .mean),
    (.key "mean_transport_rate", .last),
    (.key "num_delivered_cargoes", .last),
    (.key "num_tracked", .mean),
    (.key "num_assigned_targets", .mean),
    (.key "assignment_coverage_rate", .mean)]

/-- A `MultiCamera` with the cameras and the targets of the environment below. -/
structure Base (S A V : Type) extends TeamEnv S A (List ℝ) where
  entities : S → V

/-- The arguments of the wrapper. -/
structure Settings (numCameras numTargets : ℕ) (V Q : Type) where
  assigner : HighLevelAssigner numCameras numTargets V Q
  frameSkip : ℕ
  includeAssignmentInObs : Bool
  frameSkip_pos : 0 < frameSkip

/-- The wrapper after a reset. -/
structure State (numTargets : ℕ) (S Q : Type) where
  env : S
  assigner : Q
  lastObservations : List (List ℝ)
  currentAssignments : List (Fin numTargets → Bool)

/-- `_augment_observations`, if the assignment is included. -/
def augmentObservations (included : Bool) (baseObservations : List (List ℝ))
    (currentAssignments : List (Fin numTargets → Bool)) : List (AssignedObservation numTargets) :=
  List.zipWith (fun obs assignment => ⟨obs, if included then some assignment else none⟩)
    baseObservations currentAssignments

/-- The metrics of the assignment of a camera, in its info. -/
noncomputable def assignmentMetrics (numCameras : ℕ) (row : List ℝ)
    (assignment : Fin numTargets → Bool) (info : Dict) : Dict :=
  let visible := GreedyAssigner.isVisible (opponentMaskSlice numCameras numTargets) row
  let numAssigned := (List.finRange numTargets).countP assignment
  let assignedAndVisible := (List.finRange numTargets).countP (fun t => assignment t && visible t)
  let coverage : ℝ :=
    if 0 < numAssigned then (assignedAndVisible : ℝ) / ((max 1 numAssigned : ℕ) : ℝ) else 0
  (info.insert "num_assigned_targets" (numAssigned : ℝ)).insert "assignment_coverage_rate" coverage

/-- The outcome of a frame, with the metrics of the assignment. -/
noncomputable def withMetrics (numCameras : ℕ) (currentAssignments : List (Fin numTargets → Bool))
    (outcome : Outcome (List ℝ)) : Outcome (List ℝ) :=
  { outcome with
    infos := List.zipWith (fun assigned info => assignmentMetrics numCameras assigned.1 assigned.2 info)
      (outcome.observations.zip currentAssignments) outcome.infos }

noncomputable def reset (base : Base S A V) (settings : Settings base.numTeammates numTargets V Q)
    (seed : Option ℕ) (q : Q) (s : S) :
    Except Error (List (AssignedObservation numTargets) × State numTargets S Q) := do
  let (baseObservations, s) ← base.reset seed s
  let (currentAssignments, q) ← settings.assigner.assign q (base.entities s) baseObservations
  return (augmentObservations settings.includeAssignmentInObs baseObservations currentAssignments,
    ⟨s, q, baseObservations, currentAssignments⟩)

section

variable [WordCharacters]

/-- The loop over at most so many frames. -/
noncomputable def frames (base : Base S A V) (currentAssignments : List (Fin numTargets → Bool))
    (action : A) :
    ℕ → FrameSkip.Fragment (List ℝ) → S → Except Error (FrameSkip.Fragment (List ℝ) × S)
  | 0, fragment, s => pure (fragment, s)
  | f + 1, fragment, s => do
      let (outcome, s) ← base.step s action
      let fragment := fragment.add (withMetrics base.numTeammates currentAssignments outcome)
      if outcome.allDone then return (fragment, s)
      frames base currentAssignments action f fragment s

/-- The fragment before the first frame. There are collectors only if frames are skipped. -/
def start (numCameras frameSkip : ℕ) : FrameSkip.Fragment (List ℝ) where
  infoCollectors :=
    if 1 < frameSkip then List.replicate numCameras { metrics := INFO_KEYS } else []

/-- What is there to return after the loop, before the observations are augmented. -/
noncomputable def result (frameSkip : ℕ) (fragment : FrameSkip.Fragment (List ℝ)) :
    Except Error (Outcome (List ℝ)) :=
  match fragment.outcome with
  | none => .error (.runtimeError "local variable 'rewards' referenced before assignment")
  | some outcome =>
      .ok { outcome with
        rewards :=
          if 1 < frameSkip then FrameSkip.sumRows fragment.fragmentRewards else outcome.rewards
        infos := FrameSkip.updateEach fragment.infoCollectors outcome.infos }

/-- The assigner is asked before the first frame, about the observations after the last step. -/
noncomputable def step (base : Base S A V) (settings : Settings base.numTeammates numTargets V Q)
    (before : State numTargets S Q) (action : A) :
    Except Error (Outcome (AssignedObservation numTargets) × State numTargets S Q) := do
  let (currentAssignments, q) ←
    settings.assigner.assign before.assigner (base.entities before.env) before.lastObservations
  let (fragment, s) ← frames base currentAssignments action settings.frameSkip
    (start base.numTeammates settings.frameSkip) before.env
  let outcome ← result settings.frameSkip fragment
  let observations :=
    augmentObservations settings.includeAssignmentInObs outcome.observations currentAssignments
  return ({ outcome with observations }, ⟨s, q, outcome.observations, currentAssignments⟩)

end

end HierarchicalCameraV2

end Mate.Rllib
