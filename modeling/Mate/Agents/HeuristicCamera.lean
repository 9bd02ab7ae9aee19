import Mate.Agents.GreedyCamera
import Mathlib.Data.List.Lex
import Mathlib.Data.List.MinMax
import Mathlib.Data.Prod.Lex

set_option autoImplicit false

/-! # Heuristic camera agents

All cameras send their observations to a controller, agent 0, which tries out some orders of the
cameras, lets every camera of an order choose the pose with the best score in turn, and sends the
poses of the best order back.
-/

namespace Mate

open Fallible

/-! ## Scores of the poses -/

/-- `np.linspace(start, stop, num)[k]`, with the given number of intervals: `num - 1` with the
endpoint, `num` without. -/
noncomputable def linspaceAt (start stop : ℝ) (intervals k : ℕ) : ℝ :=
  start + (stop - start) * k / intervals

theorem linspaceAt_mem {start stop : ℝ} (h : start ≤ stop) {intervals k : ℕ} (hk : k ≤ intervals)
    (hpos : 0 < intervals) : linspaceAt start stop intervals k ∈ Set.Icc start stop := by
  have hintervals : (0 : ℝ) < intervals := Nat.cast_pos.mpr hpos
  have hshare : (stop - start) * k / intervals ≤ stop - start := by
    rw [div_le_iff₀ hintervals]
    exact mul_le_mul_of_nonneg_left (Nat.cast_le.mpr hk) (sub_nonneg.mpr h)
  have hnonneg : 0 ≤ (stop - start) * k / intervals :=
    div_nonneg (mul_nonneg (sub_nonneg.mpr h) (Nat.cast_nonneg k)) hintervals.le
  unfold linspaceAt
  exact ⟨by linarith, by linarith⟩

theorem linspaceAt_inj {start stop : ℝ} (h : start < stop) {intervals k k' : ℕ}
    (hpos : 0 < intervals) :
    linspaceAt start stop intervals k = linspaceAt start stop intervals k' ↔ k = k' := by
  have hne : (intervals : ℝ) ≠ 0 := Nat.cast_ne_zero.mpr hpos.ne'
  have hstep : stop - start ≠ 0 := (sub_pos.mpr h).ne'
  simp [linspaceAt, div_left_inj' hne, mul_right_inj' hstep]

/-- A row of `state_mesh`. -/
structure Pose where
  orientation : ℝ
  viewingAngle : ℝ
  sightRange : ℝ

abbrev NUM_POSES : ℕ := 36 * 21

abbrev NUM_GRID_POINTS : ℕ := 41 * 72

/-- `state_mesh`, `coord_grid` and `scores`. -/
structure ScoreTable where
  stateMesh : Fin NUM_POSES → Pose
  coordGrid : Fin NUM_GRID_POINTS → ℂ
  scores : Fin NUM_GRID_POINTS → Fin NUM_POSES → ℝ

namespace ScoreTable

/-- Row `s` of `state_mesh`. -/
noncomputable def pose (maxSightRange minViewingAngle : ℝ) (s : Fin NUM_POSES) : Pose :=
  let orientation := linspaceAt (-180) 180 36 (s % 36)
  let viewingAngle := linspaceAt minViewingAngle MAX_CAMERA_VIEWING_ANGLE 20 (s / 36)
  ⟨orientation, viewingAngle, maxSightRange * √(minViewingAngle / viewingAngle)⟩

/-- `(rho[g], phi[g])`. -/
noncomputable def polar (maxSightRange : ℝ) (g : Fin NUM_GRID_POINTS) : ℝ × ℝ :=
  (linspaceAt 0 maxSightRange 40 (g % 41), linspaceAt (-180) 180 72 (g / 41))

/-- The score of a pose for a target at `(rho, phi)`: it is high at the incenter of the sector. -/
noncomputable def score (pose : Pose) (rho phi : ℝ) : ℝ :=
  let halfViewingAngle := pose.viewingAngle / 2
  let distMax :=
    if pose.viewingAngle < 180 then pose.sightRange / (1 + 1 / sinDeg halfViewingAngle)
    else pose.sightRange / 2
  let deltaAngle := |normalizeAngle (phi - pose.orientation)|
  if rho ≤ pose.sightRange ∧ deltaAngle ≤ halfViewingAngle then
    let dist2boundary1 := min rho (pose.sightRange - rho)
    let dist2boundary2 := rho * sinDeg (min (halfViewingAngle - deltaAngle) 90)
    let dist2boundary := max (min dist2boundary1 dist2boundary2) 0
    dist2boundary / distMax * (1 - rho / pose.sightRange)
  else 0

/-- `calculate_scores`. -/
noncomputable def calculateScores (maxSightRange minViewingAngle : ℝ) : ScoreTable where
  stateMesh := pose maxSightRange minViewingAngle
  coordGrid := fun g =>
    let (rho, phi) := polar maxSightRange g
    polar2cartesian rho phi
  scores := fun g s =>
    let (rho, phi) := polar maxSightRange g
    score (pose maxSightRange minViewingAngle s) rho phi

/-- The grid point nearest to a place seen from the camera. -/
noncomputable def nearest (self : ScoreTable) (direction : ℂ) : Fin NUM_GRID_POINTS :=
  ((List.finRange NUM_GRID_POINTS).argmin (fun g => ‖direction - self.coordGrid g‖)).getD 0

end ScoreTable

/-- `round(x, 8)`. -/
noncomputable def roundTo8 (x : ℝ) : ℝ := roundToInt (x * 10 ^ 8) / 10 ^ 8

/-! ## Dictionaries -/

/-- `d[key] = value` for a dictionary given as the list of its items. -/
def assign {α : Type} : List (ℤ × α) → ℤ → α → List (ℤ × α)
  | [], key, value => [(key, value)]
  | item :: rest, key, value =>
      if item.1 = key then (key, value) :: rest else item :: assign rest key value

/-- `joint_goal_state[key]`, which is `(None, None)` for a key that is absent. -/
def goalStateOf (jointGoalState : List (ℤ × Option (ℝ × ℝ))) (key : ℤ) : Option (ℝ × ℝ) :=
  (jointGoalState.lookup key).getD none

/-! ## The agents -/

structure HeuristicCameraAgent (G : Type) extends AgentBase .camera G where
  table : ScoreTable
  lastObservation : Option (List ℝ)
  lastResponses : List Content
  jointGoalState : Option (List (ℤ × Option (ℝ × ℝ)))
  prevAction : ℂ

namespace HeuristicCameraAgent

/-- `controller_index`. -/
def CONTROLLER_INDEX : ℤ := 0

variable {G : Type} [RandomState G]

/-- `reset`. -/
noncomputable def reset (npRandom : G) (observation : List ℝ) :
    Except Error (HeuristicCameraAgent G) := do
  let base ← AgentBase.reset .camera npRandom observation
  return {
    toAgentBase := base
    table := ScoreTable.calculateScores (roundTo8 base.state.maxSightRange)
      (roundTo8 base.state.minViewingAngle)
    lastObservation := none
    lastResponses := []
    jointGoalState := none
    prevAction := CAMERA_DEFAULT_ACTION }

omit [RandomState G] in
/-- `observe` of the base class, which also keeps the observation. -/
noncomputable def observe (self : HeuristicCameraAgent G) (observation : List ℝ) :
    Except Error (HeuristicCameraAgent G) := do
  let (state, base) ← self.checkInputs observation
  return { self with toAgentBase := { base with state }, lastObservation := some observation }

/-! ### Choosing poses -/

/-- What `get_joint_goal_state` computes for a camera before it tries the permutations. -/
structure CameraScores where
  state : CameraStatePrivate
  numWithinRangeTargets : ℕ
  scores : Fin NUM_POSES → ℝ
  trackedBits : Fin NUM_POSES → ℕ → Bool

omit [RandomState G] in
noncomputable def cameraScores (self : HeuristicCameraAgent G)
    (targetStates : List TargetStatePublic) (cameraState : CameraStatePrivate) : CameraScores :=
  let withinRange := targetStates.filter
    (fun ts => decide ((ts.sub cameraState).norm ≤ cameraState.maxSightRange))
  let row := fun ts : TargetStatePublic =>
    self.table.scores (self.table.nearest (ts.location - cameraState.location))
  { state := cameraState
    numWithinRangeTargets := withinRange.length
    scores := fun s => (withinRange.map (fun ts => row ts s)).sum
    trackedBits := fun s t => withinRange.any (fun ts => decide (ts.index = t ∧ 0 < row ts s)) }

/-- The totals and the choices of an order of the cameras. -/
structure Choice where
  scores : ℝ
  cost : ℝ
  permutation : List ℕ
  indices : List (Fin NUM_POSES)
  trackedBits : ℕ → Bool

omit [RandomState G] in
/-- One camera chooses its pose, given what is tracked by those before it. -/
noncomputable def choosePose (self : HeuristicCameraAgent G) (choice : Choice) (c : ℕ)
    (camera : CameraScores) : Choice :=
  let untracked := fun s => ((List.range self.numTargets).filter
    (fun t => camera.trackedBits s t && !choice.trackedBits t)).length
  -- a target that no one before has in sight counts as one more
  let index := ((List.finRange NUM_POSES).argmax
    (fun s => camera.scores s + (untracked s : ℝ))).getD 0
  let pose := self.table.stateMesh index
  let cost := max (|pose.orientation - camera.state.orientation| / self.actionSpace.high.re)
    (|pose.viewingAngle - camera.state.viewingAngle| / self.actionSpace.high.im)
  { scores := choice.scores + camera.scores index
    cost := choice.cost + cost
    permutation := choice.permutation ++ [c]
    indices := choice.indices ++ [index]
    trackedBits := fun t => choice.trackedBits t || camera.trackedBits index t }

omit [RandomState G] in
/-- The choices for one order of the cameras. -/
noncomputable def tryPermutation (self : HeuristicCameraAgent G) (cameras : List CameraScores)
    (permutation : List (Fin cameras.length)) : Choice :=
  let choice := permutation.foldl
    (fun choice (c : Fin cameras.length) => self.choosePose choice c (cameras.get c))
    ⟨0, 0, [], [], fun _ => false⟩
  let tracked := (List.range self.numTargets).filter (fun t => choice.trackedBits t)
  { choice with scores := choice.scores + (tracked.length : ℝ) }

/-- The order of the tuples that `max` compares. -/
noncomputable def Choice.key (self : Choice) : ℝ ×ₗ (ℝ ×ₗ (List ℕ ×ₗ List ℕ)) :=
  toLex (self.scores, toLex (-self.cost, toLex (self.permutation,
    self.indices.map (fun s : Fin NUM_POSES => (s : ℕ)))))

/-- The loop over the permutations. -/
noncomputable def tryPermutations (self : HeuristicCameraAgent G) (cameras : List CameraScores) :
    ℕ → G → List Choice × G
  | 0, npRandom => ([], npRandom)
  | k + 1, npRandom =>
      let (permutation, npRandom) := RandomState.permutation cameras.length npRandom
      let choice := self.tryPermutation cameras ((List.finRange cameras.length).map permutation)
      let (choices, npRandom) := tryPermutations self cameras k npRandom
      (choice :: choices, npRandom)

/-- `get_joint_goal_state`. -/
noncomputable def getJointGoalState (self : HeuristicCameraAgent G)
    (cameraStates : List CameraStatePrivate) (targetStates : List TargetStatePublic) :
    List (ℤ × Option (ℝ × ℝ)) × HeuristicCameraAgent G :=
  let cameras := cameraStates.map (self.cameraScores targetStates)
  let (choices, npRandom) := self.tryPermutations cameras 32 self.npRandom
  -- the first of the best tries
  let best := (choices.argmax Choice.key).getD ⟨0, 0, [], [], fun _ => false⟩
  let jointGoalState := (best.permutation.zip best.indices).foldl
    (fun jointGoalState (c, index) =>
      match cameras[c]? with
      | some camera =>
          if 0 < camera.numWithinRangeTargets then
            let pose := self.table.stateMesh index
            assign jointGoalState camera.state.index (some (pose.orientation, pose.viewingAngle))
          else jointGoalState
      | none => jointGoalState)
    []
  (jointGoalState, { self with npRandom })

/-! ### Acting -/

/-- The pose that the agent should take. Without an answer of the controller it finds one by
itself. -/
noncomputable def goalState (self : HeuristicCameraAgent G) :
    Except Error (Option (ℝ × ℝ) × HeuristicCameraAgent G) :=
  if self.index = CONTROLLER_INDEX then
    match self.jointGoalState with
    | some jointGoalState => .ok (goalStateOf jointGoalState self.index, self)
    | none => .error (.typeError "'NoneType' object is not subscriptable")
  else
    match self.lastResponses.getLast?, self.lastObservation with
    | some (.goalState goalState), _ => .ok (goalState, self)
    | some _, _ => .error (.typeError "unsupported operand")
    | none, none => .error (.typeError "'NoneType' object is not subscriptable")
    | none, some lastObservation => do
        let states ← self.unpackOpponentStates lastObservation
        let targetStates := states.filterMap (fun (ts, tracked) => if tracked then some ts else none)
        if 0 < targetStates.length then
          -- a joint pose of itself alone, for the targets that it sees
          let (jointGoalState, self) := self.getJointGoalState [self.state] targetStates
          return (goalStateOf jointGoalState self.index, self)
        else return (none, self)

/-- `act`. The observation is not looked at. -/
noncomputable def act (self : HeuristicCameraAgent G) (_ : List ℝ) :
    Except Error (ℂ × HeuristicCameraAgent G) := do
  let (goalState, self) ← self.goalState
  match goalState with
  | some (goalOrientation, goalViewingAngle) =>
      let action := self.actionSpace.clip
        ⟨normalizeAngle (goalOrientation - self.state.orientation),
          goalViewingAngle - self.state.viewingAngle⟩
      return (action, { self with prevAction := action })
  | none =>
      let (action, base) := GreedyCameraAgent.idle self.toAgentBase self.prevAction
      return (action, { self with toAgentBase := base, prevAction := action })

/-! ### Communicating -/

omit [RandomState G] in
/-- `send_requests`. -/
def sendRequests (self : HeuristicCameraAgent G) (memory : Memory Content) :
    List Message × Memory Content :=
  if self.index = CONTROLLER_INDEX then ([], memory)
  else
    let (content, memory) := memory.alloc (.observation self.lastObservation)
    ([self.packMessage content (some CONTROLLER_INDEX)], memory)

/-- The targets that the controller has not found yet, and those that it has. -/
structure Sighting where
  unsensed : Finset ℕ
  targetStates : List TargetStatePublic

omit [RandomState G] in
/-- The inner loop of `receive_requests`. -/
noncomputable def sight [SetOrder] (self : HeuristicCameraAgent G) (observation : List ℝ)
    (sighting : Sighting) : Except Error Sighting :=
  (SetOrder.toList sighting.unsensed).foldlM
    (fun sighting (t : ℕ) => do
      let (targetState, sensed) : TargetStatePublic × Bool ←
        self.getOpponentState observation t
      if sensed then
        return ⟨sighting.unsensed.erase t,
          sighting.targetStates ++ [targetState]⟩
      else return sighting)
    sighting

/-- An observation that a teammate has sent. -/
def observationOf : Content → Except Error (List ℝ)
  | .observation (some observation) => .ok observation
  | _ => .error (.typeError "not an observation")

omit [RandomState G] in
/-- The outer loop of `receive_requests`: the states of the cameras, and the targets they see. -/
noncomputable def survey [SetOrder] (self : HeuristicCameraAgent G)
    (jointObservation : List (ℤ × Content)) :
    Except Error (List CameraStatePrivate × Sighting) :=
  jointObservation.foldlM
    (fun (cameraStates, sighting) (c, content) => do
      let observation ← observationOf content
      let cameraState ← StateBase.make CAMERA_STATE_DIM_PRIVATE
        (self.observationSlices.selfState.read observation) c
      let sighting ← self.sight observation sighting
      return (cameraStates ++ [cameraState], sighting))
    ([], ⟨Finset.range self.numTargets, []⟩)

/-- `receive_requests`. -/
noncomputable def receiveRequests [SetOrder] (self : HeuristicCameraAgent G)
    (memory : Memory Content) (messages : List Message) :
    Except Error (HeuristicCameraAgent G) :=
  if self.index ≠ CONTROLLER_INDEX then .ok self
  else do
    let jointObservation := messages.foldl
      (fun jointObservation message =>
        assign jointObservation message.sender (memory.value message.content))
      [(CONTROLLER_INDEX, Content.observation self.lastObservation)]
    let (cameraStates, sighting) ← self.survey jointObservation
    let (jointGoalState, self) := self.getJointGoalState cameraStates sighting.targetStates
    return { self with jointGoalState := some jointGoalState }

omit [RandomState G] in
/-- `send_responses`. -/
def sendResponses (self : HeuristicCameraAgent G) (memory : Memory Content) :
    Except Error (List Message × Memory Content) :=
  if self.index ≠ CONTROLLER_INDEX then .ok ([], memory)
  else
    match self.jointGoalState with
    | none => .error (.attributeError "'NoneType' object has no attribute 'items'")
    | some jointGoalState =>
        .ok (jointGoalState.foldl
          (fun (messages, memory) (c, goalState) =>
            if c = self.index then (messages, memory)
            else
              let (content, memory) := memory.alloc (.goalState goalState)
              (messages ++ [self.packMessage content (some c)], memory))
          ([], memory))

omit [RandomState G] in
/-- `receive_responses`. -/
def receiveResponses (self : HeuristicCameraAgent G) (memory : Memory Content)
    (messages : List Message) : HeuristicCameraAgent G :=
  { self with lastResponses := messages.map (fun message => memory.value message.content) }

end HeuristicCameraAgent

end Mate
