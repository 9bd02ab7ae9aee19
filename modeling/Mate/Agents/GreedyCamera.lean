import Mate.Agents.Naive

set_option autoImplicit false

/-! # Greedy camera agents

A greedy camera turns to the nearest target that it remembers. It forgets a target some time
after it was seen last, by the agent or by a teammate: teammates that are near tell each other
about the targets they see.
-/

namespace Mate

open Fallible

/-! ## Reading states -/

namespace StateBase

variable {DIM : ℕ}

/-- `orientation` of a state of a camera. -/
noncomputable def orientation (self : StateBase DIM) : ℝ :=
  arctan2Deg ⟨self.entry 3, self.entry 4⟩

/-- `sight_range` of a state of a camera. -/
noncomputable def sightRange (self : StateBase DIM) : ℝ := ‖(⟨self.entry 3, self.entry 4⟩ : ℂ)‖

/-- `viewing_angle` of a state of a camera. -/
def viewingAngle (self : StateBase DIM) : ℝ := self.entry 5

/-- `max_sight_range` of a private state of a camera. -/
def maxSightRange (self : CameraStatePrivate) : ℝ := self.entry 6

/-- `min_viewing_angle` of a private state of a camera. -/
noncomputable def minViewingAngle (self : CameraStatePrivate) : ℝ :=
  self.viewingAngle * (self.sightRange / self.maxSightRange) ^ 2

/-- `is_loaded` of a public state of a target. -/
noncomputable def isLoaded (self : TargetStatePublic) : Bool := decide (self.entry 3 ≠ 0)

end StateBase

/-- `target_states, tracked_bits = self.get_all_opponent_states(observation)`, as pairs. Without
opponents there is nothing to unpack. -/
noncomputable def AgentBase.unpackOpponentStates {team : Team} {G : Type} (self : AgentBase team G)
    (observation : List ℝ) : Except Error (List (StateBase team.opponentStateDim × Bool)) := do
  let states ← self.getAllOpponentStates observation
  if states = [] then .error (.valueError "not enough values to unpack (expected 2, got 0)")
  else return states

/-- `randint(low, high)`. -/
def RandomState.randintBetween {G : Type} [RandomState G] (low high : ℤ) (g : G) :
    Except Error (ℤ × G) :=
  if h : 0 < (high - low).toNat then
    let (k, g) := RandomState.randint (high - low).toNat h g
    .ok (low + ((k : ℕ) : ℤ), g)
  else .error (.valueError "low >= high")

/-! ## What agents tell each other -/

/-- The dictionaries that greedy cameras send; an absent key is `none`. -/
structure CameraContent where
  state : Option CameraStatePrivate
  targetStates : Option (List TargetStatePublic)

/-- `len(content) > 0`. -/
def CameraContent.nonempty (self : CameraContent) : Bool :=
  self.state.isSome || self.targetStates.isSome

/-- The contents of the messages of the agents. -/
inductive Content
  | nonEmptyWarehouses (warehouses : Finset ℕ)
  | camera (content : CameraContent)
  | observation (observation : Option (List ℝ))
  | goalState (goalState : Option (ℝ × ℝ))

/-! ## Greedy cameras -/

/-- `range_factor`. -/
noncomputable def RANGE_FACTOR : ℝ := 11 / 10

/-- `CAMERA_DEFAULT_ACTION`. -/
def CAMERA_DEFAULT_ACTION : ℂ := 0

structure GreedyCameraAgent (G : Type) extends AgentBase .camera G where
  memoryPeriod : ℤ
  filteroutUnloaded : Bool
  filteroutBeyondRange : Bool
  memory : List TargetStatePublic
  time2forget : List ℤ
  neverLoaded : List Bool
  prevAction : ℂ
  neighboringTeammateStates : ℤ → Option CameraStatePrivate
  message2send : CameraContent
  communicationDelay : List ℤ

namespace GreedyCameraAgent

variable {G : Type} [RandomState G]

/-- `reset`. -/
noncomputable def reset (memoryPeriod : ℤ) (filteroutUnloaded filteroutBeyondRange : Bool)
    (npRandom : G) (observation : List ℝ) : Except Error (GreedyCameraAgent G) := do
  let base ← AgentBase.reset .camera npRandom observation
  let states ← base.unpackOpponentStates observation
  return {
    toAgentBase := base
    memoryPeriod, filteroutUnloaded, filteroutBeyondRange
    memory := states.map Prod.fst
    -- a target that is seen at the reset is remembered for the whole period
    time2forget := states.map (fun (_, tracked) => if tracked then memoryPeriod else 0)
    neverLoaded := List.replicate base.numTargets true
    prevAction := CAMERA_DEFAULT_ACTION
    neighboringTeammateStates := fun _ => none
    message2send := ⟨some base.state, none⟩
    communicationDelay := List.replicate base.numTeammates 0 }

/-! ### Observing -/

omit [RandomState G] in
/-- What the agent notes of a target that it sees or is told of. -/
noncomputable def note (self : GreedyCameraAgent G) (t : ℕ) (targetState : TargetStatePublic) :
    GreedyCameraAgent G :=
  { self with
    memory := self.memory.set t targetState
    time2forget := self.time2forget.set t self.memoryPeriod
    neverLoaded :=
      if targetState.isLoaded then self.neverLoaded.set t false else self.neverLoaded }

omit [RandomState G] in
/-- A target that is seen is noted, and the teammates are to be told of it. -/
noncomputable def see (self : GreedyCameraAgent G) (t : ℕ) (targetState : TargetStatePublic) :
    GreedyCameraAgent G :=
  let self := self.note t targetState
  { self with
    message2send := { self.message2send with
      targetStates := some (self.message2send.targetStates.getD [] ++ [targetState]) } }

omit [RandomState G] in
/-- `process_messages`. -/
noncomputable def processMessages (self : GreedyCameraAgent G) (observation : List ℝ) :
    Except Error (GreedyCameraAgent G) := do
  let self := { self with time2forget := self.time2forget.map (fun time => max (time - 1) 0) }
  let states ← self.unpackOpponentStates observation
  return states.zipIdx.foldl
    (fun self ((targetState, tracked), t) => if tracked then self.see t targetState else self) self

omit [RandomState G] in
/-- `observe`. -/
noncomputable def observe (self : GreedyCameraAgent G) (observation : List ℝ) :
    Except Error (GreedyCameraAgent G) := do
  let (state, base) ← self.checkInputs observation
  { self with toAgentBase := { base with state } }.processMessages observation

/-! ### Acting -/

omit [RandomState G] in
/-- `best_viewing_angle()`. -/
noncomputable def bestViewingAngle (self : GreedyCameraAgent G) (targetState : TargetStatePublic) :
    ℝ :=
  let distance := (targetState.sub self.state).norm
  if self.state.maxSightRange ≤ distance * (1 + sinDeg (self.state.minViewingAngle / 2)) then
    self.state.minViewingAngle
  else
    let areaProduct := self.state.viewingAngle * self.state.sightRange ^ 2
    let widest := min 180 (MAX_CAMERA_VIEWING_ANGLE : ℝ)
    if distance ≤ √(areaProduct / 180) / 2 then widest
    else
      let best := (fun best => areaProduct / (distance * (1 + sinDeg (min (best / 2) 90))) ^ 2)^[20]
        widest
      min (max best self.state.minViewingAngle) MAX_CAMERA_VIEWING_ANGLE

omit [RandomState G] in
/-- `act_from_target_states`: the nearest target is placed at the center of the field of view. -/
noncomputable def actFromTargetStates (self : GreedyCameraAgent G)
    (targetStates : List TargetStatePublic) : Except Error ℂ :=
  match targetStates.argmin (fun ts => (ts.sub self.state).norm) with
  | none => .error
      (.assertionError "You should provide at least one target to compute the action.")
  | some targetState =>
      let bestOrientation := (targetState.sub self.state).angle
      .ok (self.actionSpace.clip
        ⟨normalizeAngle (bestOrientation - self.state.orientation),
          self.bestViewingAngle targetState - self.state.viewingAngle⟩)

omit [RandomState G] in
/-- The targets of `act`. -/
noncomputable def trackedTargets (self : GreedyCameraAgent G) :
    Except Error (List TargetStatePublic) := do
  let targets := (self.memory.zip self.time2forget).filterMap
    (fun (ts, time) => if time ≠ 0 then some ts else none)
  let threshold := RANGE_FACTOR * self.state.maxSightRange
  let targets :=
    if self.filteroutBeyondRange then
      targets.filter (fun ts => decide ((ts.sub self.state).norm < threshold))
    else targets
  if self.filteroutUnloaded then
    targets.filterM (fun ts => do
      -- an empty target is left out only when it has had a cargo before
      if ts.isLoaded then return true
      else
        let t ← axisIndex self.neverLoaded.length ts.index
        return self.neverLoaded.get t)
  else return targets

/-- The random action of an agent that does not know where to look. -/
noncomputable def idle (self : AgentBase .camera G) (prevAction : ℂ) : ℂ × AgentBase .camera G :=
  let (fresh, npRandom) := RandomState.binomial (1 / 10) self.npRandom
  if fresh then
    let (action, actionSpace) := self.actionSpace.sample
    (action, { self with npRandom, actionSpace })
  else (prevAction, { self with npRandom })

/-- `act`. -/
noncomputable def act (self : GreedyCameraAgent G) (observation : List ℝ) :
    Except Error (ℂ × GreedyCameraAgent G) := do
  let (state, base) ← self.checkInputs observation
  let self := { self with toAgentBase := { base with state } }
  let targets ← self.trackedTargets
  if 0 < targets.length then do
    let action ← self.actFromTargetStates targets
    return (action, { self with prevAction := action })
  else
    let (action, base) := idle self.toAgentBase self.prevAction
    return (action, { self with toAgentBase := base, prevAction := action })

/-! ### Communicating -/

omit [RandomState G] in
/-- The content for teammate `c`: it is told of the targets near it. -/
noncomputable def contentFor (self : GreedyCameraAgent G) (c : ℕ) : CameraContent :=
  match self.message2send.targetStates with
  | none => self.message2send
  | some targetStates =>
      match self.neighboringTeammateStates c with
      | some teammateState =>
          if self.filteroutBeyondRange then
            let threshold := RANGE_FACTOR * teammateState.maxSightRange
            let near := targetStates.filter
              (fun ts => decide ((ts.sub teammateState).norm < threshold))
            { self.message2send with targetStates := if near = [] then none else some near }
          else { self.message2send with targetStates := none }
      | none => { self.message2send with targetStates := none }

/-- The body of the loop of `send_responses`. -/
noncomputable def sendTo (c : ℕ) (self : GreedyCameraAgent G) (memory : Memory Content)
    (messages : List Message) :
    Except Error (GreedyCameraAgent G × Memory Content × List Message) :=
  if (c : ℤ) = self.index ∨ 0 < self.communicationDelay.getD c 0 then .ok (self, memory, messages)
  else
    let content := self.contentFor c
    if content.nonempty then do
      let (reference, memory) := memory.alloc (.camera content)
      let (delay, npRandom) ← RandomState.randintBetween (self.memoryPeriod / 4)
        (2 * self.memoryPeriod) self.npRandom
      return ({ self with npRandom, communicationDelay := self.communicationDelay.set c delay },
        memory, messages ++ [self.packMessage reference (some c)])
    else .ok (self, memory, messages)

/-- `send_responses`. -/
noncomputable def sendResponses (self : GreedyCameraAgent G) (memory : Memory Content) :
    Except Error (List Message × Memory Content × GreedyCameraAgent G) := do
  let self := { self with
    communicationDelay := self.communicationDelay.map (fun delay => max (delay - 1) 0) }
  if self.message2send.nonempty then do
    let (self, memory, messages) ← (List.range self.numCameras).foldlM
      (fun (self, memory, messages) c => sendTo c self memory messages) (self, memory, [])
    return (messages, memory, { self with message2send := ⟨none, none⟩ })
  else return ([], memory, self)

omit [RandomState G] in
/-- What the agent does with the state of a teammate. -/
noncomputable def meetTeammate (self : GreedyCameraAgent G) (sender : ℤ)
    (teammateState : CameraStatePrivate) : GreedyCameraAgent G :=
  let isNeighboring := !self.filteroutBeyondRange
    || decide ((teammateState.sub self.state).norm
      < self.state.maxSightRange + RANGE_FACTOR * teammateState.maxSightRange)
  let self := { self with
    neighboringTeammateStates := Function.update self.neighboringTeammateStates sender
      (if isNeighboring then some teammateState else none) }
  -- this line comes after the branches of the source, and undoes the second one
  { self with
    neighboringTeammateStates :=
      Function.update self.neighboringTeammateStates sender (some teammateState) }

omit [RandomState G] in
/-- What the agent does with a target that a teammate tells it of. -/
noncomputable def learnTarget (self : GreedyCameraAgent G) (targetState : TargetStatePublic) :
    Except Error (GreedyCameraAgent G) := do
  let t ← axisIndex self.memory.length targetState.index
  return self.note t targetState

omit [RandomState G] in
/-- `receive_responses`. Other contents than those of greedy cameras have no `get`. -/
noncomputable def receiveResponses (self : GreedyCameraAgent G) (memory : Memory Content)
    (messages : List Message) : Except Error (GreedyCameraAgent G) :=
  messages.foldlM
    (fun self message =>
      match memory.value message.content with
      | .camera content =>
          let self := match content.state with
            | some teammateState => self.meetTeammate message.sender teammateState
            | none => self
          (content.targetStates.getD []).foldlM learnTarget self
      | _ => .error (.attributeError "get"))
    self

end GreedyCameraAgent

end Mate
