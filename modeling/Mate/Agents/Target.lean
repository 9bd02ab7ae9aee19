import Mate.Agents.Base

set_option autoImplicit false

/-! # Target agents that share what they know of the warehouses

`GreedyTargetAgent` keeps a set of warehouses that may still have cargoes. It drops a warehouse
that its own state shows as empty and broadcasts the set once for every change; from its
teammates it takes the intersection. `HeuristicTargetAgent` only acts differently.
-/

namespace Mate

open Fallible

/-- Allocation of a new object. -/
def Memory.alloc {V : Type} (memory : Memory V) (value : V) : ℕ × Memory V :=
  (memory.next, ⟨memory.next + 1, Function.update memory.value memory.next value⟩)

/-- `pack_message`. -/
def AgentBase.packMessage {team : Team} {G : Type} (self : AgentBase team G) (content : ℕ)
    (recipient : Option ℤ) : Message where
  sender := self.index
  recipient := recipient
  content := content
  team := team
  broadcasting := recipient.isNone

namespace StateBase

/-- `goal_bits` of a private state of a target. -/
noncomputable def goalBits (self : TargetStatePrivate) (w : Warehouse) : ℤ :=
  truncate (self.entry (6 + w))

/-- `empty_bits` of a private state of a target. -/
noncomputable def emptyBits (self : TargetStatePrivate) (w : Warehouse) : Bool :=
  decide (self.entry (6 + NUM_WAREHOUSES + w) ≠ 0)

/-- `step_size` of a private state of a target. -/
def stepSize (self : TargetStatePrivate) : ℝ := self.entry 4

end StateBase

structure GreedyTargetAgent (G : Type) extends AgentBase .target G where
  noiseScale : ℝ
  goalBits : Warehouse → ℤ
  prevState : TargetStatePrivate
  prevNoise : ℂ
  nonEmptyWarehouses : Finset ℕ
  needCommunication : Bool

namespace GreedyTargetAgent

variable {G : Type} [RandomState G]

/-- `goal`, the first warehouse with a bit that is set. -/
def goal (self : GreedyTargetAgent G) : Option Warehouse :=
  (List.finRange NUM_WAREHOUSES).find? (fun w => self.goalBits w ≠ 0)

/-- `reset`, given what `__init__` and `seed` have left. -/
noncomputable def reset (noiseScale : ℝ) (npRandom : G) (observation : List ℝ) :
    Except Error (GreedyTargetAgent G) := do
  let base ← AgentBase.reset .target npRandom observation
  let (action, actionSpace) := base.actionSpace.sample
  return {
    toAgentBase := { base with actionSpace }
    noiseScale
    goalBits := base.state.goalBits
    prevState := base.state
    prevNoise := (1 / 2 : ℝ) • action
    nonEmptyWarehouses := Finset.range NUM_WAREHOUSES
    needCommunication := false }

/-! ## Observing and communicating -/

/-- `set(np.flatnonzero(self.state.empty_bits))`. -/
noncomputable def seenEmptyWarehouses (self : GreedyTargetAgent G) : Finset ℕ :=
  (Finset.univ.filter (fun w => self.state.emptyBits w = true)).image (fun w : Warehouse => (w : ℕ))

/-- `process_messages`. -/
noncomputable def processMessages (self : GreedyTargetAgent G) : GreedyTargetAgent G :=
  if 0 < (self.seenEmptyWarehouses ∩ self.nonEmptyWarehouses).card then
    { self with
      nonEmptyWarehouses := self.nonEmptyWarehouses \ self.seenEmptyWarehouses
      needCommunication := true }
  else self

/-- `observe`. -/
noncomputable def observe (self : GreedyTargetAgent G) (observation : List ℝ) :
    Except Error (GreedyTargetAgent G) := do
  let (state, base) ← self.checkInputs observation
  return { self with toAgentBase := { base with state } }.processMessages

/-- `send_responses`; the content of the message is a new object. -/
def sendResponses (self : GreedyTargetAgent G) (memory : Memory (Finset ℕ)) :
    List Message × Memory (Finset ℕ) × GreedyTargetAgent G :=
  if self.needCommunication then
    let (content, memory) := memory.alloc self.nonEmptyWarehouses
    ([self.packMessage content none], memory, { self with needCommunication := false })
  else ([], memory, self)

/-- `receive_responses`. -/
def receiveResponses (self : GreedyTargetAgent G) (memory : Memory (Finset ℕ))
    (messages : List Message) : GreedyTargetAgent G :=
  { self with
    nonEmptyWarehouses := messages.foldl
      (fun warehouses message => warehouses ∩ memory.value message.content)
      self.nonEmptyWarehouses }

/-! ## Acting -/

/-- `self.state.goal_bits.any()`. -/
noncomputable def loaded (self : GreedyTargetAgent G) : Bool :=
  decide (∃ w, self.state.goalBits w ≠ 0)

/-- The goal bits of the state, if there are any. -/
noncomputable def followState (self : GreedyTargetAgent G) : GreedyTargetAgent G :=
  if self.loaded then { self with goalBits := self.state.goalBits } else self

/-- Whether there is a goal, and no reason to drop it. -/
noncomputable def keepsGoal (self : GreedyTargetAgent G) : Bool :=
  match self.goal with
  | none => false
  | some goal => self.loaded || decide ((goal : ℕ) ∈ self.nonEmptyWarehouses)

/-- The goal of `act`: the one of the state, the previous one, or a new one. -/
noncomputable def chooseGoal [SetOrder] (self : GreedyTargetAgent G) :
    Except Error (GreedyTargetAgent G) :=
  let self := self.followState
  if self.keepsGoal then .ok self
  else if 0 < self.nonEmptyWarehouses.card then do
    let (newGoal, npRandom) ←
      RandomState.choice (SetOrder.toList self.nonEmptyWarehouses) self.npRandom
    let w ← axisIndex NUM_WAREHOUSES newGoal
    return { self with npRandom, goalBits := Function.update 0 w 1 }
  else .ok { self with goalBits := 0 }

/-- The step towards the goal, at most as long as the step size. -/
noncomputable def stepToGoal (self : GreedyTargetAgent G) : ℂ :=
  match self.goal with
  | none => 0
  | some goal =>
      let action := warehouseLocation goal - self.state.location
      if self.state.stepSize < ‖action‖ then (self.state.stepSize / ‖action‖) • action else action

/-- `act`. -/
noncomputable def act [SetOrder] (self : GreedyTargetAgent G) (observation : List ℝ) :
    Except Error (ℂ × GreedyTargetAgent G) := do
  let (state, base) ← self.checkInputs observation
  let self ← { self with toAgentBase := { base with state } }.chooseGoal
  let prevActualAction := self.state.location - self.prevState.location
  let prob := if (2 / 10 : ℝ) * self.state.stepSize < ‖prevActualAction‖ then 5 / 100 else 75 / 100
  let (fresh, npRandom) := RandomState.binomial prob self.npRandom
  let (noise, actionSpace) :=
    if fresh then
      let (sample, actionSpace) := self.actionSpace.sample
      (self.noiseScale • sample, actionSpace)
    else (self.prevNoise, self.actionSpace)
  return (self.actionSpace.clip (self.stepToGoal + noise),
    { self with npRandom, actionSpace, prevState := self.state, prevNoise := noise })

/-! ## What the methods leave alone -/

omit [RandomState G] in
/-- **What `observe` does**: it reads the state, and the knowledge changes by what the state
shows. -/
theorem observe_eq_ok {self self' : GreedyTargetAgent G} {observation : List ℝ}
    (h : self.observe observation = .ok self') :
    ∃ state base, self.checkInputs observation = .ok (state, base)
      ∧ self' = { self with toAgentBase := { base with state } }.processMessages := by
  obtain ⟨⟨state, base⟩, hcheck, h⟩ := bind_eq_ok.mp h
  cases h
  exact ⟨state, base, hcheck, rfl⟩

/-- The two agents have the same knowledge, and their bases differ only by a generator and the
space of the actions. -/
structure SameKnowledge (a a' : GreedyTargetAgent G) : Prop where
  base : a'.toAgentBase
    = { a.toAgentBase with npRandom := a'.npRandom, actionSpace := a'.actionSpace }
  noiseScale : a'.noiseScale = a.noiseScale
  nonEmptyWarehouses : a'.nonEmptyWarehouses = a.nonEmptyWarehouses
  needCommunication : a'.needCommunication = a.needCommunication

omit [RandomState G] in
theorem SameKnowledge.trans {a a' a'' : GreedyTargetAgent G} (h : SameKnowledge a a')
    (h' : SameKnowledge a' a'') : SameKnowledge a a'' where
  base := by rw [h'.base, h.base]
  noiseScale := h'.noiseScale.trans h.noiseScale
  nonEmptyWarehouses := h'.nonEmptyWarehouses.trans h.nonEmptyWarehouses
  needCommunication := h'.needCommunication.trans h.needCommunication

theorem chooseGoal_ensures [SetOrder] (self : GreedyTargetAgent G) :
    Ensures self.chooseGoal (SameKnowledge self) := by
  have hsame : SameKnowledge self self.followState := by
    unfold followState
    split
    · exact ⟨rfl, rfl, rfl, rfl⟩
    · exact ⟨rfl, rfl, rfl, rfl⟩
  have hkeep : ∀ (npRandom : G) (goalBits : Warehouse → ℤ), SameKnowledge self
      { self.followState with npRandom := npRandom, goalBits := goalBits } :=
    fun _ _ => hsame.trans ⟨rfl, rfl, rfl, rfl⟩
  unfold chooseGoal
  dsimp only
  split
  · exact Ensures.pure hsame
  · split
    · refine Ensures.andThen (fun r => ?_)
      refine Ensures.andThen (fun w => Ensures.pure ?_)
      exact hkeep _ _
    · exact Ensures.pure (hkeep _ _)

/-- **What `act` does** besides choosing an action: it reads the state. -/
theorem act_eq_ok [SetOrder] {self self' : GreedyTargetAgent G} {observation : List ℝ}
    {action : ℂ} (h : self.act observation = .ok (action, self')) :
    ∃ state base, self.checkInputs observation = .ok (state, base)
      ∧ SameKnowledge { self with toAgentBase := { base with state } } self' := by
  obtain ⟨⟨state, base⟩, hcheck, h⟩ := bind_eq_ok.mp h
  obtain ⟨chosen, hchosen, h⟩ := bind_eq_ok.mp h
  refine ⟨state, base, hcheck, (chooseGoal_ensures _ chosen hchosen).trans ?_⟩
  cases h
  exact ⟨rfl, rfl, rfl, rfl⟩

end GreedyTargetAgent

/-! ## Escaping from the cameras -/

namespace HeuristicTargetAgent

variable {G : Type} [RandomState G]

/-- The circle around the center of the field of view of a camera, for a target in front of it. -/
noncomputable def cameraCenter (state : TargetStatePrivate) (camera : CameraStatePublic) :
    Option (Vector2D × ℝ) :=
  let sight : ℂ := ⟨camera.entry 3, camera.entry 4⟩
  let direction := state.sub camera
  let halfViewingAngle := camera.entry 5 / 2
  let angleDiff := normalizeAngle (direction.angle - arctan2Deg sight)
  if direction.norm ≤ 12 / 10 * ‖sight‖ ∧ angleDiff ≤ 12 / 10 * halfViewingAngle then
    let center := Vector2D.ofPolar camera.location (‖sight‖ / (1 + sinDeg (min halfViewingAngle 90)))
      (arctan2Deg sight)
    some (center, ‖sight‖ - center.norm)
  else none

/-- A float that may be infinite, or `none` for NaN. -/
abbrev ExtendedFloat := Option (WithTop ℝ)

/-- `x / y` of numpy floats, for a norm `x`. -/
noncomputable def floatRatio (x y : ℝ) : ExtendedFloat :=
  if y = 0 then if x = 0 then none else some ⊤ else some ((x / y : ℝ) : WithTop ℝ)

/-- `x < y`; NaN is not comparable. -/
def ExtendedFloat.Lt : ExtendedFloat → ExtendedFloat → Prop
  | some x, some y => x < y
  | _, _ => False

open Classical in
/-- `min(iterable, key=key)`: an element is kept until a later one has a smaller key. -/
noncomputable def minBy {α : Type} (key : α → ExtendedFloat) : List α → Option α
  | [] => none
  | a :: rest => some (rest.foldl (fun best b => if (key b).Lt (key best) then b else best) a)

/-- The drift away from the nearest circle, unless it opposes the action. -/
noncomputable def chosenDrift (state : TargetStatePrivate) (noiseScale : ℝ) (action : ℂ)
    (cameraCenters : List (Vector2D × ℝ)) : Option ℂ :=
  match minBy (fun cr => floatRatio ‖state.location - cr.1.endpoint‖ cr.2) cameraCenters with
  | none => none
  | some (center, _) =>
      let drift := state.location - center.endpoint
      let bound := state.stepSize * noiseScale
      let drift := if bound < ‖drift‖ then (bound / ‖drift‖) • drift else drift
      if 0 ≤ dot action drift then some drift else none

/-- The action with the drift, if there is one. -/
noncomputable def drifted (self : GreedyTargetAgent G) (action : ℂ)
    (cameraCenters : List (Vector2D × ℝ)) : ℂ :=
  match chosenDrift self.state self.noiseScale action cameraCenters with
  | none => action
  | some drift => self.actionSpace.clip (action + drift)

/-- `act`. Without cameras there is nothing to unpack. -/
noncomputable def act [SetOrder] (self : GreedyTargetAgent G) (observation : List ℝ) :
    Except Error (ℂ × GreedyTargetAgent G) := do
  let (action, self) ← self.act observation
  let states ← self.getAllOpponentStates observation
  if states = [] then .error (.valueError "not enough values to unpack (expected 2, got 0)")
  else
    let cameraCenters := states.filterMap
      (fun (camera, sensed) => if sensed then cameraCenter self.state camera else none)
    return (drifted self action cameraCenters, self)

/-- It leaves the agent as the greedy one does. -/
theorem act_eq_ok [SetOrder] {self self' : GreedyTargetAgent G} {observation : List ℝ}
    {action : ℂ} (h : act self observation = .ok (action, self')) :
    ∃ action', self.act observation = .ok (action', self') := by
  obtain ⟨⟨action', acted⟩, hact, h⟩ := bind_eq_ok.mp h
  obtain ⟨states, -, h⟩ := bind_eq_ok.mp h
  split at h
  · cases h
  · cases h
    exact ⟨action', hact⟩

end HeuristicTargetAgent

end Mate
