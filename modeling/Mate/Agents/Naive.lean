import Mate.Agents.Target

set_option autoImplicit false

/-! # Naive and random agents

Both kinds hardly look at the observation. They observe by the method of the base class, and have
nothing to say to their teammates.
-/

namespace Mate

/-- `observe` of the base class. -/
def AgentBase.observe {team : Team} {G : Type} (self : AgentBase team G) (observation : List ℝ) :
    Except Error (AgentBase team G) := do
  let (state, base) ← self.checkInputs observation
  return { base with state }

/-! ## Naive agents -/

/-- Rotates with the maximum viewing angle. -/
structure NaiveCameraAgent (G : Type) extends AgentBase .camera G

namespace NaiveCameraAgent

variable {G : Type} [RandomState G]

noncomputable def reset (npRandom : G) (observation : List ℝ) :
    Except Error (NaiveCameraAgent G) := do
  let base ← AgentBase.reset .camera npRandom observation
  return { toAgentBase := base }

noncomputable def act (self : NaiveCameraAgent G) (observation : List ℝ) :
    Except Error (ℂ × NaiveCameraAgent G) := do
  let (state, base) ← self.checkInputs observation
  let (scale, npRandom) := RandomState.uniform 0 (4 / 10) base.npRandom
  return (scale • base.actionSpace.high, { toAgentBase := { base with state, npRandom } })

end NaiveCameraAgent

/-- Visits all warehouses in turn. -/
structure NaiveTargetAgent (G : Type) extends AgentBase .target G where
  goal : Warehouse
  prevState : TargetStatePrivate
  prevNoise : ℂ
  inc : ℤˣ

namespace NaiveTargetAgent

/-- `(goal + inc) % NUM_WAREHOUSES`. -/
def nextGoal (inc : ℤˣ) (goal : Warehouse) : Warehouse :=
  ⟨(((goal : ℕ) : ℤ) + inc).natMod (NUM_WAREHOUSES : ℕ), Int.natMod_lt (by decide)⟩

/-- The loop of `act` that looks for a warehouse which is not known to be empty. -/
def seekGoal (inc : ℤˣ) (emptyBits : Warehouse → Bool) : ℕ → Warehouse → Except Error Warehouse
  | 0, _ => .error .outOfFuel
  | fuel + 1, goal =>
      let goal := nextGoal inc goal
      if emptyBits goal then seekGoal inc emptyBits fuel goal else .ok goal

variable {G : Type} [RandomState G]

noncomputable def reset (npRandom : G) (observation : List ℝ) :
    Except Error (NaiveTargetAgent G) := do
  let base ← AgentBase.reset .target npRandom observation
  let (action, actionSpace) := base.actionSpace.sample
  let (goal, npRandom) := RandomState.randint NUM_WAREHOUSES (by decide) base.npRandom
  let (inc, npRandom) ← RandomState.choice [1, -1] npRandom
  return {
    toAgentBase := { base with actionSpace, npRandom }
    goal
    prevState := base.state
    prevNoise := (1 / 2 : ℝ) • action
    inc }

/-- The goal of `act`: the next one when the target has arrived. -/
noncomputable def chooseGoal (self : NaiveTargetAgent G) : Except Error Warehouse :=
  if ‖self.state.location - warehouseLocation self.goal‖ ≤ 9 / 10 * (WAREHOUSE_RADIUS : ℝ) then
    if (∃ w, self.state.goalBits w ≠ 0) ∨ ∀ w, self.state.emptyBits w = true then
      .ok (nextGoal self.inc self.goal)
    else seekGoal self.inc self.state.emptyBits NUM_WAREHOUSES self.goal
  else .ok self.goal

/-- `act`. -/
noncomputable def act (self : NaiveTargetAgent G) (observation : List ℝ) :
    Except Error (ℂ × NaiveTargetAgent G) := do
  let (state, base) ← self.checkInputs observation
  let self := { self with toAgentBase := { base with state } }
  let goal ← self.chooseGoal
  let prevActualAction := state.location - self.prevState.location
  let action := warehouseLocation goal - state.location
  let action := if state.stepSize < ‖action‖ then (state.stepSize / ‖action‖) • action else action
  -- fresh noise is likelier after a short move
  let prob := if (2 / 10 : ℝ) * state.stepSize < ‖prevActualAction‖ then 5 / 100 else 75 / 100
  let (fresh, npRandom) := RandomState.binomial prob self.npRandom
  let (noise, actionSpace) :=
    if fresh then
      let (sample, actionSpace) := self.actionSpace.sample
      ((1 / 2 : ℝ) • sample, actionSpace)
    else (self.prevNoise, self.actionSpace)
  return (self.actionSpace.clip (action + noise),
    { self with goal, npRandom, actionSpace, prevState := state, prevNoise := noise })

end NaiveTargetAgent

/-! ## Random agents -/

/-- The common body of the two classes below. -/
structure RandomAgent (team : Team) (G : Type) extends AgentBase team G where
  frameSkip : ℤ
  prevAction : Option ℂ

abbrev RandomCameraAgent := RandomAgent .camera
abbrev RandomTargetAgent := RandomAgent .target

namespace RandomAgent

variable {team : Team} {G : Type} [RandomState G]

noncomputable def reset (frameSkip : ℤ) (npRandom : G) (observation : List ℝ) :
    Except Error (RandomAgent team G) := do
  let base ← AgentBase.reset team npRandom observation
  return { toAgentBase := base, frameSkip, prevAction := none }

noncomputable def draw (self : RandomAgent team G) : ℂ × RandomAgent team G :=
  let (action, actionSpace) := self.actionSpace.sample
  (action, { self with actionSpace, prevAction := some action })

/-- `act`: the clock of the agent says when to draw again. -/
noncomputable def act (self : RandomAgent team G) (observation : List ℝ) :
    Except Error (ℂ × RandomAgent team G) := do
  let (state, base) ← self.checkInputs observation
  let self := { self with toAgentBase := { base with state } }
  match self.prevAction with
  | none => return self.draw
  | some action =>
      if self.frameSkip = 0 then .error (.zeroDivisionError "integer division or modulo by zero")
      else if self.episodeStep % self.frameSkip = 0 then return self.draw
      else return (action, self)

end RandomAgent

end Mate
