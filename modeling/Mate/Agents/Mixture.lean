import Mate.Agents.HeuristicCamera
import Mathlib.Algebra.BigOperators.Fin
import Mathlib.Algebra.BigOperators.Ring.Finset

set_option autoImplicit false

/-! # The built-in classes of agents

`BuiltAgent` is an agent as its constructor leaves it, `Agent` one that has been reset. A mixture
chooses one of its candidates at every reset, and passes every call on to it; the candidates that
were not chosen are left out.
-/

namespace Mate

open Fallible

/-- `choice(a, p=p)` for an array of length `n`, as an index. -/
noncomputable def RandomState.weightedChoice {G : Type} [RandomState G] {n : ℕ} (p : Fin n → ℝ)
    (g : G) : Except Error (Fin n × G) :=
  if (∀ i, 0 ≤ p i) ∧ ∑ i, p i = 1 then
    let (u, g) := RandomState.random g
    let index := (Finset.univ.filter (fun i => ∑ j ∈ Finset.Iic i, p j ≤ (u : ℝ))).card
    if h : index < n then .ok (⟨index, h⟩, g)
    else .error (.indexError "index is out of bounds")
  else .error (.valueError "probabilities do not sum to 1")

/-- A constructed agent: its class, its parameters and its generators. -/
inductive BuiltAgent (G : Type) : Team → Type
  | naiveCamera (npRandom : G) : BuiltAgent G .camera
  | naiveTarget (npRandom : G) : BuiltAgent G .target
  | random {team : Team} (frameSkip : ℤ) (npRandom : G) : BuiltAgent G team
  | greedyCamera (memoryPeriod : ℤ) (filteroutUnloaded filteroutBeyondRange : Bool)
      (npRandom : G) : BuiltAgent G .camera
  | greedyTarget (noiseScale : ℝ) (npRandom : G) : BuiltAgent G .target
  | heuristicCamera (npRandom : G) : BuiltAgent G .camera
  | heuristicTarget (noiseScale : ℝ) (npRandom : G) : BuiltAgent G .target
  | mixture {team : Team} {n : ℕ} (candidates : Fin n → BuiltAgent G team) (weights : Fin n → ℝ)
      (npRandom npRandomMixture : G) : BuiltAgent G team

/-- An agent after a reset. -/
inductive Agent (G : Type) : Team → Type
  | naiveCamera (self : NaiveCameraAgent G) : Agent G .camera
  | naiveTarget (self : NaiveTargetAgent G) : Agent G .target
  | random {team : Team} (self : RandomAgent team G) : Agent G team
  | greedyCamera (self : GreedyCameraAgent G) : Agent G .camera
  | greedyTarget (self : GreedyTargetAgent G) : Agent G .target
  | heuristicCamera (self : HeuristicCameraAgent G) : Agent G .camera
  | heuristicTarget (self : GreedyTargetAgent G) : Agent G .target
  | mixture {team : Team} (self : AgentBase team G) (currentAgent : Agent G team) : Agent G team

/-! ## Resetting -/

section

variable {G : Type} [RandomState G]

/-- `reset` of every class. -/
noncomputable def BuiltAgent.reset {team : Team} (self : BuiltAgent G team)
    (observation : List ℝ) : Except Error (Agent G team) :=
  match self with
  | .naiveCamera npRandom => do
      let agent ← NaiveCameraAgent.reset npRandom observation
      return .naiveCamera agent
  | .naiveTarget npRandom => do
      let agent ← NaiveTargetAgent.reset npRandom observation
      return .naiveTarget agent
  | .random frameSkip npRandom => do
      let agent ← RandomAgent.reset frameSkip npRandom observation
      return .random agent
  | .greedyCamera memoryPeriod filteroutUnloaded filteroutBeyondRange npRandom => do
      let agent ← GreedyCameraAgent.reset memoryPeriod filteroutUnloaded filteroutBeyondRange
        npRandom observation
      return .greedyCamera agent
  | .greedyTarget noiseScale npRandom => do
      let agent ← GreedyTargetAgent.reset noiseScale npRandom observation
      return .greedyTarget agent
  | .heuristicCamera npRandom => do
      let agent ← HeuristicCameraAgent.reset npRandom observation
      return .heuristicCamera agent
  | .heuristicTarget noiseScale npRandom => do
      let agent ← GreedyTargetAgent.reset noiseScale npRandom observation
      return .heuristicTarget agent
  | .mixture candidates weights npRandom npRandomMixture => do
      let base ← AgentBase.reset _ npRandom observation
      let (i, _) ← RandomState.weightedChoice weights npRandomMixture
      let currentAgent ← (candidates i).reset observation
      return .mixture base currentAgent

end

namespace Agent

variable {G : Type} {team : Team}

/-- The attributes of the base class. -/
def base {team : Team} : Agent G team → AgentBase team G
  | .naiveCamera self => self.toAgentBase
  | .naiveTarget self => self.toAgentBase
  | .random self => self.toAgentBase
  | .greedyCamera self => self.toAgentBase
  | .greedyTarget self => self.toAgentBase
  | .heuristicCamera self => self.toAgentBase
  | .heuristicTarget self => self.toAgentBase
  | .mixture self _ => self

/-! ## Observing and acting -/

/-- `observe` of every class. -/
noncomputable def observe {team : Team} (self : Agent G team) (observation : List ℝ) :
    Except Error (Agent G team) :=
  match self with
  | .naiveCamera self => do
      let base ← self.toAgentBase.observe observation
      return .naiveCamera { self with toAgentBase := base }
  | .naiveTarget self => do
      let base ← self.toAgentBase.observe observation
      return .naiveTarget { self with toAgentBase := base }
  | .random self => do
      let base ← self.toAgentBase.observe observation
      return .random { self with toAgentBase := base }
  | .greedyCamera self => do
      let agent ← self.observe observation
      return .greedyCamera agent
  | .greedyTarget self => do
      let agent ← self.observe observation
      return .greedyTarget agent
  | .heuristicCamera self => do
      let agent ← self.observe observation
      return .heuristicCamera agent
  | .heuristicTarget self => do
      let agent ← self.observe observation
      return .heuristicTarget agent
  | .mixture self currentAgent => do
      let (state, base) ← self.checkInputs observation
      let currentAgent ← currentAgent.observe observation
      return .mixture { base with state } currentAgent

variable [RandomState G] [SetOrder]

/-- `act` of every class. -/
noncomputable def act {team : Team} (self : Agent G team) (observation : List ℝ) :
    Except Error (ℂ × Agent G team) :=
  match self with
  | .naiveCamera self => do
      let (action, agent) ← self.act observation
      return (action, .naiveCamera agent)
  | .naiveTarget self => do
      let (action, agent) ← self.act observation
      return (action, .naiveTarget agent)
  | .random self => do
      let (action, agent) ← self.act observation
      return (action, .random agent)
  | .greedyCamera self => do
      let (action, agent) ← self.act observation
      return (action, .greedyCamera agent)
  | .greedyTarget self => do
      let (action, agent) ← self.act observation
      return (action, .greedyTarget agent)
  | .heuristicCamera self => do
      let (action, agent) ← self.act observation
      return (action, .heuristicCamera agent)
  | .heuristicTarget self => do
      let (action, agent) ← HeuristicTargetAgent.act self observation
      return (action, .heuristicTarget agent)
  | .mixture self currentAgent => do
      let (state, base) ← self.checkInputs observation
      let (action, currentAgent) ← currentAgent.act observation
      return (action, .mixture { base with state } currentAgent)

/-! ## Communicating -/

omit [RandomState G] [SetOrder] in
/-- `send_requests` of every class. -/
def sendRequests {team : Team} (self : Agent G team) (memory : Memory Content) :
    List Message × Memory Content :=
  match self with
  | .heuristicCamera self => self.sendRequests memory
  | .mixture _ currentAgent => currentAgent.sendRequests memory
  | _ => ([], memory)

/-- `receive_requests` of every class. -/
noncomputable def receiveRequests {team : Team} (self : Agent G team) (memory : Memory Content)
    (messages : List Message) : Except Error (Agent G team) :=
  match self with
  | .heuristicCamera self => do
      let agent ← self.receiveRequests memory messages
      return .heuristicCamera agent
  | .mixture self currentAgent => do
      let currentAgent ← currentAgent.receiveRequests memory messages
      return .mixture self currentAgent
  | agent => .ok agent

end Agent

/-! ### Target agents among the others -/

/-- The sets of warehouses among the contents. -/
def Content.warehouses : Content → Finset ℕ
  | .nonEmptyWarehouses warehouses => warehouses
  | _ => ∅

/-- The memory as the target agents see it. -/
def Memory.warehouses (memory : Memory Content) : Memory (Finset ℕ) :=
  ⟨memory.next, fun content => (memory.value content).warehouses⟩

/-- The memory with the objects that the target agents have allocated since. -/
def Memory.withWarehouses (memory : Memory Content) (memory' : Memory (Finset ℕ)) :
    Memory Content :=
  ⟨memory'.next, fun content =>
    if content < memory.next then memory.value content
    else .nonEmptyWarehouses (memory'.value content)⟩

namespace GreedyTargetAgent

variable {G : Type}

/-- `send_responses`. -/
def sendContents (self : GreedyTargetAgent G) (memory : Memory Content) :
    List Message × Memory Content × GreedyTargetAgent G :=
  let (messages, memory', agent) := self.sendResponses memory.warehouses
  (messages, memory.withWarehouses memory', agent)

/-- `receive_responses`. The contents of other classes have no such key. -/
def receiveContents (self : GreedyTargetAgent G) (memory : Memory Content)
    (messages : List Message) : Except Error (GreedyTargetAgent G) :=
  messages.foldlM
    (fun self message =>
      match memory.value message.content with
      | .nonEmptyWarehouses _ => .ok (self.receiveResponses memory.warehouses [message])
      | _ => .error (.typeError "non_empty_warehouses"))
    self

end GreedyTargetAgent

namespace Agent

variable {G : Type} {team : Team} [RandomState G]

/-- `send_responses` of every class. -/
noncomputable def sendResponses {team : Team} (self : Agent G team) (memory : Memory Content) :
    Except Error (List Message × Memory Content × Agent G team) :=
  match self with
  | .greedyCamera self => do
      let (messages, memory, agent) ← self.sendResponses memory
      return (messages, memory, .greedyCamera agent)
  | .greedyTarget self =>
      let (messages, memory, agent) := self.sendContents memory
      .ok (messages, memory, .greedyTarget agent)
  | .heuristicCamera self => do
      let (messages, memory) ← self.sendResponses memory
      return (messages, memory, .heuristicCamera self)
  | .heuristicTarget self =>
      let (messages, memory, agent) := self.sendContents memory
      .ok (messages, memory, .heuristicTarget agent)
  | .mixture self currentAgent => do
      let (messages, memory, currentAgent) ← currentAgent.sendResponses memory
      return (messages, memory, .mixture self currentAgent)
  | agent => .ok ([], memory, agent)

omit [RandomState G] in
/-- `receive_responses` of every class. -/
noncomputable def receiveResponses {team : Team} (self : Agent G team) (memory : Memory Content)
    (messages : List Message) : Except Error (Agent G team) :=
  match self with
  | .greedyCamera self => do
      let agent ← self.receiveResponses memory messages
      return .greedyCamera agent
  | .greedyTarget self => do
      let agent ← self.receiveContents memory messages
      return .greedyTarget agent
  | .heuristicCamera self => .ok (.heuristicCamera (self.receiveResponses memory messages))
  | .heuristicTarget self => do
      let agent ← self.receiveContents memory messages
      return .heuristicTarget agent
  | .mixture self currentAgent => do
      let currentAgent ← currentAgent.receiveResponses memory messages
      return .mixture self currentAgent
  | agent => .ok agent

end Agent

end Mate
