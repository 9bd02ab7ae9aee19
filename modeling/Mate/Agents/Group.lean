import Mate.Agents.Target
import Mate.Environment.Dynamics

set_option autoImplicit false

/-! # Groups of target agents

The functions of `single_team.py` that take the agents of a team through a step: all of them
observe, then they exchange requests and responses through the environment, then they act. Agent
`t` of a group gets row `t` of a joint observation.
-/

namespace Mate

namespace Env

variable {cfg : Config} {G V : Type}

/-- `send_messages`; what it leaves when it raises is not looked at. -/
def sendMessages (self : Env cfg G V) (messages : List Message) : Except Error (Env cfg G V) :=
  match self.mail.sendMessages messages with
  | (.ok (), mail) => .ok { self with mail }
  | (.error e, _) => .error e

/-- `receive_messages(agent=agent)`. -/
def receiveMessages (self : Env cfg G V) (agent : AgentHandle) : List Message × Env cfg G V :=
  (self.mail.peek agent.team agent.index,
    { self with mail := (self.mail.receiveOne agent.team agent.index).2 })

end Env

namespace AgentBase

variable {team : Team} {G : Type}

/-- The agent as `receive_messages` sees it. -/
def handle (self : AgentBase team G) : AgentHandle := ⟨team, self.index⟩

/-- `send_requests` of the base class. -/
def sendRequests (_ : AgentBase team G) : List Message := []

end AgentBase

namespace GreedyTargetAgent

/-- `receive_requests` of the base class; nobody reads what it stores. -/
def receiveRequests {G : Type} (self : GreedyTargetAgent G) (_ : List Message) :
    GreedyTargetAgent G := self

end GreedyTargetAgent

variable {cfg : Config} {G : Type} {n : ℕ}

/-- `group_observe`. -/
noncomputable def groupObserve (agents : Fin n → GreedyTargetAgent G)
    (jointObservation : Fin n → List ℝ) : Except Error (Fin n → GreedyTargetAgent G) :=
  (List.finRange n).foldlM
    (fun agents t => do
      let agent ← (agents t).observe (jointObservation t)
      return Function.update agents t agent)
    agents

/-- The first loop of `group_communicate`. -/
def sendAllRequests (env : Env cfg G (Finset ℕ)) (agents : Fin n → GreedyTargetAgent G) :
    Except Error (Env cfg G (Finset ℕ)) :=
  (List.finRange n).foldlM (fun env t => env.sendMessages (agents t).sendRequests) env

/-- The second loop. -/
def receiveAllRequests (env : Env cfg G (Finset ℕ)) (agents : Fin n → GreedyTargetAgent G) :
    Env cfg G (Finset ℕ) × (Fin n → GreedyTargetAgent G) :=
  (List.finRange n).foldl
    (fun (env, agents) t =>
      let (messages, env) := env.receiveMessages (agents t).handle
      (env, Function.update agents t ((agents t).receiveRequests messages)))
    (env, agents)

/-- The third loop. -/
def sendAllResponses (env : Env cfg G (Finset ℕ)) (agents : Fin n → GreedyTargetAgent G) :
    Except Error (Env cfg G (Finset ℕ) × (Fin n → GreedyTargetAgent G)) :=
  (List.finRange n).foldlM
    (fun (env, agents) t => do
      let (messages, memory, agent) := (agents t).sendResponses env.mail.memory
      let env ← Env.sendMessages { env with mail := { env.mail with memory } } messages
      return (env, Function.update agents t agent))
    (env, agents)

/-- The last loop. -/
def receiveAllResponses (env : Env cfg G (Finset ℕ)) (agents : Fin n → GreedyTargetAgent G) :
    Env cfg G (Finset ℕ) × (Fin n → GreedyTargetAgent G) :=
  (List.finRange n).foldl
    (fun (env, agents) t =>
      let (messages, env) := env.receiveMessages (agents t).handle
      (env, Function.update agents t ((agents t).receiveResponses env.mail.memory messages)))
    (env, agents)

/-- `group_communicate`. -/
def groupCommunicate (env : Env cfg G (Finset ℕ)) (agents : Fin n → GreedyTargetAgent G) :
    Except Error (Env cfg G (Finset ℕ) × (Fin n → GreedyTargetAgent G)) := do
  let env ← sendAllRequests env agents
  let (env, agents) := receiveAllRequests env agents
  let (env, agents) ← sendAllResponses env agents
  return receiveAllResponses env agents

/-- `group_act`, for agents of classes with the given `act`. -/
def groupAct (act : Fin n → GreedyTargetAgent G → List ℝ → Except Error (ℂ × GreedyTargetAgent G))
    (agents : Fin n → GreedyTargetAgent G) (jointObservation : Fin n → List ℝ) :
    Except Error ((Fin n → ℂ) × (Fin n → GreedyTargetAgent G)) :=
  (List.finRange n).foldlM
    (fun (jointAction, agents) t => do
      let (action, agent) ← act t (agents t) (jointObservation t)
      return (Function.update jointAction t action, Function.update agents t agent))
    (fun _ => 0, agents)

/-- `group_step`. -/
noncomputable def groupStep
    (act : Fin n → GreedyTargetAgent G → List ℝ → Except Error (ℂ × GreedyTargetAgent G))
    (env : Env cfg G (Finset ℕ)) (agents : Fin n → GreedyTargetAgent G)
    (jointObservation : Fin n → List ℝ) :
    Except Error ((Fin n → ℂ) × Env cfg G (Finset ℕ) × (Fin n → GreedyTargetAgent G)) := do
  let agents ← groupObserve agents jointObservation
  let (env, agents) ← groupCommunicate env agents
  let (jointAction, agents) ← groupAct act agents jointObservation
  return (jointAction, env, agents)

end Mate
