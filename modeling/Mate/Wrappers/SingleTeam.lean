import Mate.Environment.Dynamics

set_option autoImplicit false

/-! # One team of the environment

The wrapper keeps the dictionaries of the environment that its constructor finds: the buffers and
the queues of its team. The environment clears its dictionaries and never replaces them, so that
reading `teammate_message_buffer` is reading the buffers of the environment.
-/

namespace Mate

/-- A `SingleTeamMultiAgent`, as far as messages are concerned. -/
structure SingleTeamMultiAgent (cfg : Config) (G V : Type) where
  env : Env cfg G V
  team : Team

namespace SingleTeamMultiAgent

variable {cfg : Config} {G V : Type}

def numTeammates (self : SingleTeamMultiAgent cfg G V) : ℕ := cfg.teamSize self.team

/-- `receive_messages` without arguments: copies of the buffers of all teammates. -/
def receiveAll (self : SingleTeamMultiAgent cfg G V) :
    List (List Message) × SingleTeamMultiAgent cfg G V :=
  let (lists, mail) := self.env.mail.bufferLists self.team (List.range self.numTeammates)
  (lists.map mail.lists, { self with env := { self.env with mail } })

/-- What `receive_messages` returns: a list for every teammate, or what the environment returns. -/
inductive Returned
  | all (messages : List (List Message))
  | env (received : Received)

def receiveMessages (self : SingleTeamMultiAgent cfg G V) (agentId : Option AgentId)
    (agent : Option AgentHandle) : Except Error (Returned × SingleTeamMultiAgent cfg G V) :=
  match agentId, agent with
  | none, none => .ok (.all self.receiveAll.1, self.receiveAll.2)
  | _, _ => do
      let (received, mail) ← self.env.mail.receiveMessages agentId agent
      return (.env received, { self with env := { self.env with mail } })

/-- `receive_messages(agent_id=(team, i))`, for every teammate `i` on its own. -/
def alone (self : SingleTeamMultiAgent cfg G V) : List (List Message) :=
  (List.range self.numTeammates).map (fun (i : ℕ) =>
    match self.receiveMessages (some (.pair self.team i)) none with
    | .ok (.env (.one _ _ messages), _) => messages
    | _ => [])

/-! ## Runs -/

/-- A call of the wrapper. Those of `receive_messages` without arguments come with what they
return, and with what the teammates would be given if each asked alone. -/
inductive Call (cfg : Config) (V : Type)
  | reset
  | receiveAll (returned alone : List (List Message))
  | env (call : Env.Call cfg V)

/-- After a reset or a step nothing is left of the messages. -/
def Call.forgets : Call cfg V → Bool
  | .reset => true
  | .receiveAll _ _ => false
  | .env call => call.isStep

/-- One call. Whatever the wrapper does for the opponents in a step are calls of the environment. -/
inductive Next [RandomState G] [SetOrder] : SingleTeamMultiAgent cfg G V → Call cfg V →
    SingleTeamMultiAgent cfg G V → Prop
  | reset {self : SingleTeamMultiAgent cfg G V} {fuel : ℕ} {seed : Option ℕ}
      {observations : Observations cfg} {reg : Registry} {env : Env cfg G V} :
      self.env.reset fuel seed = .ok (observations, reg, env) → Next self .reset { self with env }
  | receiveAll {self after : SingleTeamMultiAgent cfg G V} {returned : List (List Message)} :
      self.receiveMessages none none = .ok (.all returned, after) →
      Next self (.receiveAll returned self.alone) after
  | env {self : SingleTeamMultiAgent cfg G V} {call : Env.Call cfg V} {env : Env cfg G V} :
      Env.Next self.env call env → Next self (.env call) { self with env }

end SingleTeamMultiAgent

end Mate
