import Mate.Config

set_option autoImplicit false

/-! # Messages between the agents of a team

Every message is kept twice: in the queue of its recipient, which `receive_messages` empties,
and in the buffer of its recipient, which `step` hands out and then forgets. The buffers are
Python lists, and `step` hands out the lists themselves; they live in a heap here (`lists`),
as do the contents of the messages (`Memory`), so that what is shared stays visible.
-/

namespace Mate

/-! ## Python objects -/

/-- The objects that messages refer to. Those from `next` on are not allocated. -/
structure Memory (V : Type) where
  next : ℕ
  value : ℕ → V

/-- `copy.deepcopy`. -/
def Memory.deepcopy {V : Type} (memory : Memory V) (content : ℕ) : ℕ × Memory V :=
  (memory.next,
    ⟨memory.next + 1, Function.update memory.value memory.next (memory.value content)⟩)

/-- A message. The recipient `None` stands for all teammates. -/
structure Message where
  sender : ℤ
  recipient : Option ℤ
  content : ℕ
  team : Team
  broadcasting : Bool
  deriving DecidableEq

/-- An index into an axis of length `n` of an array; negative ones count from the end. -/
def axisIndex (n : ℕ) (i : ℤ) : Except Error (Fin n) :=
  if h : 0 ≤ i ∧ i < n then .ok ⟨i.toNat, by omega⟩
  else if h : -n ≤ i ∧ i < 0 then .ok ⟨(i + n).toNat, by omega⟩
  else .error (.indexError "index is out of bounds")

def Config.teamSize (cfg : Config) : Team → ℕ
  | .camera => cfg.numCameras
  | .target => cfg.numTargets

/-! ## The stores of the environment -/

/-- The message stores of both teams. An absent key of a `defaultdict` is `none`. -/
structure Mail (cfg : Config) (V : Type) where
  memory : Memory V
  lists : ℕ → List Message
  nextList : ℕ
  buffer : Team → ℤ → Option ℕ
  queue : Team → ℤ → Option (List Message)
  edges : (team : Team) → Fin (cfg.teamSize team) → Fin (cfg.teamSize team) → ℤ
  totalEdges : (team : Team) → Fin (cfg.teamSize team) → Fin (cfg.teamSize team) → ℤ

/-- An agent, as far as `receive_messages` looks at it. -/
structure AgentHandle where
  team : Team
  index : ℤ

/-- What may be given for `agent_id`. -/
inductive AgentId
  | pair (team : Team) (index : ℤ)
  | agent (agent : AgentHandle)

/-- What `receive_messages` returns. -/
inductive Received
  | all (camera target : List (List Message))
  | one (team : Team) (index : ℤ) (messages : List Message)

namespace Mail

variable {cfg : Config} {V : Type}

/-! ## Sending -/

/-- The copies of a broadcast for the recipients of a list, in its order. -/
def copies (message : Message) : List ℕ → Memory V → List Message × Memory V
  | [], memory => ([], memory)
  | recipient :: rest, memory =>
      let (content, memory) := memory.deepcopy message.content
      let (routed, memory) := copies message rest memory
      ({ message with recipient := some recipient, content, broadcasting := true } :: routed,
        memory)

/-- `route_messages`. -/
def routeMessages (cfg : Config) : List Message → Memory V → List Message × Memory V
  | [], memory => ([], memory)
  | message :: rest, memory =>
      let (routed, memory) :=
        match message.recipient with
        | none => copies message (List.range (cfg.teamSize message.team)) memory
        | some _ => ([message], memory)
      let (routed', memory) := routeMessages cfg rest memory
      (routed ++ routed', memory)

/-- `self.message_queues[team][recipient].append(message)`. -/
def appendQueue (self : Mail cfg V) (team : Team) (recipient : ℤ) (message : Message) :
    Mail cfg V :=
  { self with
    queue := Function.update self.queue team (Function.update (self.queue team) recipient
      (some (((self.queue team recipient).getD []) ++ [message]))) }

/-- `self.message_buffers[team][recipient]`, which creates the list if there is none. -/
def touchBuffer (self : Mail cfg V) (team : Team) (recipient : ℤ) : ℕ × Mail cfg V :=
  match self.buffer team recipient with
  | some list => (list, self)
  | none =>
      (self.nextList,
        { self with
          lists := Function.update self.lists self.nextList []
          nextList := self.nextList + 1
          buffer := Function.update self.buffer team
            (Function.update (self.buffer team) recipient (some self.nextList)) })

/-- `self.message_buffers[team][recipient].append(message)`. -/
def appendBuffer (self : Mail cfg V) (team : Team) (recipient : ℤ) (message : Message) :
    Mail cfg V :=
  let (list, self) := self.touchBuffer team recipient
  { self with lists := Function.update self.lists list (self.lists list ++ [message]) }

/-- `self.communication_edges[team][sender, recipient] += 1`. -/
def countEdge (self : Mail cfg V) (team : Team) (sender recipient : ℤ) :
    Except Error (Mail cfg V) := do
  let i ← axisIndex (cfg.teamSize team) sender
  let j ← axisIndex (cfg.teamSize team) recipient
  return { self with
    edges := Function.update self.edges team
      (Function.update (self.edges team) i
        (Function.update (self.edges team i) j (self.edges team i j + 1))) }

/-- The loop of `send_messages` over the routed messages. What is done when it raises stays. -/
def post : List Message → Mail cfg V → Except Error Unit × Mail cfg V
  | [], self => (.ok (), self)
  | message :: rest, self =>
      let recipient := message.recipient.getD 0
      let self := self.appendQueue message.team recipient message
      let self := self.appendBuffer message.team recipient message
      match self.countEdge message.team message.sender recipient with
      | .ok self => post rest self
      | .error e => (.error e, self)

/-- `len({m.team for m in messages}) <= 1`. -/
def sameTeam (messages : List Message) : Prop :=
  ∀ m ∈ messages, ∀ m' ∈ messages, m.team = m'.team

instance (messages : List Message) : Decidable (sameTeam messages) :=
  inferInstanceAs (Decidable (∀ m ∈ messages, ∀ m' ∈ messages, m.team = m'.team))

/-- The messages a call of `send_messages` puts into the stores. -/
def routed (self : Mail cfg V) (messages : List Message) : List Message :=
  if sameTeam messages then (routeMessages cfg messages self.memory).1 else []

/-- `send_messages`. -/
def sendMessages (self : Mail cfg V) (messages : List Message) :
    Except Error Unit × Mail cfg V :=
  if sameTeam messages then
    let (routed, memory) := routeMessages cfg messages self.memory
    post routed { self with memory }
  else (.error (.assertionError "All messages must be from the same team."), self)

/-! ## Receiving -/

/-- `list(queue[index])`; the keys this adds are removed again before the call returns. -/
def peek (self : Mail cfg V) (team : Team) (index : ℤ) : List Message :=
  (self.queue team index).getD []

def clearQueues (self : Mail cfg V) : Mail cfg V := { self with queue := fun _ _ => none }

def receiveOne (self : Mail cfg V) (team : Team) (index : ℤ) : Received × Mail cfg V :=
  (.one team index (self.peek team index),
    { self with
      queue := Function.update self.queue team
        (Function.update (self.queue team) index none) })

def receiveAll (self : Mail cfg V) : Received × Mail cfg V :=
  (.all ((List.range cfg.numCameras).map (fun (c : ℕ) => self.peek .camera c))
      ((List.range cfg.numTargets).map (fun (t : ℕ) => self.peek .target t)),
    self.clearQueues)

/-- `receive_messages`. -/
def receiveMessages (self : Mail cfg V) (agentId : Option AgentId) (agent : Option AgentHandle) :
    Except Error (Received × Mail cfg V) :=
  match agentId, agent with
  | none, none => .ok self.receiveAll
  | some (.agent agent), none => .ok (self.receiveOne agent.team agent.index)
  | some (.pair team index), none => .ok (self.receiveOne team index)
  | none, some agent => .ok (self.receiveOne agent.team agent.index)
  | some _, some _ =>
      .error (.assertionError "You should specify either `agent_id` or `agent`, not both.")

/-! ## Steps and resets -/

/-- The lists that the `messages` of the infos of a team refer to. -/
def bufferLists (self : Mail cfg V) (team : Team) : List ℕ → List ℕ × Mail cfg V
  | [] => ([], self)
  | agent :: rest =>
      let (list, self) := self.touchBuffer team agent
      let (lists, self) := bufferLists self team rest
      (list :: lists, self)

def clearBuffers (self : Mail cfg V) : Mail cfg V := { self with buffer := fun _ _ => none }

def clearEdges (self : Mail cfg V) : Mail cfg V := { self with edges := fun _ _ _ => 0 }

/-- The end of `step`: the edges are added to the totals, and everything else is forgotten. -/
def endStep (self : Mail cfg V) : Mail cfg V :=
  let total := fun team i j => self.totalEdges team i j + self.edges team i j
  (({ self with totalEdges := total }).clearEdges).clearBuffers.clearQueues

/-- The part of `reset` about messages. -/
def reset (self : Mail cfg V) : Mail cfg V :=
  (({ self with totalEdges := fun _ _ _ => 0 }).clearEdges).clearBuffers.clearQueues

end Mail

end Mate
