import Mate.Environment.Dynamics
import Mate.Library.Heap

set_option autoImplicit false

/-! # Extra delays of the communication channels

The wrapper keeps the messages of both teams in one heap of pairs of a due step and a message.
Python compares such pairs as tuples: messages are looked at when the steps are equal, first
with `==` and then, if they are not, with `<`, which a `Message` does not have. Contents are
compared by their own `==`, a parameter here, unless they are one object.
-/

namespace Mate

open Heaps

/-- Contents of messages: what `==` returns for two of them, or raises. -/
class Contents (V : Type) where
  eq : V → V → Except Error Bool

namespace Message

variable {V : Type} [Contents V]

/-- `__eq__` of a message, which compares the tuples of the fields. -/
def eq (memory : Memory V) (m m' : Message) : Except Error Bool :=
  if m.sender = m'.sender ∧ m.recipient = m'.recipient then do
    let same ← if m.content = m'.content then .ok true
      else Contents.eq (memory.value m.content) (memory.value m'.content)
    return same && decide (m.team = m'.team ∧ m.broadcasting = m'.broadcasting)
  else .ok false

theorem eq_self (memory : Memory V) (m : Message) : m.eq memory m = .ok true := by
  simp [eq, pure, Except.pure, bind, Except.bind]

end Message

/-- A constant delay, or a function of the environment and the message. -/
inductive Delay (cfg : Config) (G V : Type)
  | constant (steps : ℕ) (pos : 0 < steps)
  | function (delay : Env cfg G V → Message → ℤ)

structure ExtraCommunicationDelays (cfg : Config) (G V : Type) where
  env : Env cfg G V
  delay : Delay cfg G V
  heap : Array (ℤ × Message)

namespace ExtraCommunicationDelays

variable {cfg : Config} {G V : Type} [Contents V]

/-- `<` of the tuples in the heap. -/
def less (memory : Memory V) (x y : ℤ × Message) : Except Error Bool :=
  if x.1 = y.1 then do
    if ← x.2.eq memory y.2 then
      return false
    else
      throw (.typeError "'<' not supported between instances of 'Message' and 'Message'")
  else .ok (decide (x.1 < y.1))

/-- The step that a message is due at, and the message. -/
def stamp (self : ExtraCommunicationDelays cfg G V) (message : Message) : ℤ × Message :=
  match self.delay with
  | .constant steps _ => (self.env.episodeStep + steps, message)
  | .function delay => (self.env.episodeStep + delay self.env message, message)

/-- `send_messages`, with the messages that are forwarded. -/
def sendMessages (self : ExtraCommunicationDelays cfg G V) (messages : List Message) :
    Except Error (List Message × ExtraCommunicationDelays cfg G V) :=
  let memory := self.env.mail.memory
  if Mail.sameTeam messages then do
    let heap ← messages.foldlM
      (fun heap message => heappush (less memory) heap (self.stamp message)) self.heap
    let (due, heap) ← popWhile (less memory)
      (fun entry => decide (entry.1 ≤ self.env.episodeStep)) heap
    let forwarded := due.map Prod.snd
    match self.env.mail.sendMessages forwarded with
    | (.ok (), mail) => return (forwarded, { self with heap, env := { self.env with mail } })
    | (.error e, _) => throw e
  else .error (.assertionError "All messages must be from the same team.")

/-! ## Runs -/

/-- A call of the wrapper. A call of `send_messages` comes with the step and the contents it
finds, what it is given, and what it forwards. -/
inductive Call (cfg : Config) (V : Type)
  | reset
  | send (episodeStep : ℕ) (memory : Memory V) (messages forwarded : List Message)
  | other (call : Env.Call cfg V)

def Call.isReset : Call cfg V → Bool
  | .reset => true
  | _ => false

/-- One call that returns. Whatever is no `send_messages` goes to the environment. -/
inductive Next [RandomState G] [SetOrder] : ExtraCommunicationDelays cfg G V → Call cfg V →
    ExtraCommunicationDelays cfg G V → Prop
  | reset {self : ExtraCommunicationDelays cfg G V} {fuel : ℕ} {seed : Option ℕ}
      {observations : Observations cfg} {reg : Registry} {env : Env cfg G V} :
      self.env.reset fuel seed = .ok (observations, reg, env) →
      Next self .reset { self with heap := #[], env }
  | send {self self' : ExtraCommunicationDelays cfg G V} {messages forwarded : List Message} :
      self.sendMessages messages = .ok (forwarded, self') →
      Next self (.send self.env.episodeStep self.env.mail.memory messages forwarded) self'
  | other {self : ExtraCommunicationDelays cfg G V} {call : Env.Call cfg V} {env : Env cfg G V} :
      (∀ messages routed result, call ≠ .send messages routed result) →
      Env.Next self.env call env → Next self (.other call) { self with env }

end ExtraCommunicationDelays

end Mate
