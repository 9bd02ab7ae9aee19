import Mate.Environment.Dynamics

set_option autoImplicit false

/-! # Filters of the communication channels, and their arrows

A `MessageFilter` routes the messages that it is given, and hands those that its function lets
through to the environment below, which may have a filter of its own. `RenderCommunication` draws
an arrow for some steps after a message.
-/

namespace Mate

variable {cfg : Config} {G V : Type}

/-- `[env.cameras, env.targets][team.value][i].location`. -/
def Env.locationOf (self : Env cfg G V) : (team : Team) → Fin (cfg.teamSize team) → ℂ
  | .camera, c => (self.cameras c).location
  | .target, t => (self.targets t).location

/-! ## Filters -/

/-- The function of a filter: what it returns for a message, or raises, and the environment that
it leaves. -/
abbrev MessageFilter (cfg : Config) (G V : Type) :=
  Message → Env cfg G V → Except Error Bool × Env cfg G V

/-- An index into a Python list; negative ones count from the end. -/
def listIndex (n : ℕ) (i : ℤ) : Except Error (Fin n) :=
  match axisIndex n i with
  | .ok i => .ok i
  | .error _ => .error (.indexError "list index out of range")

namespace RestrictedCommunicationRange

noncomputable def filter (rangeLimit : ℝ) : MessageFilter cfg G V := fun message env =>
  (do
    let sender ← listIndex (cfg.teamSize message.team) message.sender
    let recipient ← match message.recipient with
      | some r => listIndex (cfg.teamSize message.team) r
      | none => .error (.typeError "list indices must be integers or slices, not NoneType")
    let distance := ‖env.locationOf message.team recipient - env.locationOf message.team sender‖
    return decide (distance ≤ rangeLimit), env)

end RestrictedCommunicationRange

namespace RandomMessageDropout

def filter [RandomState G] (dropoutRate : ℝ) : MessageFilter cfg G V := fun _ env =>
  let (dropped, rng) := RandomState.binomial dropoutRate env.rng
  (.ok !dropped, { env with rng })

/-- `__init__`; the rate that ends the message of the assertion is left out. -/
noncomputable def new [RandomState G] (dropoutRate : ℝ) : Except Error (MessageFilter cfg G V) :=
  if 0 ≤ dropoutRate ∧ dropoutRate ≤ 1 then .ok (filter dropoutRate)
  else .error (.assertionError "Dropout rate must be a float number between 0 and 1. ")

end RandomMessageDropout

/-- The argument `team` of `NoCommunication`. -/
inductive MutedTeam
  | both
  | only (team : Team)
  | none
  deriving DecidableEq

def MutedTeam.mutes : MutedTeam → Team → Bool
  | .both, _ => true
  | .only team, team' => decide (team' = team)
  | .none, _ => false

namespace NoCommunication

def filter (muted : MutedTeam) : MessageFilter cfg G V := fun message env =>
  (.ok !muted.mutes message.team, env)

end NoCommunication

/-! ## Channels -/

/-- The environment under some filters, the outermost one first. -/
structure FilteredChannel (cfg : Config) (G V : Type) where
  env : Env cfg G V
  filters : List (MessageFilter cfg G V)

namespace FilteredChannel

/-- `list(filter(self._filter, messages))`. -/
def filterMessages (f : MessageFilter cfg G V) :
    List Message → Env cfg G V → Except Error (List Message) × Env cfg G V
  | [], env => (.ok [], env)
  | message :: rest, env =>
      match f message env with
      | (.error e, env) => (.error e, env)
      | (.ok keep, env) =>
          match filterMessages f rest env with
          | (.error e, env) => (.error e, env)
          | (.ok kept, env) => (.ok (if keep then message :: kept else kept), env)

/-- What the filters hand to the environment. Every one of them routes what it is given. -/
def passAll : List (MessageFilter cfg G V) → List Message → Env cfg G V →
    Except Error (List Message) × Env cfg G V
  | [], messages, env => (.ok messages, env)
  | f :: filters, messages, env =>
      let (routed, memory) := Mail.routeMessages cfg messages env.mail.memory
      match filterMessages f routed { env with mail := { env.mail with memory } } with
      | (.error e, env) => (.error e, env)
      | (.ok kept, env) => passAll filters kept env

/-- `send_messages` of the outermost filter. -/
def sendMessages (self : FilteredChannel cfg G V) (messages : List Message) :
    Except Error Unit × FilteredChannel cfg G V :=
  match passAll self.filters messages self.env with
  | (.error e, env) => (.error e, { self with env })
  | (.ok kept, env) =>
      let (result, mail) := env.mail.sendMessages kept
      (result, { self with env := { env with mail } })

/-- A call of the outermost filter. A call of `send_messages` comes with the environment that it
finds and with what is handed to it; it is refused when a filter raises. -/
inductive Call (cfg : Config) (G V : Type)
  | send (before : Env cfg G V) (messages kept posted : List Message) (result : Except Error Unit)
  | refused (messages : List Message) (e : Error)
  | other (call : Env.Call cfg V)

def Call.isStep : Call cfg G V → Bool
  | .other call => call.isStep
  | _ => false

/-- One call. Whatever is no `send_messages` goes to the environment. -/
inductive Next [RandomState G] [SetOrder] :
    FilteredChannel cfg G V → Call cfg G V → FilteredChannel cfg G V → Prop
  | send {self : FilteredChannel cfg G V} {messages kept : List Message} {env : Env cfg G V} :
      passAll self.filters messages self.env = (.ok kept, env) →
      Next self (.send self.env messages kept (env.mail.routed kept) (env.mail.sendMessages kept).1)
        (self.sendMessages messages).2
  | refused {self : FilteredChannel cfg G V} {messages : List Message} {e : Error}
      {env : Env cfg G V} :
      passAll self.filters messages self.env = (.error e, env) →
      Next self (.refused messages e) (self.sendMessages messages).2
  | other {self : FilteredChannel cfg G V} {call : Env.Call cfg V} {env : Env cfg G V} :
      (∀ messages routed result, call ≠ .send messages routed result) →
      Env.Next self.env call env → Next self (.other call) { self with env }

end FilteredChannel

/-! ## Arrows -/

structure RenderCommunication (cfg : Config) (G V : Type) where
  env : Env cfg G V
  duration : ℕ
  duration_pos : 0 < duration
  commMatrix : (team : Team) → Fin (cfg.teamSize team) → Fin (cfg.teamSize team) → ℤ

namespace RenderCommunication

def new (env : Env cfg G V) (duration : ℤ) : Except Error (RenderCommunication cfg G V) :=
  if h : 0 < duration then
    .ok ⟨env, duration.toNat, Int.pos_iff_toNat_pos.mp h, fun _ _ _ => 0⟩
  else .error (.assertionError ("The argument `duration` should be a positive integer. "
    ++ "Got duration = " ++ toString duration ++ "."))

/-- `reset`. -/
noncomputable def reset [RandomState G] [SetOrder] (fuel : ℕ) (seed : Option ℕ)
    (self : RenderCommunication cfg G V) :
    Except Error (Observations cfg × Registry × RenderCommunication cfg G V) := do
  let (observations, reg, env) ← self.env.reset fuel seed
  return (observations, reg, { self with env, commMatrix := fun _ _ _ => 0 })

/-- `np.maximum(matrix - 1, 0)`. -/
def fade (self : RenderCommunication cfg G V) : RenderCommunication cfg G V :=
  { self with commMatrix := fun team i j => max (self.commMatrix team i j - 1) 0 }

/-- `matrix[message.sender, message.recipient] = self.duration`. Without a recipient the index
selects a row. -/
def mark (team : Team) (self : RenderCommunication cfg G V) (message : Message) :
    Except Error (RenderCommunication cfg G V) := do
  let i ← axisIndex (cfg.teamSize team) message.sender
  let row ← match message.recipient with
    | some r => do
        let j ← axisIndex (cfg.teamSize team) r
        pure (Function.update (self.commMatrix team i) j self.duration)
    | none => pure (fun _ => (self.duration : ℤ))
  let matrix := Function.update (self.commMatrix team) i row
  return { self with commMatrix := Function.update self.commMatrix team matrix }

/-- The loop over `message_buffer.values()`; `keys` are the keys of the dictionary in its order. -/
def markAll (team : Team) (keys : List ℤ) (self : RenderCommunication cfg G V) :
    Except Error (RenderCommunication cfg G V) :=
  (keys.flatMap (fun r => ((self.env.mail.buffer team r).map self.env.mail.lists).getD [])).foldlM
    (mark team) self

/-- `step`. -/
noncomputable def step [RandomState G] [SetOrder] (keys : Team → List ℤ) (reg : Registry)
    (self : RenderCommunication cfg G V) (cameraJointAction : Fin cfg.numCameras → ℝ × ℝ)
    (targetJointAction : Fin cfg.numTargets → ℂ) :
    Except Error (StepResult cfg × RenderCommunication cfg G V) := do
  let self ← self.fade.markAll .camera (keys .camera)
  let self ← self.markAll .target (keys .target)
  let (result, env) ← self.env.step reg cameraJointAction targetJointAction
  return (result, { self with env })

/-- An arrow between two agents of a team, with the last component of its color. -/
structure Arrow where
  sender : ℕ
  recipient : ℕ
  alpha : ℚ
  bidirectional : Bool

/-- `callback` for one of the teams. No arrow is drawn between agents at the same place. -/
noncomputable def arrows (self : RenderCommunication cfg G V) (team : Team) : List Arrow :=
  (List.finRange (cfg.teamSize team)).flatMap (fun sender =>
    (List.finRange (cfg.teamSize team)).filterMap (fun recipient =>
      let remaining := self.commMatrix team sender recipient
      if 0 < remaining ∧ self.env.locationOf team recipient - self.env.locationOf team sender ≠ 0 then
        some
          ⟨sender, recipient, min 1 (12 / 10 * remaining / self.duration),
            decide (0 < self.commMatrix team recipient sender)⟩
      else none))

/-- One call that returns. Whatever is no `step` goes to the environment. -/
inductive Next [RandomState G] [SetOrder] :
    RenderCommunication cfg G V → Env.Call cfg V → RenderCommunication cfg G V → Prop
  | step {self self' : RenderCommunication cfg G V} {keys : Team → List ℤ} {reg : Registry}
      {cameraJointAction : Fin cfg.numCameras → ℝ × ℝ} {targetJointAction : Fin cfg.numTargets → ℂ}
      {result : StepResult cfg} :
      (∀ team r, r ∈ keys team ↔ self.env.mail.buffer team r ≠ none) →
      self.step keys reg cameraJointAction targetJointAction = .ok (result, self') →
      Next self (.step reg cameraJointAction targetJointAction result) self'
  | other {self : RenderCommunication cfg G V} {call : Env.Call cfg V} {env : Env cfg G V} :
      call.isStep = false → Env.Next self.env call env → Next self call { self with env }

end RenderCommunication

end Mate
