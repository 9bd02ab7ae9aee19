import Mate.Agents.Target
import Mate.Codec
import Mate.Environment.Places
import Mate.Environment.Posting
import Mate.Library.Agreement

set_option autoImplicit false

/-! # What a team of targets knows of the warehouses

`Play` is an environment with a `GreedyTargetAgent` or `HeuristicTargetAgent` for every target.
Agents are reset together with the environment; between two resets everything may happen in any
order, and a broadcast may reach anybody at any time, again, or never. Between two resets a play
is gossip about the warehouses that are empty (`Play.Next.gossip`), so whatever an agent believes
to be empty is empty, and stays so (`Play.empty_warehouses_known`).
-/

namespace Mate

open Fallible Runs Env

/-! ## Contents of messages stay as they are -/

namespace Mail

variable {cfg : Config} {V : Type}

theorem touchBuffer_memory (mail : Mail cfg V) (team : Team) (agent : ℤ) :
    (mail.touchBuffer team agent).2.memory = mail.memory := by
  unfold touchBuffer
  split <;> rfl

theorem post_memory (ms : List Message) (mail : Mail cfg V) :
    (post ms mail).2.memory = mail.memory := by
  induction ms generalizing mail with
  | nil => rfl
  | cons m rest ih =>
      have happend : ((mail.appendQueue m.team (m.recipient.getD 0) m).appendBuffer m.team
          (m.recipient.getD 0) m).memory = mail.memory := touchBuffer_memory _ _ _
      unfold post
      dsimp only
      split
      · rename_i counted hcount
        obtain ⟨i, -, hcount⟩ := bind_eq_ok.mp hcount
        obtain ⟨j, -, hcount⟩ := bind_eq_ok.mp hcount
        cases hcount
        exact (ih _).trans happend
      · exact happend

theorem copies_extends (message : Message) (rs : List ℕ) (memory : Memory V) :
    memory.Extends (copies message rs memory).2 := by
  induction rs generalizing memory with
  | nil => exact Memory.Extends.refl memory
  | cons r rest ih => exact (memory.extends_deepcopy message.content).trans (ih _)

theorem routeMessages_extends (ms : List Message) (memory : Memory V) :
    memory.Extends (routeMessages cfg ms memory).2 := by
  induction ms generalizing memory with
  | nil => exact Memory.Extends.refl memory
  | cons m rest ih =>
      cases hrecipient : m.recipient with
      | none =>
          have hmemory : (routeMessages cfg (m :: rest) memory).2 = (routeMessages cfg rest
              (copies m (List.range (cfg.teamSize m.team)) memory).2).2 := by
            simp only [routeMessages, hrecipient]
          rw [hmemory]
          exact (copies_extends m _ memory).trans (ih _)
      | some r =>
          have hmemory : (routeMessages cfg (m :: rest) memory).2
              = (routeMessages cfg rest memory).2 := by
            simp only [routeMessages, hrecipient]
          rw [hmemory]
          exact ih memory

theorem sendMessages_extends (mail : Mail cfg V) (ms : List Message) :
    mail.memory.Extends (mail.sendMessages ms).2.memory := by
  unfold sendMessages
  split
  · dsimp only
    rw [post_memory]
    exact routeMessages_extends ms mail.memory
  · exact Memory.Extends.refl _

theorem bufferLists_memory (mail : Mail cfg V) (team : Team) (agents : List ℕ) :
    (mail.bufferLists team agents).2.memory = mail.memory := by
  induction agents generalizing mail with
  | nil => rfl
  | cons agent rest ih => exact (ih _).trans (touchBuffer_memory mail team agent)

theorem receiveMessages_memory {mail mail' : Mail cfg V} {agentId : Option AgentId}
    {agent : Option AgentHandle} {received : Received}
    (h : mail.receiveMessages agentId agent = .ok (received, mail')) :
    mail'.memory = mail.memory := by
  unfold receiveMessages at h
  split at h <;> cases h <;> rfl

end Mail

theorem Memory.extends_alloc {V : Type} (memory : Memory V) (value : V) :
    memory.Extends (memory.alloc value).2 where
  next_le := Nat.le_succ _
  value := fun _ hlt => Function.update_of_ne hlt.ne _ _

namespace Env

variable {cfg : Config} {G V : Type} [RandomState G] [SetOrder]

theorem step_observations {reg : Registry} {self self' : Env cfg G V}
    {cameraJointAction : Fin cfg.numCameras → ℝ × ℝ} {targetJointAction : Fin cfg.numTargets → ℂ}
    {result : StepResult cfg}
    (h : self.step reg cameraJointAction targetJointAction = .ok (result, self')) :
    result.observations = self'.jointObservation.1 ∧ self'.mail.memory = self.mail.memory := by
  obtain ⟨seen, s, hmoved, -, hfinish⟩ := step_eq_ok h
  cases hfinish
  refine ⟨rfl, ?_⟩
  show (Mail.bufferLists (Mail.bufferLists seen.mail _ _).2 _ _).2.memory = _
  rw [Mail.bufferLists_memory, Mail.bufferLists_memory, hmoved.mail]

theorem reset_observations {fuel : ℕ} {seed : Option ℕ} {self start : Env cfg G V}
    {observations : Observations cfg} {reg : Registry}
    (h : self.reset fuel seed = .ok (observations, reg, start)) :
    observations = start.jointObservation.1 := by
  obtain ⟨placed, s, orientations, rng, -, -, -, hfinish⟩ := reset_eq_ok h
  cases hfinish
  rfl

/-- Only the agents change the contents of messages. -/
theorem Next.extends {self self' : Env cfg G V} {call : Call cfg V} (h : Next self call self')
    (hwrite : ∀ memory, call = .write memory → self.mail.memory.Extends memory) :
    self.mail.memory.Extends self'.mail.memory := by
  cases h with
  | step h =>
      rw [(step_observations h).2]
      exact Memory.Extends.refl _
  | send messages => exact self.mail.sendMessages_extends messages
  | receive h =>
      rw [show ({ self with mail := _ } : Env cfg G V).mail.memory = self.mail.memory from
        Mail.receiveMessages_memory h]
      exact Memory.Extends.refl _
  | write memory h => exact hwrite memory rfl

end Env

/-! ## Plays -/

inductive TargetAgentClass
  | greedy
  | heuristic

/-- `act` of a class. -/
noncomputable def TargetAgentClass.act {G : Type} [RandomState G] [SetOrder] :
    TargetAgentClass → GreedyTargetAgent G → List ℝ → Except Error (ℂ × GreedyTargetAgent G)
  | .greedy => GreedyTargetAgent.act
  | .heuristic => HeuristicTargetAgent.act

/-- An environment, the observations it has returned since it was reset, the agents of the
targets, and the broadcasts that they have sent since. -/
structure Play (cfg : Config) (G : Type) where
  env : Env cfg G (Finset ℕ)
  shown : List (Observations cfg)
  agents : Fin cfg.numTargets → GreedyTargetAgent G
  sent : List Message

/-- The observations a call returns. -/
def Env.Call.observations {cfg : Config} {V : Type} : Env.Call cfg V → List (Observations cfg)
  | .step _ _ _ result => [result.observations]
  | _ => []

inductive Move (cfg : Config)
  | reset
  | call (call : Env.Call cfg (Finset ℕ))
  | observe (t : Fin cfg.numTargets)
  | act (t : Fin cfg.numTargets) (action : ℂ)
  | send (t : Fin cfg.numTargets)
  | receive (t : Fin cfg.numTargets) (messages : List Message)

namespace Play

variable {cfg : Config} {G : Type} [RandomState G] [SetOrder]

/-- The environment with a new memory. -/
def withMemory (play : Play cfg G) (memory : Memory (Finset ℕ)) : Env cfg G (Finset ℕ) :=
  { play.env with mail := { play.env.mail with memory } }

/-- One event of a play. The joint action of a step is anything; an agent may be shown any of the
observations of the episode; it may be given any messages with the contents of broadcasts of the
episode; and nobody changes the content of a message. -/
inductive Next (classes : Fin cfg.numTargets → TargetAgentClass) :
    Play cfg G → Move cfg → Play cfg G → Prop
  | reset {play : Play cfg G} {fuel : ℕ} {seed : Option ℕ} {observations : Observations cfg}
      {reg : Registry} {env : Env cfg G (Finset ℕ)}
      {agents : Fin cfg.numTargets → GreedyTargetAgent G} :
      play.env.reset fuel seed = .ok (observations, reg, env) →
      (∀ t, GreedyTargetAgent.reset (play.agents t).noiseScale (play.agents t).npRandom
        (observations.target t) = .ok (agents t)) →
      Next classes play .reset ⟨env, [observations], agents, []⟩
  | call {play : Play cfg G} {call : Env.Call cfg (Finset ℕ)} {env : Env cfg G (Finset ℕ)} :
      Env.Next play.env call env →
      (∀ memory, call = .write memory → play.env.mail.memory.Extends memory) →
      Next classes play (.call call) { play with env, shown := play.shown ++ call.observations }
  | observe {play : Play cfg G} {t : Fin cfg.numTargets} {observations : Observations cfg}
      {agent : GreedyTargetAgent G} :
      observations ∈ play.shown →
      (play.agents t).observe (observations.target t) = .ok agent →
      Next classes play (.observe t) { play with agents := Function.update play.agents t agent }
  | act {play : Play cfg G} {t : Fin cfg.numTargets} {observations : Observations cfg}
      {action : ℂ} {agent : GreedyTargetAgent G} :
      observations ∈ play.shown →
      (classes t).act (play.agents t) (observations.target t) = .ok (action, agent) →
      Next classes play (.act t action) { play with agents := Function.update play.agents t agent }
  | send {play : Play cfg G} {t : Fin cfg.numTargets} {messages : List Message}
      {memory : Memory (Finset ℕ)} {agent : GreedyTargetAgent G} :
      (play.agents t).sendResponses play.env.mail.memory = (messages, memory, agent) →
      Next classes play (.send t)
        { play with
          env := play.withMemory memory
          agents := Function.update play.agents t agent
          sent := play.sent ++ messages }
  | receive {play : Play cfg G} {t : Fin cfg.numTargets} {messages : List Message} :
      (∀ m ∈ messages, ∃ m' ∈ play.sent,
        play.env.mail.memory.value m.content = play.env.mail.memory.value m'.content) →
      Next classes play (.receive t messages)
        { play with
          agents := Function.update play.agents t
            ((play.agents t).receiveResponses play.env.mail.memory messages) }

/-! ## Plays are gossip -/

/-- The bit of a warehouse in row `t` of observations. -/
noncomputable def showsEmpty (observations : Observations cfg) (t : Fin cfg.numTargets)
    (w : Warehouse) : Bool :=
  decide (((targetObservationSlicesOf cfg.numCameras cfg.numTargets cfg.numObstacles).selfState.read
    (observations.target t)).getD (6 + NUM_WAREHOUSES + w) 0 ≠ 0)

/-- The warehouses that are not in a set. -/
def missing (warehouses : Finset ℕ) : Set Warehouse :=
  {w : Warehouse | (w : ℕ) ∉ warehouses}

/-- The facts are the warehouses that are empty. -/
noncomputable def gossip (play : Play cfg G) : Gossip.State (Fin cfg.numTargets) Warehouse where
  holds := {w | ∀ goal, play.env.cargo.remainingCargoes w goal = 0}
  shown := {w | ∃ observations ∈ play.shown, ∃ t, showsEmpty observations t w = true}
  known := fun t => missing (play.agents t).nonEmptyWarehouses
  sent := {m | ∃ message ∈ play.sent,
    m = missing (play.env.mail.memory.value message.content)}

/-- What holds of a play since its last reset, besides what the agents know. -/
structure Fed (play : Play cfg G) : Prop where
  consistent : ∃ total, play.env.Consistent total
  obstacles : play.env.KnowsObstacles
  knows : ∀ t : Fin (cfg.teamSize .target), (play.agents t).toAgentBase.Knows cfg t
  sent : ∀ m ∈ play.sent, m.content < play.env.mail.memory.next

omit [RandomState G] [SetOrder] in
/-- The bits of an observation are those of the environment that it is of. -/
theorem showsEmpty_eq {e : Env cfg G (Finset ℕ)} (h : e.ShowsObstacles) (t : Fin cfg.numTargets)
    (w : Warehouse) : showsEmpty e.jointObservation.1 t w = e.cargo.emptyBits t w := by
  have hself : (targetObservationSlicesOf cfg.numCameras cfg.numTargets cfg.numObstacles).selfState.read
      (e.jointObservation.1.target t) = e.targetStatePrivate t := selfState_read h .target t
  have hentry : (e.targetStatePrivate t).getD (6 + NUM_WAREHOUSES + w) 0
      = if e.cargo.emptyBits t w then 1 else 0 := by
    fin_cases w <;> rfl
  unfold showsEmpty
  rw [hself, hentry]
  cases e.cargo.emptyBits t w <;> simp

/-! ## What each party does to the facts -/

omit [RandomState G] [SetOrder] in
theorem knows_checked {i : Fin (cfg.teamSize .target)} {agent base : AgentBase .target G}
    {observation : List ℝ} {state : TargetStatePrivate} (h : agent.Knows cfg i)
    (hcheck : agent.checkInputs observation = .ok (state, base)) :
    ({ base with state } : AgentBase .target G).Knows cfg i := by
  obtain ⟨-, -, rfl⟩ := AgentBase.checkInputs_eq_ok hcheck
  exact ⟨h.numCameras, h.numTargets, h.numObstacles, h.index, h.observationIndices,
    h.observationSlices, h.observationDim⟩

omit [RandomState G] [SetOrder] in
theorem processMessages_base (agent : GreedyTargetAgent G) :
    agent.processMessages.toAgentBase = agent.toAgentBase := by
  unfold GreedyTargetAgent.processMessages
  split <;> rfl

omit [RandomState G] [SetOrder] in
/-- After `process_messages` the missing warehouses are the old ones and those that are seen. -/
theorem missing_processMessages (agent : GreedyTargetAgent G) :
    missing agent.processMessages.nonEmptyWarehouses
      ⊆ missing agent.nonEmptyWarehouses ∪ {w | agent.state.emptyBits w = true} := by
  intro w hw
  unfold GreedyTargetAgent.processMessages at hw
  split at hw
  · by_cases hold : (w : ℕ) ∈ agent.nonEmptyWarehouses
    · right
      have hseen : (w : ℕ) ∈ agent.seenEmptyWarehouses := by
        by_contra hnot
        exact hw (Finset.mem_sdiff.mpr ⟨hold, hnot⟩)
      obtain ⟨w', hw', heq⟩ := Finset.mem_image.mp hseen
      rw [← Fin.ext heq]
      exact (Finset.mem_filter.mp hw').2
    · exact Or.inl hold
  · exact Or.inl hw

omit [RandomState G] [SetOrder] in
/-- An agent that observes learns at most what the observation shows. -/
theorem missing_observe {t : Fin (cfg.teamSize .target)} {agent agent' : GreedyTargetAgent G}
    {observations : Observations cfg}
    (hknows : agent.toAgentBase.Knows cfg t)
    (h : agent.observe (observations.target t) = .ok agent') :
    missing agent'.nonEmptyWarehouses
        ⊆ missing agent.nonEmptyWarehouses ∪ {w | showsEmpty observations t w = true}
      ∧ agent'.toAgentBase.Knows cfg t := by
  obtain ⟨state, base, hcheck, rfl⟩ := GreedyTargetAgent.observe_eq_ok h
  refine ⟨?_, by rw [processMessages_base]; exact knows_checked hknows hcheck⟩
  refine (missing_processMessages _).trans (Set.union_subset_union_right _ ?_)
  intro w hbit
  have hstate := (AgentBase.checkInputs_eq_ok hcheck).1
  rw [hknows.observationSlices] at hstate
  unfold showsEmpty
  rw [show targetObservationSlicesOf _ _ _ = observationSlicesOf .target _ _ _ from rfl, ← hstate]
  exact hbit

/-- Acting changes no knowledge. -/
theorem missing_act {cls : TargetAgentClass} {t : Fin (cfg.teamSize .target)}
    {agent agent' : GreedyTargetAgent G} {observation : List ℝ} {action : ℂ}
    (hknows : agent.toAgentBase.Knows cfg t)
    (h : cls.act agent observation = .ok (action, agent')) :
    agent'.nonEmptyWarehouses = agent.nonEmptyWarehouses
      ∧ agent'.toAgentBase.Knows cfg t := by
  obtain ⟨action', hact⟩ : ∃ action', agent.act observation = .ok (action', agent') := by
    cases cls with
    | greedy => exact ⟨action, h⟩
    | heuristic => exact HeuristicTargetAgent.act_eq_ok h
  obtain ⟨state, base, hcheck, hsame⟩ := GreedyTargetAgent.act_eq_ok hact
  have hchecked := knows_checked hknows hcheck
  refine ⟨hsame.nonEmptyWarehouses, ?_⟩
  rw [hsame.base]
  exact ⟨hchecked.numCameras, hchecked.numTargets, hchecked.numObstacles, hchecked.index,
    hchecked.observationIndices, hchecked.observationSlices, hchecked.observationDim⟩

omit [RandomState G] [SetOrder] in
/-- An agent that receives messages learns at most what they say. -/
theorem missing_receiveResponses (agent : GreedyTargetAgent G) (memory : Memory (Finset ℕ))
    (messages : List Message) {w : Warehouse}
    (hw : w ∈ missing (agent.receiveResponses memory messages).nonEmptyWarehouses) :
    w ∈ missing agent.nonEmptyWarehouses
      ∨ ∃ m ∈ messages, w ∈ missing (memory.value m.content) := by
  have hfold : ∀ (ms : List Message) (s : Finset ℕ),
      (w : ℕ) ∉ ms.foldl (fun warehouses m => warehouses ∩ memory.value m.content) s →
      (w : ℕ) ∉ s ∨ ∃ m ∈ ms, (w : ℕ) ∉ memory.value m.content := by
    intro ms
    induction ms with
    | nil => exact fun s hs => Or.inl hs
    | cons m rest ih =>
        intro s hs
        rcases ih _ hs with hinter | ⟨m', hm', hmissing⟩
        · by_cases hold : (w : ℕ) ∈ s
          · refine Or.inr ⟨m, List.mem_cons_self, fun hm => ?_⟩
            exact hinter (Finset.mem_inter.mpr ⟨hold, hm⟩)
          · exact Or.inl hold
        · exact Or.inr ⟨m', List.mem_cons_of_mem _ hm', hmissing⟩
  exact hfold messages agent.nonEmptyWarehouses hw

/-- An empty warehouse stays empty. -/
theorem empty_of_next {total : ℤ} {e e' : Env cfg G (Finset ℕ)}
    {call : Env.Call cfg (Finset ℕ)} (h : Env.Next e call e') (he : e.Consistent total)
    {w : Warehouse} (hw : ∀ goal, e.cargo.remainingCargoes w goal = 0) (goal : Warehouse) :
    e'.cargo.remainingCargoes w goal = 0 := by
  rcases h.cases_step with ⟨reg, a, b, result, -, hstep⟩ | ⟨mail, rfl⟩
  · obtain ⟨s, hs⟩ := step_stepped he.valid hstep
    have hle := hs.assigned.remaining_le w goal
    have hnonneg := hs.assigned.valid.remaining_nonneg w goal
    have hzero := hw goal
    rw [hs.alike.remaining]
    omega
  · exact hw goal

/-! ## The invariant -/

omit [RandomState G] [SetOrder] in
/-- Only the agent that moves changes. -/
theorem update_agents {n : ℕ} {X : Type} (P : Fin n → X → Prop) {agents : Fin n → X} {t : Fin n}
    {agent : X} (hagents : ∀ t', P t' (agents t')) (hagent : P t agent) (t' : Fin n) :
    P t' (Function.update agents t agent t') := by
  by_cases heq : t' = t
  · subst heq
    rw [Function.update_self]
    exact hagent
  · rw [Function.update_of_ne heq]
    exact hagents t'

omit [RandomState G] [SetOrder] in
theorem update_knows {agents : Fin cfg.numTargets → GreedyTargetAgent G}
    {t : Fin (cfg.teamSize .target)} {agent : GreedyTargetAgent G}
    (hagents : ∀ t' : Fin (cfg.teamSize .target), (agents t').toAgentBase.Knows cfg t')
    (hagent : agent.toAgentBase.Knows cfg t) (t' : Fin (cfg.teamSize .target)) :
    (Function.update agents t agent t').toAgentBase.Knows cfg t' :=
  update_agents (fun t (agent : GreedyTargetAgent G) => @AgentBase.Knows .target G cfg t agent.toAgentBase) hagents hagent
    t'

omit [SetOrder] in
/-- After a reset the agents know the layout and think that nothing is empty. -/
theorem reset_agent {t : Fin (cfg.teamSize .target)} {e : Env cfg G (Finset ℕ)}
    (he : e.ShowsObstacles) {noiseScale : ℝ} {npRandom : G} {agent : GreedyTargetAgent G}
    (h : GreedyTargetAgent.reset noiseScale npRandom (e.jointObservation.1.target t) = .ok agent) :
    agent.toAgentBase.Knows cfg t ∧ agent.nonEmptyWarehouses = Finset.range NUM_WAREHOUSES := by
  obtain ⟨base, hbase, h⟩ := bind_eq_ok.mp h
  obtain ⟨base', hbase', hknows, -, -⟩ := reset_knows he .target t npRandom
  have heq : base' = base := by
    have hsame := hbase'.symm.trans hbase
    cases hsame
    rfl
  subst heq
  cases h
  exact ⟨⟨hknows.numCameras, hknows.numTargets, hknows.numObstacles, hknows.index,
    hknows.observationIndices, hknows.observationSlices, hknows.observationDim⟩, rfl⟩

/-- **A reset** starts a play that is sound. -/
theorem Next.reset_sound {classes : Fin cfg.numTargets → TargetAgentClass} {play play' : Play cfg G}
    (h : Next classes play .reset play') : play'.Fed ∧ Gossip.Sound play'.gossip := by
  cases h with
  | @reset fuel seed observations reg env agents hreset hagents =>
      have hconsistent := reset_consistent hreset
      have hobstacles := reset_knowsObstacles hreset
      have hobservations := reset_observations hreset
      subst hobservations
      refine ⟨⟨⟨_, hconsistent⟩, hobstacles, fun t => (reset_agent hobstacles.shows (hagents t)).1,
        fun m hm => absurd hm List.not_mem_nil⟩, ?_, ?_, ?_⟩
      · rintro w ⟨observations, hmem, t, hbit⟩
        rw [List.mem_singleton.mp hmem, showsEmpty_eq hobstacles.shows] at hbit
        exact hconsistent.empty t w hbit
      · intro t w hw
        refine absurd ?_ hw
        show (w : ℕ) ∈ (agents t).nonEmptyWarehouses
        rw [(reset_agent hobstacles.shows (hagents t)).2]
        exact Finset.mem_range.mpr w.isLt
      · rintro m ⟨message, hmessage, -⟩
        exact absurd hmessage List.not_mem_nil

/-- The parts of a play other than the environment's cargoes and obstacles may change freely. -/
theorem Next.fed {classes : Fin cfg.numTargets → TargetAgentClass} {play play' : Play cfg G}
    {move : Move cfg} (h : Next classes play move play') (hplay : play.Fed) : play'.Fed := by
  obtain ⟨total, hconsistent⟩ := hplay.consistent
  cases h with
  | reset hreset hagents =>
      have hreset' : Next classes play .reset _ := .reset hreset hagents
      exact hreset'.reset_sound.1
  | call hcall hwrite =>
      have hextends := hcall.extends hwrite
      exact ⟨⟨total, hcall.consistent hconsistent⟩, hcall.knowsObstacles hplay.obstacles,
        hplay.knows, fun m hm => (hplay.sent m hm).trans_le hextends.next_le⟩
  | observe hshown hobserve =>
      exact ⟨hplay.consistent, hplay.obstacles,
        update_knows hplay.knows (missing_observe (hplay.knows _) hobserve).2, hplay.sent⟩
  | act hshown hact =>
      exact ⟨hplay.consistent, hplay.obstacles,
        update_knows hplay.knows (missing_act (hplay.knows _) hact).2, hplay.sent⟩
  | @send t messages memory agent hsend =>
      -- what is sent is a new object of the memory
      unfold GreedyTargetAgent.sendResponses at hsend
      split at hsend
      · cases hsend
        refine ⟨⟨total, hconsistent.valid, hconsistent.units, hconsistent.ledgers,
          hconsistent.empty⟩, ⟨hplay.obstacles.flagged, hplay.obstacles.camera⟩,
          update_knows hplay.knows (hplay.knows t), ?_⟩
        intro m hm
        rcases List.mem_append.mp hm with hold | hnew
        · exact (hplay.sent m hold).trans (Nat.lt_succ_self _)
        · rw [List.mem_singleton.mp hnew]
          exact Nat.lt_succ_self _
      · cases hsend
        refine ⟨⟨total, hconsistent.valid, hconsistent.units, hconsistent.ledgers,
          hconsistent.empty⟩, ⟨hplay.obstacles.flagged, hplay.obstacles.camera⟩,
          update_knows hplay.knows (hplay.knows t), ?_⟩
        intro m hm
        exact hplay.sent m (by simpa using hm)
  | @receive t messages hmessages =>
      exact ⟨hplay.consistent, hplay.obstacles, update_knows hplay.knows (hplay.knows t),
        hplay.sent⟩

omit [RandomState G] [SetOrder] in
/-- The contents of the broadcasts are the same in a memory that extends the one they are in. -/
theorem sent_extends {memory memory' : Memory (Finset ℕ)} (h : memory.Extends memory')
    {sent : List Message} (hsent : ∀ m ∈ sent, m.content < memory.next) {m : Set Warehouse}
    (hm : ∃ message ∈ sent, m = missing (memory'.value message.content)) :
    ∃ message ∈ sent, m = missing (memory.value message.content) := by
  obtain ⟨message, hmessage, rfl⟩ := hm
  exact ⟨message, hmessage, by rw [h.value _ (hsent message hmessage)]⟩

/-- **A play is gossip** between two resets. -/
theorem Next.gossip {classes : Fin cfg.numTargets → TargetAgentClass} {play play' : Play cfg G}
    {move : Move cfg} (h : Next classes play move play') (hmove : move ≠ .reset)
    (hplay : play.Fed) : Gossip.Step play.gossip play'.gossip := by
  obtain ⟨total, hconsistent⟩ := hplay.consistent
  have hknown : ∀ {t : Fin cfg.numTargets} {agent : GreedyTargetAgent G},
      missing agent.nonEmptyWarehouses
        ⊆ play.gossip.known t ∪ play.gossip.shown ∪ ⋃₀ play.gossip.sent →
      ∀ t', missing (Function.update play.agents t agent t').nonEmptyWarehouses
        ⊆ play.gossip.known t' ∪ play.gossip.shown ∪ ⋃₀ play.gossip.sent := by
    intro t agent hagent
    refine update_agents (fun t' (agent : GreedyTargetAgent G) => missing agent.nonEmptyWarehouses
      ⊆ play.gossip.known t' ∪ play.gossip.shown ∪ ⋃₀ play.gossip.sent) (fun t' => ?_) hagent
    exact Set.subset_union_left.trans Set.subset_union_left
  cases h with
  | reset hreset hagents => exact absurd rfl hmove
  | @call call env hcall hwrite =>
      refine ⟨fun w hw => empty_of_next hcall hconsistent hw, ?_,
        fun t => Set.subset_union_left.trans Set.subset_union_left,
        fun m hm => Or.inl (sent_extends (hcall.extends hwrite) hplay.sent hm)⟩
      rintro w ⟨observations, hmem, t, hbit⟩
      rcases List.mem_append.mp hmem with hold | hnew
      · exact Or.inl ⟨observations, hold, t, hbit⟩
      · right
        -- the observations are those of the environment after the step
        have henv : observations = env.jointObservation.1 := by
          cases hcall with
          | step hstep => exact (List.mem_singleton.mp hnew).trans (step_observations hstep).1
          | send messages => exact absurd hnew List.not_mem_nil
          | receive hreceive => exact absurd hnew List.not_mem_nil
          | write memory hnext => exact absurd hnew List.not_mem_nil
        rw [henv, showsEmpty_eq (hcall.knowsObstacles hplay.obstacles).shows] at hbit
        exact (hcall.consistent hconsistent).empty t w hbit
  | @observe t observations agent hshown hobserve =>
      refine ⟨subset_rfl, Set.subset_union_left, hknown ?_, fun m hm => Or.inl hm⟩
      intro w hw
      rcases (missing_observe (hplay.knows t) hobserve).1 hw with hold | hseen
      · exact Or.inl (Or.inl hold)
      · exact Or.inl (Or.inr ⟨observations, hshown, t, hseen⟩)
  | @act t observations action agent hshown hact =>
      refine ⟨subset_rfl, Set.subset_union_left, hknown ?_, fun m hm => Or.inl hm⟩
      rw [(missing_act (hplay.knows t) hact).1]
      exact Set.subset_union_left.trans Set.subset_union_left
  | @send t messages memory agent hsend =>
      unfold GreedyTargetAgent.sendResponses at hsend
      split at hsend
      · cases hsend
        refine ⟨subset_rfl, Set.subset_union_left,
          hknown (Set.subset_union_left.trans Set.subset_union_left), ?_⟩
        rintro m ⟨message, hmem, rfl⟩
        rcases List.mem_append.mp hmem with hold | hnew
        · exact Or.inl (sent_extends (Memory.extends_alloc _ _) hplay.sent ⟨message, hold, rfl⟩)
        · refine Or.inr ⟨t, ?_⟩
          rw [List.mem_singleton.mp hnew]
          have hvalue : (play.env.mail.memory.alloc (play.agents t).nonEmptyWarehouses).2.value
              play.env.mail.memory.next = (play.agents t).nonEmptyWarehouses :=
            Function.update_self _ _ _
          exact (congrArg missing hvalue).subset
      · cases hsend
        refine ⟨subset_rfl, Set.subset_union_left,
          hknown (Set.subset_union_left.trans Set.subset_union_left), ?_⟩
        rintro m ⟨message, hmem, rfl⟩
        exact Or.inl ⟨message, by simpa using hmem, rfl⟩
  | @receive t messages hmessages =>
      refine ⟨subset_rfl, Set.subset_union_left, hknown ?_, fun m hm => Or.inl hm⟩
      intro w hw
      rcases missing_receiveResponses _ _ _ hw with hold | ⟨m, hm, hsays⟩
      · exact Or.inl (Or.inl hold)
      · obtain ⟨m', hm', hcopy⟩ := hmessages m hm
        rw [hcopy] at hsays
        exact Or.inr ⟨_, ⟨m', hm', rfl⟩, hsays⟩

/-! ## Soundness -/

theorem run_sound {classes : Fin cfg.numTargets → TargetAgentClass}
    {before start play : Play cfg G} {moves : List (Move cfg)}
    (hreset : Next classes before .reset start) (hrun : Run (Next classes) start moves play) :
    play.Fed ∧ Gossip.Sound play.gossip := by
  refine hrun.invariant (fun play => play.Fed ∧ Gossip.Sound play.gossip) hreset.reset_sound ?_
  rintro play move play' ⟨hfed, hsound⟩ hnext
  by_cases hmove : move = .reset
  · subst hmove
    exact hnext.reset_sound
  · exact ⟨hnext.fed hfed, (hnext.gossip hmove hfed).sound hsound⟩

/-- Until the next reset an empty warehouse stays empty. -/
theorem run_empty {classes : Fin cfg.numTargets → TargetAgentClass} {play later : Play cfg G}
    {moves : List (Move cfg)} (hplay : play.Fed) (hrun : Run (Next classes) play moves later)
    (hmoves : .reset ∉ moves) : play.gossip.holds ⊆ later.gossip.holds := by
  refine (hrun.induct (fun moves later => .reset ∉ moves →
    later.Fed ∧ play.gossip.holds ⊆ later.gossip.holds) (fun _ => ⟨hplay, subset_rfl⟩) ?_ hmoves).2
  intro moves later move later' ih hnext hmoves
  obtain ⟨hfed, hsub⟩ := ih (fun hmem => hmoves (List.mem_append_left _ hmem))
  have hmove : move ≠ .reset := by
    rintro rfl
    exact hmoves (List.mem_append_right _ (List.mem_singleton.mpr rfl))
  exact ⟨hnext.fed hfed, hsub.trans (hnext.gossip hmove hfed).holds⟩

/-- **What the team knows about empty warehouses is true**: a warehouse whose bit is set for some
target, or which is missing from the set of some agent, has no cargoes left, and gets none before
the next reset. -/
theorem empty_warehouses_known {classes : Fin cfg.numTargets → TargetAgentClass}
    {before start play : Play cfg G} {moves : List (Move cfg)}
    (hreset : Next classes before .reset start) (hrun : Run (Next classes) start moves play)
    (w : Warehouse)
    (hw : (∃ t, play.env.cargo.emptyBits t w = true)
      ∨ ∃ t, (w : ℕ) ∉ (play.agents t).nonEmptyWarehouses) :
    (∀ goal, play.env.cargo.remainingCargoes w goal = 0)
      ∧ ∀ (moves' : List (Move cfg)) (later : Play cfg G), Run (Next classes) play moves' later →
        .reset ∉ moves' → ∀ goal, later.env.cargo.remainingCargoes w goal = 0 := by
  obtain ⟨hfed, hsound⟩ := run_sound hreset hrun
  obtain ⟨total, hconsistent⟩ := hfed.consistent
  have hempty : w ∈ play.gossip.holds := by
    rcases hw with ⟨t, hbit⟩ | ⟨t, hmissing⟩
    · exact hconsistent.empty t w hbit
    · exact hsound.known t hmissing
  exact ⟨hempty, fun moves' later hlater hmoves => run_empty hfed hlater hmoves hempty⟩

end Play

open Env

/-! ## A warehouse that is emptied by the reset -/

/-- A target without a goal that stands in a warehouse with a single cargo takes it and sees that
nothing is left. -/
theorem Ledger.assignTarget_last {n : ℕ} {G : Type} [RandomState G] {cfg : Config}
    {inside : Fin n → Warehouse → Bool} {s s' : Ledger n G} {t : Fin n} {w next : Warehouse}
    (hinside : Ledger.warehousesOf inside t = [w]) (hgoal : s.cargo.targetGoals t = none)
    (hcap : 1 ≤ s.cargo.targetCapacities t)
    (hone : ∀ goal, s.cargo.remainingCargoes w goal = if goal = next then 1 else 0)
    (h : Ledger.assignTarget cfg inside s t = .ok s') : s'.cargo.emptyBits t w = true := by
  obtain ⟨visited, hvisit, h⟩ := bind_eq_ok.mp h
  cases h
  have hstocked : (s.settle cfg t none).cargo.stocked w = true := by
    refine decide_eq_true ⟨next, ?_⟩
    show s.cargo.remainingCargoes w next ≠ 0
    rw [hone, if_pos rfl]
    exact one_ne_zero
  rw [hgoal, hinside, Ledger.visit, if_pos (Or.inl rfl)] at hvisit
  dsimp only at hvisit
  rw [if_pos hstocked] at hvisit
  obtain ⟨⟨goal, rng⟩, hchoice, hvisit⟩ := bind_eq_ok.mp hvisit
  cases hvisit
  -- the only goal it can choose is that of the single cargo
  have hgoal' : goal = next := by
    have hmem : next ∈ (s.settle cfg t none).cargo.openGoals w := by
      refine List.mem_filter.mpr ⟨List.mem_finRange next, decide_eq_true ?_⟩
      show 0 < s.cargo.remainingCargoes w next
      rw [hone, if_pos rfl]
      exact one_pos
    obtain ⟨x, g', hchoice', hx⟩ := RandomState.choice_mem (List.ne_nil_of_mem hmem)
      (s.settle cfg t none).rng
    rw [hchoice'] at hchoice
    cases hchoice
    have hpos : 0 < s.cargo.remainingCargoes w goal := of_decide_eq_true (List.mem_filter.mp hx).2
    rw [hone] at hpos
    by_contra hne
    rw [if_neg hne] at hpos
    exact absurd hpos (lt_irrefl 0)
  subst hgoal'
  simp only [Cargo.refreshEmptyBits, Function.update_self, hinside, List.mem_singleton, if_true,
    Bool.not_eq_true', Cargo.stocked, decide_eq_false_iff_not, not_exists, not_not]
  intro goal'
  rw [Cargo.load_remaining]
  show s.cargo.remainingCargoes w goal'
    - (if w = w ∧ goal' = goal then
        min (s.cargo.targetCapacities t) (s.cargo.remainingCargoes w goal) else 0) = 0
  rw [hone, hone]
  by_cases heq : goal' = goal
  · simp [heq, hcap]
  · simp [heq]

/-- Starting with cargoes leaves the bits alone. -/
theorem Cargo.startWithCargoes_emptyBits {n : ℕ} {G : Type} [RandomState G] {cfg : Config}
    (s : Ledger n G) :
    Ensures (Cargo.startWithCargoes cfg s) (fun s' => s'.cargo.emptyBits = s.cargo.emptyBits) := by
  have hpick : ∀ (s : Ledger n G) (t : Fin n) (w : Warehouse),
      Ensures (s.pickUp cfg t w) (fun s' => s'.cargo.emptyBits = s.cargo.emptyBits) := by
    intro s t w
    exact Ensures.andThen (fun _ => Ensures.pure rfl)
  have hstart : ∀ (s : Ledger n G) (t : Fin n),
      Ensures (Cargo.startTarget cfg s t) (fun s' => s'.cargo.emptyBits = s.cargo.emptyBits) := by
    intro s t
    unfold Cargo.startTarget
    dsimp only
    split
    · exact hpick _ t _
    · exact Ensures.pure rfl
  unfold Cargo.startWithCargoes
  split
  · have hloop := Ensures.foldlM (I := fun s' : Ledger n G => s'.cargo.emptyBits = s.cargo.emptyBits)
      ((List.finRange n).filter (fun t => s.cargo.targetGoals t = none)) s rfl
      (fun s' t _ hs' => (hstart s' t).mono (fun s'' h => h.trans hs'))
    refine hloop.bind (fun s' hs' => ?_)
    split
    · exact Ensures.pure hs'
    · intro s'' h
      cases h
  · exact Ensures.pure rfl

/-- The target of the small environment, put into the first warehouse, takes its only cargo. -/
theorem solo_emptyBits (c : Cargo (soloConfig (925, 925) 10 (by decide)).numTargets)
    (hcap : ∀ t, 1 ≤ c.targetCapacities t)
    {inside : Fin (soloConfig (925, 925) 10 (by decide)).numTargets → Warehouse → Bool}
    (hinside : ∀ t w, inside t w = decide (w = 0)) (tracked g : _)
    {s : Ledger (soloConfig (925, 925) 10 (by decide)).numTargets (Fin 4)} :
    letI := rotating
    c.reset (soloConfig (925, 925) 10 (by decide)) 2 inside tracked g = .ok s →
      ∀ t, s.cargo.emptyBits t 0 = true := by
  let _ := rotating
  intro hreset t
  -- one pass deals every warehouse one cargo, for the next one
  have hpass : ∀ g w goal : Fin 4,
      (Cargo.fillPass 4 0 g).1 w goal = if goal = w + 1 then 1 else 0 := by decide
  have hall : ∀ g : Fin 4, Cargo.allSend (Cargo.fillPass 4 0 g).1 = true := by decide
  have hnone : ¬ Cargo.allSend 0 = true := by decide
  obtain ⟨⟨remaining, awaiting, g'⟩, hfill, hreset⟩ := bind_eq_ok.mp hreset
  obtain ⟨assigned, hassigned, hreset⟩ := bind_eq_ok.mp hreset
  rw [Cargo.startWithCargoes_emptyBits _ _ hreset]
  rw [Cargo.fillCargoes, if_neg hnone] at hfill
  change Cargo.fillCargoes _ 1 (Cargo.fillPass 4 0 g).1 _ _ = _ at hfill
  rw [Cargo.fillCargoes, if_pos (hall g)] at hfill
  cases hfill
  obtain ⟨served, hserved, hassigned⟩ := bind_eq_ok.mp hassigned
  cases hassigned
  have hzero : t = ⟨0, Nat.one_pos⟩ := Fin.ext (Nat.lt_one_iff.mp t.isLt)
  subst hzero
  obtain ⟨last, hlast, hserved⟩ := bind_eq_ok.mp hserved
  cases hserved
  have hlist : Ledger.warehousesOf inside ⟨0, Nat.one_pos⟩ = [0] := by
    rw [Ledger.warehousesOf, funext (hinside _)]
    decide
  show served.cargo.emptyBits _ 0 = true
  exact Ledger.assignTarget_last hlist rfl (hcap _) (hpass g 0) hlast

theorem inWarehouse_first (w : Warehouse) :
    inWarehouse ⟨((925 : ℚ) : ℝ), ((925 : ℚ) : ℝ)⟩ w = decide (w = 0) := by
  unfold inWarehouse warehouseLocation WAREHOUSES WAREHOUSE_RADIUS TERRAIN_SIZE
  fin_cases w <;> norm_num

theorem GreedyTargetAgent.reset_returns {cfg : Config} {G V : Type} [RandomState G] {e : Env cfg G V}
    (he : e.ShowsObstacles) (t : Fin (cfg.teamSize .target)) (noiseScale : ℝ) (npRandom : G) :
    ∃ agent, GreedyTargetAgent.reset noiseScale npRandom (e.jointObservation.1.target t)
      = .ok agent := by
  obtain ⟨base, hbase, -⟩ := reset_knows he .target t npRandom
  rw [GreedyTargetAgent.reset,
    show AgentBase.reset .target npRandom (e.jointObservation.1.target t) = .ok base from hbase]
  exact ⟨_, rfl⟩

theorem Play.empty_warehouses_known_solo :
    letI := rotating
    letI := SetOrder.increasing
    ∃ before start : Play (soloConfig (925, 925) 10 (by decide)) (Fin 4),
      Play.Next (fun _ => .greedy) before .reset start
        ∧ (∀ t, start.env.cargo.emptyBits t 0 = true)
        ∧ ∀ goal, start.env.cargo.remainingCargoes 0 goal = 0 := by
  let _ := rotating
  let _ := SetOrder.increasing
  obtain ⟨self, hself⟩ : ∃ self : Env (soloConfig (925, 925) 10 (by decide)) (Fin 4) (Finset ℕ),
      Env.init (soloConfig (925, 925) 10 (by decide)) ⟨0, fun _ => ∅⟩ = .ok self := ⟨_, rfl⟩
  obtain ⟨⟨observations, reg, env⟩, hreset, -⟩ := reset_returns
    (rfl : (soloConfig (925, 925) 10 (by decide)).numCameras = 0)
    (fillCargoes_rotating (925, 925) 10 (by decide)) none self
  have hobservations : observations = env.jointObservation.1 := reset_observations hreset
  obtain ⟨placed, s, orientations, rng, hentities, hplaced, hs, hfinish⟩ := reset_eq_ok hreset
  have henv : env.cargo = s.cargo ∧ env.targets = placed.targets := by
    cases hfinish
    exact ⟨rfl, rfl⟩
  have hlocation := fun t => (reset_targets_at hself (soloConfig_box (925, 925) 10 (by decide))
    (by norm_num [InTerrain, TERRAIN_SIZE]) hreset t).1
  have hinside : ∀ t w, placed.inside t w = decide (w = 0) := by
    intro t w
    rw [← inWarehouse_first w, ← hlocation t, henv.2]
    rfl
  -- the target stands in the first warehouse, which has nothing for it
  have hbits : ∀ t, env.cargo.emptyBits t 0 = true := by
    rw [henv.1]
    exact solo_emptyBits placed.cargo (fun t => (hplaced.capacities t).1) hinside _ _ hs
  subst hobservations
  have hshows := (reset_knowsObstacles hreset).shows
  have hagents := fun t => GreedyTargetAgent.reset_returns hshows t (1 / 2) (0 : Fin 4)
  choose agents hagents using hagents
  refine ⟨⟨self, [], fun t => { agents t with
    toAgentBase := { (agents t).toAgentBase with npRandom := 0 }
    noiseScale := 1 / 2 }, []⟩, ⟨env, [env.jointObservation.1], agents, []⟩, ?_, hbits, ?_⟩
  · exact .reset hreset hagents
  · have hnext : Play.Next (fun _ => .greedy) ⟨self, [], fun t => { agents t with
        toAgentBase := { (agents t).toAgentBase with npRandom := 0 }
        noiseScale := 1 / 2 }, []⟩ .reset ⟨env, [env.jointObservation.1], agents, []⟩ :=
      .reset hreset hagents
    exact (Play.empty_warehouses_known hnext .nil 0 (Or.inl ⟨⟨0, Nat.one_pos⟩, hbits _⟩)).1

end Mate
