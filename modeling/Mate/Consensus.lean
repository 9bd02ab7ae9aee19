import Mate.Agents.Group
import Mate.Knowledge
import Mate.Library.Agreement

set_option autoImplicit false

/-! # A team of targets agrees on the warehouses

`group_communicate` is a round of broadcasts (`Library/Agreement.lean`): the sets of warehouses
are the elements, `need_communication` is the dirty flag. The requests are nothing but drain the
queues, so that what an agent hears are the sets of the agents that need to communicate, its own
among them (`groupCommunicate_returns`). So after every round all agents hold the intersection of
their sets, and they still do when they act (`Squad.team_agrees`).
-/

namespace Mate

open Fallible Runs Env Agreement

/-! ## Posting -/

namespace Mail

variable {cfg : Config} {V : Type}

theorem appendBuffer_queue (mail : Mail cfg V) (team : Team) (r : ℤ) (m : Message) :
    (mail.appendBuffer team r m).queue = mail.queue := by
  show (mail.touchBuffer team r).2.queue = mail.queue
  unfold touchBuffer
  split <;> rfl

/-- Messages to existing agents are appended to their queues, whatever the buffers are. -/
theorem post_peek (ms : List Message) (mail : Mail cfg V) (h : ∀ m ∈ ms, m.Addressed cfg) :
    ∃ mail', post ms mail = (.ok (), mail') ∧ mail'.memory = mail.memory
      ∧ ∀ team r, mail'.peek team r = mail.peek team r ++ ms.filter (Message.isFor team r) := by
  induction ms generalizing mail with
  | nil => exact ⟨mail, rfl, rfl, fun team r => (List.append_nil _).symm⟩
  | cons m rest ih =>
      obtain ⟨i, j, hsender, hrecipient⟩ := h m List.mem_cons_self
      set appended := (mail.appendQueue m.team (j : ℕ) m).appendBuffer m.team (j : ℕ) m
        with happended
      -- the edges are counted next to the queues
      obtain ⟨counted, hcount, hqueue, hmemory⟩ : ∃ counted,
          appended.countEdge m.team m.sender (j : ℕ) = .ok counted
            ∧ counted.queue = appended.queue ∧ counted.memory = appended.memory := by
        refine ⟨_, by rw [countEdge, hsender, axisIndex_natCast, axisIndex_natCast]; rfl, ?_⟩
        exact ⟨rfl, rfl⟩
      obtain ⟨mail', hpost, hmemory', hpeek⟩ :=
        ih counted (fun m' hm' => h m' (List.mem_cons_of_mem m hm'))
      refine ⟨mail', ?_, ?_, fun team r => ?_⟩
      · unfold post
        rw [hrecipient, Option.getD_some]
        dsimp only
        rw [← happended, hcount]
        exact hpost
      · rw [hmemory', hmemory, happended]
        exact touchBuffer_memory _ _ _
      · have happend : counted.peek team r = mail.peek team r
            ++ if team = m.team ∧ r = (j : ℕ) then [m] else [] := by
          rw [← appendQueue_peek]
          unfold peek
          rw [hqueue, happended, appendBuffer_queue]
        rw [hpeek, happend, ← filter_isFor_singleton hrecipient, List.append_assoc,
          ← List.filter_append]
        rfl

/-- What an agent hears of a broadcast: the content, once. -/
theorem heard_copies {memory memory' : Memory V} {message : Message} {rs : List ℕ}
    {copies : List Message} (hcopies : List.Forall₂ (CopyFor memory memory' message) rs copies)
    (hnodup : rs.Nodup) (r : ℕ) :
    (copies.filter (Message.isFor message.team r)).map (fun m => memory'.value m.content)
      = if r ∈ rs then [memory.value message.content] else [] := by
  induction hcopies with
  | nil => rfl
  | @cons r' copy rs copies hcopy hrest ih =>
      obtain ⟨hnotin, hrs⟩ := List.nodup_cons.mp hnodup
      have hrecipient : copy.recipient = some (r' : ℤ) := by rw [hcopy.eq]
      have hteam : copy.team = message.team := by rw [hcopy.eq]
      have hfor : copy.isFor message.team r = true ↔ r = r' := by
        rw [isFor_iff hrecipient, hteam]
        constructor
        · exact fun h => by exact_mod_cast h.2
        · exact fun h => ⟨rfl, by exact_mod_cast h⟩
      by_cases hr : r = r'
      · subst hr
        rw [List.filter_cons_of_pos (hfor.mpr rfl), List.map_cons, ih hrs, if_neg hnotin,
          if_pos List.mem_cons_self, hcopy.value]
      · rw [List.filter_cons_of_neg (fun h => hr (hfor.mp h)), ih hrs]
        by_cases hin : r ∈ rs
        · rw [if_pos hin, if_pos (List.mem_cons_of_mem _ hin)]
        · rw [if_neg hin, if_neg (fun h => by
            rcases List.mem_cons.mp h with h | h
            · exact hr h
            · exact hin h)]

end Mail

/-! ## The loops of a round -/

section

variable {cfg : Config} {G : Type}

/-- The queues of the targets. -/
def queueOf (env : Env cfg G (Finset ℕ)) (t : Fin cfg.numTargets) : List Message :=
  env.mail.peek .target (t : ℕ)

/-- What a target would hear. -/
def heard (env : Env cfg G (Finset ℕ)) (t : Fin cfg.numTargets) : List (Finset ℕ) :=
  (queueOf env t).map (fun m => env.mail.memory.value m.content)

/-- The messages in the queues of the targets have contents. -/
def Allocated (env : Env cfg G (Finset ℕ)) : Prop :=
  ∀ t, ∀ m ∈ queueOf env t, m.content < env.mail.memory.next

/-- What a group knows that is asked to communicate: everybody its index. -/
def Indexed (agents : Fin cfg.numTargets → GreedyTargetAgent G) : Prop :=
  ∀ t, (agents t).index = (t : ℕ)

theorem sendAllRequests_eq {n : ℕ} (env : Env cfg G (Finset ℕ))
    (agents : Fin n → GreedyTargetAgent G) : sendAllRequests env agents = .ok env := by
  unfold sendAllRequests
  induction List.finRange n with
  | nil => rfl
  | cons t rest ih => exact ih

/-- Reading one queue empties it, and no other one. -/
theorem queueOf_receive (env : Env cfg G (Finset ℕ)) {agent : GreedyTargetAgent G}
    {t : Fin cfg.numTargets} (hindex : agent.index = (t : ℕ)) (t' : Fin cfg.numTargets) :
    queueOf (env.receiveMessages agent.handle).2 t' = if t' = t then [] else queueOf env t' := by
  show (Function.update env.mail.queue .target (Function.update (env.mail.queue .target)
    agent.index none) .target ((t' : ℕ) : ℤ)).getD [] = _
  rw [Function.update_self, hindex]
  by_cases h : t' = t
  · subst h
    rw [Function.update_self, if_pos rfl]
    rfl
  · have hne : ((t' : ℕ) : ℤ) ≠ (t : ℕ) := fun heq => h (Fin.ext (by exact_mod_cast heq))
    rw [Function.update_of_ne hne, if_neg h]
    rfl

/-- The loop of `receiveAllRequests` over some of the agents. -/
theorem foldl_receiveRequests {agents : Fin cfg.numTargets → GreedyTargetAgent G}
    (hindexed : Indexed agents) (ts : List (Fin cfg.numTargets)) (env : Env cfg G (Finset ℕ)) :
    let r := ts.foldl (fun (env, agents) t =>
        let (messages, env) := Env.receiveMessages env (AgentBase.handle (agents t).toAgentBase)
        (env, Function.update agents t ((agents t).receiveRequests messages))) (env, agents)
    r.2 = agents ∧ r.1.mail.memory = env.mail.memory
      ∧ ∀ t, queueOf r.1 t = if t ∈ ts then [] else queueOf env t := by
  induction ts generalizing env with
  | nil => exact ⟨rfl, rfl, fun t => rfl⟩
  | cons t rest ih =>
      have hstep : ((env.receiveMessages (agents t).handle).2,
          Function.update agents t ((agents t).receiveRequests
            (env.receiveMessages (agents t).handle).1))
          = ((env.receiveMessages (agents t).handle).2, agents) := by
        unfold GreedyTargetAgent.receiveRequests
        rw [Function.update_eq_self]
      dsimp only
      rw [List.foldl_cons]
      dsimp only
      rw [hstep]
      obtain ⟨hagents, hmemory, hqueue⟩ := ih (env.receiveMessages (agents t).handle).2
      refine ⟨hagents, hmemory, fun t' => ?_⟩
      rw [hqueue, queueOf_receive env (hindexed t)]
      by_cases h : t' = t
      · simp [h]
      · simp [h]

/-- After the requests the queues are empty. -/
theorem receiveAllRequests_spec (env : Env cfg G (Finset ℕ))
    {agents : Fin cfg.numTargets → GreedyTargetAgent G} (hindexed : Indexed agents) :
    (receiveAllRequests env agents).2 = agents
      ∧ (receiveAllRequests env agents).1.mail.memory = env.mail.memory
      ∧ ∀ t, queueOf (receiveAllRequests env agents).1 t = [] := by
  obtain ⟨hagents, hmemory, hqueue⟩ :=
    foldl_receiveRequests hindexed (List.finRange cfg.numTargets) env
  exact ⟨hagents, hmemory, fun t => by
    rw [show queueOf (receiveAllRequests env agents).1 t = _ from hqueue t,
      if_pos (List.mem_finRange t)]⟩

/-- **A broadcast**: everybody in the team hears the content once more. -/
theorem sendMessages_broadcast (env : Env cfg G (Finset ℕ)) (hallocated : Allocated env)
    {agent : GreedyTargetAgent G} {i : Fin cfg.numTargets} (hindex : agent.index = (i : ℕ))
    {content : ℕ} (hcontent : content < env.mail.memory.next) :
    Returns (env.sendMessages [agent.packMessage content none]) (fun env' => Allocated env' ∧
      ∀ t, heard env' t = heard env t ++ [env.mail.memory.value content]) := by
  set message := agent.packMessage content none with hmessage
  obtain ⟨hextends, hcopies, -, -⟩ := Mail.copies_spec message
    (List.range cfg.numTargets) env.mail.memory hcontent
  set routed := Mail.copies message (List.range cfg.numTargets) env.mail.memory with hrouted
  have hroute : Mail.routeMessages cfg [message] env.mail.memory = routed :=
    Prod.ext (List.append_nil _) rfl
  -- the copies go to everybody, and their contents are new
  have haddressed : ∀ m ∈ routed.1, m.Addressed cfg := by
    intro m hm
    obtain ⟨r, hr, content, rfl⟩ := Mail.mem_copies hm
    exact ⟨i, ⟨r, List.mem_range.mp hr⟩, hindex, rfl⟩
  have hfresh : ∀ m ∈ routed.1, m.content < routed.2.next := by
    intro m hm
    obtain ⟨k, hk, rfl⟩ := List.getElem_of_mem hm
    have hlength := hcopies.length_eq
    exact (hcopies.get (by omega) hk).allocated
  obtain ⟨mail, hpost, hmemory, hpeek⟩ :=
    Mail.post_peek routed.1 { env.mail with memory := routed.2 } haddressed
  have hqueue : ∀ t, queueOf { env with mail } t
      = queueOf env t ++ routed.1.filter (Message.isFor .target (t : ℕ)) := fun t => hpeek _ _
  refine ⟨{ env with mail }, ?_, fun t m hm => ?_, fun t => ?_⟩
  · have hsame : Mail.sameTeam [message] := by
      intro m hm m' hm'
      rw [List.mem_singleton.mp hm, List.mem_singleton.mp hm']
    unfold Env.sendMessages Mail.sendMessages
    rw [if_pos hsame, hroute]
    dsimp only
    rw [hpost]
  · show m.content < mail.memory.next
    rw [hmemory]
    rw [hqueue] at hm
    rcases List.mem_append.mp hm with hold | hnew
    · exact (hallocated t m hold).trans_le hextends.next_le
    · exact hfresh m (List.mem_of_mem_filter hnew)
  · have hold : (queueOf env t).map (fun m => routed.2.value m.content) = heard env t :=
      List.map_congr_left (fun m hm => hextends.value _ (hallocated t m hm))
    have hnew := Mail.heard_copies hcopies List.nodup_range (t : ℕ)
    rw [if_pos (List.mem_range.mpr t.isLt)] at hnew
    show (queueOf { env with mail } t).map (fun m => mail.memory.value m.content) = _
    rw [hqueue, hmemory, List.map_append]
    exact congrArg₂ (· ++ ·) hold hnew

/-- The agents after the responses of some of them. -/
def responded (agents : Fin cfg.numTargets → GreedyTargetAgent G) (done : List (Fin cfg.numTargets))
    (t : Fin cfg.numTargets) : GreedyTargetAgent G :=
  if t ∈ done then { agents t with needCommunication := false } else agents t

/-- What the agents of a list that need to communicate hold. -/
def news (agents : Fin cfg.numTargets → GreedyTargetAgent G) (ts : List (Fin cfg.numTargets)) :
    List (Finset ℕ) :=
  (ts.filter (fun t => (agents t).needCommunication)).map (fun t => (agents t).nonEmptyWarehouses)

theorem responded_append (agents : Fin cfg.numTargets → GreedyTargetAgent G)
    (done : List (Fin cfg.numTargets)) (t t' : Fin cfg.numTargets) :
    Function.update (responded agents done) t { agents t with needCommunication := false } t'
      = responded agents (done ++ [t]) t' := by
  unfold responded
  by_cases h : t' = t
  · subst h
    rw [Function.update_self, if_pos (List.mem_append_right _ (List.mem_singleton.mpr rfl))]
  · rw [Function.update_of_ne h]
    simp [h]

theorem news_append (agents : Fin cfg.numTargets → GreedyTargetAgent G)
    (ts ts' : List (Fin cfg.numTargets)) :
    news agents (ts ++ ts') = news agents ts ++ news agents ts' := by
  unfold news
  rw [List.filter_append, List.map_append]

theorem news_singleton (agents : Fin cfg.numTargets → GreedyTargetAgent G)
    (t : Fin cfg.numTargets) : news agents [t]
      = if (agents t).needCommunication then [(agents t).nonEmptyWarehouses] else [] := by
  unfold news
  cases hneed : (agents t).needCommunication with
  | true => simp [hneed]
  | false => simp [hneed]

/-- **The responses**: everybody hears the sets of the agents that need to communicate, after
which nobody does. -/
theorem sendAllResponses_spec (env : Env cfg G (Finset ℕ)) (hempty : ∀ t, queueOf env t = [])
    {agents : Fin cfg.numTargets → GreedyTargetAgent G} (hindexed : Indexed agents) :
    Returns (sendAllResponses env agents) (fun r =>
      (∀ t, r.2 t = { agents t with needCommunication := false })
        ∧ ∀ t, heard r.1 t = news agents (List.finRange cfg.numTargets)) := by
  refine (Returns.foldlM
    (fun done s => s.2 = responded agents done ∧ Allocated s.1
      ∧ ∀ t, heard s.1 t = news agents done)
    (List.finRange cfg.numTargets) (env, agents) ?_ ?_).mono ?_
  rotate_left 2
  · rintro ⟨env', agents'⟩ ⟨hagents, -, hheard⟩
    refine ⟨fun t => ?_, hheard⟩
    rw [show agents' = _ from hagents]
    exact if_pos (List.mem_finRange t)
  · refine ⟨funext fun t => rfl, fun t m hm => ?_, fun t => ?_⟩
    · rw [hempty] at hm
      cases hm
    · show (queueOf env t).map _ = _
      rw [hempty]
      rfl
  · rintro done t rest ⟨env', agents'⟩ hts ⟨rfl, hallocated, hheard⟩
    -- who comes next has not been served, so that it is as it was
    have hnot : t ∉ done := by
      have hnodup := List.nodup_finRange cfg.numTargets
      rw [hts] at hnodup
      exact fun hmem => (List.nodup_append.mp hnodup).2.2 t hmem t List.mem_cons_self rfl
    have hstep : ∀ (env'' : Env cfg G (Finset ℕ)) (agent : GreedyTargetAgent G), Allocated env'' →
        agent = { agents t with needCommunication := false } →
        (∀ t', heard env'' t' = heard env' t' ++ news agents [t]) →
        Function.update (responded agents done) t agent = responded agents (done ++ [t])
          ∧ Allocated env'' ∧ ∀ t', heard env'' t' = news agents (done ++ [t]) := by
      rintro env'' agent hallocated' rfl hheard'
      refine ⟨funext (responded_append agents done t), hallocated', fun t' => ?_⟩
      rw [hheard', hheard, news_append]
    have hcurrent : responded agents done t = agents t := if_neg hnot
    dsimp only
    rw [hcurrent, GreedyTargetAgent.sendResponses]
    cases hneed : (agents t).needCommunication with
    | true =>
        rw [if_pos rfl]
        set memory := env'.mail.memory.alloc (agents t).nonEmptyWarehouses with hmemory
        have hextends : env'.mail.memory.Extends memory.2 := Memory.extends_alloc _ _
        have hvalue : memory.2.value memory.1 = (agents t).nonEmptyWarehouses :=
          Function.update_self _ _ _
        have hsame : ∀ t', heard { env' with mail := { env'.mail with memory := memory.2 } } t'
            = heard env' t' := fun t' =>
          List.map_congr_left (fun m hm => hextends.value _ (hallocated t' m hm))
        refine (sendMessages_broadcast { env' with mail := { env'.mail with memory := memory.2 } }
          (fun t' m hm => (hallocated t' m hm).trans_le hextends.next_le) (hindexed t)
          (Nat.lt_succ_self _)).bind (fun env'' h => Returns.pure ?_)
        obtain ⟨hallocated', hheard'⟩ := h
        refine hstep env'' _ hallocated' rfl (fun t' => ?_)
        have hnews : news agents [t] = [(agents t).nonEmptyWarehouses] := by
          rw [news_singleton, if_pos hneed]
        rw [hheard', hsame, hnews]
        exact congrArg (fun held => heard env' t' ++ [held]) hvalue
    | false =>
        rw [if_neg Bool.false_ne_true]
        have hnews : news agents [t] = [] := by
          rw [news_singleton, if_neg (fun h => Bool.false_ne_true (hneed.symm.trans h))]
        have hclean : agents t = { agents t with needCommunication := false } := by
          rw [← hneed]
        refine Returns.pure (hstep env' (agents t) hallocated hclean (fun t' => ?_))
        rw [hnews, List.append_nil]

/-- An agent that has read its queue. -/
def informed (env : Env cfg G (Finset ℕ)) (agents : Fin cfg.numTargets → GreedyTargetAgent G)
    (t : Fin cfg.numTargets) : GreedyTargetAgent G :=
  { agents t with nonEmptyWarehouses := hear (agents t).nonEmptyWarehouses (heard env t) }

theorem receiveResponses_eq (env : Env cfg G (Finset ℕ))
    (agents : Fin cfg.numTargets → GreedyTargetAgent G) (t : Fin cfg.numTargets) :
    (agents t).receiveResponses env.mail.memory (queueOf env t) = informed env agents t := by
  unfold GreedyTargetAgent.receiveResponses informed hear heard
  rw [List.foldl_map]
  rfl

/-- The loop of `receiveAllResponses` over agents that have not read their queues. -/
theorem foldl_receiveResponses (env : Env cfg G (Finset ℕ))
    {agents : Fin cfg.numTargets → GreedyTargetAgent G} (hindexed : Indexed agents)
    (ts : List (Fin cfg.numTargets)) (e : Env cfg G (Finset ℕ))
    (current : Fin cfg.numTargets → GreedyTargetAgent G) (hnodup : ts.Nodup)
    (hmemory : e.mail.memory = env.mail.memory)
    (hunread : ∀ t ∈ ts, queueOf e t = queueOf env t ∧ current t = agents t) :
    (ts.foldl (fun (env, agents) t =>
        let (messages, env) := Env.receiveMessages env (AgentBase.handle (agents t).toAgentBase)
        (env, Function.update agents t ((agents t).receiveResponses env.mail.memory messages)))
      (e, current)).2 = fun t => if t ∈ ts then informed env agents t else current t := by
  induction ts generalizing e current with
  | nil => rfl
  | cons t rest ih =>
      obtain ⟨hnotin, hrest⟩ := List.nodup_cons.mp hnodup
      obtain ⟨hqueue, hcurrent⟩ := hunread t List.mem_cons_self
      rw [List.foldl_cons]
      dsimp only
      -- `t` reads its own queue, which nobody before has touched
      have hread : (current t).receiveResponses (e.receiveMessages (current t).handle).2.mail.memory
          (e.receiveMessages (current t).handle).1 = informed env agents t := by
        rw [← receiveResponses_eq, hcurrent, ← hqueue, ← hmemory]
        unfold queueOf
        rw [← hindexed t]
        rfl
      rw [hread]
      refine (ih (e.receiveMessages (current t).handle).2 _ hrest hmemory ?_).trans ?_
      · intro t' ht'
        have hne : t' ≠ t := fun h => hnotin (h ▸ ht')
        obtain ⟨hqueue', hcurrent'⟩ := hunread t' (List.mem_cons_of_mem t ht')
        rw [queueOf_receive e (by rw [hcurrent, hindexed t]), if_neg hne,
          Function.update_of_ne hne]
        exact ⟨hqueue', hcurrent'⟩
      · funext t'
        by_cases h : t' = t
        · subst h
          rw [if_neg hnotin, Function.update_self, if_pos List.mem_cons_self]
        · rw [Function.update_of_ne h]
          simp [h]

/-- **Reading the responses**: everybody takes what it hears into account. -/
theorem receiveAllResponses_spec (env : Env cfg G (Finset ℕ))
    {agents : Fin cfg.numTargets → GreedyTargetAgent G} (hindexed : Indexed agents) :
    (receiveAllResponses env agents).2 = informed env agents := by
  have hall := foldl_receiveResponses env hindexed (List.finRange cfg.numTargets) env agents
    (List.nodup_finRange _) rfl (fun t _ => ⟨rfl, rfl⟩)
  refine (show (receiveAllResponses env agents).2 = _ from hall).trans (funext fun t => ?_)
  exact if_pos (List.mem_finRange t)

theorem mem_news (agents : Fin cfg.numTargets → GreedyTargetAgent G) (warehouses : Finset ℕ) :
    warehouses ∈ news agents (List.finRange cfg.numTargets)
      ↔ ∃ t, (agents t).needCommunication = true ∧ (agents t).nonEmptyWarehouses = warehouses := by
  unfold news
  simp only [List.mem_map, List.mem_filter, List.mem_finRange, true_and]

/-- **A round of `group_communicate`** returns, and changes what the agents hold and nothing
else: an agent hears the sets of those that needed to communicate. -/
theorem groupCommunicate_returns (env : Env cfg G (Finset ℕ))
    {agents : Fin cfg.numTargets → GreedyTargetAgent G} (hindexed : Indexed agents) :
    Returns (groupCommunicate env agents) (fun r => ∀ t, r.2 t =
      { agents t with
        nonEmptyWarehouses :=
          hear (agents t).nonEmptyWarehouses (news agents (List.finRange cfg.numTargets))
        needCommunication := false }) := by
  obtain ⟨hsame, -, hempty⟩ := receiveAllRequests_spec env hindexed
  unfold groupCommunicate
  rw [sendAllRequests_eq]
  refine Returns.bind (P := fun env' => env' = env) ⟨env, rfl, rfl⟩ ?_
  rintro env' rfl
  dsimp only
  rw [hsame]
  refine (sendAllResponses_spec (receiveAllRequests env' agents).1 hempty hindexed).bind ?_
  rintro ⟨sent, clean⟩ ⟨hclean, hheard⟩
  have hindexed' : Indexed clean := by
    intro t
    rw [show clean t = _ from hclean t]
    exact hindexed t
  refine Returns.pure (fun t => ?_)
  dsimp only
  rw [receiveAllResponses_spec sent hindexed', informed, show heard sent t = _ from hheard t,
    show clean t = _ from hclean t]

end

/-! ## What the agents do to what they hold -/

section

variable {G : Type}

/-- An agent learns something and needs to communicate, or it learns nothing. -/
structure Learns (agent agent' : GreedyTargetAgent G) : Prop where
  index : agent'.index = agent.index
  learns : agent'.nonEmptyWarehouses ≤ agent.nonEmptyWarehouses ∧ agent'.needCommunication = true
    ∨ agent'.nonEmptyWarehouses = agent.nonEmptyWarehouses
      ∧ agent'.needCommunication = agent.needCommunication

theorem Learns.refl (agent : GreedyTargetAgent G) : Learns agent agent :=
  ⟨rfl, Or.inr ⟨rfl, rfl⟩⟩

theorem GreedyTargetAgent.processMessages_learns (agent : GreedyTargetAgent G) :
    Learns agent agent.processMessages := by
  unfold GreedyTargetAgent.processMessages
  generalize agent.seenEmptyWarehouses = seen
  split
  · exact ⟨rfl, Or.inl ⟨Finset.sdiff_subset, rfl⟩⟩
  · exact Learns.refl agent

theorem GreedyTargetAgent.observe_learns {agent agent' : GreedyTargetAgent G}
    {observation : List ℝ} (h : agent.observe observation = .ok agent') :
    Learns agent agent' := by
  obtain ⟨state, base, hcheck, rfl⟩ := GreedyTargetAgent.observe_eq_ok h
  obtain ⟨-, -, rfl⟩ := AgentBase.checkInputs_eq_ok hcheck
  obtain ⟨hindex, hlearns⟩ := GreedyTargetAgent.processMessages_learns
    { agent with
      state
      episodeStep := if agent.stepCounter % 2 = 0 then agent.episodeStep + 1 else agent.episodeStep
      stepCounter := agent.stepCounter + 1 }
  exact ⟨hindex, hlearns⟩

variable [RandomState G] [SetOrder]

/-- Acting changes neither the index nor what an agent holds or wants to say. -/
theorem TargetAgentClass.act_keeps {cls : TargetAgentClass} {agent agent' : GreedyTargetAgent G}
    {observation : List ℝ} {action : ℂ} (h : cls.act agent observation = .ok (action, agent')) :
    agent'.index = agent.index ∧ agent'.nonEmptyWarehouses = agent.nonEmptyWarehouses
      ∧ agent'.needCommunication = agent.needCommunication := by
  obtain ⟨action', hact⟩ : ∃ action', agent.act observation = .ok (action', agent') := by
    cases cls with
    | greedy => exact ⟨action, h⟩
    | heuristic => exact HeuristicTargetAgent.act_eq_ok h
  obtain ⟨state, base, hcheck, hsame⟩ := GreedyTargetAgent.act_eq_ok hact
  obtain ⟨-, -, rfl⟩ := AgentBase.checkInputs_eq_ok hcheck
  refine ⟨?_, hsame.nonEmptyWarehouses, hsame.needCommunication⟩
  rw [hsame.base]

end

section

variable {cfg : Config} {G : Type} {n : ℕ}

/-- In `group_observe` every agent observes once. -/
theorem groupObserve_ensures (agents : Fin n → GreedyTargetAgent G)
    (jointObservation : Fin n → List ℝ) :
    Ensures (groupObserve agents jointObservation)
      (fun agents' => ∀ t, (agents t).observe (jointObservation t) = .ok (agents' t)) := by
  refine (Ensures.foldlM_each (fun s t => s t) agents
    (fun t agent => (agents t).observe (jointObservation t) = .ok agent) ?_
    (List.nodup_finRange n) agents (fun t => rfl)).mono (fun agents' h t => h t (List.mem_finRange t))
  intro s t hs s' hs'
  obtain ⟨agent, hagent, hs'⟩ := bind_eq_ok.mp hs'
  cases hs'
  refine ⟨?_, fun t' hne => Function.update_of_ne hne _ _⟩
  rw [Function.update_self, ← hagent, hs]

/-- In `group_act` every agent acts once, from what it was before. -/
theorem groupAct_ensures
    (act : Fin n → GreedyTargetAgent G → List ℝ → Except Error (ℂ × GreedyTargetAgent G))
    (agents : Fin n → GreedyTargetAgent G) (jointObservation : Fin n → List ℝ) :
    Ensures (groupAct act agents jointObservation)
      (fun r => ∀ t, act t (agents t) (jointObservation t) = .ok (r.1 t, r.2 t)) := by
  refine (Ensures.foldlM_each (fun s t => (s.1 t, s.2 t)) (fun t => ((0 : ℂ), agents t))
    (fun t acted => act t (agents t) (jointObservation t) = .ok acted) ?_
    (List.nodup_finRange n) (fun _ => 0, agents) (fun t => rfl)).mono
    (fun r h t => h t (List.mem_finRange t))
  rintro ⟨jointAction, current⟩ t hs s' hs'
  obtain ⟨⟨action, agent⟩, hacted, hs'⟩ := bind_eq_ok.mp hs'
  cases hs'
  obtain ⟨-, hcurrent⟩ := Prod.mk.inj hs
  refine ⟨?_, fun t' hne => ?_⟩
  · dsimp only
    rw [Function.update_self, Function.update_self, ← hacted, ← hcurrent]
  · dsimp only
    rw [Function.update_of_ne hne, Function.update_of_ne hne]

end

/-! ## Squads -/

/-- An environment and the agents of its targets. -/
structure Squad (cfg : Config) (G : Type) where
  env : Env cfg G (Finset ℕ)
  agents : Fin cfg.numTargets → GreedyTargetAgent G

namespace Squad

inductive Event (cfg : Config)
  | reset
  | call (call : Env.Call cfg (Finset ℕ))
  | observe (t : Fin cfg.numTargets)
  | communicate
  | act (t : Fin cfg.numTargets)
  | step

variable {cfg : Config} {G : Type} [RandomState G] [SetOrder]

/-- `act` of every agent, by its class. -/
noncomputable def actOf (classes : Fin cfg.numTargets → TargetAgentClass)
    (t : Fin cfg.numTargets) :
    GreedyTargetAgent G → List ℝ → Except Error (ℂ × GreedyTargetAgent G) :=
  (classes t).act

/-- One event of a run. The agents are reset with the environment. Between two resets everybody may
call the environment, the agents may observe and act in any order and on any observations, a
round of communication may take place at any time, and so may a whole step of the group. -/
inductive Next (classes : Fin cfg.numTargets → TargetAgentClass) :
    Squad cfg G → Event cfg → Squad cfg G → Prop
  | reset {squad : Squad cfg G} {fuel : ℕ} {seed : Option ℕ} {observations : Observations cfg}
      {reg : Registry} {env : Env cfg G (Finset ℕ)}
      {agents : Fin cfg.numTargets → GreedyTargetAgent G} :
      squad.env.reset fuel seed = .ok (observations, reg, env) →
      (∀ t, GreedyTargetAgent.reset (squad.agents t).noiseScale (squad.agents t).npRandom
        (observations.target t) = .ok (agents t)) →
      Next classes squad .reset ⟨env, agents⟩
  | call {squad : Squad cfg G} {call : Env.Call cfg (Finset ℕ)} {env : Env cfg G (Finset ℕ)} :
      Env.Next squad.env call env → Next classes squad (.call call) { squad with env }
  | observe {squad : Squad cfg G} {t : Fin cfg.numTargets} {observation : List ℝ}
      {agent : GreedyTargetAgent G} :
      (squad.agents t).observe observation = .ok agent →
      Next classes squad (.observe t)
        { squad with agents := Function.update squad.agents t agent }
  | communicate {squad : Squad cfg G} {env : Env cfg G (Finset ℕ)}
      {agents : Fin cfg.numTargets → GreedyTargetAgent G} :
      groupCommunicate squad.env squad.agents = .ok (env, agents) →
      Next classes squad .communicate ⟨env, agents⟩
  | act {squad : Squad cfg G} {t : Fin cfg.numTargets} {observation : List ℝ} {action : ℂ}
      {agent : GreedyTargetAgent G} :
      actOf classes t (squad.agents t) observation = .ok (action, agent) →
      Next classes squad (.act t) { squad with agents := Function.update squad.agents t agent }
  | step {squad : Squad cfg G} {jointObservation : Fin cfg.numTargets → List ℝ}
      {jointAction : Fin cfg.numTargets → ℂ} {env : Env cfg G (Finset ℕ)}
      {agents : Fin cfg.numTargets → GreedyTargetAgent G} :
      groupStep (actOf classes) squad.env squad.agents jointObservation
        = .ok (jointAction, env, agents) →
      Next classes squad .step ⟨env, agents⟩

/-- Everybody knows its index; everybody is below a set that all hold who need not
communicate. -/
structure Consistent (agents : Fin cfg.numTargets → GreedyTargetAgent G) : Prop where
  indexed : Indexed agents
  settled : ∃ base, Settled (fun t => (agents t).nonEmptyWarehouses)
    (fun t => (agents t).needCommunication) base

omit [RandomState G] [SetOrder] in
/-- Whatever the agents learn, they stay consistent. -/
theorem Consistent.learn {agents agents' : Fin cfg.numTargets → GreedyTargetAgent G}
    (h : Consistent agents) (hlearn : ∀ t, Learns (agents t) (agents' t)) : Consistent agents' := by
  obtain ⟨base, hsettled⟩ := h.settled
  refine ⟨fun t => ?_, base, hsettled.learn (fun t => (hlearn t).learns)⟩
  rw [(hlearn t).index]
  exact h.indexed t

/-- After a round all agents hold the same, which is what all of them held before it. -/
structure Agree {n : ℕ} (before after : Fin n → GreedyTargetAgent G) : Prop where
  same : ∀ t t', (after t).nonEmptyWarehouses = (after t').nonEmptyWarehouses
  meet : ∀ t w, w ∈ (after t).nonEmptyWarehouses ↔ ∀ t', w ∈ (before t').nonEmptyWarehouses

omit [RandomState G] [SetOrder] in
/-- **A round** returns, and the agents agree. -/
theorem Consistent.communicate {agents : Fin cfg.numTargets → GreedyTargetAgent G}
    (h : Consistent agents) (env : Env cfg G (Finset ℕ)) :
    Returns (groupCommunicate env agents) (fun r => Consistent r.2 ∧ Agree agents r.2) := by
  obtain ⟨base, hsettled⟩ := h.settled
  refine (groupCommunicate_returns env h.indexed).mono ?_
  rintro ⟨env', agents'⟩ hagents
  obtain ⟨base', hround⟩ := hsettled.round (mem_news agents)
  have hagents' : agents' = _ := funext hagents
  subst hagents'
  have hmeet := hsettled.isGLB_hear (mem_news agents)
  refine ⟨⟨h.indexed, base', hround⟩, fun t t' => (hmeet t).unique (hmeet t'), fun t w => ?_⟩
  constructor
  · exact fun hw t' => (hmeet t).1 (Set.mem_range_self t') hw
  · intro hw
    have hbelow : {w} ∈ lowerBounds (Set.range fun t => (agents t).nonEmptyWarehouses) := by
      rintro _ ⟨t', rfl⟩
      exact Finset.singleton_subset_iff.mpr (hw t')
    exact Finset.singleton_subset_iff.mp ((hmeet t).2 hbelow)

/-- **A step of the group**, once everybody has observed: the agents agree, and with what they
agree on all of them act. -/
theorem Consistent.groupStep (classes : Fin cfg.numTargets → TargetAgentClass)
    {agents observing : Fin cfg.numTargets → GreedyTargetAgent G} (h : Consistent agents)
    (env : Env cfg G (Finset ℕ)) {jointObservation : Fin cfg.numTargets → List ℝ}
    (hobserve : groupObserve agents jointObservation = .ok observing) :
    ∃ env' informed, groupCommunicate env observing = .ok (env', informed)
      ∧ Consistent informed ∧ Agree observing informed
      ∧ groupStep (actOf classes) env agents jointObservation
        = (groupAct (actOf classes) informed jointObservation).map
          (fun acted => (acted.1, env', acted.2)) := by
  have hlearn := fun t =>
    GreedyTargetAgent.observe_learns (groupObserve_ensures agents jointObservation observing hobserve t)
  obtain ⟨⟨env', informed⟩, hcommunicate, hinformed, hagree⟩ :=
    (h.learn hlearn).communicate env
  refine ⟨env', informed, hcommunicate, hinformed, hagree, ?_⟩
  unfold Mate.groupStep
  rw [hobserve]
  show (groupCommunicate env observing >>= _) = _
  rw [hcommunicate]
  rfl

/-- In `group_act` everybody acts once, and nobody changes what it holds. -/
theorem groupAct_keeps {classes : Fin cfg.numTargets → TargetAgentClass}
    {agents agents' : Fin cfg.numTargets → GreedyTargetAgent G}
    {jointObservation : Fin cfg.numTargets → List ℝ} {jointAction : Fin cfg.numTargets → ℂ}
    (h : groupAct (actOf classes) agents jointObservation = .ok (jointAction, agents'))
    (t : Fin cfg.numTargets) :
    actOf classes t (agents t) (jointObservation t) = .ok (jointAction t, agents' t)
      ∧ (agents' t).nonEmptyWarehouses = (agents t).nonEmptyWarehouses
      ∧ Learns (agents t) (agents' t) := by
  have hact := groupAct_ensures (actOf classes) agents jointObservation _ h t
  obtain ⟨hindex, hheld, hneed⟩ := TargetAgentClass.act_keeps hact
  exact ⟨hact, hheld, hindex, Or.inr ⟨hheld, hneed⟩⟩

/-- A reset makes the agents consistent, whatever they were. -/
theorem Next.reset_consistent {classes : Fin cfg.numTargets → TargetAgentClass}
    {squad squad' : Squad cfg G} (h : Next classes squad .reset squad') :
    Consistent squad'.agents := by
  cases h with
  | reset hreset hagents =>
      have hobservations := reset_observations hreset
      subst hobservations
      have hagent := fun t =>
        Play.reset_agent (reset_knowsObstacles hreset).shows (hagents t)
      refine ⟨fun t => (hagent t).1.index, Finset.range NUM_WAREHOUSES, ?_, ?_⟩
      · exact fun t => (hagent t).2.le
      · exact fun t _ => (hagent t).2

/-- Every event keeps the agents consistent. -/
theorem Next.consistent {classes : Fin cfg.numTargets → TargetAgentClass}
    {squad squad' : Squad cfg G} {event : Event cfg} (h : Next classes squad event squad')
    (hsquad : Consistent squad.agents) : Consistent squad'.agents := by
  -- an agent that learns keeps the others as they are
  have hone : ∀ {t : Fin cfg.numTargets} {agent : GreedyTargetAgent G},
      Learns (squad.agents t) agent → Consistent (Function.update squad.agents t agent) := by
    intro t agent hlearns
    exact hsquad.learn (Play.update_agents (fun t' agent => Learns (squad.agents t') agent)
      (fun t' => Learns.refl _) hlearns)
  cases h with
  | reset hreset hagents =>
      have hnext : Next classes squad .reset _ := .reset hreset hagents
      exact hnext.reset_consistent
  | call hcall => exact hsquad
  | observe hobserve => exact hone (GreedyTargetAgent.observe_learns hobserve)
  | communicate hcommunicate =>
      exact ((hsquad.communicate squad.env).ensures _ hcommunicate).1
  | act hact =>
      obtain ⟨hindex, hheld, hneed⟩ := TargetAgentClass.act_keeps hact
      exact hone ⟨hindex, Or.inr ⟨hheld, hneed⟩⟩
  | @step jointObservation jointAction env agents hstep =>
      obtain ⟨observing, hobserve, -⟩ := bind_eq_ok.mp hstep
      obtain ⟨env', informed, -, hinformed, -, heq⟩ :=
        hsquad.groupStep classes squad.env hobserve
      rw [heq] at hstep
      cases hacted : groupAct (actOf classes) informed jointObservation with
      | error e =>
          rw [hacted] at hstep
          cases hstep
      | ok acted =>
          rw [hacted] at hstep
          cases hstep
          exact hinformed.learn (fun t => (groupAct_keeps hacted t).2.2)

/-- **The team agrees**: in every run a round of `group_communicate` returns, and afterwards all
agents hold the intersection of the sets that they held before. So they do in every step of the
group when they act, and they still do after it. -/
theorem team_agrees {classes : Fin cfg.numTargets → TargetAgentClass}
    {before start squad : Squad cfg G} {events : List (Event cfg)}
    (hreset : Next classes before .reset start) (hrun : Run (Next classes) start events squad) :
    (∃ env' agents', groupCommunicate squad.env squad.agents = .ok (env', agents')
        ∧ Agree squad.agents agents')
      ∧ ∀ jointObservation observing,
        groupObserve squad.agents jointObservation = .ok observing →
        ∃ env' informed, groupCommunicate squad.env observing = .ok (env', informed)
          ∧ Agree observing informed
          ∧ Mate.groupStep (actOf classes) squad.env squad.agents jointObservation
            = (groupAct (actOf classes) informed jointObservation).map
              (fun acted => (acted.1, env', acted.2))
          ∧ ∀ jointAction agents',
            groupAct (actOf classes) informed jointObservation = .ok (jointAction, agents') →
            Agree observing agents' ∧ ∀ t,
              actOf classes t (informed t) (jointObservation t) = .ok (jointAction t, agents' t) := by
  have hsquad : Consistent squad.agents :=
    hrun.invariant (fun squad => Consistent squad.agents) hreset.reset_consistent
      (fun squad event squad' hsquad hnext => hnext.consistent hsquad)
  constructor
  · obtain ⟨⟨env', agents'⟩, hcommunicate, -, hagree⟩ := hsquad.communicate squad.env
    exact ⟨env', agents', hcommunicate, hagree⟩
  · intro jointObservation observing hobserve
    obtain ⟨env', informed, hcommunicate, -, hagree, hstep⟩ :=
      hsquad.groupStep classes squad.env hobserve
    refine ⟨env', informed, hcommunicate, hagree, hstep, ?_⟩
    intro jointAction agents' hacted
    -- acting does not change what is known of the warehouses
    have hkeeps := fun t => (groupAct_keeps hacted t).2.1
    refine ⟨⟨fun t t' => ?_, fun t w => ?_⟩, fun t => (groupAct_keeps hacted t).1⟩
    · rw [hkeeps, hkeeps]
      exact hagree.same t t'
    · rw [hkeeps]
      exact hagree.meet t w

end Squad

theorem Squad.team_agrees_solo :
    letI := rotating
    letI := SetOrder.increasing
    ∃ before start : Squad (soloConfig (925, 925) 10 (by decide)) (Fin 4),
      Squad.Next (fun _ => .greedy) before .reset start
        ∧ ∃ env' agents', groupCommunicate start.env start.agents = .ok (env', agents')
          ∧ Squad.Agree start.agents agents' := by
  let _ := rotating
  let _ := SetOrder.increasing
  obtain ⟨self, start, observations, reg, -, hreset⟩ :=
    exists_solo_reset (925, 925) 10 (by decide) (⟨0, fun _ => ∅⟩ : Memory (Finset ℕ))
  have hobservations := reset_observations hreset
  subst hobservations
  have hagents := fun t => GreedyTargetAgent.reset_returns (reset_knowsObstacles hreset).shows t
    (1 / 2) (0 : Fin 4)
  choose agents hagents using hagents
  have hnext : Squad.Next (fun _ => .greedy) ⟨self, fun t => { agents t with
      toAgentBase := { (agents t).toAgentBase with npRandom := 0 }
      noiseScale := 1 / 2 }⟩ .reset ⟨start, agents⟩ := .reset hreset hagents
  exact ⟨_, _, hnext, (Squad.team_agrees hnext .nil).1⟩

end Mate
