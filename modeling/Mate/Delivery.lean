import Mate.Accounts
import Mate.Environment.Posting
import Mate.Library.Runs

set_option autoImplicit false

/-! # The delivery of messages

A round of a run are the calls between two steps. `Env.Delivered` says what the stores hold in
terms of the calls of the open round and of the finished ones: what has been returned by
`receive_messages` and what is still in the queue are together the messages routed to an agent,
in their order; the buffer has all of them; and the edges count them.
-/

namespace Mate

open Fallible Runs

/-- The info of an agent. -/
def StepResult.info {cfg : Config} (result : StepResult cfg) :
    (team : Team) → Fin (cfg.teamSize team) → Info
  | .camera, c => result.cameraInfos c
  | .target, t => result.targetInfos t

/-- The message is from agent `i` of the team. -/
def Message.isFrom (team : Team) (i : ℤ) (m : Message) : Bool :=
  decide (m.team = team ∧ m.sender = i)

/-! ## Counting edges -/

/-- If every element of the list is counted at one index exactly, or not at all, the counts add
up to the count of those that are counted. -/
theorem sum_countP {A : Type} {n : ℕ} (p : Fin n → A → Bool) (q : A → Bool) (l : List A)
    (h : ∀ a ∈ l, ∃ j', ∀ j, p j a = true ↔ q a = true ∧ j = j') :
    ∑ j, (l.countP (p j) : ℤ) = l.countP q := by
  induction l with
  | nil => simp
  | cons a l ih =>
      have hrest := ih (fun b hb => h b (List.mem_cons_of_mem _ hb))
      obtain ⟨j', hj'⟩ := h a List.mem_cons_self
      have hone : ∑ j, (if p j a then (1 : ℤ) else 0) = if q a then 1 else 0 := by
        by_cases hq : q a = true
        · simp [hj', hq]
        · simp [hj', hq]
      simp only [List.countP_cons, Nat.cast_add, Nat.cast_ite, Nat.cast_one, Nat.cast_zero,
        Finset.sum_add_distrib, hrest, hone]

variable {cfg : Config}

/-- The messages that an agent has sent, by their recipients. -/
theorem sum_goes_out {team : Team} (i : Fin (cfg.teamSize team)) {ms : List Message}
    (h : ∀ m ∈ ms, m.Addressed cfg) :
    ∑ j : Fin (cfg.teamSize team), (ms.countP (Message.goes team (i : ℕ) (j : ℕ)) : ℤ)
      = ms.countP (Message.isFrom team (i : ℕ)) := by
  refine sum_countP _ _ ms (fun m hm => ?_)
  obtain ⟨i', j', hsender, hrecipient⟩ := h m hm
  by_cases hteam : m.team = team
  · subst hteam
    refine ⟨j', fun j => ?_⟩
    simp only [Message.goes, Message.isFrom, hsender, hrecipient, decide_eq_true_eq, true_and,
      Option.some.injEq, Nat.cast_inj, Fin.val_inj, eq_comm (a := j)]
  · exact ⟨i, fun j => by simp [Message.goes, Message.isFrom, hteam]⟩

/-- The messages for an agent, by their senders. -/
theorem sum_goes_in {team : Team} (i : Fin (cfg.teamSize team)) {ms : List Message}
    (h : ∀ m ∈ ms, m.Addressed cfg) :
    ∑ j : Fin (cfg.teamSize team), (ms.countP (Message.goes team (j : ℕ) (i : ℕ)) : ℤ)
      = ms.countP (Message.isFor team (i : ℕ)) := by
  refine sum_countP _ _ ms (fun m hm => ?_)
  obtain ⟨i', j', hsender, hrecipient⟩ := h m hm
  by_cases hteam : m.team = team
  · subst hteam
    refine ⟨i', fun j => ?_⟩
    simp only [Message.goes, Message.isFor, hsender, hrecipient, decide_eq_true_eq, true_and,
      Option.some.injEq, Nat.cast_inj, Fin.val_inj, eq_comm (a := j), and_comm]
  · exact ⟨i, fun j => by simp [Message.goes, Message.isFor, hteam]⟩

namespace Env

variable {G V : Type}

/-! ## What is sent and received -/

/-- The messages that a call puts into the stores. -/
def Call.routed : Call cfg V → List Message
  | .send _ routed _ => routed
  | _ => []

/-- The messages that a call returns for agent `r` of the team. -/
def Call.returned (team : Team) (r : ℕ) : Call cfg V → List Message
  | .receive _ _ received => received.to team r
  | _ => []

/-- What the call sends has existing senders and recipients. -/
def Call.Existing : Call cfg V → Prop
  | .send messages _ _ => ∀ m ∈ messages, m.Existing cfg
  | _ => True

/-- The messages that the calls put into the stores. -/
def routed (calls : List (Call cfg V)) : List Message := calls.flatMap Call.routed

/-- Those for agent `r` of the team. -/
def routedTo (team : Team) (r : ℕ) (calls : List (Call cfg V)) : List Message :=
  (routed calls).filter (Message.isFor team r)

/-- The messages that the calls return for agent `r` of the team. -/
def returnedTo (team : Team) (r : ℕ) (calls : List (Call cfg V)) : List Message :=
  calls.flatMap (Call.returned team r)

theorem routed_snoc (calls : List (Call cfg V)) (call : Call cfg V) :
    routed (calls ++ [call]) = routed calls ++ call.routed := by
  simp [routed]

theorem routedTo_snoc (team : Team) (r : ℕ) (calls : List (Call cfg V)) (call : Call cfg V) :
    routedTo team r (calls ++ [call])
      = routedTo team r calls ++ call.routed.filter (Message.isFor team r) := by
  rw [routedTo, routed_snoc, List.filter_append, routedTo]

theorem returnedTo_snoc (team : Team) (r : ℕ) (calls : List (Call cfg V)) (call : Call cfg V) :
    returnedTo team r (calls ++ [call]) = returnedTo team r calls ++ call.returned team r := by
  simp [returnedTo]

/-! ## The invariant -/

/-- What the stores hold after the finished rounds `done` and the calls `current` since then. -/
structure Delivered (done : List (List (Call cfg V))) (current : List (Call cfg V))
    (mail : Mail cfg V) : Prop where
  separate : mail.Separate
  addressed : ∀ m ∈ routed current, m.Addressed cfg
  queue : ∀ team (r : Fin (cfg.teamSize team)),
    returnedTo team r current ++ mail.peek team (r : ℕ) = routedTo team r current
  buffer : ∀ team (r : Fin (cfg.teamSize team)),
    mail.buffered team (r : ℕ) = routedTo team r current
  edges : ∀ team (i j : Fin (cfg.teamSize team)),
    mail.edges team i j = (routed current).countP (Message.goes team (i : ℕ) (j : ℕ))
  totalEdges : ∀ team (i j : Fin (cfg.teamSize team)), mail.totalEdges team i j
    = (done.map (fun round =>
        ((routed round).countP (Message.goes team (i : ℕ) (j : ℕ)) : ℤ))).sum

/-- Right after a step nothing is in the stores. -/
theorem delivered_endStep {done : List (List (Call cfg V))} {current : List (Call cfg V)}
    {mail : Mail cfg V} (h : Delivered done current mail) :
    Delivered (done ++ [current]) [] mail.endStep where
  separate := Mail.separate_of_empty (fun _ _ => rfl)
  addressed := fun _ h => absurd h List.not_mem_nil
  queue := fun _ _ => rfl
  buffer := fun _ _ => rfl
  edges := fun _ _ _ => rfl
  totalEdges := by
    intro team i j
    rw [List.map_append, List.sum_append, List.map_singleton, List.sum_singleton, ← h.edges,
      ← h.totalEdges]
    rfl

theorem delivered_reset (mail : Mail cfg V) : Delivered [] [] mail.reset where
  separate := Mail.separate_of_empty (fun _ _ => rfl)
  addressed := fun _ h => absurd h List.not_mem_nil
  queue := fun _ _ => rfl
  buffer := fun _ _ => rfl
  edges := fun _ _ _ => rfl
  totalEdges := fun _ _ _ => rfl

/-- Touching buffers changes nothing that can be seen. -/
theorem Delivered.touched {done : List (List (Call cfg V))} {current : List (Call cfg V)}
    {mail mail' : Mail cfg V} (h : Delivered done current mail) (hposts : Mail.Posts [] mail mail') :
    Delivered done current mail' where
  separate := hposts.separate
  addressed := h.addressed
  queue := by
    intro team r
    rw [hposts.peek, List.filter_nil, List.append_nil, h.queue]
  buffer := by
    intro team r
    rw [hposts.buffered, List.filter_nil, List.append_nil, h.buffer]
  edges := by
    intro team i j
    rw [hposts.edges, List.countP_nil, Nat.cast_zero, add_zero, h.edges]
  totalEdges := by
    rw [hposts.totalEdges]
    exact h.totalEdges

/-- Agents may allocate objects and write to them. -/
theorem Delivered.write {done : List (List (Call cfg V))} {current : List (Call cfg V)}
    {mail : Mail cfg V} (h : Delivered done current mail) (memory : Memory V) :
    Delivered done current { mail with memory := memory } where
  separate := ⟨h.separate.lt, h.separate.inj⟩
  addressed := h.addressed
  queue := h.queue
  buffer := h.buffer
  edges := h.edges
  totalEdges := h.totalEdges

/-- Posting messages, as the last call of a round. -/
theorem Delivered.posts {done : List (List (Call cfg V))} {current : List (Call cfg V)}
    {mail mail' : Mail cfg V} (h : Delivered done current mail) {call : Call cfg V}
    (hposts : Mail.Posts call.routed mail mail')
    (haddressed : ∀ m ∈ call.routed, m.Addressed cfg)
    (hreturned : ∀ team r, call.returned team r = []) :
    Delivered done (current ++ [call]) mail' where
  separate := hposts.separate
  addressed := by
    intro m hm
    rw [routed_snoc] at hm
    rcases List.mem_append.mp hm with hm | hm
    · exact h.addressed m hm
    · exact haddressed m hm
  queue := by
    intro team r
    rw [returnedTo_snoc, hreturned, List.append_nil, hposts.peek, ← List.append_assoc, h.queue,
      routedTo_snoc]
  buffer := by
    intro team r
    rw [hposts.buffered, h.buffer, routedTo_snoc]
  edges := by
    intro team i j
    rw [hposts.edges, h.edges, routed_snoc, List.countP_append, Nat.cast_add]
  totalEdges := by
    rw [hposts.totalEdges]
    exact h.totalEdges

/-- Receiving messages, as the last call of a round. -/
theorem Delivered.receives {done : List (List (Call cfg V))} {current : List (Call cfg V)}
    {mail mail' : Mail cfg V} (h : Delivered done current mail) {agentId : Option AgentId}
    {agent : Option AgentHandle} {received : Received} {reads : Team → ℤ → Prop}
    (hreceives : Mail.Receives reads received mail mail') :
    Delivered done (current ++ [.receive agentId agent received]) mail' := by
  have hrouted : routed (current ++ [.receive agentId agent received]) = routed current := by
    rw [routed_snoc]
    exact List.append_nil _
  have heq := hreceives.eq
  constructor
  · rw [heq]
    exact ⟨h.separate.lt, h.separate.inj⟩
  · rw [hrouted]
    exact h.addressed
  · intro team r
    rw [returnedTo_snoc, routedTo, hrouted, List.append_assoc]
    show returnedTo team r current ++ (received.to team r ++ _) = _
    rw [hreceives.peek]
    exact h.queue team r
  · intro team r
    rw [routedTo, hrouted, heq]
    exact h.buffer team r
  · intro team i j
    rw [hrouted, heq]
    exact h.edges team i j
  · intro team i j
    rw [heq]
    exact h.totalEdges team i j

/-! ## Calls -/

variable [RandomState G] [SetOrder]

/-- A step hands out the buffers, tells the edges, and forgets both. -/
theorem step_mail {reg : Registry} {self self' : Env cfg G V}
    {cameraJointAction : Fin cfg.numCameras → ℝ × ℝ} {targetJointAction : Fin cfg.numTargets → ℂ}
    {result : StepResult cfg} (hseparate : self.mail.Separate)
    (h : self.step reg cameraJointAction targetJointAction = .ok (result, self')) :
    ∃ mail, Mail.Posts [] self.mail mail ∧ self'.mail = mail.endStep
      ∧ ∀ team (i : Fin (cfg.teamSize team)),
          mail.buffer team (i : ℕ) = some (result.info team i).messages
          ∧ (result.info team i).outCommunicationEdges = ∑ j, self.mail.edges team i j
          ∧ (result.info team i).inCommunicationEdges = ∑ j, self.mail.edges team j i := by
  obtain ⟨seen, s, hmoved, -, hfinish⟩ := step_eq_ok h
  rw [← hmoved.mail] at hseparate ⊢
  obtain ⟨hcameras, hcameraLists⟩ :=
    Mail.bufferLists_posts seen.mail hseparate .camera (List.range cfg.numCameras)
  obtain ⟨htargets, htargetLists⟩ :=
    Mail.bufferLists_posts _ hcameras.separate .target (List.range cfg.numTargets)
  cases hfinish
  refine ⟨_, hcameras.trans htargets, rfl, ?_⟩
  intro team i
  cases team with
  | camera =>
      refine ⟨?_, rfl, rfl⟩
      exact htargets.kept _ _ _ (hcameraLists i i (List.getElem?_range i.isLt))
  | target => exact ⟨htargetLists i i (List.getElem?_range i.isLt), rfl, rfl⟩

/-- **A step** hands out to every agent the messages routed to it since the last one, and tells
how many it has sent and received. -/
theorem step_delivered {reg : Registry} {self self' : Env cfg G V}
    {cameraJointAction : Fin cfg.numCameras → ℝ × ℝ} {targetJointAction : Fin cfg.numTargets → ℂ}
    {result : StepResult cfg} {done : List (List (Call cfg V))} {current : List (Call cfg V)}
    (hself : Delivered done current self.mail)
    (h : self.step reg cameraJointAction targetJointAction = .ok (result, self')) :
    Delivered (done ++ [current]) [] self'.mail
      ∧ (∀ list content, Mail.HandedOut list content self.mail →
          Mail.HandedOut list content self'.mail)
      ∧ ∀ team (i : Fin (cfg.teamSize team)),
          Mail.HandedOut (result.info team i).messages (routedTo team i current) self'.mail
          ∧ (result.info team i).outCommunicationEdges
              = (routed current).countP (Message.isFrom team (i : ℕ))
          ∧ (result.info team i).inCommunicationEdges = (routedTo team i current).length := by
  obtain ⟨mail, hposts, hmail, hinfo⟩ := step_mail hself.separate h
  have hmail' := hself.touched hposts
  rw [hmail]
  refine ⟨delivered_endStep hmail', ?_, ?_⟩
  · intro list content hlist
    have hkept := hposts.handedOut list content hlist
    exact ⟨hkept.lt, hkept.lists, fun _ _ h => by cases h⟩
  · intro team i
    obtain ⟨hlist, hout, hin⟩ := hinfo team i
    refine ⟨⟨hmail'.separate.lt _ _ _ hlist, ?_, fun _ _ h => by cases h⟩, ?_, ?_⟩
    · have hbuffer := hmail'.buffer team i
      rw [Mail.buffered, hlist] at hbuffer
      exact hbuffer
    · rw [hout, ← sum_goes_out i hself.addressed]
      exact Finset.sum_congr rfl (fun j _ => hself.edges team i j)
    · rw [hin, routedTo, ← List.countP_eq_length_filter, ← sum_goes_in i hself.addressed]
      exact Finset.sum_congr rfl (fun j _ => hself.edges team j i)

/-- What a call that is no step does to the stores. -/
theorem Next.delivered {self self' : Env cfg G V} {call : Call cfg V} (h : Next self call self')
    (hcall : call.isStep = false) (hexisting : call.Existing)
    {done : List (List (Call cfg V))} {current : List (Call cfg V)}
    (hself : Delivered done current self.mail) :
    Delivered done (current ++ [call]) self'.mail
      ∧ ∀ list content, Mail.HandedOut list content self.mail →
          Mail.HandedOut list content self'.mail := by
  cases h with
  | step h => cases hcall
  | send messages =>
      by_cases hteam : Mail.sameTeam messages
      · -- the messages are routed and posted
        obtain ⟨mail', hpost, hposts⟩ := Mail.post_posts
          (Mail.routeMessages cfg messages self.mail.memory).1
          { self.mail with memory := (Mail.routeMessages cfg messages self.mail.memory).2 }
          ⟨hself.separate.lt, hself.separate.inj⟩
          (Mail.addressed_of_mem_routeMessages hexisting)
        have hsend : self.mail.sendMessages messages = (.ok (), mail') := by
          rw [Mail.sendMessages, if_pos hteam]
          exact hpost
        have hrouted : self.mail.routed messages
            = (Mail.routeMessages cfg messages self.mail.memory).1 := by
          rw [Mail.routed, if_pos hteam]
        rw [hsend, hrouted]
        refine ⟨(hself.write _).posts hposts (Mail.addressed_of_mem_routeMessages hexisting)
          (fun _ _ => rfl), ?_⟩
        intro list content hlist
        exact hposts.handedOut list content ⟨hlist.lt, hlist.lists, hlist.unused⟩
      · -- the assertion fails, and nothing is done
        rw [Mail.sendMessages, if_neg hteam, Mail.routed, if_neg hteam]
        have hposts : Mail.Posts [] self.mail self.mail := Mail.Posts.refl hself.separate
        refine ⟨hself.posts hposts (fun _ h => absurd h List.not_mem_nil) (fun _ _ => rfl), ?_⟩
        exact fun _ _ hlist => hlist
  | receive h =>
      -- only the lists that are handed out change hands
      have hreceives := Mail.receiveMessages_receives h
      refine ⟨hself.receives hreceives, ?_⟩
      intro list content hlist
      rw [hreceives.eq]
      exact ⟨hlist.lt, hlist.lists, hlist.unused⟩
  | write memory h =>
      -- a caller writes into what it owns, so that no store changes
      have hposts : Mail.Posts [] { self.mail with memory := memory }
          { self.mail with memory := memory } := Mail.Posts.refl (hself.write memory).separate
      refine ⟨(hself.write memory).posts hposts (fun _ h => absurd h List.not_mem_nil)
        (fun _ _ => rfl), ?_⟩
      exact fun list content hlist => ⟨hlist.lt, hlist.lists, hlist.unused⟩

/-- **The invariant holds in every run** in which senders and recipients exist, whatever is
called in between. -/
theorem run_delivered {start env : Env cfg G V} {calls : List (Call cfg V)}
    (hstart : Delivered [] [] start.mail) (hrun : Run Next start calls env)
    (hexisting : ∀ call ∈ calls, call.Existing) :
    Delivered (rounds Call.isStep calls) (since Call.isStep calls) env.mail := by
  refine hrun.rounds_invariant (fun done current e => Delivered done current e.mail) hstart
    ?_ ?_ hexisting
  · intro done current e call e' hcall _ he hnext
    cases hnext with
    | step h => exact (step_delivered he h).1
    | send messages => cases hcall
    | receive h => cases hcall
    | write memory h => cases hcall
  · intro done current e call e' hcall hex he hnext
    exact (hnext.delivered hcall hex he).1

/-- A list that has been handed out stays as it is. -/
theorem run_handedOut {start env : Env cfg G V} {calls : List (Call cfg V)}
    {done : List (List (Call cfg V))} {current : List (Call cfg V)}
    (hstart : Delivered done current start.mail) (hrun : Run Next start calls env)
    (hexisting : ∀ call ∈ calls, call.Existing) {list : ℕ} {content : List Message}
    (hlist : Mail.HandedOut list content start.mail) : Mail.HandedOut list content env.mail := by
  refine (hrun.induct (fun calls e => (∀ call ∈ calls, call.Existing) →
    Mail.HandedOut list content e.mail ∧ ∃ done current, Delivered done current e.mail)
    (fun _ => ⟨hlist, done, current, hstart⟩) ?_ hexisting).1
  intro calls e call e' ih hnext hall
  obtain ⟨hout, done, current, he⟩ := ih (fun c hc => hall c (List.mem_append_left _ hc))
  cases hcall : call.isStep with
  | false =>
      have hex := hall call (List.mem_append_right _ (List.mem_singleton.mpr rfl))
      obtain ⟨he', hkept⟩ := hnext.delivered hcall hex he
      exact ⟨hkept list content hout, _, _, he'⟩
  | true =>
      cases hnext with
      | step h =>
          obtain ⟨he', hkept, -⟩ := step_delivered he h
          exact ⟨hkept list content hout, _, _, he'⟩
      | send messages => cases hcall
      | receive h => cases hcall
      | write memory h => cases hcall

/-- A reset leaves nothing in the stores. -/
theorem reset_mail {fuel : ℕ} {seed : Option ℕ} {self start : Env cfg G V}
    {observations : Observations cfg} {reg : Registry}
    (hreset : self.reset fuel seed = .ok (observations, reg, start)) :
    ∃ mail : Mail cfg V, start.mail = mail.reset := by
  obtain ⟨placed, s, orientations, rng, -, -, -, hfinish⟩ := reset_eq_ok hreset
  cases hfinish
  exact ⟨_, rfl⟩

/-! ## Exactly once -/

/-- **Messages are delivered exactly once.** In every run in which senders and recipients exist,
and for the calls since the last step (or the reset): the messages returned for an agent are the
first of those routed to it, and all of them after its queue has been read; the next step hands
out exactly those routed to it, in a list that never changes again, and tells how many it has
sent and received; and nothing of it is left after the step. -/
theorem messages_delivered_once {fuel : ℕ} {seed : Option ℕ} {self start env : Env cfg G V}
    {observations : Observations cfg} {reg : Registry} {calls : List (Call cfg V)}
    (hreset : self.reset fuel seed = .ok (observations, reg, start))
    (hrun : Run Next start calls env) (hexisting : ∀ call ∈ calls, call.Existing) :
    let current := since Call.isStep calls
    -- what is routed: the message itself, or a copy of its own for every agent of the team
    (∀ messages, (∀ m ∈ messages, m.Existing cfg ∧ m.content < env.mail.memory.next) →
        Mail.sameTeam messages →
        ∃ mail, env.mail.sendMessages messages = (.ok (), mail)
          ∧ (∃ groups : List (List Message), env.mail.routed messages = groups.flatten
              ∧ List.Forall₂ (Mail.SentAs cfg env.mail.memory mail.memory) messages groups)
          ∧ (((env.mail.routed messages).map Message.content).filter
              (env.mail.memory.next ≤ ·)).Nodup)
      -- what is read
      ∧ (∀ team (r : Fin (cfg.teamSize team)), returnedTo team r current <+: routedTo team r current)
      ∧ (∀ agentId agent received env', Next env (.receive agentId agent received) env' →
          ∀ team (r : Fin (cfg.teamSize team)), Mail.readsQueue agentId agent team (r : ℕ) →
            returnedTo team r (current ++ [.receive agentId agent received])
              = routedTo team r current)
      -- what the next step hands out and tells
      ∧ (∀ reg cameraJointAction targetJointAction result env',
          env.step reg cameraJointAction targetJointAction = .ok (result, env') →
            (∀ team (i : Fin (cfg.teamSize team)),
              (result.info team i).outCommunicationEdges
                  = (routed current).countP (Message.isFrom team (i : ℕ))
              ∧ (result.info team i).inCommunicationEdges = (routedTo team i current).length
              ∧ ∀ calls' env'', Run Next env' calls' env'' → (∀ call ∈ calls', call.Existing) →
                  env''.mail.lists (result.info team i).messages = routedTo team i current)
            ∧ (∀ team r, env'.mail.queue team r = none ∧ env'.mail.buffer team r = none)
            ∧ ∀ team i j, env'.mail.edges team i j = 0)
      -- the totals
      ∧ (∀ team (i j : Fin (cfg.teamSize team)), env.mail.totalEdges team i j
          = ((rounds Call.isStep calls).map (fun round =>
              ((routed round).countP (Message.goes team (i : ℕ) (j : ℕ)) : ℤ))).sum)
      -- what is left by the reset
      ∧ (∀ team r, start.mail.queue team r = none ∧ start.mail.buffer team r = none)
      ∧ ∀ team i j, start.mail.edges team i j = 0 ∧ start.mail.totalEdges team i j = 0 := by
  intro current
  obtain ⟨mail, hmail⟩ := reset_mail hreset
  have hstart : Delivered [] [] start.mail := hmail ▸ delivered_reset mail
  have henv := run_delivered hstart hrun hexisting
  refine ⟨?_, ?_, ?_, ?_, henv.totalEdges, ?_, ?_⟩
  · intro messages hmessages hteam
    obtain ⟨-, hgroups, hfresh⟩ := Mail.routeMessages_spec cfg messages
      env.mail.memory (fun m hm => (hmessages m hm).2)
    obtain ⟨mail', hpost, hposts⟩ := Mail.post_posts
      (Mail.routeMessages cfg messages env.mail.memory).1
      { env.mail with memory := (Mail.routeMessages cfg messages env.mail.memory).2 }
      ⟨henv.separate.lt, henv.separate.inj⟩
      (Mail.addressed_of_mem_routeMessages (fun m hm => (hmessages m hm).1))
    rw [Mail.routed, if_pos hteam]
    refine ⟨mail', ?_, ?_, ?_⟩
    · rw [Mail.sendMessages, if_pos hteam]
      exact hpost
    · rw [hposts.memory]
      exact hgroups
    · rw [hfresh]
      exact List.nodup_range'
  · intro team r
    exact ⟨_, henv.queue team r⟩
  · intro agentId agent received env' hnext team r hreads
    cases hnext with
    | receive h =>
        have hreceives := Mail.receiveMessages_receives h
        have hafter : Delivered _ (current ++ [.receive agentId agent received]) _ :=
          henv.receives hreceives
        have hqueue := hafter.queue team r
        rw [hreceives.read team r hreads, List.append_nil] at hqueue
        rw [hqueue, routedTo_snoc]
        exact List.append_nil _
  · intro reg' a b result env' hstep
    obtain ⟨hend, -, hinfo⟩ := step_delivered henv hstep
    obtain ⟨mail', -, hleft, -⟩ := step_mail henv.separate hstep
    refine ⟨?_, ?_, ?_⟩
    · intro team i
      obtain ⟨hlist, hout, hin⟩ := hinfo team i
      refine ⟨hout, hin, fun calls' env'' hrun' hexisting' => ?_⟩
      exact (run_handedOut hend hrun' hexisting' hlist).lists
    · rw [hleft]
      exact fun _ _ => ⟨rfl, rfl⟩
    · exact fun team i j => hend.edges team i j
  · rw [hmail]
    exact fun _ _ => ⟨rfl, rfl⟩
  · rw [hmail]
    exact fun _ _ _ => ⟨rfl, rfl⟩

omit [RandomState G] [SetOrder] in
/-- The only target sends a broadcast, which the next step hands out to it. -/
theorem messages_delivered_once_solo :
    letI := rotating
    letI := SetOrder.increasing
    ∃ (self start sent env : Env (soloConfig (0, 0) 10 (by decide)) (Fin 4) Unit)
      (observations : Observations (soloConfig (0, 0) 10 (by decide))) (reg : Registry)
      (calls : List (Call (soloConfig (0, 0) 10 (by decide)) Unit))
      (result : StepResult (soloConfig (0, 0) 10 (by decide))),
      self.reset 2 none = .ok (observations, reg, start)
        ∧ Run Next start calls sent
        ∧ (∀ call ∈ calls, call.Existing)
        ∧ sent.step reg (fun _ => (0, 0)) (fun _ => 1) = .ok (result, env)
        ∧ (result.info .target ⟨0, Nat.one_pos⟩).inCommunicationEdges = 1
        ∧ (env.mail.lists (result.info .target ⟨0, Nat.one_pos⟩).messages).length = 1 := by
  let _ := rotating
  let _ := SetOrder.increasing
  obtain ⟨self, start, observations, reg, -, hreset⟩ :=
    exists_solo_reset (0, 0) 10 (by decide) ⟨0, fun _ => ()⟩
  -- agent 0 of the targets sends to all of them
  have hsend : Next start _ _ := Next.send [⟨0, none, 0, .target, false⟩]
  have hrun := Run.single hsend
  have hexisting : ∀ call ∈ [Call.send [⟨0, none, 0, .target, false⟩]
      (start.mail.routed [⟨0, none, 0, .target, false⟩])
      (start.mail.sendMessages [⟨0, none, 0, .target, false⟩]).1],
      (call : Call (soloConfig (0, 0) 10 (by decide)) Unit).Existing := by
    intro call hcall
    obtain rfl := List.mem_singleton.mp hcall
    intro m hm
    obtain rfl := List.mem_singleton.mp hm
    exact ⟨⟨⟨0, Nat.one_pos⟩, rfl⟩, fun r hr => by cases hr⟩
  obtain ⟨⟨result, env⟩, hstep, -⟩ := step_returns
    (rfl : (soloConfig (0, 0) 10 (by decide)).numCameras = 0) reg
    (run_consistent (reset_consistent hreset) hrun).valid (fun _ => (0, 0)) (fun _ => 1)
  have hall := (messages_delivered_once hreset hrun hexisting).2.2.2.1 reg _ _ result env hstep
  obtain ⟨-, hin, hlist⟩ := hall.1 .target ⟨0, Nat.one_pos⟩
  have hlength := hlist [] env Run.nil (fun _ h => absurd h List.not_mem_nil)
  refine ⟨self, start, _, env, observations, reg, _, result, hreset, hrun, hexisting, hstep, ?_, ?_⟩
  · rw [hin]
    rfl
  · rw [hlength]
    rfl

end Env

end Mate
