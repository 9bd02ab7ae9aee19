import Mate.Delivery
import Mate.Wrappers.SingleTeam

set_option autoImplicit false

/-! # Reading messages through the single-team wrapper

With an `agent_id`, `receive_messages` takes the messages out of the queue of the agent. Without
arguments the wrapper reads the buffers instead, which hold all messages since the last step, and
takes nothing out. What a run returns is told apart here by the two forms of reading.
-/

namespace Mate

open Runs

namespace Mail

variable {cfg : Config} {V : Type} {mail mail' mail'' : Mail cfg V}

/-! ## What a call puts into the stores -/

/-- The messages that the loop of `send_messages` reaches: all of them, or those up to the first
that names no agent. -/
def posted (cfg : Config) : List Message → List Message
  | [] => []
  | m :: rest =>
      m :: match axisIndex (cfg.teamSize m.team) m.sender,
          axisIndex (cfg.teamSize m.team) (m.recipient.getD 0) with
        | .ok _, .ok _ => posted cfg rest
        | _, _ => []

/-- The queue and the buffer of every agent grow by the messages for it. -/
structure Grows (ms : List Message) (mail mail' : Mail cfg V) : Prop where
  peek : ∀ team r, mail'.peek team r = mail.peek team r ++ ms.filter (Message.isFor team r)
  buffered : ∀ team r,
    mail'.buffered team r = mail.buffered team r ++ ms.filter (Message.isFor team r)
  separate : mail'.Separate

theorem Posts.grows {ms : List Message} (h : Posts ms mail mail') : Grows ms mail mail' :=
  ⟨h.peek, h.buffered, h.separate⟩

theorem Grows.trans {ms ms' : List Message} (h : Grows ms mail mail') (h' : Grows ms' mail' mail'') :
    Grows (ms ++ ms') mail mail'' where
  peek := fun team r => by rw [h'.peek, h.peek, List.filter_append, List.append_assoc]
  buffered := fun team r => by rw [h'.buffered, h.buffered, List.filter_append, List.append_assoc]
  separate := h'.separate

theorem append_grows (h : mail.Separate) {m : Message} {r : ℤ} (hrecipient : m.recipient = some r) :
    Grows [m] mail ((mail.appendQueue m.team r m).appendBuffer m.team r m) := by
  have hseparate : (mail.appendQueue m.team r m).Separate := ⟨h.lt, h.inj⟩
  obtain ⟨hposts, -⟩ := touchBuffer_posts hseparate m.team r
  refine ⟨fun team r' => ?_, fun team r' => ?_, ⟨hposts.separate.lt, hposts.separate.inj⟩⟩
  · rw [filter_isFor_singleton hrecipient, ← appendQueue_peek]
    have hpeek := hposts.peek team r'
    rwa [List.filter_nil, List.append_nil] at hpeek
  · rw [filter_isFor_singleton hrecipient]
    exact appendBuffer_buffered hseparate m.team r m team r'

theorem countEdge_ok {team : Team} {sender r : ℤ} {i j : Fin (cfg.teamSize team)}
    (hi : axisIndex (cfg.teamSize team) sender = .ok i) (hj : axisIndex (cfg.teamSize team) r = .ok j)
    (mail : Mail cfg V) : ∃ edges, mail.countEdge team sender r = .ok { mail with edges } := by
  rw [countEdge, hi, hj]
  exact ⟨_, rfl⟩

theorem countEdge_error {team : Team} {sender r : ℤ} (mail : Mail cfg V)
    (h : ∀ i j, ¬ (axisIndex (cfg.teamSize team) sender = .ok i
      ∧ axisIndex (cfg.teamSize team) r = .ok j)) :
    ∃ e, mail.countEdge team sender r = .error e := by
  unfold countEdge
  cases hi : axisIndex (cfg.teamSize team) sender with
  | error e => exact ⟨e, rfl⟩
  | ok i =>
      cases hj : axisIndex (cfg.teamSize team) r with
      | error e => exact ⟨e, rfl⟩
      | ok j => exact absurd ⟨hi, hj⟩ (h i j)

theorem posted_cons_ok {m : Message} {r : ℤ} (hrecipient : m.recipient = some r)
    {i j : Fin (cfg.teamSize m.team)} (hi : axisIndex (cfg.teamSize m.team) m.sender = .ok i)
    (hj : axisIndex (cfg.teamSize m.team) r = .ok j) (rest : List Message) :
    posted cfg (m :: rest) = m :: posted cfg rest := by
  rw [posted, hrecipient, Option.getD_some, hi, hj]

theorem posted_cons_error {m : Message} {r : ℤ} (hrecipient : m.recipient = some r)
    (h : ∀ i j, ¬ (axisIndex (cfg.teamSize m.team) m.sender = .ok i
      ∧ axisIndex (cfg.teamSize m.team) r = .ok j)) (rest : List Message) :
    posted cfg (m :: rest) = [m] := by
  rw [posted, hrecipient, Option.getD_some]
  split
  · rename_i i j hi hj
    exact absurd ⟨hi, hj⟩ (h i j)
  · rfl

theorem post_grows (ms : List Message) (mail : Mail cfg V) (h : mail.Separate)
    (hms : ∀ m ∈ ms, ∃ r, m.recipient = some r) : Grows (posted cfg ms) mail (post ms mail).2 := by
  induction ms generalizing mail with
  | nil => exact (Posts.refl h).grows
  | cons m rest ih =>
      obtain ⟨r, hr⟩ := hms m List.mem_cons_self
      have hone := append_grows h hr
      rw [post, hr, Option.getD_some]
      by_cases hedge : ∃ i j, axisIndex (cfg.teamSize m.team) m.sender = .ok i
          ∧ axisIndex (cfg.teamSize m.team) r = .ok j
      · obtain ⟨i, j, hi, hj⟩ := hedge
        obtain ⟨edges, hedges⟩ := countEdge_ok hi hj
          ((mail.appendQueue m.team r m).appendBuffer m.team r m)
        rw [posted_cons_ok hr hi hj]
        simp only [hedges]
        have hcounted : Grows [m] mail
            { (mail.appendQueue m.team r m).appendBuffer m.team r m with edges } :=
          ⟨hone.peek, hone.buffered, hone.separate.lt, hone.separate.inj⟩
        exact hcounted.trans (ih _ hcounted.separate
          (fun m hm => hms m (List.mem_cons_of_mem _ hm)))
      · -- the loop stops at the edge, but the message has been stored
        have hnone : ∀ i j, ¬ (axisIndex (cfg.teamSize m.team) m.sender = .ok i
            ∧ axisIndex (cfg.teamSize m.team) r = .ok j) := fun i j hij => hedge ⟨i, j, hij⟩
        obtain ⟨e, he⟩ := countEdge_error
          ((mail.appendQueue m.team r m).appendBuffer m.team r m) hnone
        rw [posted_cons_error hr hnone]
        simp only [he]
        exact hone

theorem length_bufferLists (mail : Mail cfg V) (team : Team) (agents : List ℕ) :
    (mail.bufferLists team agents).1.length = agents.length := by
  induction agents generalizing mail with
  | nil => rfl
  | cons agent rest ih => exact congrArg (· + 1) (ih _)

/-- The contents of the list objects that `step` and the wrapper look up. -/
theorem map_bufferLists (h : mail.Separate) (team : Team) (agents : List ℕ) :
    (mail.bufferLists team agents).1.map (mail.bufferLists team agents).2.lists
      = agents.map (fun (i : ℕ) => mail.buffered team i) := by
  obtain ⟨hposts, hlists⟩ := bufferLists_posts mail h team agents
  have hlength := length_bufferLists mail team agents
  refine List.ext_getElem (by simp [hlength]) (fun k hk hk' => ?_)
  rw [List.length_map] at hk hk'
  have hbuffered := hposts.buffered team (agents[k] : ℕ)
  rw [List.filter_nil, List.append_nil, buffered, hlists k agents[k] (List.getElem?_eq_getElem hk')]
    at hbuffered
  rw [List.getElem_map, List.getElem_map, ← hbuffered, List.getD_eq_getElem?_getD,
    List.getElem?_eq_getElem hk]
  rfl

theorem sendMessages_grows (h : mail.Separate) (messages : List Message) :
    Grows (posted cfg (mail.routed messages)) mail (mail.sendMessages messages).2 := by
  unfold routed sendMessages
  split
  · have hgrows := post_grows (routeMessages cfg messages mail.memory).1
      { mail with memory := (routeMessages cfg messages mail.memory).2 } ⟨h.lt, h.inj⟩
      recipient_of_mem_routeMessages
    exact ⟨hgrows.peek, hgrows.buffered, hgrows.separate⟩
  · exact (Posts.refl h).grows

end Mail

namespace SingleTeamMultiAgent

variable {cfg : Config} {G V : Type}

/-! ## What a run returns -/

/-- The messages for agent `r` that a call puts into the stores. -/
def Call.arrived (team : Team) (r : ℕ) : Call cfg V → List Message
  | .env call => (Mail.posted cfg call.routed).filter (Message.isFor team r)
  | _ => []

/-- The messages that a call takes out of the queue of agent `r`. -/
def Call.taken (team : Team) (r : ℕ) : Call cfg V → List Message
  | .env call => call.returned team r
  | _ => []

/-- The messages that a call without arguments returns for agent `r`. -/
def Call.shown (r : ℕ) : Call cfg V → List Message
  | .receiveAll returned _ => returned.getD r []
  | _ => []

/-- All messages that a call of `receive_messages` returns for agent `r`. -/
def Call.returned (team : Team) (r : ℕ) (call : Call cfg V) : List Message :=
  call.taken team r ++ call.shown r

/-- Both forms of reading agree, and no message is returned more often than it has arrived. -/
structure ReadsOnce (team : Team) (calls : List (Call cfg V)) : Prop where
  agree : ∀ returned alone, Call.receiveAll returned alone ∈ calls → returned = alone
  once : ∀ before, before <+: calls → ∀ r : Fin (cfg.teamSize team),
    ((since Call.forgets before).flatMap (Call.returned team r)).Subperm
      ((since Call.forgets before).flatMap (Call.arrived team r))

/-- After `current`, a call without arguments finds that nothing has been returned for the
teammates, and a call for one of them that no call without arguments has. -/
def Call.Unread (team : Team) (current : List (Call cfg V)) : Call cfg V → Prop
  | .receiveAll _ _ =>
      ∀ r : Fin (cfg.teamSize team), current.flatMap (Call.returned team r) = []
  | .env (.receive agentId agent _) =>
      ∀ r : Fin (cfg.teamSize team), Mail.readsQueue agentId agent team (r : ℕ) →
        current.flatMap (Call.shown r) = []
  | _ => True

/-! ## The invariant -/

/-- What the stores hold after the calls `current` since the last step or reset. -/
structure Holds (team : Team) (current : List (Call cfg V)) (mail : Mail cfg V) : Prop where
  separate : mail.Separate
  buffer : ∀ r : Fin (cfg.teamSize team),
    mail.buffered team (r : ℕ) = current.flatMap (Call.arrived team r)
  queue : ∀ r : Fin (cfg.teamSize team),
    current.flatMap (Call.taken team r) ++ mail.peek team (r : ℕ)
      = current.flatMap (Call.arrived team r)

theorem holds_nil {team : Team} {mail : Mail cfg V} (hbuffer : ∀ team r, mail.buffer team r = none)
    (hqueue : ∀ team r, mail.queue team r = none) : Holds team [] mail where
  separate := Mail.separate_of_empty hbuffer
  buffer := by
    intro r
    rw [Mail.buffered, hbuffer]
    rfl
  queue := by
    intro r
    rw [Mail.peek, hqueue]
    rfl

/-- A call that takes nothing out, and puts some messages into the stores. -/
theorem Holds.grows {team : Team} {current : List (Call cfg V)} {mail mail' : Mail cfg V}
    (h : Holds team current mail) {ms : List Message} (hgrows : Mail.Grows ms mail mail')
    {call : Call cfg V}
    (harrived : ∀ r : ℕ, call.arrived team r = ms.filter (Message.isFor team r))
    (htaken : ∀ r : ℕ, call.taken team r = []) : Holds team (current ++ [call]) mail' where
  separate := hgrows.separate
  buffer := by
    intro r
    rw [hgrows.buffered, h.buffer, List.flatMap_append, List.flatMap_singleton, harrived]
  queue := by
    intro r
    rw [hgrows.peek, List.flatMap_append, List.flatMap_append, List.flatMap_singleton,
      List.flatMap_singleton, harrived, htaken, List.append_nil, ← List.append_assoc, h.queue]

/-- A call that takes out what it returns. -/
theorem Holds.receives {team : Team} {current : List (Call cfg V)} {mail mail' : Mail cfg V}
    (h : Holds team current mail) {agentId : Option AgentId} {agent : Option AgentHandle}
    {received : Received}
    (hreceives : Mail.Receives (Mail.readsQueue agentId agent) received mail mail') :
    Holds team (current ++ [.env (.receive agentId agent received)]) mail' := by
  have harrived : ∀ r : ℕ, (current ++ [Call.env (.receive agentId agent received)]).flatMap
      (Call.arrived team r) = current.flatMap (Call.arrived team r) := by
    intro r
    rw [List.flatMap_append, List.flatMap_singleton]
    exact List.append_nil _
  refine ⟨?_, fun r => ?_, fun r => ?_⟩
  · rw [hreceives.eq]
    exact ⟨h.separate.lt, h.separate.inj⟩
  · rw [harrived, ← h.buffer, hreceives.eq]
    rfl
  · rw [harrived, ← h.queue, ← hreceives.peek, List.flatMap_append, List.flatMap_singleton,
      List.append_assoc]
    rfl

/-- Reading through the wrapper returns the buffers, and what the teammates would be given alone
is in their queues. -/
theorem receiveMessages_all {self after : SingleTeamMultiAgent cfg G V}
    {returned : List (List Message)} (hself : self.env.mail.Separate)
    (h : self.receiveMessages none none = .ok (.all returned, after)) :
    after.team = self.team ∧ Mail.Posts [] self.env.mail after.env.mail
      ∧ returned = (List.range (cfg.teamSize self.team)).map
          (fun (i : ℕ) => self.env.mail.buffered self.team i)
      ∧ self.alone = (List.range (cfg.teamSize self.team)).map
          (fun (i : ℕ) => self.env.mail.peek self.team i) := by
  cases h
  obtain ⟨hposts, -⟩ := Mail.bufferLists_posts self.env.mail hself self.team
    (List.range (cfg.teamSize self.team))
  exact ⟨rfl, hposts, Mail.map_bufferLists hself self.team _, rfl⟩

variable [RandomState G] [SetOrder]

/-- **One step.** -/
theorem Next.holds {self after : SingleTeamMultiAgent cfg G V} {call : Call cfg V}
    (h : Next self call after) {current : List (Call cfg V)}
    (hself : Holds self.team current self.env.mail) :
    after.team = self.team
      ∧ Holds self.team (if call.forgets then [] else current ++ [call]) after.env.mail := by
  cases h with
  | reset h =>
      -- a reset clears all stores
      obtain ⟨mail, hmail⟩ := Env.reset_mail h
      refine ⟨rfl, holds_nil ?_ ?_⟩
      · rw [hmail]
        exact fun _ _ => rfl
      · rw [hmail]
        exact fun _ _ => rfl
  | receiveAll h =>
      obtain ⟨hteam, hposts, -, -⟩ := receiveMessages_all hself.separate h
      exact ⟨hteam, hself.grows hposts.grows (fun _ => rfl) (fun _ => rfl)⟩
  | env h =>
      refine ⟨rfl, ?_⟩
      cases h with
      | step h =>
          obtain ⟨mail, -, hmail, -⟩ := Env.step_mail hself.separate h
          refine holds_nil ?_ ?_
          · rw [hmail]
            exact fun _ _ => rfl
          · rw [hmail]
            exact fun _ _ => rfl
      | send messages =>
          exact hself.grows (Mail.sendMessages_grows hself.separate messages) (fun _ => rfl)
            (fun _ => rfl)
      | receive h => exact hself.receives (Mail.receiveMessages_receives h)
      | write memory h =>
          have hgrows : Mail.Grows [] self.env.mail { self.env.mail with memory } :=
            ⟨fun _ _ => (List.append_nil _).symm, fun _ _ => (List.append_nil _).symm,
              hself.separate.lt, hself.separate.inj⟩
          exact hself.grows hgrows (fun _ => rfl) (fun _ => rfl)

/-! ## Runs -/

theorem run_holds {start self : SingleTeamMultiAgent cfg G V} {calls : List (Call cfg V)}
    (hstart : Holds start.team [] start.env.mail) (hrun : Run Next start calls self) :
    self.team = start.team ∧ Holds start.team (since Call.forgets calls) self.env.mail := by
  refine hrun.induct (fun calls s => s.team = start.team
    ∧ Holds start.team (since Call.forgets calls) s.env.mail) ?_ ?_
  · rw [since_nil]
    exact ⟨rfl, hstart⟩
  rintro calls s call s' ⟨hteam, hs⟩ hnext
  rw [← hteam] at hs ⊢
  obtain ⟨hteam', hs'⟩ := hnext.holds hs
  refine ⟨hteam', ?_⟩
  cases hforgets : call.forgets with
  | true =>
      rw [hforgets, if_pos rfl] at hs'
      rw [since_snoc_of_ends hforgets]
      exact hs'
  | false =>
      rw [hforgets, if_neg Bool.false_ne_true] at hs'
      rw [since_snoc hforgets]
      exact hs'

/-- Every call of a run finds what it returns unread. -/
def AllUnread (team : Team) (calls : List (Call cfg V)) : Prop :=
  ∀ before call after, calls = before ++ call :: after →
    call.Unread team (since Call.forgets before)

omit [RandomState G] [SetOrder] in
theorem length_returned (team : Team) (r : ℕ) (calls : List (Call cfg V)) :
    (calls.flatMap (Call.returned team r)).length
      = (calls.flatMap (Call.taken team r)).length + (calls.flatMap (Call.shown r)).length := by
  induction calls with
  | nil => rfl
  | cons call calls ih =>
      simp only [List.flatMap_cons, List.length_append, ih, Call.returned]
      omega

omit [RandomState G] [SetOrder] in
theorem returned_eq_taken {team : Team} {r : ℕ} {calls : List (Call cfg V)}
    (h : calls.flatMap (Call.shown r) = []) :
    calls.flatMap (Call.returned team r) = calls.flatMap (Call.taken team r) := by
  induction calls with
  | nil => rfl
  | cons call calls ih =>
      rw [List.flatMap_cons, List.append_eq_nil_iff] at h
      rw [List.flatMap_cons, List.flatMap_cons, ih h.2, Call.returned, h.1, List.append_nil]

omit [RandomState G] [SetOrder] in
/-- A call that does not read the queue of an agent returns nothing for it. -/
theorem to_eq_nil {mail mail' : Mail cfg V} {agentId : Option AgentId} {agent : Option AgentHandle}
    {received : Received} (h : mail.receiveMessages agentId agent = .ok (received, mail'))
    {team : Team} {r : ℕ} (hreads : ¬ Mail.readsQueue agentId agent team r) :
    received.to team r = [] := by
  unfold Mail.receiveMessages at h
  split at h
  · exact absurd trivial hreads
  all_goals
    cases h
    try exact if_neg hreads

/-- What has been returned since the last step are the first of the messages that have arrived,
and only one form of reading has returned any. -/
structure Settled (team : Team) (r : ℕ) (current : List (Call cfg V)) : Prop where
  form : current.flatMap (Call.taken team r) = [] ∨ current.flatMap (Call.shown r) = []
  fresh : current.flatMap (Call.returned team r) <+: current.flatMap (Call.arrived team r)

omit [RandomState G] [SetOrder] in
theorem flatMap_snoc (f : Call cfg V → List Message) (calls : List (Call cfg V)) (call : Call cfg V) :
    (calls ++ [call]).flatMap f = calls.flatMap f ++ f call := by
  rw [List.flatMap_append, List.flatMap_singleton]

omit [RandomState G] [SetOrder] in
/-- A call that returns nothing for the agent. -/
theorem Settled.idle {team : Team} {r : ℕ} {current : List (Call cfg V)}
    (h : Settled team r current) {call : Call cfg V} (htaken : call.taken team r = [])
    (hshown : call.shown r = []) : Settled team r (current ++ [call]) := by
  have hreturned : call.returned team r = [] := by
    rw [Call.returned, htaken, hshown]
    rfl
  constructor
  · rw [flatMap_snoc, flatMap_snoc, htaken, hshown, List.append_nil, List.append_nil]
    exact h.form
  · rw [flatMap_snoc, flatMap_snoc, hreturned, List.append_nil]
    exact h.fresh.trans (List.prefix_append _ _)

omit [RandomState G] [SetOrder] in
/-- When only queues have been read, nothing has been returned twice. -/
theorem Holds.settled {team : Team} {current : List (Call cfg V)} {mail : Mail cfg V}
    (h : Holds team current mail) {r : Fin (cfg.teamSize team)}
    (hshown : current.flatMap (Call.shown r) = []) : Settled team r current := by
  refine ⟨Or.inr hshown, ?_⟩
  rw [returned_eq_taken hshown]
  exact ⟨_, h.queue r⟩

omit [RandomState G] [SetOrder] in
/-- Nothing has been returned, in either form. -/
theorem returned_eq_nil {team : Team} {r : ℕ} {calls : List (Call cfg V)}
    (h : calls.flatMap (Call.returned team r) = []) :
    calls.flatMap (Call.taken team r) = [] ∧ calls.flatMap (Call.shown r) = [] := by
  have hlength := length_returned team r calls
  rw [h, List.length_nil] at hlength
  constructor
  · exact List.length_eq_zero_iff.mp (by omega)
  · exact List.length_eq_zero_iff.mp (by omega)

omit [RandomState G] [SetOrder] in
theorem shown_receiveAll {team : Team} (r : Fin (cfg.teamSize team)) (f : ℕ → List Message)
    (alone : List (List Message)) :
    (Call.receiveAll ((List.range (cfg.teamSize team)).map f) alone : Call cfg V).shown r = f r := by
  rw [Call.shown, List.getD_eq_getElem?_getD, List.getElem?_map, List.getElem?_range r.isLt]
  rfl

/-- **One step** of a run that reads what is unread. -/
theorem Next.settled {self after : SingleTeamMultiAgent cfg G V} {call : Call cfg V}
    (h : Next self call after) {team : Team} (hteam : self.team = team)
    {current : List (Call cfg V)} (hself : Holds team current self.env.mail)
    (hunread : call.Unread team current) (hforgets : call.forgets = false)
    {r : Fin (cfg.teamSize team)} (hsettled : Settled team r current) :
    Settled team r (current ++ [call]) := by
  subst hteam
  obtain ⟨hteam, hafter⟩ := h.holds hself
  rw [hforgets, if_neg Bool.false_ne_true] at hafter
  cases h with
  | reset h => cases hforgets
  | receiveAll h =>
      obtain ⟨-, -, hreturned, -⟩ := receiveMessages_all hself.separate h
      obtain ⟨htaken, hshown⟩ := returned_eq_nil (hunread r)
      constructor
      · rw [flatMap_snoc, htaken]
        exact Or.inl rfl
      · rw [flatMap_snoc, flatMap_snoc, hunread r, hreturned, Call.returned, shown_receiveAll,
          hself.buffer]
        exact List.prefix_append _ _
  | env h =>
      cases h with
      | step h => cases hforgets
      | send messages => exact hsettled.idle rfl rfl
      | write memory h => exact hsettled.idle rfl rfl
      | @receive agentId agent received mail h =>
          by_cases hreads : Mail.readsQueue agentId agent self.team (r : ℕ)
          · refine hafter.settled ?_
            rw [flatMap_snoc, hunread r hreads]
            rfl
          · exact hsettled.idle (to_eq_nil h hreads) rfl

omit [RandomState G] [SetOrder] in
theorem AllUnread.of_prefix {team : Team} {calls before : List (Call cfg V)}
    (h : AllUnread team calls) (hinitial : before <+: calls) : AllUnread team before := by
  obtain ⟨rest, rfl⟩ := hinitial
  intro before' call after hsplit
  refine h before' call (after ++ rest) ?_
  rw [hsplit, List.append_assoc, List.cons_append]

theorem run_settled {start self : SingleTeamMultiAgent cfg G V} {calls : List (Call cfg V)}
    (hstart : Holds start.team [] start.env.mail) (hrun : Run Next start calls self)
    (hunread : AllUnread start.team calls) (r : Fin (cfg.teamSize start.team)) :
    Settled start.team r (since Call.forgets calls) := by
  induction hrun with
  | nil => exact ⟨Or.inl rfl, List.prefix_refl _⟩
  | @snoc calls s s' call hcalls hnext ih =>
      obtain ⟨hteam, hs⟩ := run_holds hstart hcalls
      cases hforgets : call.forgets with
      | true =>
          rw [since_snoc_of_ends hforgets]
          exact ⟨Or.inl rfl, List.prefix_refl _⟩
      | false =>
          rw [since_snoc hforgets]
          exact hnext.settled hteam hs (hunread calls call [] rfl) hforgets
            (ih (hunread.of_prefix (List.prefix_append _ _)))

/-- **Reading once.** In every run, from empty stores, the two forms of reading agree and no
message is returned twice if and only if every call finds what it returns unread. -/
theorem readsOnce_iff {start self : SingleTeamMultiAgent cfg G V} {calls : List (Call cfg V)}
    (hbuffer : ∀ team r, start.env.mail.buffer team r = none)
    (hqueue : ∀ team r, start.env.mail.queue team r = none) (hrun : Run Next start calls self) :
    ReadsOnce start.team calls ↔ AllUnread start.team calls := by
  have hstart : Holds start.team [] start.env.mail := holds_nil hbuffer hqueue
  constructor
  · intro honce before call after hsplit
    have hinitial : before ++ [call] <+: calls :=
      ⟨after, by rw [hsplit, List.append_assoc, List.singleton_append]⟩
    rw [hsplit] at hrun
    obtain ⟨s, s', hbefore, hnext, -⟩ := hrun.split
    obtain ⟨hteam, hs⟩ := run_holds hstart hbefore
    obtain ⟨-, hs'⟩ := run_holds hstart (hbefore.snoc hnext)
    have hlength := fun r : Fin (cfg.teamSize start.team) => (honce.once _ hinitial r).length_le
    cases hnext with
    | reset h => trivial
    | @receiveAll _ returned h =>
        -- the call returns all that has arrived, so that nothing can have been returned before
        intro r
        have hr := hlength r
        obtain ⟨-, -, hreturned, -⟩ := receiveMessages_all hs.separate h
        have hcall : (Call.receiveAll returned s.alone : Call cfg V).returned start.team r
            = (since Call.forgets before).flatMap (Call.arrived start.team r) := by
          rw [hreturned, hteam, Call.returned, shown_receiveAll, hs.buffer]
          rfl
        rw [since_snoc rfl, flatMap_snoc, flatMap_snoc, hcall, List.length_append,
          List.length_append] at hr
        exact List.length_eq_zero_iff.mp (by simpa [Call.arrived] using hr)
    | env h =>
        cases h with
        | step h => trivial
        | send messages => trivial
        | write memory h => trivial
        | @receive agentId agent received mail h =>
            intro r hreads
            -- the queue is empty now, so that all that has arrived has been taken out of it
            have hr := hlength r
            have hq := hs'.queue r
            rw [(Mail.receiveMessages_receives h).read _ r hreads, List.append_nil] at hq
            rw [length_returned, hq] at hr
            have hshown := List.length_eq_zero_iff.mp (Nat.eq_zero_of_le_zero (by omega :
              ((since Call.forgets (before ++ [Call.env (.receive agentId agent received)])).flatMap
                (Call.shown r)).length ≤ 0))
            rw [since_snoc rfl, flatMap_snoc] at hshown
            exact (List.append_eq_nil_iff.mp hshown).1
  · intro hunread
    constructor
    · intro returned alone hmem
      obtain ⟨before, after, rfl⟩ := List.append_of_mem hmem
      obtain ⟨s, s', hbefore, hnext, -⟩ := hrun.split
      obtain ⟨hteam, hs⟩ := run_holds hstart hbefore
      have hfresh := hunread before _ after rfl
      cases hnext with
      | receiveAll h =>
          obtain ⟨-, -, hreturned, halone⟩ := receiveMessages_all hs.separate h
          rw [hreturned, halone, hteam]
          refine List.map_congr_left (fun i hi => ?_)
          have hq := hs.queue ⟨i, List.mem_range.mp hi⟩
          rw [(returned_eq_nil (hfresh ⟨i, List.mem_range.mp hi⟩)).1, List.nil_append, ← hs.buffer] at hq
          exact hq.symm
    · intro before hinitial r
      obtain ⟨mid, hmid⟩ := hrun.initial hinitial
      exact (run_settled hstart hmid (hunread.of_prefix hinitial) r).fresh.sublist.subperm

omit [RandomState G] [SetOrder] in
/-- An environment with one target that has just been reset. -/
theorem exists_solo_env :
    letI := Env.rotating
    letI := SetOrder.increasing
    ∃ env : Env (Env.soloConfig (0, 0) 10 (by decide)) (Fin 4) Unit,
      (∀ team r, env.mail.buffer team r = none) ∧ ∀ team r, env.mail.queue team r = none := by
  let _ := Env.rotating
  let _ := SetOrder.increasing
  obtain ⟨self, env, observations, reg, -, hreset⟩ :=
    Env.exists_solo_reset (0, 0) 10 (by decide) ⟨0, fun _ => ()⟩
  obtain ⟨mail, hmail⟩ := Env.reset_mail hreset
  refine ⟨env, fun team r => ?_, fun team r => ?_⟩
  · rw [hmail]
    rfl
  · rw [hmail]
    rfl

omit [RandomState G] [SetOrder] in
/-- The targets read once, right after the reset. -/
theorem readsOnce_iff_solo :
    letI := Env.rotating
    letI := SetOrder.increasing
    ∃ (start self : SingleTeamMultiAgent (Env.soloConfig (0, 0) 10 (by decide)) (Fin 4) Unit)
      (calls : List (Call (Env.soloConfig (0, 0) 10 (by decide)) Unit)),
      start.team = .target ∧ Run Next start calls self ∧ calls.length = 1
        ∧ ReadsOnce start.team calls := by
  let _ := Env.rotating
  let _ := SetOrder.increasing
  obtain ⟨env, hbuffer, hqueue⟩ := exists_solo_env
  have hrun : Run Next (⟨env, .target⟩ : SingleTeamMultiAgent _ _ _) _ _ :=
    Run.single (Next.receiveAll rfl)
  refine ⟨_, _, _, rfl, hrun, rfl, (readsOnce_iff hbuffer hqueue hrun).mpr ?_⟩
  intro before call after hsplit
  -- nothing has been called before
  rcases List.singleton_eq_append_iff.mp hsplit with ⟨rfl, hcall⟩ | ⟨-, hcall⟩
  · cases hcall
    exact fun r => rfl
  · cases hcall

omit [RandomState G] [SetOrder] in
/-- The target sends a message to itself, and reads it twice. -/
theorem not_readsOnce :
    letI := Env.rotating
    letI := SetOrder.increasing
    let m : Message := ⟨0, some 0, 0, .target, false⟩
    let calls : List (Call (Env.soloConfig (0, 0) 10 (by decide)) Unit) :=
      [.env (.send [m] [m] (.ok ())), .receiveAll [[m]] [[m]], .receiveAll [[m]] [[m]]]
    (∃ (env : Env (Env.soloConfig (0, 0) 10 (by decide)) (Fin 4) Unit)
        (self : SingleTeamMultiAgent (Env.soloConfig (0, 0) 10 (by decide)) (Fin 4) Unit),
        (∀ team r, env.mail.buffer team r = none) ∧ (∀ team r, env.mail.queue team r = none)
          ∧ Run Next ⟨env, .target⟩ calls self)
      ∧ ¬ ReadsOnce .target calls := by
  let _ := Env.rotating
  let _ := SetOrder.increasing
  intro m calls
  constructor
  · obtain ⟨env, hbuffer, hqueue⟩ := exists_solo_env
    have hsend : Run Next (⟨env, .target⟩ : SingleTeamMultiAgent _ _ _)
        [.env (.send [m] [m] (.ok ()))] _ := Run.single (Next.env (Env.Next.send [m]))
    -- the buffer of the target has the message, and so has its queue
    have hread : ∀ (s : SingleTeamMultiAgent (Env.soloConfig (0, 0) 10 (by decide)) (Fin 4) Unit)
        current, s.team = .target → Holds .target current s.env.mail →
          current.flatMap (Call.arrived .target 0) = [m] →
            current.flatMap (Call.taken .target 0) = [] →
              Next s (.receiveAll [[m]] [[m]]) s.receiveAll.2 := by
      intro s current hteam hs harrived htaken
      have hall : s.receiveMessages none none = .ok (.all s.receiveAll.1, s.receiveAll.2) := rfl
      obtain ⟨-, -, hreturned, halone⟩ := receiveMessages_all hs.separate hall
      have hbuffered := hs.buffer ⟨0, Nat.one_pos⟩
      have hpeek := hs.queue ⟨0, Nat.one_pos⟩
      have hnext : Next s (.receiveAll s.receiveAll.1 s.alone) s.receiveAll.2 := Next.receiveAll hall
      rw [harrived] at hbuffered hpeek
      rw [htaken, List.nil_append] at hpeek
      rw [hreturned, halone, hteam] at hnext
      have hone : List.range ((Env.soloConfig (0, 0) 10 (by decide)).teamSize .target) = [0] := rfl
      rw [hone, List.map_singleton, List.map_singleton, hbuffered, hpeek] at hnext
      exact hnext
    obtain ⟨hteam, hs⟩ := run_holds (holds_nil hbuffer hqueue) hsend
    have hfirst := hsend.snoc (hread _ _ hteam hs rfl rfl)
    obtain ⟨hteam', hs'⟩ := run_holds (holds_nil hbuffer hqueue) hfirst
    exact ⟨env, _, hbuffer, hqueue, hfirst.snoc (hread _ _ hteam' hs' rfl rfl)⟩
  · intro honce
    have hlength := (honce.once calls (List.prefix_refl _) ⟨0, Nat.one_pos⟩).length_le
    exact absurd hlength (by decide)

end SingleTeamMultiAgent

end Mate
