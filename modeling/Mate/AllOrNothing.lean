import Mate.DelayedMessages
import Mate.RepeatedReads

set_option autoImplicit false

/-! # What a call of `send_messages` leaves behind

The call checks the teams of the messages before it writes anything. The indices are checked by
the array of the edges, after the message has gone into the queue and the buffer, so a call that
raises there has recorded some of its messages. It is all or nothing exactly for the messages that
are refused at once or reach agents of the team.
-/

namespace Mate

/-! ## Indices -/

/-- An index that an axis of length `n` has. -/
def InAxis (n : ℕ) (i : ℤ) : Prop := -(n : ℤ) ≤ i ∧ i < n

theorem exists_axisIndex_iff {n : ℕ} {i : ℤ} : (∃ j, axisIndex n i = .ok j) ↔ InAxis n i := by
  unfold InAxis axisIndex
  constructor
  · rintro ⟨j, hj⟩
    split at hj
    · omega
    · split at hj
      · omega
      · cases hj
  · rintro ⟨hlow, hhigh⟩
    by_cases h : 0 ≤ i ∧ i < n
    · exact ⟨_, dif_pos h⟩
    · have hneg : -(n : ℤ) ≤ i ∧ i < 0 := by omega
      exact ⟨_, by rw [dif_neg h, dif_pos hneg]⟩

namespace Message

/-- The sender and the recipients of a message are indices of the arrays of the team. A broadcast
has no recipients when the team is empty. -/
def Reaches (cfg : Config) (m : Message) : Prop :=
  match m.recipient with
  | none => cfg.teamSize m.team = 0 ∨ InAxis (cfg.teamSize m.team) m.sender
  | some r => InAxis (cfg.teamSize m.team) m.sender ∧ InAxis (cfg.teamSize m.team) r

/-- The message is counted on this edge. Negative indices count from the end. -/
def countsOn (cfg : Config) (team : Team) (i j : Fin (cfg.teamSize team)) (m : Message) : Bool :=
  decide (m.team = team ∧ (axisIndex (cfg.teamSize team) m.sender).toOption = some i
    ∧ (axisIndex (cfg.teamSize team) (m.recipient.getD 0)).toOption = some j)

end Message

namespace Mail

variable {cfg : Config} {V : Type} {mail mail' mail'' : Mail cfg V}

/-! ## All or nothing -/

/-- Every one of the messages is appended to the queue and the buffer of its recipient, and
counted on its edge. -/
structure Records (ms : List Message) (mail mail' : Mail cfg V) : Prop where
  grows : Grows ms mail mail'
  edges : ∀ team (i j : Fin (cfg.teamSize team)),
    mail'.edges team i j = mail.edges team i j + ms.countP (Message.countsOn cfg team i j)

/-- Queues, buffers and edges are as before. -/
structure Unrecorded (mail mail' : Mail cfg V) : Prop where
  queue : mail'.queue = mail.queue
  buffer : mail'.buffer = mail.buffer
  lists : mail'.lists = mail.lists
  edges : mail'.edges = mail.edges

/-- The call returns and has recorded all its messages, or it raises and has recorded none. -/
def AllOrNothing (mail : Mail cfg V) (messages : List Message) : Prop :=
  (∃ mail', mail.sendMessages messages = (.ok (), mail')
      ∧ Records (routeMessages cfg messages mail.memory).1 mail mail') ∨
    ∃ e mail', mail.sendMessages messages = (.error e, mail') ∧ Unrecorded mail mail'

/-! ## Routing -/

theorem copies_indexable_iff (message : Message) {rs : List ℕ}
    (hrs : ∀ r ∈ rs, r < cfg.teamSize message.team) (memory : Memory V) :
    (∀ copy ∈ (copies message rs memory).1, copy.Indexable cfg)
      ↔ rs = [] ∨ InAxis (cfg.teamSize message.team) message.sender := by
  constructor
  · intro h
    cases rs with
    | nil => exact Or.inl rfl
    | cons r rest => exact Or.inr (exists_axisIndex_iff.mp (h _ List.mem_cons_self).1)
  · intro h copy hcopy
    obtain ⟨r, hr, content, rfl⟩ := mem_copies hcopy
    rcases h with rfl | hsender
    · cases hr
    · refine ⟨exists_axisIndex_iff.mpr hsender, fun r' hr' => ?_⟩
      cases hr'
      have hlt := hrs r hr
      exact exists_axisIndex_iff.mpr ⟨by omega, by exact_mod_cast hlt⟩

/-- All routed messages have indices of the team exactly if the messages reach agents of it. -/
theorem routeMessages_indexable_iff (messages : List Message) (memory : Memory V) :
    (∀ copy ∈ (routeMessages cfg messages memory).1, copy.Indexable cfg)
      ↔ ∀ m ∈ messages, m.Reaches cfg := by
  induction messages generalizing memory with
  | nil =>
      constructor
      · exact fun _ m hm => absurd hm List.not_mem_nil
      · exact fun _ m hm => absurd hm List.not_mem_nil
  | cons m rest ih =>
      rw [List.forall_mem_cons]
      cases hrecipient : m.recipient with
      | none =>
          simp only [routeMessages, hrecipient]
          rw [List.forall_mem_append, ih, copies_indexable_iff m (fun r hr => List.mem_range.mp hr),
            List.range_eq_nil]
          simp only [Message.Reaches, hrecipient]
      | some r =>
          simp only [routeMessages, hrecipient]
          rw [List.forall_mem_append, ih, List.forall_mem_singleton]
          simp only [Message.Reaches, Message.Indexable, hrecipient, Option.some.injEq,
            forall_eq', exists_axisIndex_iff]

/-! ## Posting -/

/-- The loop gets past a message exactly if the array has the edge of it. -/
theorem countEdge_ok_iff (team : Team) (sender r : ℤ) (mail : Mail cfg V) :
    (∃ mail', mail.countEdge team sender r = .ok mail')
      ↔ (∃ i, axisIndex (cfg.teamSize team) sender = .ok i)
        ∧ ∃ j, axisIndex (cfg.teamSize team) r = .ok j := by
  constructor
  · rintro ⟨mail', hmail'⟩
    obtain ⟨i, hi, hmail'⟩ := Fallible.bind_eq_ok.mp hmail'
    obtain ⟨j, hj, -⟩ := Fallible.bind_eq_ok.mp hmail'
    exact ⟨⟨i, hi⟩, j, hj⟩
  · rintro ⟨⟨i, hi⟩, j, hj⟩
    obtain ⟨edges, hedges⟩ := countEdge_ok hi hj mail
    exact ⟨_, hedges⟩

/-- **The loop of `send_messages`** returns exactly if all messages have indices of the team. -/
theorem post_ok_iff (ms : List Message) (mail : Mail cfg V)
    (hms : ∀ m ∈ ms, ∃ r, m.recipient = some r) :
    (post ms mail).1 = .ok () ↔ ∀ m ∈ ms, m.Indexable cfg := by
  induction ms generalizing mail with
  | nil =>
      constructor
      · exact fun _ m hm => absurd hm List.not_mem_nil
      · exact fun _ => rfl
  | cons m rest ih =>
      obtain ⟨r, hr⟩ := hms m List.mem_cons_self
      have hrest : ∀ m' ∈ rest, ∃ r, m'.recipient = some r :=
        fun m' hm' => hms m' (List.mem_cons_of_mem _ hm')
      have hcount := countEdge_ok_iff m.team m.sender r
        ((mail.appendQueue m.team r m).appendBuffer m.team r m)
      have hm : m.Indexable cfg ↔ (∃ i, axisIndex (cfg.teamSize m.team) m.sender = .ok i)
          ∧ ∃ j, axisIndex (cfg.teamSize m.team) r = .ok j := by
        simp only [Message.Indexable, hr, Option.some.injEq, forall_eq']
      rw [List.forall_mem_cons, hm, ← hcount, post, hr, Option.getD_some]
      cases hone : ((mail.appendQueue m.team r m).appendBuffer m.team r m).countEdge m.team
          m.sender r with
      | ok mail₁ =>
          simp only [ih mail₁ hrest]
          exact ⟨fun h => ⟨⟨mail₁, rfl⟩, h⟩, fun h => h.2⟩
      | error e =>
          constructor
          · intro h
            cases h
          · rintro ⟨⟨mail', hmail'⟩, -⟩
            cases hmail'

/-- What the array of the edges counts for one message. -/
theorem countEdge_edges {m : Message} {r : ℤ} (hrecipient : m.recipient = some r)
    {mail mail' : Mail cfg V} (h : mail.countEdge m.team m.sender r = .ok mail') (team : Team)
    (i j : Fin (cfg.teamSize team)) :
    mail'.edges team i j
      = mail.edges team i j + [m].countP (Message.countsOn cfg team i j) := by
  obtain ⟨i', hi', h⟩ := Fallible.bind_eq_ok.mp h
  obtain ⟨j', hj', h⟩ := Fallible.bind_eq_ok.mp h
  cases h
  rw [List.countP_singleton]
  show Function.update mail.edges m.team _ team i j = _
  by_cases hteam : team = m.team
  · subst hteam
    have hcounts : m.countsOn cfg m.team i j = true ↔ i = i' ∧ j = j' := by
      rw [Message.countsOn, decide_eq_true_iff, hrecipient, Option.getD_some, hi', hj']
      simp only [Except.toOption, true_and, Option.some.injEq, eq_comm]
    rw [Function.update_self, update_update_apply]
    by_cases hkey : i = i' ∧ j = j'
    · rw [if_pos hkey, if_pos (hcounts.mpr hkey), hkey.1, hkey.2, Nat.cast_one]
    · rw [if_neg hkey, if_neg (fun h => hkey (hcounts.mp h))]
      exact (add_zero _).symm
  · rw [Function.update_of_ne hteam, if_neg]
    · exact (add_zero _).symm
    · rw [Message.countsOn, decide_eq_true_iff]
      exact fun h => hteam h.1.symm

theorem posted_of_indexable {ms : List Message} (hms : ∀ m ∈ ms, m.Indexable cfg)
    (hrecipients : ∀ m ∈ ms, ∃ r, m.recipient = some r) : posted cfg ms = ms := by
  induction ms with
  | nil => rfl
  | cons m rest ih =>
      obtain ⟨r, hr⟩ := hrecipients m List.mem_cons_self
      obtain ⟨⟨i, hi⟩, hrecipient⟩ := hms m List.mem_cons_self
      obtain ⟨j, hj⟩ := hrecipient r hr
      rw [posted_cons_ok hr hi hj, ih (fun m' hm' => hms m' (List.mem_cons_of_mem _ hm'))
        (fun m' hm' => hrecipients m' (List.mem_cons_of_mem _ hm'))]

theorem post_edges (ms : List Message) (mail : Mail cfg V)
    (hms : ∀ m ∈ ms, ∃ r, m.recipient = some r) (hok : (post ms mail).1 = .ok ()) (team : Team)
    (i j : Fin (cfg.teamSize team)) :
    (post ms mail).2.edges team i j
      = mail.edges team i j + ms.countP (Message.countsOn cfg team i j) := by
  induction ms generalizing mail with
  | nil => exact (add_zero _).symm
  | cons m rest ih =>
      obtain ⟨r, hr⟩ := hms m List.mem_cons_self
      rw [post, hr, Option.getD_some] at hok ⊢
      cases hone : ((mail.appendQueue m.team r m).appendBuffer m.team r m).countEdge m.team
          m.sender r with
      | error e =>
          simp only [hone] at hok
          cases hok
      | ok mail₁ =>
          simp only [hone] at hok ⊢
          have hsplit : ([m] ++ rest).countP (Message.countsOn cfg team i j)
              = [m].countP (Message.countsOn cfg team i j)
                + rest.countP (Message.countsOn cfg team i j) := List.countP_append
          rw [List.singleton_append] at hsplit
          rw [ih mail₁ (fun m' hm' => hms m' (List.mem_cons_of_mem _ hm')) hok,
            countEdge_edges hr hone, appendBuffer_edges, hsplit]
          show mail.edges team i j + _ + _ = _
          push_cast
          ring

/-! ## Sending -/

/-- Messages of different teams are refused before anything is written. -/
theorem sendMessages_mixed {messages : List Message} (h : ¬ sameTeam messages)
    (mail : Mail cfg V) : ∃ e, mail.sendMessages messages = (.error e, mail) :=
  ⟨_, if_neg h⟩

theorem sendMessages_records (hmail : mail.Separate) {messages : List Message}
    (hteam : sameTeam messages) (hreaches : ∀ m ∈ messages, m.Reaches cfg) :
    ∃ mail', mail.sendMessages messages = (.ok (), mail')
      ∧ Records (routeMessages cfg messages mail.memory).1 mail mail' := by
  set copies := (routeMessages cfg messages mail.memory).1 with hcopies
  set start : Mail cfg V :=
    { mail with memory := (routeMessages cfg messages mail.memory).2 } with hstart
  have hrecipients : ∀ copy ∈ copies, ∃ r, copy.recipient = some r := recipient_of_mem_routeMessages
  have hindexable : ∀ copy ∈ copies, copy.Indexable cfg :=
    (routeMessages_indexable_iff messages mail.memory).mpr hreaches
  have hok : (post copies start).1 = .ok () := (post_ok_iff copies start hrecipients).mpr hindexable
  have hsend : mail.sendMessages messages = post copies start := by
    rw [sendMessages, if_pos hteam]
  have hgrows := sendMessages_grows hmail messages
  rw [routed, if_pos hteam, ← hcopies, posted_of_indexable hindexable hrecipients, hsend] at hgrows
  refine ⟨(post copies start).2, hsend.trans (Prod.ext hok rfl), hgrows, fun team i j => ?_⟩
  exact post_edges copies start hrecipients hok team i j

/-- A call that raises in its loop has put its first message into a queue. -/
theorem sendMessages_leaves (hmail : mail.Separate) {messages : List Message}
    (hteam : sameTeam messages) (hreaches : ¬ ∀ m ∈ messages, m.Reaches cfg) :
    ∃ e mail', mail.sendMessages messages = (.error e, mail') ∧ mail'.queue ≠ mail.queue := by
  set copies := (routeMessages cfg messages mail.memory).1 with hcopies
  set start : Mail cfg V :=
    { mail with memory := (routeMessages cfg messages mail.memory).2 } with hstart
  have hrecipients : ∀ copy ∈ copies, ∃ r, copy.recipient = some r := recipient_of_mem_routeMessages
  have hsend : mail.sendMessages messages = post copies start := by
    rw [sendMessages, if_pos hteam]
  have hraises : (post copies start).1 ≠ .ok () := fun hok =>
    hreaches ((routeMessages_indexable_iff messages mail.memory).mp
      ((post_ok_iff copies start hrecipients).mp hok))
  have hgrows := sendMessages_grows hmail messages
  rw [routed, if_pos hteam, ← hcopies, hsend] at hgrows
  cases hresult : (post copies start).1 with
  | ok => exact absurd hresult hraises
  | error e =>
      refine ⟨e, (post copies start).2, hsend.trans (Prod.ext hresult rfl), fun hqueue => ?_⟩
      cases hlist : copies with
      | nil =>
          rw [hlist] at hraises
          exact hraises rfl
      | cons m rest =>
          obtain ⟨r, hr⟩ := hrecipients m (hlist ▸ List.mem_cons_self)
          -- the queue of the first recipient would be one message longer than itself
          have hpeek := hgrows.peek m.team r
          rw [peek, peek, hqueue, hlist, posted, List.filter_cons_of_pos
            ((isFor_iff hr m.team r).mpr ⟨rfl, rfl⟩)] at hpeek
          have hlength := congrArg List.length hpeek
          rw [List.length_append, List.length_cons] at hlength
          omega

/-- **Sending is all or nothing** exactly for the messages that are of several teams, and so
refused at once, and for those that all reach agents of their team. -/
theorem sendMessages_allOrNothing_iff (hmail : mail.Separate) (messages : List Message) :
    AllOrNothing mail messages ↔ sameTeam messages → ∀ m ∈ messages, m.Reaches cfg := by
  constructor
  · intro h hteam
    by_contra hreaches
    obtain ⟨e, mail', hsend, hqueue⟩ := sendMessages_leaves hmail hteam hreaches
    rcases h with ⟨mail'', hok, -⟩ | ⟨e', mail'', herror, hunrecorded⟩
    · rw [hsend] at hok
      cases hok
    · rw [hsend] at herror
      cases herror
      exact hqueue hunrecorded.queue
  · intro h
    by_cases hteam : sameTeam messages
    · exact Or.inl (sendMessages_records hmail hteam (h hteam))
    · obtain ⟨e, he⟩ := sendMessages_mixed hteam mail
      exact Or.inr ⟨e, mail, he, rfl, rfl, rfl, rfl⟩

/-- A target that sends a message to itself, in stores that are empty. -/
theorem sendMessages_allOrNothing_iff_solo :
    ∃ env : Env (Env.soloConfig (0, 0) 10 (by decide)) (Fin 4) Unit, env.mail.Separate
      ∧ (AllOrNothing env.mail [⟨0, some 0, 0, .target, false⟩]
        ↔ sameTeam [⟨0, some 0, 0, .target, false⟩] →
          ∀ m ∈ [(⟨0, some 0, 0, .target, false⟩ : Message)],
            m.Reaches (Env.soloConfig (0, 0) 10 (by decide))) := by
  obtain ⟨env, hbuffer, -⟩ := SingleTeamMultiAgent.exists_solo_env
  exact ⟨env, separate_of_empty hbuffer,
    sendMessages_allOrNothing_iff (separate_of_empty hbuffer) _⟩

/-- The target sends a message to agent 5 of its team, which has one agent. The call raises, and
the message stays in a queue and in a buffer. -/
theorem sendMessages_half_done :
    ∃ env : Env (Env.soloConfig (0, 0) 10 (by decide)) (Fin 4) Unit,
      (∀ team r, env.mail.buffer team r = none) ∧ (∀ team r, env.mail.queue team r = none)
        ∧ ¬ AllOrNothing env.mail [⟨0, some 5, 0, .target, false⟩] := by
  obtain ⟨env, hbuffer, hqueue⟩ := SingleTeamMultiAgent.exists_solo_env
  have hreaches : ¬ ∀ m ∈ [(⟨0, some 5, 0, .target, false⟩ : Message)],
      m.Reaches (Env.soloConfig (0, 0) 10 (by decide)) := by
    intro h
    obtain ⟨-, -, hlt⟩ := h _ List.mem_cons_self
    have hone : (Env.soloConfig (0, 0) 10 (by decide)).teamSize .target = 1 := rfl
    rw [hone] at hlt
    omega
  obtain ⟨e, mail', hsend, hleft⟩ :=
    sendMessages_leaves (separate_of_empty hbuffer) (by decide) hreaches
  refine ⟨env, hbuffer, hqueue, fun h => ?_⟩
  rcases h with ⟨mail'', hok, -⟩ | ⟨e', mail'', herror, hunrecorded⟩
  · rw [hsend] at hok
    cases hok
  · rw [hsend] at herror
    cases herror
    exact hleft hunrecorded.queue

end Mail

end Mate
