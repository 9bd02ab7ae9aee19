import Mate.Environment.Frame
import Mate.Environment.Init
import Mate.Environment.Posting
import Mate.Library.Runs
import Mate.Wrappers.ExtraCommunicationDelays

set_option autoImplicit false

/-! # Messages through the extra delays

The wrapper is a lossless channel in every run whose calls are `Sendable`: messages that wait for
the same step are equal, and those that are due when `send_messages` is called are of one team.
Otherwise a comparison in the heap raises, or the environment refuses what is forwarded to it.
-/

namespace Mate

open Fallible Heaps Runs

/-! ## What the environment accepts -/

/-- The sender and the recipient are indices of the arrays of the team. -/
def Message.Indexable (cfg : Config) (m : Message) : Prop :=
  (∃ i, axisIndex (cfg.teamSize m.team) m.sender = .ok i) ∧
    ∀ r, m.recipient = some r → ∃ j, axisIndex (cfg.teamSize m.team) r = .ok j

namespace Mail

variable {cfg : Config} {V : Type}

/-- Routed messages have a recipient, and it is an index if that of the message is one. -/
theorem indexable_of_mem_routeMessages {ms : List Message} {memory : Memory V}
    (hms : ∀ m ∈ ms, m.Indexable cfg) : ∀ copy ∈ (routeMessages cfg ms memory).1,
      copy.Indexable cfg ∧ ∃ r, copy.recipient = some r := by
  intro copy hcopy
  obtain ⟨m, hm, ⟨rfl, hrecipient⟩ | ⟨-, r, hr, content, rfl⟩⟩ := mem_routeMessages hcopy
  · exact ⟨hms copy hm, hrecipient⟩
  · refine ⟨⟨(hms m hm).1, fun r' hr' => ?_⟩, r, rfl⟩
    cases hr'
    have hlt : (r : ℤ) < cfg.teamSize m.team := by exact_mod_cast hr
    exact ⟨_, dif_pos ⟨Int.natCast_nonneg r, hlt⟩⟩

theorem post_returns (ms : List Message) (mail : Mail cfg V)
    (hms : ∀ m ∈ ms, m.Indexable cfg ∧ ∃ r, m.recipient = some r) :
    (post ms mail).1 = .ok () := by
  induction ms generalizing mail with
  | nil => rfl
  | cons m rest ih =>
      obtain ⟨⟨⟨i, hi⟩, hrecipients⟩, r, hr⟩ := hms m List.mem_cons_self
      obtain ⟨j, hj⟩ := hrecipients r hr
      rw [post, hr, Option.getD_some]
      simp only [countEdge, hi, hj]
      exact ih _ (fun m hm => hms m (List.mem_cons_of_mem _ hm))

theorem sendMessages_returns {ms : List Message} (mail : Mail cfg V) (hteam : sameTeam ms)
    (hms : ∀ m ∈ ms, m.Indexable cfg) : ∃ mail', mail.sendMessages ms = (.ok (), mail') := by
  refine ⟨(mail.sendMessages ms).2, Prod.ext ?_ rfl⟩
  rw [sendMessages, if_pos hteam]
  exact post_returns _ _ (indexable_of_mem_routeMessages hms)

end Mail

namespace ExtraCommunicationDelays

variable {cfg : Config} {G V : Type}

/-! ## What waits -/

/-- The messages that a call sends, with the steps they are due at. -/
def Call.sent (d : ℕ) : Call cfg V → List (ℤ × Message)
  | .send episodeStep _ messages _ => messages.map (fun m => ((episodeStep + d : ℤ), m))
  | _ => []

/-- The step at which a call sends messages. -/
def Call.time : Call cfg V → Option ℕ
  | .send episodeStep _ _ _ => some episodeStep
  | _ => none

/-- The messages of some calls that no call among them has found due, in sending order. -/
def waiting (d : ℕ) (calls : List (Call cfg V)) : List (ℤ × Message) :=
  (calls.flatMap (Call.sent d)).filter
    (fun entry => decide (∀ time ∈ calls.filterMap Call.time, (time : ℤ) < entry.1))

/-- What the next call has to forward: the messages that no earlier call has found due. -/
def firstDue (d : ℕ) (calls : List (Call cfg V)) (now : ℕ) : List Message :=
  ((waiting d calls).filter (fun entry => decide (entry.1 ≤ (now : ℤ)))).map Prod.snd

/-- What the heap keeps of the calls since the last reset. -/
structure Tracks (d : ℕ) (calls : List (Call cfg V)) (channel : ExtraCommunicationDelays cfg G V) :
    Prop where
  heap : channel.heap.toList.Perm (waiting d calls)
  heaped : Heaped Prod.fst channel.heap
  times : ∀ time ∈ calls.filterMap Call.time, time ≤ channel.env.episodeStep
  ordered : (calls.flatMap (Call.sent d)).Pairwise (fun x y => x.1 ≤ y.1)
  sent_le : ∀ entry ∈ calls.flatMap (Call.sent d), entry.1 ≤ (channel.env.episodeStep + d : ℤ)

theorem tracks_of_empty {d : ℕ} {channel : ExtraCommunicationDelays cfg G V}
    (h : channel.heap = #[]) : Tracks d [] channel := by
  refine ⟨?_, ?_, by simp, List.Pairwise.nil, by simp⟩
  · rw [h]
    exact List.Perm.nil
  · rw [h]
    exact fun j hj => absurd hj (Nat.not_lt_zero j)

/-- Later, with nothing sent in between. -/
theorem Tracks.later {d : ℕ} {calls : List (Call cfg V)}
    {channel after : ExtraCommunicationDelays cfg G V} (h : Tracks d calls channel)
    (hheap : after.heap = channel.heap) (hle : channel.env.episodeStep ≤ after.env.episodeStep)
    {call : Call cfg V} (hsent : call.sent d = []) (htime : call.time = none) :
    Tracks d (calls ++ [call]) after := by
  have hcalls : (calls ++ [call]).flatMap (Call.sent d) = calls.flatMap (Call.sent d) := by
    simp [hsent]
  have htimes : (calls ++ [call]).filterMap Call.time = calls.filterMap Call.time := by
    simp [htime]
  refine ⟨?_, hheap ▸ h.heaped, ?_, hcalls ▸ h.ordered, ?_⟩
  · rw [hheap, waiting, hcalls, htimes]
    exact h.heap
  · rw [htimes]
    exact fun time hmem => (h.times time hmem).trans hle
  · rw [hcalls]
    intro entry hentry
    have hold := h.sent_le entry hentry
    omega

/-- What waits after a call: what waited before and what it sends, unless it is due. -/
theorem waiting_snoc_send {d : ℕ} (hd : 0 < d) {calls : List (Call cfg V)} {now : ℕ}
    (htimes : ∀ time ∈ calls.filterMap Call.time, time ≤ now) (memory : Memory V)
    (messages forwarded : List Message) :
    waiting d (calls ++ [Call.send now memory messages forwarded])
      = (waiting d calls ++ messages.map (fun m => ((now + d : ℤ), m))).filter
          (fun entry => !decide (entry.1 ≤ (now : ℤ))) := by
  have hnew : (messages.map (fun m => ((now + d : ℤ), m))).filter
      (fun entry => decide (∀ time ∈ calls.filterMap Call.time, (time : ℤ) < entry.1))
        = messages.map (fun m => ((now + d : ℤ), m)) := by
    refine List.filter_eq_self.mpr (fun entry hentry => decide_eq_true (fun time htime => ?_))
    obtain ⟨m, -, rfl⟩ := List.mem_map.mp hentry
    have hle := htimes time htime
    show (time : ℤ) < now + d
    omega
  have hall : (calls ++ [Call.send now memory messages forwarded]).flatMap (Call.sent d)
      = calls.flatMap (Call.sent d) ++ messages.map (fun m => ((now + d : ℤ), m)) := by
    simp [Call.sent]
  have htime : (calls ++ [Call.send now memory messages forwarded]).filterMap Call.time
      = calls.filterMap Call.time ++ [now] := by
    simp [Call.time]
  rw [waiting, waiting, hall, htime]
  conv_rhs => rw [← hnew, ← List.filter_append, List.filter_filter]
  refine List.filter_congr (fun entry _ => ?_)
  rw [← decide_not, ← Bool.decide_and]
  refine decide_eq_decide.mpr ⟨fun h => ⟨?_, fun time htime => ?_⟩, fun h time htime => ?_⟩
  · exact not_le.mpr (h now (List.mem_append_right _ (List.mem_singleton.mpr rfl)))
  · exact h time (List.mem_append_left _ htime)
  · rcases List.mem_append.mp htime with htime | htime
    · exact h.2 time htime
    · obtain rfl := List.mem_singleton.mp htime
      exact not_le.mp h.1

/-! ## The specification -/

variable [Contents V]

/-- What is forwarded are the expected messages, each of them once, and in their order as far
as `==` can tell. -/
structure Forwards (memory : Memory V) (expected forwarded : List Message) : Prop where
  once : forwarded.Perm expected
  inOrder : List.Forall₂ (fun m m' => m.eq memory m' = .ok true) forwarded expected

/-- Every call forwards what was sent in the same episode and is due for the first time. -/
def Lossless (d : ℕ) (calls : List (Call cfg V)) : Prop :=
  ∀ before episodeStep memory messages forwarded after,
    calls = before ++ .send episodeStep memory messages forwarded :: after →
      Forwards memory (firstDue d (since Call.isReset before) episodeStep) forwarded

/-! ## One call -/

/-- The messages that wait in the heap for the current step or an earlier one. -/
def due (self : ExtraCommunicationDelays cfg G V) : List Message :=
  (self.heap.toList.filter (fun entry => decide (entry.1 ≤ (self.env.episodeStep : ℤ)))).map Prod.snd

/-- The messages in the heap and in the call that wait for one step are equal. -/
def Alike (channel : ExtraCommunicationDelays cfg G V) (messages : List Message) : Prop :=
  ∀ x ∈ channel.heap.toList ++ messages.map channel.stamp,
    ∀ y ∈ channel.heap.toList ++ messages.map channel.stamp,
      x.1 = y.1 → x.2.eq channel.env.mail.memory y.2 = .ok true

/-- The messages can be sent: those of the call are of one team, those in the heap and in the
call that wait for one step are equal, and those that are due are of one team and name agents. -/
structure Sendable (channel : ExtraCommunicationDelays cfg G V) (messages : List Message) : Prop where
  team : Mail.sameTeam messages
  alike : channel.Alike messages
  dueTeam : Mail.sameTeam channel.due
  indexable : ∀ m ∈ channel.due, m.Indexable cfg

theorem Alike.comparable {self : ExtraCommunicationDelays cfg G V} {messages : List Message}
    (h : self.Alike messages) : Comparable (less self.env.mail.memory) Prod.fst
      (self.heap ++ (messages.map self.stamp).toArray) := by
  intro x hx y hy
  rw [← Array.mem_toList_iff, Array.toList_append] at hx hy
  unfold less
  by_cases hsame : x.1 = y.1
  · rw [if_pos hsame, h x hx y hy hsame, hsame, decide_eq_false (lt_irrefl _)]
    rfl
  · rw [if_neg hsame]

/-- What the loops of a call do: the heap with the messages of the call, what is due of it,
and the rest. -/
structure Drains (before : ExtraCommunicationDelays cfg G V) (messages : List Message)
    (heap : Array (ℤ × Message)) (entries : List (ℤ × Message)) (rest : Array (ℤ × Message)) :
    Prop where
  pushed : heap.toList.Perm (before.heap.toList ++ messages.map before.stamp)
  popped : Popped Prod.fst (fun entry => decide (entry.1 ≤ (before.env.episodeStep : ℤ)))
    heap entries rest
  due : entries.Perm
    (before.heap.toList.filter (fun entry => decide (entry.1 ≤ (before.env.episodeStep : ℤ))))

/-- What a call does: what is due leaves the heap, and goes to the environment. -/
structure Sends (before : ExtraCommunicationDelays cfg G V) (messages forwarded : List Message)
    (after : ExtraCommunicationDelays cfg G V) : Prop where
  delay : after.delay = before.delay
  episodeStep : after.env.episodeStep = before.env.episodeStep
  drains : ∃ heap entries, before.Drains messages heap entries after.heap
    ∧ forwarded = entries.map Prod.snd

/-- The loops of a call return, and what is due leaves the heap. -/
theorem exists_popped {self : ExtraCommunicationDelays cfg G V} {messages : List Message}
    (h : self.Alike messages) (hheap : Heaped Prod.fst self.heap)
    (hlater : ∀ m ∈ messages, self.env.episodeStep < (self.stamp m).1) :
    ∃ heap entries rest,
      messages.foldlM (fun heap message => heappush (less self.env.mail.memory) heap
          (self.stamp message)) self.heap = .ok heap
        ∧ popWhile (less self.env.mail.memory)
            (fun entry => decide (entry.1 ≤ (self.env.episodeStep : ℤ))) heap = .ok (entries, rest)
        ∧ self.Drains messages heap entries rest := by
  obtain ⟨heap, hpush, hperm, hheaped⟩ := foldlM_heappush_returns (messages.map self.stamp)
    h.comparable hheap
  rw [List.foldlM_map] at hpush
  have hcomparable : Comparable (less self.env.mail.memory) Prod.fst heap := by
    refine h.comparable.of_subset (fun x hx => ?_)
    rw [← Array.mem_toList_iff, Array.toList_append]
    exact hperm.mem_iff.mp (Array.mem_toList_iff.mpr hx)
  obtain ⟨⟨entries, rest⟩, hpop, hpopped⟩ := popWhile_returns
    (fun x y hle hy => decide_eq_true (hle.trans (of_decide_eq_true hy))) hcomparable hheaped
  refine ⟨heap, entries, rest, hpush, hpop, hperm, hpopped, ?_⟩
  -- what is sent now is due later, so that what is due was in the heap before
  have hfilter := hpopped.perm_filter.trans (hperm.filter _)
  have hnew : (messages.map self.stamp).filter
      (fun entry => decide (entry.1 ≤ (self.env.episodeStep : ℤ))) = [] := by
    refine List.filter_eq_nil_iff.mpr (fun entry hentry => ?_)
    obtain ⟨m, hm, rfl⟩ := List.mem_map.mp hentry
    have hlt := hlater m hm
    rw [decide_eq_true_eq]
    omega
  rwa [List.filter_append, hnew, List.append_nil] at hfilter

theorem sendMessages_returns {self : ExtraCommunicationDelays cfg G V} {messages : List Message}
    (h : self.Sendable messages) (hheap : Heaped Prod.fst self.heap)
    (hlater : ∀ m ∈ messages, self.env.episodeStep < (self.stamp m).1) :
    Returns (self.sendMessages messages) (fun sent => self.Sends messages sent.1 sent.2) := by
  obtain ⟨heap, entries, rest, hpush, hpop, hdrains⟩ := exists_popped h.alike hheap hlater
  have hforwarded : (entries.map Prod.snd).Perm self.due := hdrains.due.map Prod.snd
  obtain ⟨mail, hmail⟩ := Mail.sendMessages_returns self.env.mail
    (fun m hm m' hm' => h.dueTeam m (hforwarded.mem_iff.mp hm) m' (hforwarded.mem_iff.mp hm'))
    (fun m hm => h.indexable m (hforwarded.mem_iff.mp hm))
  refine ⟨(entries.map Prod.snd, { self with heap := rest, env := { self.env with mail } }),
    ?_, rfl, rfl, heap, entries, hdrains, rfl⟩
  rw [sendMessages, if_pos h.team, hpush]
  simp only [bind, Except.bind, hpop, hmail]
  rfl

/-- Messages that are due for both teams are refused, whoever sends next. -/
theorem sendMessages_refused {self : ExtraCommunicationDelays cfg G V} {messages : List Message}
    (hteam : Mail.sameTeam messages) (h : self.Alike messages) (hheap : Heaped Prod.fst self.heap)
    (hlater : ∀ m ∈ messages, self.env.episodeStep < (self.stamp m).1)
    (hdue : ¬ Mail.sameTeam self.due) : self.sendMessages messages
      = .error (.assertionError "All messages must be from the same team.") := by
  obtain ⟨heap, entries, rest, hpush, hpop, hdrains⟩ := exists_popped h hheap hlater
  have hforwarded : (entries.map Prod.snd).Perm self.due := hdrains.due.map Prod.snd
  have hentries : ¬ Mail.sameTeam (entries.map Prod.snd) := by
    intro hsame
    exact hdue (fun m hm m' hm' =>
      hsame m (hforwarded.mem_iff.mpr hm) m' (hforwarded.mem_iff.mpr hm'))
  rw [sendMessages, if_pos hteam, hpush]
  simp only [bind, Except.bind, hpop, Mail.sendMessages, if_neg hentries]
  rfl

omit [Contents V] in
theorem stamp_constant {channel : ExtraCommunicationDelays cfg G V} {d : ℕ} {hd : 0 < d}
    (h : channel.delay = .constant d hd) :
    channel.stamp = fun m => ((channel.env.episodeStep + d : ℤ), m) := by
  funext m
  rw [stamp, h]

/-- **One call** forwards what is due for the first time, and the heap keeps the rest. -/
theorem Tracks.send {d : ℕ} {hd : 0 < d} {calls : List (Call cfg V)}
    {channel after : ExtraCommunicationDelays cfg G V} {messages forwarded : List Message}
    (h : Tracks d calls channel) (hdelay : channel.delay = .constant d hd)
    (hsendable : channel.Sendable messages) (hsends : channel.Sends messages forwarded after) :
    Tracks d (calls ++ [.send channel.env.episodeStep channel.env.mail.memory messages forwarded])
        after
      ∧ Forwards channel.env.mail.memory (firstDue d calls channel.env.episodeStep) forwarded := by
  -- what is popped is due, and the rest stays a heap
  obtain ⟨heap, entries, ⟨hperm, hpopped, hentries⟩, rfl⟩ := hsends.drains
  have hstep := hsends.episodeStep
  constructor
  · constructor
    · rw [waiting_snoc_send hd h.times, ← stamp_constant hdelay]
      exact (hpopped.rest_perm_filter.trans (hperm.filter _)).trans
        ((h.heap.append_right _).filter _)
    · exact hpopped.heaped
    · intro time htime
      rw [hstep]
      rw [List.filterMap_append] at htime
      rcases List.mem_append.mp htime with htime | htime
      · exact h.times time htime
      · obtain rfl : time = channel.env.episodeStep := by simpa [Call.time] using htime
        exact le_refl _
    · rw [List.flatMap_append]
      refine List.pairwise_append.mpr ⟨h.ordered, ?_, ?_⟩
      · rw [List.flatMap_singleton]
        exact List.pairwise_map.mpr (List.pairwise_of_forall (fun _ _ => le_refl _))
      · intro x hx y hy
        obtain ⟨m, -, rfl⟩ : ∃ m ∈ messages, ((channel.env.episodeStep + d : ℤ), m) = y := by
          simpa [Call.sent] using hy
        exact h.sent_le x hx
    · intro entry hentry
      rw [hstep]
      rw [List.flatMap_append] at hentry
      rcases List.mem_append.mp hentry with hentry | hentry
      · exact h.sent_le entry hentry
      · obtain ⟨m, -, rfl⟩ : ∃ m ∈ messages, ((channel.env.episodeStep + d : ℤ), m) = entry := by
          simpa [Call.sent] using hentry
        exact le_refl _
  · -- both lists are in the order of the due steps, and equal steps mean equal messages
    have hexpected := hentries.trans (h.heap.filter
      (fun entry => decide (entry.1 ≤ (channel.env.episodeStep : ℤ))))
    refine ⟨hexpected.map Prod.snd, ?_⟩
    have hordered : ((waiting d calls).filter
        (fun entry => decide (entry.1 ≤ (channel.env.episodeStep : ℤ)))).Pairwise
          (fun x y => x.1 ≤ y.1) := (h.ordered.filter _).filter _
    have hkeys := map_key_eq_of_perm hexpected hpopped.ordered hordered
    have hmem : ∀ x ∈ entries, x ∈ channel.heap.toList ++ messages.map channel.stamp :=
      fun x hx => List.mem_append_left _ (List.mem_of_mem_filter (hentries.mem_iff.mp hx))
    rw [firstDue, List.forall₂_map_left_iff, List.forall₂_map_right_iff]
    exact forall₂_of_map_key hkeys (fun x hx y hy hsame =>
      hsendable.alike x (hmem x hx) y (hmem y (hexpected.mem_iff.mpr hy)) hsame)

/-! ## Runs -/

theorem Lossless.snoc {d : ℕ} {calls : List (Call cfg V)} (h : Lossless d calls) {call : Call cfg V}
    (hcall : ∀ episodeStep memory messages forwarded,
      call = .send episodeStep memory messages forwarded →
        Forwards memory (firstDue d (since Call.isReset calls) episodeStep) forwarded) :
    Lossless d (calls ++ [call]) := by
  intro before episodeStep memory messages forwarded after hsplit
  rcases snoc_eq_append_cons hsplit with ⟨rfl, rfl, hlast⟩ | ⟨init, rfl, rfl⟩
  · exact hcall _ _ _ _ hlast
  · exact h before _ _ _ _ init rfl

variable [RandomState G] [SetOrder]

omit [Contents V] in
theorem next_episodeStep_le {env env' : Env cfg G V} {call : Env.Call cfg V}
    (h : Env.Next env call env') : env.episodeStep ≤ env'.episodeStep := by
  cases h with
  | step h =>
      obtain ⟨seen, s, hmoved, -, hfinish⟩ := Env.step_eq_ok h
      cases hfinish
      show env.episodeStep ≤ seen.episodeStep + 1
      rw [hmoved.episodeStep]
      exact Nat.le_succ _
  | send messages => exact le_refl _
  | receive h => exact le_refl _
  | write memory h => exact le_refl _

/-- What the call finds lets it be sent; other calls are not restricted. -/
def Meets (channel : ExtraCommunicationDelays cfg G V) : Call cfg V → Prop
  | .send _ _ messages _ => channel.Sendable messages
  | _ => True

/-- **A lossless channel.** In every run whose calls of `send_messages` find equal messages
behind equal due steps, and messages of one team that are due, no call raises, and everything
that is sent is forwarded exactly once, by the first call that finds it due, in sending order. -/
theorem delays_lossless {d : ℕ} {hd : 0 < d} {start channel : ExtraCommunicationDelays cfg G V}
    {calls : List (Call cfg V)} (hdelay : start.delay = .constant d hd) (hheap : start.heap = #[])
    (hrun : Run (fun c call c' => Next c call c' ∧ c.Meets call) start calls channel) :
    Lossless d calls
      ∧ ∀ messages, channel.Sendable messages →
          ∃ forwarded after, channel.sendMessages messages = .ok (forwarded, after) := by
  have hreturns : ∀ (c : ExtraCommunicationDelays cfg G V) messages, c.delay = .constant d hd →
      Heaped Prod.fst c.heap → c.Sendable messages →
        Returns (c.sendMessages messages) (fun sent => c.Sends messages sent.1 sent.2) := by
    intro c messages hc hheaped hsendable
    refine sendMessages_returns hsendable hheaped (fun m _ => ?_)
    rw [stamp_constant hc]
    show (c.env.episodeStep : ℤ) < c.env.episodeStep + d
    omega
  -- along the run: what is due so far has been forwarded, and the heap holds the rest
  have hinvariant : Lossless d calls ∧ channel.delay = .constant d hd
      ∧ Tracks d (since Call.isReset calls) channel := by
    refine hrun.induct (fun calls c => Lossless d calls ∧ c.delay = .constant d hd
      ∧ Tracks d (since Call.isReset calls) c) ⟨?_, hdelay, tracks_of_empty hheap⟩ ?_
    · intro before episodeStep memory messages forwarded after hsplit
      simp at hsplit
    rintro calls c call c' ⟨hlossless, hc, htracks⟩ ⟨hnext, hmeets⟩
    cases hnext with
    | reset h =>
        refine ⟨hlossless.snoc (fun _ _ _ _ hcall => by cases hcall), hc, ?_⟩
        rw [since_snoc_of_ends rfl]
        exact tracks_of_empty rfl
    | @send after messages forwarded h =>
        obtain ⟨sent, hsent, hsends⟩ := hreturns c messages hc htracks.heaped hmeets
        rw [h] at hsent
        cases hsent
        obtain ⟨htracks', hforwards⟩ := htracks.send hc hmeets hsends
        refine ⟨hlossless.snoc (fun _ _ _ _ hcall => ?_), hsends.delay.trans hc, ?_⟩
        · cases hcall
          exact hforwards
        · rw [since_snoc rfl]
          exact htracks'
    | other hcall h =>
        refine ⟨hlossless.snoc (fun _ _ _ _ hcall => by cases hcall), hc, ?_⟩
        rw [since_snoc rfl]
        refine htracks.later ?_ ?_ ?_ ?_
        · rfl
        · exact next_episodeStep_le h
        · rfl
        · rfl
  refine ⟨hinvariant.1, fun messages hsendable => ?_⟩
  obtain ⟨sent, hsent, -⟩ := hreturns channel messages hinvariant.2.1 hinvariant.2.2.heaped hsendable
  exact ⟨sent.1, sent.2, hsent⟩

omit [RandomState G] [SetOrder] in
/-- Two messages that differ cannot be sent in one call when nothing waits. -/
theorem sendMessages_typeError {self : ExtraCommunicationDelays cfg G V} {d : ℕ} {hd : 0 < d}
    (hdelay : self.delay = .constant d hd) (hheap : self.heap = #[]) {m m' : Message}
    {rest : List Message} (hteam : Mail.sameTeam (m :: m' :: rest))
    (hne : m'.eq self.env.mail.memory m = .ok false) :
    self.sendMessages (m :: m' :: rest)
      = .error (.typeError "'<' not supported between instances of 'Message' and 'Message'") := by
  have hfirst : heappush (less self.env.mail.memory) self.heap (self.stamp m)
      = .ok #[self.stamp m] := by
    rw [hheap, heappush, siftdown, dif_neg (fun h => absurd h.1 (Nat.lt_irrefl _))]
    rfl
  have hsecond : heappush (less self.env.mail.memory) #[self.stamp m] (self.stamp m')
      = .error (.typeError "'<' not supported between instances of 'Message' and 'Message'") := by
    rw [heappush, siftdown, dif_pos ⟨Nat.one_pos, Nat.lt_succ_self 1⟩]
    simp [less, stamp_constant hdelay, hne, bind, Except.bind, throw, throwThe,
      MonadExceptOf.throw]
  rw [sendMessages, if_pos hteam, List.foldlM_cons, hfirst]
  simp only [bind, Except.bind, List.foldlM_cons, hsecond]

omit [RandomState G] [SetOrder] [Contents V] in
/-- The only target sends a message to itself, which is not due yet. -/
theorem delays_lossless_solo :
    letI := Env.rotating
    letI := SetOrder.increasing
    letI : Contents Unit := ⟨fun _ _ => .ok true⟩
    ∃ (start channel :
        ExtraCommunicationDelays (Env.soloConfig (0, 0) 10 (by decide)) (Fin 4) Unit)
      (calls : List (Call (Env.soloConfig (0, 0) 10 (by decide)) Unit)),
      start.delay = .constant 3 (by decide) ∧ start.heap = #[]
        ∧ Run (fun c call c' => Next c call c' ∧ c.Meets call) start calls channel
        ∧ calls.length = 1
        ∧ Lossless 3 calls
        ∧ ∀ messages, channel.Sendable messages →
            ∃ forwarded after, channel.sendMessages messages = .ok (forwarded, after) := by
  let _ := Env.rotating
  let _ := SetOrder.increasing
  let _ : Contents Unit := ⟨fun _ _ => .ok true⟩
  obtain ⟨self, env, observations, reg, -, hreset⟩ :=
    Env.exists_solo_reset (0, 0) 10 (by decide) ⟨0, fun _ => ()⟩
  obtain ⟨start, hstart⟩ : ∃ start : ExtraCommunicationDelays _ _ _,
      start = ⟨env, .constant 3 (by decide), #[]⟩ := ⟨_, rfl⟩
  have hdelay : start.delay = .constant 3 (by decide) := by rw [hstart]
  have hheap : start.heap = #[] := by rw [hstart]
  -- nothing is due, and a single message is equal to itself
  have hsendable : start.Sendable [⟨0, some 0, 0, .target, false⟩] := by
    refine ⟨by decide, ?_, ?_, ?_⟩
    · intro x hx y hy _
      rw [hheap] at hx hy
      obtain rfl := List.mem_singleton.mp hx
      obtain rfl := List.mem_singleton.mp hy
      exact Message.eq_self _ _
    · rw [due, hheap]
      exact fun m hm => absurd hm List.not_mem_nil
    · rw [due, hheap]
      exact fun m hm => absurd hm List.not_mem_nil
  have hheaped : Heaped Prod.fst start.heap := by
    rw [hheap]
    exact fun j hj => absurd hj (Nat.not_lt_zero j)
  obtain ⟨⟨forwarded, channel⟩, hsent, -⟩ := sendMessages_returns hsendable hheaped
    (fun m _ => by rw [stamp_constant hdelay]; simp)
  have hrun : Run (fun c call c' => Next c call c' ∧ c.Meets call) start _ channel :=
    Run.single ⟨Next.send hsent, hsendable⟩
  obtain ⟨hlossless, hreturns⟩ := delays_lossless hdelay hheap hrun
  exact ⟨start, channel, _, hdelay, hheap, hrun, rfl, hlossless, hreturns⟩

omit [RandomState G] [SetOrder] [Contents V] in
/-- The only target sends two messages that differ, right after the reset. -/
theorem not_delays_lossless :
    letI := Env.rotating
    letI := SetOrder.increasing
    letI : Contents Unit := ⟨fun _ _ => .ok true⟩
    ∃ (self env : Env (Env.soloConfig (0, 0) 10 (by decide)) (Fin 4) Unit)
      (observations : Observations (Env.soloConfig (0, 0) 10 (by decide))) (reg : Registry)
      (start : ExtraCommunicationDelays (Env.soloConfig (0, 0) 10 (by decide)) (Fin 4) Unit)
      (messages : List Message),
      self.reset 2 none = .ok (observations, reg, env)
        ∧ start = ⟨env, .constant 3 (by decide), #[]⟩
        ∧ Mail.sameTeam messages
        ∧ (∀ m ∈ messages, m.Existing (Env.soloConfig (0, 0) 10 (by decide)))
        ∧ start.sendMessages messages = .error
            (.typeError "'<' not supported between instances of 'Message' and 'Message'") := by
  let _ := Env.rotating
  let _ := SetOrder.increasing
  let _ : Contents Unit := ⟨fun _ _ => .ok true⟩
  obtain ⟨self, env, observations, reg, -, hreset⟩ :=
    Env.exists_solo_reset (0, 0) 10 (by decide) ⟨0, fun _ => ()⟩
  refine ⟨self, env, observations, reg, _,
    [⟨0, some 0, 0, .target, false⟩, ⟨0, none, 0, .target, false⟩], hreset, rfl, by decide, ?_,
    sendMessages_typeError rfl rfl (by decide) rfl⟩
  intro m hm
  rcases List.mem_pair.mp hm with rfl | rfl
  · refine ⟨⟨⟨0, Nat.one_pos⟩, rfl⟩, fun r hr => ?_⟩
    cases hr
    exact ⟨⟨0, Nat.one_pos⟩, rfl⟩
  · exact ⟨⟨⟨0, Nat.one_pos⟩, rfl⟩, fun r hr => by cases hr⟩

end ExtraCommunicationDelays

end Mate
