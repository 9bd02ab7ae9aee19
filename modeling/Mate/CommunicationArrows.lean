import Mate.Delivery
import Mate.Wrappers.Communication

set_option autoImplicit false

/-! # The arrows of the communication channels

`RenderCommunication` looks at the buffers before every step, and counts down since the last message
of every sender to every recipient (`RenderCommunication.Counts`). So after every run an arrow is
drawn just for the messages of the last `duration` steps, and a step returns what the step of the
environment returns (`RenderCommunication.draws_recent_messages`).
-/

namespace Mate

open Fallible Runs

variable {cfg : Config} {G V : Type}

/-! ## All buffers -/

/-- The buffers, also those of agents that do not exist, have the messages of the open round. -/
structure Buffers (current : List (Env.Call cfg V)) (mail : Mail cfg V) : Prop where
  separate : mail.Separate
  addressed : ∀ m ∈ Env.routed current, m.Addressed cfg
  buffered : ∀ team r, mail.buffered team r = (Env.routed current).filter (Message.isFor team r)

theorem buffers_of_empty {mail : Mail cfg V} (h : ∀ team r, mail.buffer team r = none) :
    Buffers [] mail where
  separate := Mail.separate_of_empty h
  addressed := fun _ h => absurd h List.not_mem_nil
  buffered := by
    intro team r
    rw [Mail.buffered, h]
    rfl

section

variable [RandomState G] [SetOrder]

/-- A call that is no step. -/
theorem Buffers.next {current : List (Env.Call cfg V)} {self self' : Env cfg G V}
    {call : Env.Call cfg V} (h : Buffers current self.mail) (hnext : Env.Next self call self')
    (hcall : call.isStep = false) (hexisting : call.Existing) :
    Buffers (current ++ [call]) self'.mail := by
  have hidle : call.routed = [] → self'.mail.Separate →
      (∀ team r, self'.mail.buffered team r = self.mail.buffered team r) →
      Buffers (current ++ [call]) self'.mail := by
    intro hrouted hseparate hbuffered
    have hsame : Env.routed (current ++ [call]) = Env.routed current := by
      rw [Env.routed_snoc, hrouted, List.append_nil]
    refine ⟨hseparate, ?_, ?_⟩
    · rw [hsame]
      exact h.addressed
    · intro team r
      rw [hsame, hbuffered, h.buffered]
  cases hnext with
  | step h => cases hcall
  | send messages =>
      by_cases hteam : Mail.sameTeam messages
      · have haddressed : ∀ m ∈ (Mail.routeMessages cfg messages self.mail.memory).1,
            m.Addressed cfg := Mail.addressed_of_mem_routeMessages hexisting
        obtain ⟨mail', hpost, hposts⟩ := Mail.post_posts
          (Mail.routeMessages cfg messages self.mail.memory).1
          { self.mail with memory := (Mail.routeMessages cfg messages self.mail.memory).2 }
          ⟨h.separate.lt, h.separate.inj⟩ haddressed
        have hsend : self.mail.sendMessages messages = (.ok (), mail') := by
          rw [Mail.sendMessages, if_pos hteam]
          exact hpost
        have hrouted : self.mail.routed messages
            = (Mail.routeMessages cfg messages self.mail.memory).1 := by
          rw [Mail.routed, if_pos hteam]
        rw [hsend, hrouted]
        refine ⟨hposts.separate, ?_, ?_⟩
        · intro m hm
          rw [Env.routed_snoc] at hm
          rcases List.mem_append.mp hm with hm | hm
          · exact h.addressed m hm
          · exact haddressed m hm
        · intro team r
          rw [Env.routed_snoc, List.filter_append, ← h.buffered]
          exact hposts.buffered team r
      · rw [Mail.sendMessages, if_neg hteam, Mail.routed, if_neg hteam]
        rw [Mail.sendMessages, if_neg hteam, Mail.routed, if_neg hteam] at hidle
        exact hidle rfl h.separate (fun _ _ => rfl)
  | receive hreceive =>
      have heq := (Mail.receiveMessages_receives hreceive).eq
      refine hidle rfl ?_ ?_
      · show Mail.Separate _
        rw [heq]
        exact ⟨h.separate.lt, h.separate.inj⟩
      · intro team r
        show Mail.buffered _ team r = _
        rw [heq]
        rfl
  | write memory _ => exact hidle rfl ⟨h.separate.lt, h.separate.inj⟩ (fun _ _ => rfl)

end

namespace RenderCommunication

/-! ## Marks -/

/-- The message goes from `i` to `j`. -/
def goesTo {n : ℕ} (i j : Fin n) (m : Message) : Prop :=
  m.sender = (i : ℕ) ∧ m.recipient = some ((j : ℕ) : ℤ)

theorem mark_eq {team : Team} (self : RenderCommunication cfg G V) {m : Message}
    {i j : Fin (cfg.teamSize team)} (h : goesTo i j m) :
    mark team self m = .ok { self with
      commMatrix := Function.update self.commMatrix team (Function.update (self.commMatrix team) i
        (Function.update (self.commMatrix team i) j self.duration)) } := by
  obtain ⟨hsender, hrecipient⟩ := h
  unfold mark
  simp only [hsender, hrecipient, Mail.axisIndex_natCast]
  rfl

theorem goesTo_unique {n : ℕ} {i j i' j' : Fin n} {m : Message} (h : goesTo i j m)
    (h' : goesTo i' j' m) : i = i' ∧ j = j' := by
  have hsender : ((i : ℕ) : ℤ) = (i' : ℕ) := h.1.symm.trans h'.1
  have hrecipient : ((j : ℕ) : ℤ) = (j' : ℕ) := Option.some.inj (h.2.symm.trans h'.2)
  exact ⟨Fin.ext (by exact_mod_cast hsender), Fin.ext (by exact_mod_cast hrecipient)⟩

open Classical in
/-- What is in the matrix of a team when its buffers have been looked at. -/
theorem marks_returns (team : Team) (ms : List Message) (self : RenderCommunication cfg G V)
    (hms : ∀ m ∈ ms, m.team = team ∧ m.Addressed cfg) :
    Returns (ms.foldlM (mark team) self) (fun s => s.env = self.env ∧ s.duration = self.duration
      ∧ (∀ team' ≠ team, s.commMatrix team' = self.commMatrix team')
      ∧ ∀ i j, s.commMatrix team i j
        = if ∃ m ∈ ms, goesTo i j m then (self.duration : ℤ) else self.commMatrix team i j) := by
  induction ms generalizing self with
  | nil =>
      refine ⟨self, rfl, rfl, rfl, fun _ _ => rfl, fun i j => ?_⟩
      rw [if_neg]
      rintro ⟨m, hm, -⟩
      exact List.not_mem_nil hm
  | cons m ms ih =>
      obtain ⟨rfl, i, j, hsender, hrecipient⟩ := hms m List.mem_cons_self
      have hgoes : goesTo i j m := ⟨hsender, hrecipient⟩
      obtain ⟨s, hs, henv, hduration, hothers, hmatrix⟩ :=
        ih { self with
            commMatrix := Function.update self.commMatrix m.team
              (Function.update (self.commMatrix m.team) i
                (Function.update (self.commMatrix m.team i) j self.duration)) }
          (fun m' hm' => hms m' (List.mem_cons_of_mem _ hm'))
      refine ⟨s, ?_, henv, hduration, ?_, ?_⟩
      · rw [List.foldlM_cons, mark_eq self hgoes]
        exact hs
      · intro team' hne
        rw [hothers team' hne]
        exact Function.update_of_ne hne _ _
      · intro i' j'
        rw [hmatrix i' j']
        dsimp only
        rw [Function.update_self]
        by_cases hrest : ∃ m' ∈ ms, goesTo i' j' m'
        · obtain ⟨m', hm', hgoes'⟩ := hrest
          rw [if_pos ⟨m', hm', hgoes'⟩, if_pos ⟨m', List.mem_cons_of_mem _ hm', hgoes'⟩]
        · rw [if_neg hrest]
          by_cases hfirst : goesTo i' j' m
          · obtain ⟨rfl, rfl⟩ := goesTo_unique hgoes hfirst
            rw [if_pos ⟨m, List.mem_cons_self, hgoes⟩, Function.update_self, Function.update_self]
          · have hnone : ¬ ∃ m' ∈ m :: ms, goesTo i' j' m' := by
              rintro ⟨m', hm', hgoes'⟩
              rcases List.mem_cons.mp hm' with rfl | hm'
              · exact hfirst hgoes'
              · exact hrest ⟨m', hm', hgoes'⟩
            rw [if_neg hnone]
            by_cases hi : i' = i
            · subst hi
              have hj : j' ≠ j := fun hj => hfirst (hj ▸ hgoes)
              rw [Function.update_self, Function.update_of_ne hj]
            · rw [Function.update_of_ne hi]

/-- The message of a loop over all buffers of a team. -/
theorem exists_buffered_iff {current : List (Env.Call cfg V)} {mail : Mail cfg V}
    (h : Buffers current mail) {team : Team} {keys : List ℤ}
    (hkeys : ∀ r, r ∈ keys ↔ mail.buffer team r ≠ none) (i j : Fin (cfg.teamSize team)) :
    (∃ m ∈ keys.flatMap (fun r => mail.buffered team r), goesTo i j m)
      ↔ (Env.routed current).any (Message.goes team (i : ℕ) (j : ℕ)) = true := by
  rw [List.any_eq_true]
  constructor
  · rintro ⟨m, hm, hsender, hrecipient⟩
    obtain ⟨r, -, hm⟩ := List.mem_flatMap.mp hm
    rw [h.buffered] at hm
    obtain ⟨hm, hfor⟩ := List.mem_filter.mp hm
    exact ⟨m, hm, decide_eq_true ⟨(of_decide_eq_true hfor).1, hsender, hrecipient⟩⟩
  · rintro ⟨m, hm, hgoes⟩
    obtain ⟨hteam, hsender, hrecipient⟩ := of_decide_eq_true hgoes
    have hbuffered : m ∈ mail.buffered team (j : ℕ) := by
      rw [h.buffered]
      exact List.mem_filter.mpr ⟨hm, decide_eq_true ⟨hteam, hrecipient⟩⟩
    refine ⟨m, List.mem_flatMap.mpr ⟨(j : ℕ), ?_, hbuffered⟩, hsender, hrecipient⟩
    rw [hkeys]
    intro hnone
    rw [Mail.buffered, hnone] at hbuffered
    exact List.not_mem_nil hbuffered

theorem addressed_of_mem_buffers {current : List (Env.Call cfg V)} {mail : Mail cfg V}
    (h : Buffers current mail) (team : Team) (keys : List ℤ) :
    ∀ m ∈ keys.flatMap (fun r => mail.buffered team r), m.team = team ∧ m.Addressed cfg := by
  intro m hm
  obtain ⟨r, -, hm⟩ := List.mem_flatMap.mp hm
  rw [h.buffered] at hm
  obtain ⟨hm, hfor⟩ := List.mem_filter.mp hm
  exact ⟨(of_decide_eq_true hfor).1, h.addressed m hm⟩

/-! ## Counting down -/

/-- How long an arrow from `i` to `j` is still to be shown, after the finished rounds. -/
def remaining (duration : ℕ) (done : List (List (Env.Call cfg V))) (team : Team) (i j : ℕ) : ℤ :=
  match done.reverse.findIdx? (fun round => (Env.routed round).any (Message.goes team i j)) with
  | some k => max (duration - k) 0
  | none => 0

theorem remaining_concat (duration : ℕ) (done : List (List (Env.Call cfg V)))
    (current : List (Env.Call cfg V)) (team : Team) (i j : ℕ) :
    remaining duration (done ++ [current]) team i j
      = if (Env.routed current).any (Message.goes team i j) then (duration : ℤ)
        else max (remaining duration done team i j - 1) 0 := by
  unfold remaining
  rw [List.reverse_append, List.reverse_singleton, List.singleton_append, List.findIdx?_cons]
  cases (Env.routed current).any (Message.goes team i j) with
  | true =>
      show max ((duration : ℤ) - (0 : ℕ)) 0 = _
      rw [if_pos rfl, Nat.cast_zero, sub_zero]
      exact max_eq_left (Int.natCast_nonneg duration)
  | false =>
      cases done.reverse.findIdx? (fun round => (Env.routed round).any (Message.goes team i j)) with
      | none => rfl
      | some k =>
          show max ((duration : ℤ) - (k + 1 : ℕ)) 0 = max (max ((duration : ℤ) - k) 0 - 1) 0
          push_cast
          omega

/-- It is shown after a message of one of the last `duration` rounds. -/
theorem remaining_pos_iff (duration : ℕ) (done : List (List (Env.Call cfg V))) (team : Team)
    (i j : ℕ) : 0 < remaining duration done team i j
      ↔ ∃ round ∈ done.reverse.take duration,
        (Env.routed round).any (Message.goes team i j) = true := by
  unfold remaining
  constructor
  · intro hpos
    cases hfind : done.reverse.findIdx?
        (fun round => (Env.routed round).any (Message.goes team i j)) with
    | none =>
        rw [hfind] at hpos
        exact absurd hpos (lt_irrefl 0)
    | some k =>
        rw [hfind] at hpos
        have hk : k < duration := by
          dsimp only at hpos
          omega
        obtain ⟨hlt, hgoes, -⟩ := List.findIdx?_eq_some_iff_getElem.mp hfind
        refine ⟨done.reverse[k], List.mem_take_iff_getElem.mpr ⟨k, ?_, rfl⟩, hgoes⟩
        exact lt_min hk hlt
  · rintro ⟨round, hmem, hgoes⟩
    obtain ⟨k, hk, rfl⟩ := List.mem_take_iff_getElem.mp hmem
    cases hfind : done.reverse.findIdx?
        (fun round => (Env.routed round).any (Message.goes team i j)) with
    | none =>
        have hnone := List.findIdx?_eq_none_iff.mp hfind _ (List.getElem_mem (hk.trans_le
          (min_le_right _ _)))
        rw [hgoes] at hnone
        cases hnone
    | some k' =>
        obtain ⟨hlt, -, hfirst⟩ := List.findIdx?_eq_some_iff_getElem.mp hfind
        have hle : k' ≤ k := by
          by_contra hnot
          exact hfirst k (not_le.mp hnot) hgoes
        have hlt' : k < duration := hk.trans_le (min_le_left _ _)
        dsimp only
        omega

theorem mem_arrows {channel : RenderCommunication cfg G V} {team : Team} {arrow : Arrow} :
    arrow ∈ channel.arrows team ↔ ∃ i j : Fin (cfg.teamSize team),
      (0 < channel.commMatrix team i j
        ∧ channel.env.locationOf team j - channel.env.locationOf team i ≠ 0)
      ∧ (⟨i, j, min 1 (12 / 10 * channel.commMatrix team i j / channel.duration),
        decide (0 < channel.commMatrix team j i)⟩ : Arrow) = arrow := by
  unfold arrows
  simp only [List.mem_flatMap, List.mem_filterMap, List.mem_finRange, true_and,
    Option.ite_none_right_eq_some, Option.some.injEq]

/-! ## Every run -/

/-- The matrices after the finished rounds `done` and the calls `current` since then. -/
structure Counts (done : List (List (Env.Call cfg V))) (current : List (Env.Call cfg V))
    (channel : RenderCommunication cfg G V) : Prop where
  buffers : Buffers current channel.env.mail
  matrix : ∀ team i j,
    channel.commMatrix team i j = remaining channel.duration done team (i : ℕ) (j : ℕ)

variable [RandomState G] [SetOrder]

/-- **A step** does what the step of the environment does, and brings the matrices up to date. -/
theorem Counts.step_eq {done : List (List (Env.Call cfg V))} {current : List (Env.Call cfg V)}
    {self : RenderCommunication cfg G V} (h : Counts done current self) {keys : Team → List ℤ}
    (hkeys : ∀ team r, r ∈ keys team ↔ self.env.mail.buffer team r ≠ none) (reg : Registry)
    (cameraJointAction : Fin cfg.numCameras → ℝ × ℝ) (targetJointAction : Fin cfg.numTargets → ℂ) :
    ∃ matrix : (team : Team) → Fin (cfg.teamSize team) → Fin (cfg.teamSize team) → ℤ,
      (∀ team i j,
        matrix team i j = remaining self.duration (done ++ [current]) team (i : ℕ) (j : ℕ))
      ∧ self.step keys reg cameraJointAction targetJointAction
        = (self.env.step reg cameraJointAction targetJointAction).map
          (fun r => (r.1, { self with env := r.2, commMatrix := matrix })) := by
  obtain ⟨first, hfirst, henv, hduration, hothers, hcamera⟩ := marks_returns .camera _ self.fade
    (addressed_of_mem_buffers h.buffers .camera (keys .camera))
  obtain ⟨second, hsecond, henv', hduration', hothers', htarget⟩ := marks_returns .target _ first
    (addressed_of_mem_buffers h.buffers .target (keys .target))
  have hfaded : ∀ team (i j : Fin (cfg.teamSize team)), (if (Env.routed current).any (Message.goes team (i : ℕ) (j : ℕ)) then
      (self.duration : ℤ) else self.fade.commMatrix team i j)
        = remaining self.duration (done ++ [current]) team (i : ℕ) (j : ℕ) := by
    intro team i j
    rw [remaining_concat, ← h.matrix team i j]
    rfl
  classical
  refine ⟨second.commMatrix, ?_, ?_⟩
  · intro team i j
    rw [← hfaded]
    cases team with
    | camera =>
        rw [hothers' .camera (by decide), hcamera i j]
        exact if_congr (exists_buffered_iff h.buffers (hkeys .camera) i j) rfl rfl
    | target =>
        rw [htarget i j, hduration, hothers .target (by decide)]
        exact if_congr (exists_buffered_iff h.buffers (hkeys .target) i j) rfl rfl
  · have hboth : self.step keys reg cameraJointAction targetJointAction
        = (self.env.step reg cameraJointAction targetJointAction).map
          (fun r => (r.1, { second with env := r.2 })) := by
      have hcameras : self.fade.markAll .camera (keys .camera) = .ok first := hfirst
      have htargets : first.markAll .target (keys .target) = .ok second := by
        unfold markAll
        rw [henv]
        exact hsecond
      unfold step
      rw [hcameras]
      show (first.markAll .target (keys .target) >>= _) = _
      rw [htargets]
      show (second.env.step reg cameraJointAction targetJointAction >>= _) = _
      rw [henv', henv]
      show (self.env.step reg cameraJointAction targetJointAction >>= _) = _
      cases self.env.step reg cameraJointAction targetJointAction with
      | error e => rfl
      | ok r => rfl
    have hsame : ∀ env : Env cfg G V,
        { second with env := env } = { self with env := env, commMatrix := second.commMatrix } := by
      obtain ⟨env', duration', hpos', matrix'⟩ := second
      obtain rfl : duration' = self.duration := hduration'.trans hduration
      exact fun env => rfl
    rw [hboth]
    simp only [hsame]

theorem Counts.next {done : List (List (Env.Call cfg V))} {current : List (Env.Call cfg V)}
    {self self' : RenderCommunication cfg G V} {call : Env.Call cfg V} (h : Counts done current self)
    (hnext : Next self call self') (hcall : call.isStep = false) (hexisting : call.Existing) :
    Counts done (current ++ [call]) self' ∧ self'.duration = self.duration := by
  cases hnext with
  | step _ _ => cases hcall
  | other _ hnext => exact ⟨⟨h.buffers.next hnext hcall hexisting, h.matrix⟩, rfl⟩

theorem Counts.step {done : List (List (Env.Call cfg V))} {current : List (Env.Call cfg V)}
    {self self' : RenderCommunication cfg G V} {call : Env.Call cfg V} (h : Counts done current self)
    (hnext : Next self call self') (hcall : call.isStep = true) :
    Counts (done ++ [current]) [] self' ∧ self'.duration = self.duration := by
  cases hnext with
  | @step _ keys reg a b result hkeys hstep =>
      obtain ⟨matrix, hmatrix, heq⟩ := h.step_eq hkeys reg a b
      rw [heq] at hstep
      cases henv : self.env.step reg a b with
      | error e =>
          rw [henv] at hstep
          cases hstep
      | ok r =>
          rw [henv] at hstep
          cases hstep
          obtain ⟨mail, -, hmail, -⟩ := Env.step_mail h.buffers.separate henv
          refine ⟨⟨?_, hmatrix⟩, rfl⟩
          show Buffers [] r.2.mail
          rw [hmail]
          exact buffers_of_empty (fun _ _ => rfl)
  | other hnot _ =>
      rw [hcall] at hnot
      cases hnot

/-- **Arrows are drawn for recent messages.** In every run from a reset in which senders and
recipients exist, and whatever the order of the buffers is: an arrow is drawn between two agents of a
team at different places if and only if a message went from the first to the second in one of the last
`duration` steps; it points both ways if another went back, and fades with the steps since then. And
a step returns what the step of the environment returns. -/
theorem draws_recent_messages {fuel : ℕ} {seed : Option ℕ}
    {self start channel : RenderCommunication cfg G V} {observations : Observations cfg}
    {reg : Registry} {calls : List (Env.Call cfg V)}
    (hreset : self.reset fuel seed = .ok (observations, reg, start))
    (hrun : Run Next start calls channel) (hexisting : ∀ call ∈ calls, call.Existing) :
    (∀ team i j, channel.commMatrix team i j
        = remaining self.duration (rounds Env.Call.isStep calls) team (i : ℕ) (j : ℕ))
      ∧ (∀ team arrow, arrow ∈ channel.arrows team ↔ ∃ i j : Fin (cfg.teamSize team),
        (∃ round ∈ (rounds Env.Call.isStep calls).reverse.take self.duration,
          (Env.routed round).any (Message.goes team (i : ℕ) (j : ℕ)) = true)
        ∧ channel.env.locationOf team i ≠ channel.env.locationOf team j
        ∧ arrow.sender = i ∧ arrow.recipient = j
        ∧ arrow.alpha = min 1 (12 / 10 * (remaining self.duration (rounds Env.Call.isStep calls)
          team (i : ℕ) (j : ℕ) : ℚ) / self.duration)
        ∧ (arrow.bidirectional = true
          ↔ ∃ round ∈ (rounds Env.Call.isStep calls).reverse.take self.duration,
            (Env.routed round).any (Message.goes team (j : ℕ) (i : ℕ)) = true))
      ∧ ∀ keys reg' cameraJointAction targetJointAction,
        (∀ team r, r ∈ keys team ↔ channel.env.mail.buffer team r ≠ none) →
        (channel.step keys reg' cameraJointAction targetJointAction).map (fun r => (r.1, r.2.env))
          = channel.env.step reg' cameraJointAction targetJointAction := by
  have hend : Counts (rounds Env.Call.isStep calls) (since Env.Call.isStep calls) channel
      ∧ channel.duration = self.duration := by
    obtain ⟨⟨observations', reg', env⟩, henv, hreset⟩ := bind_eq_ok.mp hreset
    cases hreset
    obtain ⟨mail, hmail⟩ := Env.reset_mail henv
    refine hrun.rounds_invariant (P := Env.Call.Existing)
      (fun (done : List (List (Env.Call cfg V))) (current : List (Env.Call cfg V))
        (s : RenderCommunication cfg G V) => Counts done current s ∧ s.duration = self.duration)
      ⟨⟨?_, fun _ _ _ => ?_⟩, ?_⟩ ?_ ?_ hexisting
    · show Buffers [] env.mail
      rw [hmail]
      exact buffers_of_empty (fun _ _ => rfl)
    · rfl
    · rfl
    · rintro done current s call s' hcall - ⟨hs, hduration⟩ hnext
      obtain ⟨hs', hduration'⟩ := hs.step hnext hcall
      exact ⟨hs', hduration'.trans hduration⟩
    · rintro done current s call s' hcall hex ⟨hs, hduration⟩ hnext
      obtain ⟨hs', hduration'⟩ := hs.next hnext hcall hex
      exact ⟨hs', hduration'.trans hduration⟩
  obtain ⟨hcounts, hduration⟩ := hend
  have hmatrix : ∀ team i j, channel.commMatrix team i j
      = remaining self.duration (rounds Env.Call.isStep calls) team (i : ℕ) (j : ℕ) := by
    intro team i j
    rw [hcounts.matrix, hduration]
  refine ⟨hmatrix, ?_, ?_⟩
  · intro team arrow
    rw [mem_arrows]
    refine exists_congr (fun i => exists_congr (fun j => ?_))
    rw [hmatrix, hmatrix, hduration, remaining_pos_iff, sub_ne_zero]
    constructor
    · rintro ⟨⟨hrecent, hapart⟩, rfl⟩
      exact ⟨hrecent, hapart.symm, rfl, rfl, rfl, decide_eq_true_iff.trans (remaining_pos_iff _ _ _ _ _)⟩
    · rintro ⟨hrecent, hapart, hsender, hrecipient, halpha, hback⟩
      refine ⟨⟨hrecent, hapart.symm⟩, ?_⟩
      obtain ⟨sender, recipient, alpha, bidirectional⟩ := arrow
      obtain rfl : sender = i := hsender
      obtain rfl : recipient = j := hrecipient
      obtain rfl : alpha = _ := halpha
      have hflag : decide (0 < remaining self.duration (rounds Env.Call.isStep calls) team
          (j : ℕ) (i : ℕ)) = bidirectional := by
        rw [Bool.eq_iff_iff, hback, decide_eq_true_iff, remaining_pos_iff]
      rw [hflag]
  · intro keys reg' a b hkeys
    obtain ⟨matrix, -, heq⟩ := hcounts.step_eq hkeys reg' a b
    rw [heq]
    cases channel.env.step reg' a b with
    | error e => rfl
    | ok r => rfl

/-! ## One target -/

omit [RandomState G] [SetOrder] in
/-- The only target sends to its team, and then there is a step. -/
theorem draws_recent_messages_solo :
    letI := Env.rotating
    letI := SetOrder.increasing
    ∃ (self start channel : RenderCommunication (Env.soloConfig (0, 0) 10 (by decide)) (Fin 4) Unit)
      (observations : Observations (Env.soloConfig (0, 0) 10 (by decide))) (reg : Registry)
      (calls : List (Env.Call (Env.soloConfig (0, 0) 10 (by decide)) Unit)),
      self.reset 2 none = .ok (observations, reg, start) ∧ Run Next start calls channel
        ∧ (∀ call ∈ calls, call.Existing)
        ∧ channel.commMatrix .target ⟨0, Nat.one_pos⟩ ⟨0, Nat.one_pos⟩ = 20 := by
  let _ := Env.rotating
  let _ := SetOrder.increasing
  obtain ⟨env, start, observations, reg, -, hreset⟩ :=
    Env.exists_solo_reset (0, 0) 10 (by decide) ⟨0, fun _ => ()⟩
  obtain ⟨mail, hmail⟩ := Env.reset_mail hreset
  have hbuffer : (start.mail.sendMessages [⟨0, none, 0, .target, false⟩]).2.buffer
      = Function.update (fun _ _ => none) .target
        (Function.update (fun _ => none) 0 (some mail.reset.nextList)) := by
    rw [hmail]
    rfl
  have hkeys : ∀ team r, r ∈ (if team = .target then [(0 : ℤ)] else [])
      ↔ (start.mail.sendMessages [⟨0, none, 0, .target, false⟩]).2.buffer team r ≠ none := by
    intro team r
    rw [hbuffer]
    cases team with
    | camera => simp
    | target =>
        by_cases hr : r = 0
        · simp [hr]
        · simp [hr]
  have hexisting : ∀ call ∈ [Env.Call.send [⟨0, none, 0, .target, false⟩]
      (start.mail.routed [⟨0, none, 0, .target, false⟩])
      (start.mail.sendMessages [⟨0, none, 0, .target, false⟩]).1],
      (call : Env.Call (Env.soloConfig (0, 0) 10 (by decide)) Unit).Existing := by
    intro call hcall
    obtain rfl := List.mem_singleton.mp hcall
    intro m hm
    obtain rfl := List.mem_singleton.mp hm
    exact ⟨⟨⟨0, Nat.one_pos⟩, rfl⟩, fun r hr => by cases hr⟩
  -- the environment sends and steps
  have hsend : Env.Next start _ _ := Env.Next.send [⟨0, none, 0, .target, false⟩]
  have hvalid := (Env.run_consistent (Env.reset_consistent hreset) (Run.single hsend)).valid
  obtain ⟨⟨result, after⟩, hstep, -⟩ := Env.step_returns
    (rfl : (Env.soloConfig (0, 0) 10 (by decide)).numCameras = 0) reg hvalid (fun _ => (0, 0))
    (fun _ => 1)
  -- and so does the wrapper
  have hbefore : Counts [] [] (⟨start, 20, by decide, fun _ _ _ => 0⟩ :
      RenderCommunication (Env.soloConfig (0, 0) 10 (by decide)) (Fin 4) Unit) := by
    refine ⟨?_, fun _ _ _ => rfl⟩
    show Buffers [] start.mail
    rw [hmail]
    exact buffers_of_empty (fun _ _ => rfl)
  have hfirst : Next (⟨start, 20, by decide, fun _ _ _ => 0⟩ :
      RenderCommunication (Env.soloConfig (0, 0) 10 (by decide)) (Fin 4) Unit) _ _ :=
    Next.other rfl hsend
  have hsent := (hbefore.next hfirst rfl (hexisting _ (List.mem_singleton.mpr rfl))).1
  obtain ⟨matrix, -, heq⟩ := hsent.step_eq hkeys reg (fun _ => (0, 0)) (fun _ => 1)
  rw [hstep] at heq
  have hrun := (Run.single hfirst).snoc (Next.step hkeys heq)
  have hlast : (Env.Call.step reg (fun _ => (0, 0)) (fun _ => 1) result :
      Env.Call (Env.soloConfig (0, 0) 10 (by decide)) Unit).Existing := trivial
  have hall := List.forall_mem_append.mpr ⟨hexisting, List.forall_mem_singleton.mpr hlast⟩
  have hwrapped : RenderCommunication.reset 2 none (⟨env, 20, by decide, fun _ _ _ => 0⟩ :
      RenderCommunication (Env.soloConfig (0, 0) 10 (by decide)) (Fin 4) Unit)
      = .ok (observations, reg, ⟨start, 20, by decide, fun _ _ _ => 0⟩) := by
    unfold RenderCommunication.reset
    rw [hreset]
    rfl
  refine ⟨_, _, _, observations, reg, _, hwrapped, hrun, hall, ?_⟩
  rw [(draws_recent_messages hwrapped hrun hall).1]
  rfl

end RenderCommunication

end Mate
