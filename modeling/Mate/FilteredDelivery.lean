import Mate.Delivery
import Mate.Wrappers.Communication

set_option autoImplicit false

/-! # Delivery through filters

A filter may draw random numbers and write into the contents of messages; it is quiet
(`MessageFilter.IsQuiet`) when it leaves everything else of the environment alone. Under any stack
of quiet filters the messages that pass all of them are delivered exactly once, and no others
(`FilteredChannel.filters_deliver_once`). A stack of filters that decide by the environment alone is
one filter, which asks for all their conditions (`FilteredChannel.sendMessages_of_decides`).
-/

namespace Mate

open Fallible Runs

variable {cfg : Config} {G V : Type}

/-! ## Routing twice -/

/-- Messages with recipients are routed as they are. -/
theorem Mail.routeMessages_of_recipients {ms : List Message} (memory : Memory V)
    (h : ∀ m ∈ ms, ∃ r, m.recipient = some r) : Mail.routeMessages cfg ms memory = (ms, memory) := by
  induction ms with
  | nil => rfl
  | cons m rest ih =>
      obtain ⟨r, hr⟩ := h m List.mem_cons_self
      simp only [Mail.routeMessages, hr, ih (fun m hm => h m (List.mem_cons_of_mem _ hm)),
        List.singleton_append]

/-- Routing allocates contents, and frees none. -/
theorem Mail.copies_next (m : Message) (rs : List ℕ) (memory : Memory V) :
    memory.next ≤ (Mail.copies m rs memory).2.next := by
  induction rs generalizing memory with
  | nil => exact le_rfl
  | cons r rest ih => exact (Nat.le_succ _).trans (ih (memory.deepcopy m.content).2)

theorem Mail.routeMessages_next (ms : List Message) (memory : Memory V) :
    memory.next ≤ (Mail.routeMessages cfg ms memory).2.next := by
  induction ms generalizing memory with
  | nil => exact le_rfl
  | cons m rest ih =>
      cases hrecipient : m.recipient with
      | some r =>
          simp only [Mail.routeMessages, hrecipient]
          exact ih memory
      | none =>
          simp only [Mail.routeMessages, hrecipient]
          exact (Mail.copies_next m _ memory).trans (ih _)

theorem Message.Addressed.existing {m : Message} (h : m.Addressed cfg) : m.Existing cfg := by
  obtain ⟨i, j, hsender, hrecipient⟩ := h
  refine ⟨⟨i, hsender⟩, fun r hr => ⟨j, ?_⟩⟩
  exact Option.some.inj (hr.symm.trans hrecipient)

/-! ## Quiet filters -/

/-- The generator has been used and contents may be other ones, and nothing else. -/
def Env.Quiet (env env' : Env cfg G V) : Prop :=
  ∃ rng memory, env.mail.memory.next ≤ memory.next
    ∧ env' = { env with rng, mail := { env.mail with memory } }

theorem Env.Quiet.refl (env : Env cfg G V) : env.Quiet env := ⟨env.rng, env.mail.memory, le_rfl, rfl⟩

theorem Env.Quiet.trans {env env' env'' : Env cfg G V} (h : env.Quiet env') (h' : env'.Quiet env'') :
    env.Quiet env'' := by
  obtain ⟨rng, memory, hnext, rfl⟩ := h
  obtain ⟨rng', memory', hnext', rfl⟩ := h'
  exact ⟨rng', memory', hnext.trans hnext', rfl⟩

theorem Env.Quiet.delivered {env env' : Env cfg G V} (h : env.Quiet env')
    {done : List (List (Env.Call cfg V))} {current : List (Env.Call cfg V)}
    (hmail : Env.Delivered done current env.mail) : Env.Delivered done current env'.mail := by
  obtain ⟨rng, memory, -, rfl⟩ := h
  exact hmail.write memory

namespace MessageFilter

def IsQuiet (f : MessageFilter cfg G V) : Prop :=
  ∀ (m : Message) (env : Env cfg G V), env.Quiet (f m env).2

/-- The filter lets the message through, in `env` or after some draws and writes. -/
def Allows (f : MessageFilter cfg G V) (env : Env cfg G V) (m : Message) : Prop :=
  ∃ env' : Env cfg G V, env.Quiet env' ∧ (f m env').1 = .ok true

/-- The answers of the filter are those of a predicate, and it leaves the environment alone. -/
def Decides (f : MessageFilter cfg G V) (p : Env cfg G V → Message → Bool) : Prop :=
  ∀ (m : Message) (env : Env cfg G V), m.Addressed cfg → f m env = (.ok (p env m), env)

theorem IsQuiet.forall_mem_singleton {f : MessageFilter cfg G V} (h : f.IsQuiet) :
    ∀ g ∈ [f], IsQuiet g := by
  intro g hg
  rw [List.mem_singleton.mp hg]
  exact h

theorem Allows.of_quiet {f : MessageFilter cfg G V} {env env' : Env cfg G V} {m : Message}
    (hquiet : env.Quiet env') (h : f.Allows env' m) : f.Allows env m := by
  obtain ⟨env'', hquiet', hf⟩ := h
  exact ⟨env'', hquiet.trans hquiet', hf⟩

end MessageFilter

/-! ### The filters of the repository -/

theorem RestrictedCommunicationRange.filter_quiet (rangeLimit : ℝ) :
    (filter rangeLimit : MessageFilter cfg G V).IsQuiet := by
  intro m env
  exact Env.Quiet.refl env

theorem RandomMessageDropout.filter_quiet [RandomState G] (dropoutRate : ℝ) :
    (filter dropoutRate : MessageFilter cfg G V).IsQuiet := by
  intro m env
  exact ⟨(RandomState.binomial dropoutRate env.rng).2, env.mail.memory, le_rfl, rfl⟩

theorem NoCommunication.filter_quiet (muted : MutedTeam) :
    (filter muted : MessageFilter cfg G V).IsQuiet := by
  intro m env
  exact Env.Quiet.refl env

theorem NoCommunication.filter_decides (muted : MutedTeam) :
    (filter muted : MessageFilter cfg G V).Decides (fun _ m => !muted.mutes m.team) := by
  intro m env _
  rfl

/-- The agents are at most `rangeLimit` apart. -/
noncomputable def Env.inRange (rangeLimit : ℝ) (env : Env cfg G V) (m : Message) : Bool :=
  match axisIndex (cfg.teamSize m.team) m.sender,
      axisIndex (cfg.teamSize m.team) (m.recipient.getD 0) with
  | .ok i, .ok j => decide (‖env.locationOf m.team j - env.locationOf m.team i‖ ≤ rangeLimit)
  | _, _ => false

theorem RestrictedCommunicationRange.filter_decides (rangeLimit : ℝ) :
    (filter rangeLimit : MessageFilter cfg G V).Decides (Env.inRange rangeLimit) := by
  rintro m env ⟨i, j, hsender, hrecipient⟩
  simp only [filter, Env.inRange, listIndex, hsender, hrecipient, Option.getD_some,
    Mail.axisIndex_natCast]
  rfl

namespace FilteredChannel

/-! ## What passes a filter -/

theorem filterMessages_quiet {f : MessageFilter cfg G V} (hquiet : f.IsQuiet) (ms : List Message)
    (env : Env cfg G V) : env.Quiet (filterMessages f ms env).2 := by
  induction ms generalizing env with
  | nil => exact Env.Quiet.refl _
  | cons m rest ih =>
      have hfirst := hquiet m env
      unfold filterMessages
      cases hanswer : f m env with
      | mk answer env₁ =>
        rw [hanswer] at hfirst
        cases answer with
        | error e => exact hfirst
        | ok keep =>
            have hrest := ih env₁
            cases hothers : filterMessages f rest env₁ with
            | mk result env₂ =>
              rw [hothers] at hrest
              simp only [hothers]
              cases result with
              | error e => exact hfirst.trans hrest
              | ok others => exact hfirst.trans hrest

/-- What a quiet filter lets through. -/
theorem filterMessages_spec {f : MessageFilter cfg G V} (hquiet : f.IsQuiet) {ms kept : List Message}
    {env env' : Env cfg G V} (h : filterMessages f ms env = (.ok kept, env')) :
    kept.Sublist ms ∧ ∀ m ∈ kept, f.Allows env m := by
  induction ms generalizing env kept with
  | nil =>
      cases h
      exact ⟨List.Sublist.refl _, fun m hm => absurd hm List.not_mem_nil⟩
  | cons m rest ih =>
      have hfirst := hquiet m env
      unfold filterMessages at h
      cases hanswer : f m env with
      | mk answer env₁ =>
        rw [hanswer] at h hfirst
        cases answer with
        | error e => cases h
        | ok keep =>
            cases hrest : filterMessages f rest env₁ with
            | mk result env₂ =>
              simp only [hrest] at h
              cases result with
              | error e => cases h
              | ok others =>
                  cases h
                  obtain ⟨hsublist, hallows⟩ := ih hrest
                  have hothers : ∀ m' ∈ others, f.Allows env m' :=
                    fun m' hm' => (hallows m' hm').of_quiet hfirst
                  cases keep with
                  | true =>
                      refine ⟨hsublist.cons_cons m, List.forall_mem_cons.mpr ⟨?_, hothers⟩⟩
                      exact ⟨env, Env.Quiet.refl env, congrArg Prod.fst hanswer⟩
                  | false => exact ⟨hsublist.cons m, hothers⟩

theorem filterMessages_of_decides {f : MessageFilter cfg G V} {p : Env cfg G V → Message → Bool}
    (hdecides : f.Decides p) {ms : List Message} (env : Env cfg G V)
    (hms : ∀ m ∈ ms, m.Addressed cfg) :
    filterMessages f ms env = (.ok (ms.filter (p env)), env) := by
  induction ms with
  | nil => rfl
  | cons m rest ih =>
      unfold filterMessages
      rw [hdecides m env (hms m List.mem_cons_self)]
      simp only [ih (fun m hm => hms m (List.mem_cons_of_mem _ hm))]
      cases hp : p env m with
      | true => rw [List.filter_cons_of_pos hp, if_pos rfl]
      | false => rw [List.filter_cons_of_neg (hp ▸ Bool.false_ne_true), if_neg Bool.false_ne_true]

/-! ## What passes all filters -/

/-- The environment after the first routing. -/
def routes (env : Env cfg G V) (messages : List Message) : Env cfg G V :=
  { env with
    mail := { env.mail with memory := (Mail.routeMessages cfg messages env.mail.memory).2 } }

theorem routes_next (env : Env cfg G V) (messages : List Message) :
    env.mail.memory.next ≤ (routes env messages).mail.memory.next :=
  Mail.routeMessages_next messages env.mail.memory

theorem routes_quiet (env : Env cfg G V) (messages : List Message) :
    env.Quiet (routes env messages) :=
  ⟨env.rng, _, routes_next env messages, rfl⟩

theorem passAll_cons (f : MessageFilter cfg G V) (filters : List (MessageFilter cfg G V))
    (messages : List Message) (env : Env cfg G V) :
    passAll (f :: filters) messages env
      = match filterMessages f (Mail.routeMessages cfg messages env.mail.memory).1
          (routes env messages) with
        | (.error e, env) => (.error e, env)
        | (.ok kept, env) => passAll filters kept env := rfl

theorem passAll_quiet {filters : List (MessageFilter cfg G V)} (hquiet : ∀ f ∈ filters, f.IsQuiet)
    (ms : List Message) (env : Env cfg G V) : env.Quiet (passAll filters ms env).2 := by
  induction filters generalizing ms env with
  | nil => exact Env.Quiet.refl _
  | cons f filters ih =>
      have hfirst := (routes_quiet env ms).trans (filterMessages_quiet (hquiet f List.mem_cons_self)
        (Mail.routeMessages cfg ms env.mail.memory).1 (routes env ms))
      rw [passAll_cons]
      cases hfilter : filterMessages f (Mail.routeMessages cfg ms env.mail.memory).1
          (routes env ms) with
      | mk result env₁ =>
        rw [hfilter] at hfirst
        cases result with
        | error e => exact hfirst
        | ok passed =>
            exact hfirst.trans (ih (fun g hg => hquiet g (List.mem_cons_of_mem _ hg)) passed env₁)

/-- **What a stack of quiet filters hands on**: some of the routed messages in their order, and
every filter has let them through. -/
theorem passAll_spec {filters : List (MessageFilter cfg G V)} (hquiet : ∀ f ∈ filters, f.IsQuiet)
    {ms kept : List Message} {env env' : Env cfg G V}
    (h : passAll filters ms env = (.ok kept, env')) :
    (Mail.routeMessages cfg kept env'.mail.memory).1.Sublist
        (Mail.routeMessages cfg ms env.mail.memory).1
      ∧ ((∀ m ∈ ms, m.Existing cfg) → ∀ m ∈ kept, m.Existing cfg)
      ∧ ∀ f ∈ filters, ∀ m ∈ (Mail.routeMessages cfg kept env'.mail.memory).1, f.Allows env m := by
  induction filters generalizing ms env with
  | nil =>
      cases h
      exact ⟨List.Sublist.refl _, id, fun f hf => absurd hf List.not_mem_nil⟩
  | cons f filters ih =>
      have hfirst := hquiet f List.mem_cons_self
      have hquiet₁ := filterMessages_quiet hfirst (Mail.routeMessages cfg ms env.mail.memory).1
        (routes env ms)
      rw [passAll_cons] at h
      cases hfilter : filterMessages f (Mail.routeMessages cfg ms env.mail.memory).1
          (routes env ms) with
      | mk result env₁ =>
        rw [hfilter] at h hquiet₁
        cases result with
        | error e => cases h
        | ok passed =>
            obtain ⟨hsublist, hallows⟩ := filterMessages_spec hfirst hfilter
            obtain ⟨hrest, hexisting, hothers⟩ :=
              ih (fun g hg => hquiet g (List.mem_cons_of_mem _ hg)) h
            -- what has passed the first filter is routed as it is
            rw [Mail.routeMessages_of_recipients _ (fun m hm =>
              Mail.recipient_of_mem_routeMessages m (hsublist.subset hm))] at hrest
            refine ⟨hrest.trans hsublist, ?_, ?_⟩
            · intro hms
              exact hexisting (fun m hm => (Mail.addressed_of_mem_routeMessages hms m
                (hsublist.subset hm)).existing)
            · intro g hg m hm
              rcases List.mem_cons.mp hg with rfl | hg
              · exact (hallows m (hrest.subset hm)).of_quiet (routes_quiet env ms)
              · exact (hothers g hg m hm).of_quiet ((routes_quiet env ms).trans hquiet₁)

/-! ## Filters that decide -/

/-- Routed messages go through filters that decide like through one that asks for everything. -/
theorem passAll_of_addressed {filters : List (MessageFilter cfg G V)}
    {ps : List (Env cfg G V → Message → Bool)}
    (hdecides : List.Forall₂ MessageFilter.Decides filters ps) {ms : List Message}
    (env : Env cfg G V) (hms : ∀ m ∈ ms, m.Addressed cfg) :
    passAll filters ms env = (.ok (ms.filter (fun m => ps.all (fun p => p env m))), env) := by
  induction hdecides generalizing ms with
  | nil =>
      have hall : ms.filter (fun m => [].all (fun p : Env cfg G V → Message → Bool => p env m)) = ms :=
        List.filter_eq_self.mpr (fun _ _ => rfl)
      rw [hall]
      rfl
  | @cons f p filters ps hp _ ih =>
      have hrecipients : ∀ m ∈ ms, ∃ r, m.recipient = some r := by
        intro m hm
        obtain ⟨i, j, -, hrecipient⟩ := hms m hm
        exact ⟨_, hrecipient⟩
      have hkept : ∀ m ∈ ms.filter (p env), m.Addressed cfg :=
        fun m hm => hms m (List.mem_of_mem_filter hm)
      have hfirst : passAll (f :: filters) ms env = passAll filters (ms.filter (p env)) env := by
        rw [passAll_cons, routes, Mail.routeMessages_of_recipients _ hrecipients]
        simp only [filterMessages_of_decides hp env hms]
      rw [hfirst, ih hkept, List.filter_filter]
      simp only [List.all_cons, Bool.and_comm]

/-- The routed messages that meet all conditions. -/
def accepted (ps : List (Env cfg G V → Message → Bool)) (env : Env cfg G V)
    (messages : List Message) : List Message :=
  (Mail.routeMessages cfg messages env.mail.memory).1.filter
    (fun m => ps.all (fun p => p (routes env messages) m))

theorem passAll_of_decides {filters : List (MessageFilter cfg G V)}
    {ps : List (Env cfg G V → Message → Bool)}
    (hdecides : List.Forall₂ MessageFilter.Decides filters ps) (hsome : filters ≠ [])
    (env : Env cfg G V) {messages : List Message} (hexisting : ∀ m ∈ messages, m.Existing cfg) :
    passAll filters messages env = (.ok (accepted ps env messages), routes env messages) := by
  cases hdecides with
  | nil => exact absurd rfl hsome
  | @cons f p filters ps hp hrest =>
      have hrouted : ∀ m ∈ (Mail.routeMessages cfg messages env.mail.memory).1, m.Addressed cfg :=
        Mail.addressed_of_mem_routeMessages hexisting
      have hkept : ∀ m ∈ (Mail.routeMessages cfg messages env.mail.memory).1.filter
          (p (routes env messages)), m.Addressed cfg :=
        fun m hm => hrouted m (List.mem_of_mem_filter hm)
      rw [passAll_cons, filterMessages_of_decides hp (routes env messages) hrouted]
      show passAll filters _ (routes env messages) = _
      rw [passAll_of_addressed hrest (routes env messages) hkept, List.filter_filter]
      simp only [accepted, List.all_cons, Bool.and_comm]

/-- **A stack of filters that decide** is one filter: what is sent are the routed messages that meet
all of the conditions, in whatever order the filters stand. -/
theorem sendMessages_of_decides {filters filters' : List (MessageFilter cfg G V)}
    {ps : List (Env cfg G V → Message → Bool)}
    (hdecides : List.Forall₂ MessageFilter.Decides filters ps) (hsome : filters ≠ [])
    (hperm : filters'.Perm filters) (env : Env cfg G V) {messages : List Message}
    (hexisting : ∀ m ∈ messages, m.Existing cfg) :
    sendMessages ⟨env, filters'⟩ messages
      = (((routes env messages).mail.sendMessages (accepted ps env messages)).1,
        ⟨{ routes env messages with
          mail := ((routes env messages).mail.sendMessages (accepted ps env messages)).2 },
        filters'⟩) := by
  obtain ⟨ps', hdecides', hps⟩ := List.perm_comp_forall₂ hperm hdecides
  have haccepted : accepted ps' env messages = accepted ps env messages := by
    unfold accepted
    refine List.filter_congr (fun m _ => ?_)
    exact hps.all_eq
  have hsome' : filters' ≠ [] := by
    rintro rfl
    exact hsome (List.nil_perm.mp hperm)
  unfold sendMessages
  rw [passAll_of_decides hdecides' hsome' env hexisting, haccepted]

/-! ## Every run -/

/-- What a call is for the environment. -/
def Call.inner : Call cfg G V → List (Env.Call cfg V)
  | .send _ _ kept posted result => [.send kept posted result]
  | .refused _ _ => []
  | .other call => [call]

def Call.Existing : Call cfg G V → Prop
  | .send _ messages _ _ _ => ∀ m ∈ messages, m.Existing cfg
  | .refused _ _ => True
  | .other call => call.Existing

theorem Call.existing_send {before : Env cfg G V} {messages kept posted : List Message}
    {result : Except Error Unit} (h : ∀ m ∈ messages, m.Existing cfg) :
    ∀ call ∈ [Call.send before messages kept posted result], call.Existing := by
  intro call hcall
  obtain rfl := List.mem_singleton.mp hcall
  exact h

/-- What a call hands to the environment has passed all filters. -/
def Call.Passes (filters : List (MessageFilter cfg G V)) : Call cfg G V → Prop
  | .send before messages _ posted _ =>
      posted.Sublist (Mail.routeMessages cfg messages before.mail.memory).1
        ∧ ∀ f ∈ filters, ∀ m ∈ posted, f.Allows before m
  | _ => True

/-- The calls of the environment since the last step. -/
def openCalls (calls : List (Call cfg G V)) : List (Env.Call cfg V) :=
  (since Call.isStep calls).flatMap Call.inner

variable [RandomState G] [SetOrder]

theorem Next.filters_eq {self self' : FilteredChannel cfg G V} {call : Call cfg G V}
    (h : Next self call self') : self'.filters = self.filters := by
  cases h with
  | @send messages kept env hpass =>
      unfold sendMessages
      rw [hpass]
  | @refused messages e env hpass =>
      unfold sendMessages
      rw [hpass]
  | other _ _ => rfl

theorem Next.passes {self self' : FilteredChannel cfg G V} {call : Call cfg G V}
    (h : Next self call self') (hquiet : ∀ f ∈ self.filters, f.IsQuiet) :
    call.Passes self.filters := by
  cases h with
  | @send messages kept env hpass =>
      obtain ⟨hsublist, -, hallows⟩ := passAll_spec hquiet hpass
      show (env.mail.routed kept).Sublist _ ∧ _
      unfold Mail.routed
      by_cases hteam : Mail.sameTeam kept
      · rw [if_pos hteam]
        exact ⟨hsublist, hallows⟩
      · rw [if_neg hteam]
        exact ⟨List.nil_sublist _, fun f _ m hm => absurd hm List.not_mem_nil⟩
  | refused _ => trivial
  | other _ _ => trivial

/-- What a call that is no step does to the stores. -/
theorem Next.delivered {self self' : FilteredChannel cfg G V} {call : Call cfg G V}
    (h : Next self call self') (hcall : call.isStep = false) (hexisting : call.Existing)
    (hquiet : ∀ f ∈ self.filters, f.IsQuiet) {done : List (List (Env.Call cfg V))}
    {current : List (Env.Call cfg V)} (hself : Env.Delivered done current self.env.mail) :
    Env.Delivered done (current ++ call.inner) self'.env.mail := by
  cases h with
  | @send messages kept env hpass =>
      obtain ⟨-, hkept, -⟩ := passAll_spec hquiet hpass
      have hbefore := passAll_quiet hquiet messages self.env
      rw [hpass] at hbefore
      have hsend : Env.Next env (.send kept (env.mail.routed kept) (env.mail.sendMessages kept).1)
          { env with mail := (env.mail.sendMessages kept).2 } := Env.Next.send kept
      unfold sendMessages
      rw [hpass]
      exact (hsend.delivered rfl (hkept hexisting) (hbefore.delivered hself)).1
  | @refused messages e env hpass =>
      -- the filter that raises may have drawn, and nothing is sent
      have hbefore := passAll_quiet hquiet messages self.env
      rw [hpass] at hbefore
      unfold sendMessages
      rw [hpass]
      show Env.Delivered done (current ++ []) env.mail
      rw [List.append_nil]
      exact hbefore.delivered hself
  | other _ hnext => exact (hnext.delivered hcall hexisting hself).1

/-- A step ends the round. -/
theorem Next.step_delivered {self self' : FilteredChannel cfg G V} {call : Call cfg G V}
    (h : Next self call self') (hcall : call.isStep = true) {done : List (List (Env.Call cfg V))}
    {current : List (Env.Call cfg V)} (hself : Env.Delivered done current self.env.mail) :
    Env.Delivered (done ++ [current]) [] self'.env.mail := by
  cases h with
  | send _ => cases hcall
  | refused _ => cases hcall
  | other _ hnext =>
      cases hnext with
      | step hstep => exact (Env.step_delivered hself hstep).1
      | send _ => cases hcall
      | receive _ => cases hcall
      | write _ _ => cases hcall

theorem run_delivered {start channel : FilteredChannel cfg G V} {calls : List (Call cfg G V)}
    (hstart : Env.Delivered [] [] start.env.mail) (hquiet : ∀ f ∈ start.filters, f.IsQuiet)
    (hrun : Run Next start calls channel) (hexisting : ∀ call ∈ calls, call.Existing) :
    Env.Delivered ((rounds Call.isStep calls).map (fun round => round.flatMap Call.inner))
      (openCalls calls) channel.env.mail := by
  refine (hrun.rounds_invariant (P := Call.Existing)
    (fun (done : List (List (Call cfg G V))) (current : List (Call cfg G V))
      (s : FilteredChannel cfg G V) => s.filters = start.filters
        ∧ Env.Delivered (done.map (fun round => round.flatMap Call.inner))
          (current.flatMap Call.inner) s.env.mail) ⟨rfl, hstart⟩ ?_ ?_ hexisting).2
  · rintro done current s call s' hcall _ ⟨hfilters, hs⟩ hnext
    refine ⟨hnext.filters_eq.trans hfilters, ?_⟩
    rw [List.map_append]
    exact hnext.step_delivered hcall hs
  · rintro done current s call s' hcall hex ⟨hfilters, hs⟩ hnext
    refine ⟨hnext.filters_eq.trans hfilters, ?_⟩
    rw [List.flatMap_append, List.flatMap_singleton]
    exact hnext.delivered hcall hex (hfilters ▸ hquiet) hs

theorem run_passes {start channel : FilteredChannel cfg G V} {calls : List (Call cfg G V)}
    (hquiet : ∀ f ∈ start.filters, f.IsQuiet) (hrun : Run Next start calls channel) :
    ∀ call ∈ calls, call.Passes start.filters := by
  refine (hrun.induct (fun calls s => s.filters = start.filters
    ∧ ∀ call ∈ calls, call.Passes start.filters) ⟨rfl, fun _ h => absurd h List.not_mem_nil⟩ ?_).2
  rintro calls s call s' ⟨hfilters, hcalls⟩ hnext
  refine ⟨hnext.filters_eq.trans hfilters, fun c hc => ?_⟩
  rcases List.mem_append.mp hc with hc | hc
  · exact hcalls c hc
  · obtain rfl := List.mem_singleton.mp hc
    exact hfilters ▸ hnext.passes (hfilters ▸ hquiet)

/-- The only target sends to its team. -/
def announcement : List Message := [⟨0, none, 0, .target, false⟩]

omit [RandomState G] [SetOrder] in
theorem existing_announcement :
    ∀ m ∈ announcement, m.Existing (Env.soloConfig (0, 0) 10 (by decide)) := by
  intro m hm
  obtain rfl := List.mem_singleton.mp hm
  exact ⟨⟨⟨0, Nat.one_pos⟩, rfl⟩, fun r hr => by cases hr⟩

omit [RandomState G] [SetOrder] in
/-- Muted cameras and a range of five, in one order and in the other. -/
theorem sendMessages_of_decides_solo :
    letI := Env.rotating
    letI := SetOrder.increasing
    ∃ env : Env (Env.soloConfig (0, 0) 10 (by decide)) (Fin 4) Unit,
      sendMessages ⟨env, [NoCommunication.filter (.only .camera),
          RestrictedCommunicationRange.filter 5]⟩ announcement
        = (((routes env announcement).mail.sendMessages (accepted
            [Env.inRange 5, fun _ m => !(MutedTeam.only Team.camera).mutes m.team] env
            announcement)).1,
          ⟨{ routes env announcement with
            mail := ((routes env announcement).mail.sendMessages (accepted
              [Env.inRange 5, fun _ m => !(MutedTeam.only Team.camera).mutes m.team] env
              announcement)).2 },
          [NoCommunication.filter (.only .camera), RestrictedCommunicationRange.filter 5]⟩) := by
  let _ := Env.rotating
  let _ := SetOrder.increasing
  obtain ⟨-, start, -, -, -, -⟩ := Env.exists_solo_reset (0, 0) 10 (by decide) ⟨0, fun _ => ()⟩
  exact ⟨start, sendMessages_of_decides
    (.cons (RestrictedCommunicationRange.filter_decides 5)
      (.cons (NoCommunication.filter_decides (.only .camera)) .nil))
    (List.cons_ne_nil _ _) (List.Perm.swap _ _ _) start existing_announcement⟩

end FilteredChannel

end Mate
