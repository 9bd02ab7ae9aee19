import Mate.Accounts
import Mate.Environment.Places
import Mate.Evaluate

set_option autoImplicit false

/-! # The end of an episode

`step` compares `episode_step` with `max_episode_steps` after it has counted the step, and with
`<=`: at the horizon itself it is done only if nothing is awaited any more. The loop of
`evaluate` stops at the horizon, so an episode that delivers nothing is never recorded.
-/

namespace Mate

open Fallible Runs

namespace Env

variable {cfg : Config} {G V : Type} [RandomState G] [SetOrder]

/-! ## When nothing is awaited any more -/

/-- `not awaiting_cargo_counts.any()`. -/
def NothingAwaited (e : Env cfg G V) : Prop := ∀ goal, e.cargo.awaitingCargoCounts goal = 0

/-- The actions bring all cargoes to where they belong: none is left in a warehouse, and every
loaded target reaches the warehouse of its goal. -/
def Settles (reg : Registry) (targetJointAction : Fin cfg.numTargets → ℂ) (e : Env cfg G V) :
    Prop :=
  (∀ w goal, e.cargo.remainingCargoes w goal = 0) ∧
    ∀ t goal, e.cargo.targetGoals t = some goal →
      inWarehouse ((e.targets t).simulate reg (targetJointAction t)).location goal = true

/-- If the step is the last one before the horizon, it settles the episode. -/
def MeetsHorizon (reg : Registry) (targetJointAction : Fin cfg.numTargets → ℂ)
    (e : Env cfg G V) : Prop :=
  e.episodeStep + 1 = cfg.maxEpisodeSteps → e.Settles reg targetJointAction

/-- The flag of a step is the one of an episode of at most `max_episode_steps` steps. -/
def OnTime (result : StepResult cfg) (e' : Env cfg G V) : Prop :=
  result.done = true ↔ e'.NothingAwaited ∨ cfg.maxEpisodeSteps ≤ e'.episodeStep

variable {reg : Registry} {self self' : Env cfg G V} {targetJointAction : Fin cfg.numTargets → ℂ}
  {result : StepResult cfg} {s : Ledger cfg.numTargets G}

omit [RandomState G] in
theorem Stepped.delivers_iff (h : Stepped targetJointAction reg result self self' s)
    (t : Fin cfg.numTargets) :
    self.cargo.delivers self'.inside t = true ↔ ∃ goal, self.cargo.targetGoals t = some goal
      ∧ inWarehouse ((self.targets t).simulate reg (targetJointAction t)).location goal = true := by
  rw [Cargo.delivers, ← h.targets t]
  cases hgoal : self.cargo.targetGoals t with
  | none => simp
  | some goal => simp [inside]

omit [RandomState G] in
/-- **Nothing is awaited after a step if and only if it settles the episode.** -/
theorem Stepped.nothingAwaited_iff (h : Stepped targetJointAction reg result self self' s)
    (hvalid : self.cargo.Valid cfg) :
    self'.NothingAwaited ↔ self.Settles reg targetJointAction := by
  have hvalid' : self'.cargo.Valid cfg := h.alike.valid h.assigned.valid
  constructor
  · intro hzero
    -- both parts of the awaited cargoes are zero
    have hparts : ∀ goal, (∀ w, self'.cargo.remainingCargoes w goal = 0)
        ∧ ∀ t, self'.cargo.targetGoalBits t goal = 0 := by
      intro goal
      have hsum := hvalid'.awaiting goal
      rw [hzero goal] at hsum
      have hremaining := Finset.sum_nonneg
        (fun w (_ : w ∈ Finset.univ) => hvalid'.remaining_nonneg w goal)
      have hbits := Finset.sum_nonneg
        (fun t (_ : t ∈ Finset.univ) => hvalid'.bits_nonneg t goal)
      constructor
      · intro w
        exact (Finset.sum_eq_zero_iff_of_nonneg
          (fun w _ => hvalid'.remaining_nonneg w goal)).mp (by omega) w (Finset.mem_univ w)
      · intro t
        exact (Finset.sum_eq_zero_iff_of_nonneg
          (fun t _ => hvalid'.bits_nonneg t goal)).mp (by omega) t (Finset.mem_univ t)
    have hnone : ∀ t, self'.cargo.targetGoals t = none := by
      intro t
      rw [← hvalid'.weight_eq_zero_iff]
      exact Finset.sum_eq_zero (fun goal _ => (hparts goal).2 t)
    constructor
    · intro w goal
      rw [← h.assigned.took (fun t => (h.alike.sameLoad t).goal ▸ hnone t), ← h.alike.remaining]
      exact (hparts goal).1 w
    · intro t goal hgoal
      by_contra hnot
      have hstays : self.cargo.delivers self'.inside t = false := by
        refine Bool.eq_false_iff.mpr (fun hdelivers => hnot ?_)
        obtain ⟨goal', hgoal', hin⟩ := (h.delivers_iff t).mp hdelivers
        rw [hgoal] at hgoal'
        cases hgoal'
        exact hin
      have hkept := h.assigned.kept t (by rw [hgoal]; exact Option.some_ne_none goal) hstays
      have hsame : self'.cargo.targetGoals t = self.cargo.targetGoals t :=
        (h.alike.sameLoad t).goal.trans hkept.goal
      rw [hnone t, hgoal] at hsame
      cases hsame
  · rintro ⟨hremaining, hreach⟩ goal
    rw [h.alike.awaiting, h.assigned.awaiting, hvalid.awaiting,
      Finset.sum_eq_zero (fun w _ => hremaining w goal), zero_add, sub_eq_zero]
    refine Finset.sum_congr rfl (fun t _ => ?_)
    rw [Cargo.deliveryTo]
    cases hgoal : self.cargo.targetGoals t with
    | none => simp [(hvalid.unloaded hgoal).bits]
    | some goal' =>
        obtain ⟨weight, hw⟩ := hvalid.carries hgoal
        have hdelivers := (h.delivers_iff t).mpr ⟨goal', hgoal, hreach t goal' hgoal⟩
        rw [hw.bits, Pi.single_apply, hdelivers, hw.weight_eq]
        by_cases heq : goal = goal'
        · simp [heq]
        · simp [heq, Ne.symm heq]

omit [RandomState G] in
theorem Stepped.done_iff (h : Stepped targetJointAction reg result self self' s) :
    result.done = true ↔ self'.NothingAwaited ∨ cfg.maxEpisodeSteps < self'.episodeStep := by
  rw [h.done, isDone, NothingAwaited]
  by_cases hle : self'.episodeStep ≤ cfg.maxEpisodeSteps
  · simp [hle]
  · simp [hle]
    omega

omit [RandomState G] in
/-- A step is done on time if and only if it is not a last step that leaves something. -/
theorem Stepped.done_on_time_iff (h : Stepped targetJointAction reg result self self' s)
    (hvalid : self.cargo.Valid cfg) :
    OnTime result self' ↔ self.MeetsHorizon reg targetJointAction := by
  rw [OnTime, h.done_iff, MeetsHorizon, ← h.nothingAwaited_iff hvalid, h.episodeStep]
  constructor
  · intro hiff hlast
    rcases hiff.mpr (Or.inr hlast.ge) with hzero | hlt
    · exact hzero
    · omega
  · intro hmeets
    constructor
    · rintro (hzero | hlt)
      · exact Or.inl hzero
      · exact Or.inr hlt.le
    · rintro (hzero | hle)
      · exact Or.inl hzero
      · rcases hle.eq_or_lt with heq | hlt
        · exact Or.inl (hmeets heq.symm)
        · exact Or.inr hlt

/-! ## Evaluation -/

/-- The agents talk, and make the step with these actions. -/
structure TakesTurn (e : Env cfg G V) (reg : Registry)
    (targetJointAction : Fin cfg.numTargets → ℂ) (result : StepResult cfg) (before e' : Env cfg G V) :
    Prop where
  talk : ∃ calls : List (Call cfg V), Run Next e calls before ∧ ∀ call ∈ calls, call.isStep = false
  step : ∃ cameraJointAction, before.step reg cameraJointAction targetJointAction
    = .ok (result, e')

/-- Talking changes the stores of messages only. -/
theorem run_talk {e before : Env cfg G V} {calls : List (Call cfg V)} (h : Run Next e calls before)
    (hcalls : ∀ call ∈ calls, call.isStep = false) : ∃ mail, before = { e with mail := mail } := by
  refine h.induct (fun calls s => (∀ call ∈ calls, call.isStep = false) →
    ∃ mail, s = { e with mail := mail }) (fun _ => ⟨e.mail, rfl⟩) ?_ hcalls
  intro calls s call s' ih hnext hall
  obtain ⟨mail, rfl⟩ := ih (fun c hc => hall c (List.mem_append_left _ hc))
  rcases hnext.cases_step with ⟨reg, a, b, result, rfl, -⟩ | ⟨mail', rfl⟩
  · have := hall _ (List.mem_append_right _ (List.mem_singleton.mpr rfl))
    cases this
  · exact ⟨mail', rfl⟩

/-- A turn is a step from a state with the same cargoes and the same step counter. -/
theorem TakesTurn.stepped {total : ℤ} {e before : Env cfg G V}
    (h : TakesTurn e reg targetJointAction result before self') (he : e.Consistent total) :
    before.Consistent total ∧ before.episodeStep = e.episodeStep
      ∧ before.cargo = e.cargo ∧ ∃ s, Stepped targetJointAction reg result before self' s := by
  obtain ⟨calls, hrun, hcalls⟩ := h.talk
  obtain ⟨mail, rfl⟩ := run_talk hrun hcalls
  obtain ⟨a, hstep⟩ := h.step
  have hbefore : Consistent total { e with mail := mail } :=
    ⟨he.valid, he.units, he.ledgers, he.empty⟩
  obtain ⟨s, hs⟩ := step_stepped hbefore.valid hstep
  exact ⟨hbefore, rfl, rfl, s, hs⟩

omit [RandomState G] [SetOrder] in
/-- A status that is recorded has a value for every column. -/
theorem evalRecord_complete {elapsed : ℚ} {st : EvalState} (e : Env cfg G V)
    (result : StepResult cfg) (h : 0 < e.cargo.numDeliveredCargoes ∨ result.done = true) :
    (e.evalRecord result elapsed st).Complete := by
  intro name hname
  simp only [evalRecord, if_pos h]
  rw [List.map_fst_zip (le_refl 9)]
  exact hname

omit [RandomState G] [SetOrder] in
theorem evalRecord_not_recorded {elapsed : ℚ} {st : EvalState} (e : Env cfg G V)
    (result : StepResult cfg) (h : ¬ (0 < e.cargo.numDeliveredCargoes ∨ result.done = true)) :
    (e.evalRecord result elapsed st).Complete ↔ st.Complete := by
  simp only [EvalState.Complete, evalRecord, if_neg h]

omit [RandomState G] in
/-- Deliveries are never taken back. -/
theorem Stepped.delivered_le (h : Stepped targetJointAction reg result self self' s)
    (hvalid : self.cargo.Valid cfg) :
    self.cargo.numDeliveredCargoes ≤ self'.cargo.numDeliveredCargoes := by
  rw [h.alike.delivered, h.assigned.delivered]
  have hnonneg : 0 ≤ ∑ t, self.cargo.delivery self'.inside t := by
    refine Finset.sum_nonneg (fun t _ => ?_)
    rw [Cargo.delivery]
    split
    · exact hvalid.weight_nonneg t
    · exact le_refl 0
  omega

omit [RandomState G] [SetOrder] in
/-- An episode in which nothing is awaited any more has delivered something. -/
theorem Consistent.delivered_pos {total : ℤ} {e : Env cfg G V} (h : e.Consistent total)
    (htotal : 0 < total) (hzero : e.NothingAwaited) : 0 < e.cargo.numDeliveredCargoes := by
  have hunits := h.units
  rw [Cargo.units, Finset.sum_eq_zero (fun goal _ => hzero goal)] at hunits
  omega

variable {S : Type}

/-- Every turn is made of calls of methods. -/
def PlaysTurns (turn : S → Env cfg G V → Except Error (StepResult cfg × S × Env cfg G V)) : Prop :=
  ∀ agents e result agents' e', turn agents e = .ok (result, agents', e') →
    ∃ reg b before, TakesTurn e reg b result before e'

/-- The loop goes on after the turn from one state to the next. -/
def GoesOn (turn : S → Env cfg G V → Except Error (StepResult cfg × S × Env cfg G V))
    (s s' : S × Env cfg G V) : Prop :=
  s.2.episodeStep < cfg.maxEpisodeSteps
    ∧ ∃ result, turn s.1 s.2 = .ok (result, s'.1, s'.2) ∧ result.done = false

/-- A turn that the loop makes on its way from `s`: where it starts, what it returns, and where
it ends. -/
def Played (turn : S → Env cfg G V → Except Error (StepResult cfg × S × Env cfg G V))
    (s : S × Env cfg G V) (e : Env cfg G V) (result : StepResult cfg) (e' : Env cfg G V) : Prop :=
  ∃ agents agents', Relation.ReflTransGen (GoesOn turn) s (agents, e)
    ∧ e.episodeStep < cfg.maxEpisodeSteps ∧ turn agents e = .ok (result, agents', e')

variable {turn : S → Env cfg G V → Except Error (StepResult cfg × S × Env cfg G V)}
  {elapsed : ℕ → ℚ}

/-- **The status is complete exactly when something was delivered.** -/
theorem evalLoop_complete_iff {total : ℤ} (htotal : 0 < total)
    (hturn : PlaysTurns turn)
    (fuel : ℕ) (agents : S) (e : Env cfg G V) (st : EvalState) (he : e.Consistent total)
    (hst : st.Complete ↔ 0 < e.cargo.numDeliveredCargoes) :
    Ensures (evalLoop turn elapsed fuel agents e st)
      (fun out => out.1.Complete ↔ 0 < out.2.cargo.numDeliveredCargoes) := by
  induction fuel generalizing agents e st with
  | zero => intro out hout; cases hout
  | succ fuel ih =>
      rw [evalLoop]
      split
      · rename_i hlt
        intro out hout
        obtain ⟨⟨result, agents', e'⟩, hok, hout⟩ := bind_eq_ok.mp hout
        obtain ⟨reg, b, before, hturns⟩ := hturn _ _ _ _ _ hok
        obtain ⟨hbefore, hcount, hcargo, s, hs⟩ := hturns.stepped he
        have he' : e'.Consistent total := hs.consistent hbefore
        have hle := hs.delivered_le hbefore.valid
        rw [hcargo] at hle
        -- a step is recorded when something was delivered, or when it is the last one
        have hrecord : (e'.evalRecord result (elapsed e'.episodeStep) st).Complete
            ↔ 0 < e'.cargo.numDeliveredCargoes := by
          by_cases hcase : 0 < e'.cargo.numDeliveredCargoes ∨ result.done = true
          · refine iff_of_true (evalRecord_complete e' result hcase) ?_
            rcases hcase with hpos | hdone
            · exact hpos
            · rcases hs.done_iff.mp hdone with hzero | hlate
              · exact he'.delivered_pos htotal hzero
              · have := hs.episodeStep
                omega
          · rw [evalRecord_not_recorded e' result hcase, hst]
            have := not_or.mp hcase
            omega
        dsimp only at hout
        split at hout
        · cases hout
          exact hrecord
        · exact ih agents' e' _ he' hrecord out hout
      · exact Ensures.pure hst

omit [RandomState G] [SetOrder] in
/-- If every turn is done on time, the status is complete. -/
theorem evalLoop_complete (fuel : ℕ) (agents : S) (e : Env cfg G V) (st : EvalState)
    (hontime : ∀ e₁ result e₂, Played turn (agents, e) e₁ result e₂ → OnTime result e₂)
    (hst : st.Complete ∨ e.episodeStep < cfg.maxEpisodeSteps) :
    Ensures (evalLoop turn elapsed fuel agents e st) (fun out => out.1.Complete) := by
  induction fuel generalizing agents e st with
  | zero => intro out hout; cases hout
  | succ fuel ih =>
      rw [evalLoop]
      split
      · rename_i hlt
        intro out hout
        obtain ⟨⟨result, agents', e'⟩, hok, hout⟩ := bind_eq_ok.mp hout
        dsimp only at hout
        split at hout
        · rename_i hdone
          cases hout
          exact evalRecord_complete e' result (Or.inr hdone)
        · rename_i hdone
          have hgoes : GoesOn turn (agents, e) (agents', e') :=
            ⟨hlt, result, hok, Bool.eq_false_iff.mpr hdone⟩
          refine ih agents' e' _ ?_ (Or.inr ?_) out hout
          · rintro e₁ r e₂ ⟨a, a', hreach, hplayed⟩
            exact hontime e₁ r e₂ ⟨a, a', Relation.ReflTransGen.head hgoes hreach, hplayed⟩
          · -- a step that ends at the horizon would have been done
            have hend := hontime e result e' ⟨agents, agents', Relation.ReflTransGen.refl, hlt, hok⟩
            by_contra hnot
            exact hdone (hend.mpr (Or.inr (not_lt.mp hnot)))
      · rename_i hnot
        rcases hst with hcomplete | hlt
        · exact Ensures.pure hcomplete
        · exact absurd hlt hnot

/-- **The loop makes at most `max_episode_steps` steps**: it raises nothing but what a turn
raises. -/
theorem evalLoop_raises {total : ℤ} (hturn : PlaysTurns turn) (fuel : ℕ) (agents : S)
    (e : Env cfg G V) (st : EvalState) (he : e.Consistent total)
    (hle : e.episodeStep ≤ cfg.maxEpisodeSteps)
    (hfuel : cfg.maxEpisodeSteps < fuel + e.episodeStep) :
    Raises (evalLoop turn elapsed fuel agents e st)
      (fun err => ∃ agents e, turn agents e = .error err) := by
  induction fuel generalizing agents e st with
  | zero => omega
  | succ fuel ih =>
      rw [evalLoop]
      split
      · rename_i hlt
        intro err herr
        cases hok : turn agents e with
        | error err' =>
            rw [hok] at herr
            cases herr
            exact ⟨agents, e, hok⟩
        | ok r =>
            obtain ⟨result, agents', e'⟩ := r
            obtain ⟨reg, b, before, hturns⟩ := hturn _ _ _ _ _ hok
            obtain ⟨hbefore, hcount, hcargo, s, hs⟩ := hturns.stepped he
            have hstep := hs.episodeStep
            rw [hok] at herr
            change (if result.done then _ else _) = _ at herr
            split at herr
            · cases herr
            · exact ih agents' e' _ (hs.consistent hbefore) (by omega) (by omega) err herr
      · exact Raises.pure

/-- The states in which the loop makes a turn are consistent. -/
theorem Played.consistent {total : ℤ} (hturn : PlaysTurns turn) {agents : S}
    {start e e' : Env cfg G V} {result : StepResult cfg} (hstart : start.Consistent total)
    (h : Played turn (agents, start) e result e') : e.Consistent total := by
  obtain ⟨a, a', hreach, -, -⟩ := h
  refine Relation.ReflTransGen.head_induction_on (motive := fun s _ =>
    s.2.Consistent total → e.Consistent total) hreach (fun h => h) ?_ hstart
  rintro ⟨b, e₁⟩ ⟨b', e₂⟩ ⟨-, r, hgoes, -⟩ - ih h₁
  obtain ⟨reg, x, before, hturns⟩ := hturn _ _ _ _ _ hgoes
  obtain ⟨hbefore, -, -, s, hs⟩ := hturns.stepped h₁
  exact ih (hs.consistent hbefore)

theorem TakesTurn.onTime_iff {total : ℤ} {e before : Env cfg G V}
    (h : TakesTurn e reg targetJointAction result before self') (he : e.Consistent total) :
    OnTime result self' ↔ before.MeetsHorizon reg targetJointAction := by
  obtain ⟨hbefore, -, -, s, hs⟩ := h.stepped he
  exact hs.done_on_time_iff hbefore.valid

/-! ## The length of an episode -/

/-- The targets make a step to the right. -/
noncomputable def stepRight (reg : Registry) (_ : Unit) (e : Env cfg G V) :
    Except Error (StepResult cfg × Unit × Env cfg G V) := do
  let (result, e) ← e.step reg (fun _ => (0, 0)) (fun _ => 1)
  return (result, (), e)

theorem playsTurns_stepRight (reg : Registry) :
    PlaysTurns (stepRight reg : Unit → Env cfg G V → _) := by
  intro agents e result agents' e' h
  obtain ⟨⟨result', e''⟩, hstep, h⟩ := bind_eq_ok.mp h
  cases h
  exact ⟨reg, fun _ => 1, e, ⟨⟨[], Run.nil, fun _ h => absurd h List.not_mem_nil⟩, ⟨_, hstep⟩⟩⟩

/-- **A step is done on time if and only if it meets the horizon**, and the table of an
evaluation has all its columns when all its turns do. -/
theorem episode_length_iff (fuel : ℕ) (self : Env cfg G V) :
    (∀ seed observations reg start, self.reset fuel seed = .ok (observations, reg, start) →
      ∀ calls env, Run Next start calls env →
        ∀ reg cameraJointAction targetJointAction result env',
          env.step reg cameraJointAction targetJointAction = .ok (result, env') →
            (OnTime result env' ↔ env.MeetsHorizon reg targetJointAction))
      ∧ ∀ observations reg start, self.reset fuel none = .ok (observations, reg, start) →
          ∀ (S : Type) (turn : S → Env cfg G V → Except Error (StepResult cfg × S × Env cfg G V))
            (elapsed : ℕ → ℚ) (groupReset : Observations cfg → S), PlaysTurns turn →
            (∀ err, evaluate turn elapsed groupReset fuel self = .error err →
              ∃ agents e, turn agents e = .error err)
            ∧ (((∀ e result e', Played turn (groupReset observations, start) e result e' →
                  OnTime result e')
                ∧ ∀ out, evaluate turn elapsed groupReset fuel self = .ok out → out.1.Complete)
              ↔ ∀ e result e', Played turn (groupReset observations, start) e result e' →
                  ∃ reg b before, TakesTurn e reg b result before e'
                    ∧ before.MeetsHorizon reg b) := by
  constructor
  · intro seed observations reg start hreset calls env hrun reg' a b result env' hstep
    have h := run_consistent (reset_consistent hreset) hrun
    obtain ⟨s, hs⟩ := step_stepped h.valid hstep
    exact hs.done_on_time_iff h.valid
  · intro observations reg start hreset S turn elapsed groupReset hturn
    have hstart := reset_consistent hreset
    have hzero : start.episodeStep = 0 := (reset_ready hreset).2.2.2
    -- the evaluation is its loop from the state after the reset, at step zero
    have hloop : evaluate turn elapsed groupReset fuel self
        = evalLoop turn elapsed (cfg.maxEpisodeSteps + 1) (groupReset observations) start
          EvalState.start := by
      rw [evaluate, hreset]
      rfl
    rw [hloop]
    refine ⟨evalLoop_raises hturn _ _ _ _ hstart (by omega) (by omega), ?_⟩
    constructor
    · rintro ⟨hontime, -⟩ e result e' hplayed
      have he := hplayed.consistent hturn hstart
      have hend := hontime e result e' hplayed
      obtain ⟨agents, agents', -, -, hok⟩ := hplayed
      obtain ⟨reg', b, before, hturns⟩ := hturn _ _ _ _ _ hok
      exact ⟨reg', b, before, hturns, (hturns.onTime_iff he).mp hend⟩
    · intro hmeets
      have hontime : ∀ e result e', Played turn (groupReset observations, start) e result e' →
          OnTime result e' := by
        intro e result e' hplayed
        obtain ⟨reg', b, before, hturns, hmeet⟩ := hmeets e result e' hplayed
        exact (hturns.onTime_iff (hplayed.consistent hturn hstart)).mpr hmeet
      refine ⟨hontime, ?_⟩
      exact evalLoop_complete _ _ _ _ hontime (Or.inr (by rw [hzero]; exact cfg.maxEpisodeSteps_pos))

omit [SetOrder] in
theorem episode_length_iff_solo :
    letI := rotating
    letI := SetOrder.increasing
    ∃ (self start env : Env (soloConfig (0, 0) 10 (by decide)) (Fin 4) Unit)
      (observations : Observations (soloConfig (0, 0) 10 (by decide))) (reg : Registry)
      (result : StepResult (soloConfig (0, 0) 10 (by decide))),
      self.reset 2 none = .ok (observations, reg, start)
        ∧ start.step reg (fun _ => (0, 0)) (fun _ => 1) = .ok (result, env)
        ∧ start.MeetsHorizon reg (fun _ => 1) ∧ OnTime result env
        ∧ ∀ err, evaluate (stepRight reg) (fun _ => 1) (fun _ => ()) 2 self = .error err →
          ∃ (agents : Unit) (e : Env (soloConfig (0, 0) 10 (by decide)) (Fin 4) Unit),
            stepRight reg agents e = .error err := by
  let _ := rotating
  let _ := SetOrder.increasing
  obtain ⟨self, start, env, observations, reg, result, hreset, hstep⟩ :=
    exists_solo_step (0, 0) 10 (by decide)
  have hmeets : start.MeetsHorizon reg (fun _ => 1) := by
    intro hlast
    rw [(reset_ready hreset).2.2.2] at hlast
    exact absurd hlast (by decide)
  have hall := episode_length_iff 2 self
  refine ⟨self, start, env, observations, reg, result, hreset, hstep, hmeets, ?_, ?_⟩
  · exact (hall.1 none observations reg start hreset [] start Run.nil reg _ _ result env hstep).mpr
      hmeets
  · exact (hall.2 observations reg start hreset Unit (stepRight reg) (fun _ => 1) (fun _ => ())
      (playsTurns_stepRight reg)).1

/-! ## An episode that delivers nothing -/

omit [SetOrder] [RandomState G] in
theorem inWarehouse_eq_false {z : ℂ} (h : ‖z‖ ≤ 10) (w : Warehouse) : inWarehouse z w = false := by
  have hre : |z.re| ≤ 10 := (Complex.abs_re_le_norm z).trans h
  have hfar : (75 : ℝ) < |z.re - ((WAREHOUSES w).1 : ℚ)| := by
    obtain ⟨hlow, hhigh⟩ := abs_le.mp hre
    fin_cases w <;> norm_num [WAREHOUSES, TERRAIN_SIZE, WAREHOUSE_RADIUS] <;> rw [lt_abs]
    · exact Or.inr (by linarith)
    · exact Or.inl (by linarith)
    · exact Or.inl (by linarith)
    · exact Or.inr (by linarith)
  refine decide_eq_false (not_le.mpr (lt_max_of_lt_left ?_))
  refine lt_of_eq_of_lt ?_ hfar
  norm_num [WAREHOUSE_RADIUS, TERRAIN_SIZE]

omit [SetOrder] in
/-- One target, and a horizon of one step: the step is not done, and no status is recorded. -/
theorem episode_length_not_met :
    letI := rotating
    letI := SetOrder.increasing
    ∃ (self start env : Env (soloConfig (0, 0) 1 (by decide)) (Fin 4) Unit)
      (observations : Observations (soloConfig (0, 0) 1 (by decide))) (reg : Registry)
      (result : StepResult (soloConfig (0, 0) 1 (by decide))),
      Env.init (soloConfig (0, 0) 1 (by decide)) ⟨0, fun _ => ()⟩ = .ok self
        ∧ self.reset 2 none = .ok (observations, reg, start)
        ∧ start.step reg (fun _ => (0, 0)) (fun _ => 1) = .ok (result, env)
        ∧ env.episodeStep = (soloConfig (0, 0) 1 (by decide)).maxEpisodeSteps
        ∧ result.done = false
        ∧ ∃ out, evaluate (stepRight reg) (fun _ => 1) (fun _ => ()) 2 self = .ok out
          ∧ ¬ out.1.Complete := by
  let _ := rotating
  let _ := SetOrder.increasing
  obtain ⟨self, start, observations, reg, hinit, hreset⟩ :=
    exists_solo_reset (0, 0) 1 (by decide) ⟨0, fun _ => ()⟩
  have hstart := reset_consistent hreset
  obtain ⟨⟨placed, -, hready⟩, -, -, hzero⟩ := reset_ready hreset
  obtain ⟨⟨result, env⟩, hstep, -⟩ := step_returns
    (rfl : (soloConfig (0, 0) 1 (by decide)).numCameras = 0) reg hstart.valid
    (fun _ => (0, 0)) (fun _ => 1)
  obtain ⟨s, hs⟩ := step_stepped hstart.valid hstep
  have hcount : env.episodeStep = 1 := by rw [hs.episodeStep, hzero]
  have hreg : reg = Registry.empty.addObstacles [] := reset_registry hreset
  -- the target is near the middle of the terrain, so it delivers nothing
  have hnowhere : ∀ t w, env.inside t w = false := by
    intro t w
    have hmiddle : InTerrain ⟨((0 : ℚ) : ℝ), ((0 : ℚ) : ℝ)⟩ := by norm_num [InTerrain, TERRAIN_SIZE]
    obtain ⟨hlocation, hheld⟩ :=
      reset_targets_at hinit (soloConfig_box (0, 0) 1 (by decide)) hmiddle hreset t
    obtain ⟨hmove, -, -⟩ := (start.targets t).simulate_safe 1 []
      (fun d hd => absurd hd List.not_mem_nil) List.Pairwise.nil (by rw [hlocation]; exact hmiddle)
      (fun d hd => absurd hd List.not_mem_nil)
    refine inWarehouse_eq_false ?_ w
    rw [hs.targets t, hreg]
    have hzero : (start.targets t).location = 0 := by
      rw [hlocation]
      apply Complex.ext <;> simp
    rw [hzero, sub_zero] at hmove
    refine hmove.trans (hheld.stepSize_le.trans ?_)
    norm_num [soloConfig]
  have hdelivered : env.cargo.numDeliveredCargoes = 0 := by
    rw [hs.alike.delivered, hs.assigned.delivered, hready.delivered, zero_add]
    refine Finset.sum_eq_zero (fun t _ => ?_)
    rw [Cargo.delivery, Cargo.delivers]
    cases start.cargo.targetGoals t with
    | none => rfl
    | some goal => simp [hnowhere]
  have hpos : 0 < start.cargo.units := by
    obtain ⟨passes, hpasses, htotal, -⟩ := hready.total
    rw [Cargo.units, hready.delivered, htotal, zero_add]
    exact mul_pos (by exact_mod_cast hpasses) (by decide)
  have hdone : result.done = false := by
    refine Bool.eq_false_iff.mpr (fun hdone => ?_)
    rcases hs.done_iff.mp hdone with hnothing | hlate
    · have := (hs.consistent hstart).delivered_pos hpos hnothing
      omega
    · rw [hcount] at hlate
      exact absurd hlate (lt_irrefl 1)
  refine ⟨self, start, env, observations, reg, result, hinit, hreset, hstep, hcount, hdone, ?_⟩
  have hturn : stepRight reg () start = .ok (result, (), env) := by
    rw [stepRight, hstep]
    rfl
  refine ⟨(env.evalRecord result 1 EvalState.start, env), ?_, ?_⟩
  · rw [evaluate, hreset]
    show evalLoop (stepRight reg) (fun _ => 1) 2 () start EvalState.start = _
    rw [evalLoop, if_pos (by rw [hzero]; decide), hturn]
    show (if result.done then _ else evalLoop (stepRight reg) (fun _ => 1) 1 () env _) = _
    rw [hdone, if_neg Bool.false_ne_true, evalLoop, if_neg (by rw [hcount]; decide)]
  · rw [evalRecord_not_recorded env result (by rw [hdelivered, hdone]; decide)]
    intro hcomplete
    exact absurd (hcomplete "Step" (by decide)) List.not_mem_nil

end Env

end Mate
