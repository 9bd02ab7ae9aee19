import Mate.FrameSkipMetrics
import Mate.Knowledge
import Mate.Rllib.TrackingTeam
import Mate.TrainedTasks
import Mate.Transport

set_option autoImplicit false

/-! # The tasks of deployed executors

An executor appends the tasks that it gets from its own coordinator to what it is given. `Agrees`
says that these are the tasks it has been trained with, after the same history.
-/

namespace Mate.Rllib

open Fallible Mealy Env

/-! ## What the deployed agents append -/

namespace HiTMACQPLEXCameraAgent

variable {cfg : Config} {Hidden G : Type} {config : HierarchyConfig Hidden cfg.numTargets}
  {i : Fin (cfg.teamSize .camera)} {t : ℕ} {agent : HiTMACQPLEXCameraAgent Hidden G cfg.numTargets}

/-- The agent of camera `i` has observed and acted at every step before the time `t`. -/
structure Clocked (i : Fin (cfg.teamSize .camera)) (t : ℕ)
    (agent : HiTMACQPLEXCameraAgent Hidden G cfg.numTargets) : Prop where
  knows : agent.base.Knows cfg i
  stepCounter : agent.base.stepCounter = 2 * t
  episodeStep : agent.base.episodeStep = (t : ℤ) - 1

/-- What an executor is given at the time `t`. -/
noncomputable def given (config : HierarchyConfig Hidden cfg.numTargets) (t : ℕ) (row : List ℝ)
    (taskBits : Fin cfg.numTargets → Bool) : Option (AugmentedObservation cfg.numTargets) :=
  if t % config.frameSkip = 0 then some ⟨config.flags.transform .camera cfg.numCameras
    cfg.numTargets cfg.numObstacles row, taskBits⟩ else none

/-- One call of `act`, at the time that the clock shows. -/
theorem act_eq_ok {row : List ℝ} {state : StateBase (Team.stateDim .camera)}
    {base : AgentBase .camera G} {taskBits : Fin cfg.numTargets → Bool}
    {coordinatorAgent : Option (HRLMAPPOCameraAgent Hidden G cfg.numTargets)}
    (hrow : ObservationRow cfg .camera i row)
    (hcheck : agent.base.checkInputs row = .ok (state, base))
    (hknows : ({ base with state } : AgentBase .camera G).Knows cfg i)
    (hclock : base.episodeStep = (t : ℤ))
    (hdecide : t % config.coordPeriod = 0 →
      ({ agent with base := { base with state } } :
        HiTMACQPLEXCameraAgent Hidden G cfg.numTargets).getCoordinatorAssignment row
        = .ok (taskBits, coordinatorAgent))
    (hkeep : t % config.coordPeriod ≠ 0 →
      (agent.currentAssignment, agent.coordinatorAgent) = (taskBits, coordinatorAgent)) :
    agent.act config row
      = .ok (given config t row taskBits, ⟨{ base with state }, coordinatorAgent, taskBits⟩) := by
  -- the clock of the agent is an integer, the time a number
  have hperiod : base.episodeStep % (config.coordPeriod : ℤ) = 0 ↔ t % config.coordPeriod = 0 := by
    rw [hclock]
    omega
  have hskip : base.episodeStep % (config.frameSkip : ℤ) = 0 ↔ t % config.frameSkip = 0 := by
    rw [hclock]
    omega
  have hinput := hrow.preprocessRawObservation hknows config.flags
  unfold act given
  rw [hcheck]
  by_cases hdue : t % config.coordPeriod = 0
  · refine (if_pos (hperiod.mpr hdue)).trans (bind_eq_ok.mpr ⟨_, hdecide hdue, ?_⟩)
    by_cases hacts : t % config.frameSkip = 0
    · rw [if_pos hacts]
      exact (if_pos (hskip.mpr hacts)).trans (bind_eq_ok.mpr ⟨_, hinput, rfl⟩)
    · rw [if_neg hacts]
      exact if_neg (mt hskip.mp hacts)
  · obtain ⟨rfl, rfl⟩ := Prod.mk.inj (hkeep hdue)
    refine (if_neg (mt hperiod.mp hdue)).trans ?_
    by_cases hacts : t % config.frameSkip = 0
    · rw [if_pos hacts]
      exact (if_pos (hskip.mpr hacts)).trans (bind_eq_ok.mpr ⟨_, hinput, rfl⟩)
    · rw [if_neg hacts]
      exact if_neg (mt hskip.mp hacts)

/-- A call of `check_inputs` at the time `t`: the clock goes forward at the first of two calls. -/
theorem checkInputs_eq_ok {base : AgentBase .camera G} (hknows : base.Knows cfg i) {row : List ℝ}
    (hrow : ObservationRow cfg .camera i row)
    (hclock : (if base.stepCounter % 2 = 0 then base.episodeStep + 1 else base.episodeStep)
      = (t : ℤ)) :
    ∃ state after, base.checkInputs row = .ok (state, after) ∧ after.episodeStep = (t : ℤ) ∧
      ({ after with state } : AgentBase .camera G).Knows cfg i ∧
      after.stepCounter = base.stepCounter + 1 := by
  obtain ⟨state, hcheck, -, -⟩ := hrow.checkInputs hknows
  refine ⟨state, _, hcheck, hclock, ?_, rfl⟩
  exact hknows.observed state _ _

/-- In a step of the environment the inputs are checked twice. -/
theorem Clocked.checkInputs_twice (h : Clocked i t agent) {row : List ℝ}
    (hrow : ObservationRow cfg .camera i row) :
    ∃ state₁ base₁, agent.base.checkInputs row = .ok (state₁, base₁) ∧
      ∃ state₂ base₂, ({ base₁ with state := state₁ } : AgentBase .camera G).checkInputs row
          = .ok (state₂, base₂) ∧
        base₂.episodeStep = (t : ℤ) ∧
        ({ base₂ with state := state₂ } : AgentBase .camera G).Knows cfg i ∧
        base₂.stepCounter = 2 * (t + 1) := by
  have hfirst : (if agent.base.stepCounter % 2 = 0 then agent.base.episodeStep + 1
      else agent.base.episodeStep) = (t : ℤ) := by
    rw [h.stepCounter, h.episodeStep]
    split <;> omega
  obtain ⟨state₁, base₁, hcheck₁, hepisode₁, hknows₁, hcounter₁⟩ :=
    checkInputs_eq_ok h.knows hrow hfirst
  have hsecond : (if base₁.stepCounter % 2 = 0 then base₁.episodeStep + 1
      else base₁.episodeStep) = (t : ℤ) := by
    rw [hcounter₁, h.stepCounter, hepisode₁]
    split <;> omega
  obtain ⟨state₂, base₂, hcheck₂, hepisode₂, hknows₂, hcounter₂⟩ :=
    checkInputs_eq_ok hknows₁ hrow hsecond
  refine ⟨state₁, base₁, hcheck₁, state₂, base₂, hcheck₂, hepisode₂, hknows₂, ?_⟩
  have hcounter : base₂.stepCounter = agent.base.stepCounter + 1 + 1 :=
    hcounter₂.trans (congrArg (· + 1) hcounter₁)
  rw [hcounter, h.stepCounter]
  ring

/-- **One step of the environment.** `observe` moves the clock on to the time, and `act` leaves it
there. -/
theorem Clocked.envStep (h : Clocked i t agent)
    (config : HierarchyConfig Hidden cfg.numTargets) {row : List ℝ}
    (hrow : ObservationRow cfg .camera i row) {taskBits : Fin cfg.numTargets → Bool}
    {coordinatorAgent : Option (HRLMAPPOCameraAgent Hidden G cfg.numTargets)}
    (hdecide : t % config.coordPeriod = 0 → ∀ base : AgentBase .camera G, base.Knows cfg i →
      ({ agent with base } : HiTMACQPLEXCameraAgent Hidden G cfg.numTargets).getCoordinatorAssignment
        row = .ok (taskBits, coordinatorAgent))
    (hkeep : t % config.coordPeriod ≠ 0 →
      (agent.currentAssignment, agent.coordinatorAgent) = (taskBits, coordinatorAgent)) :
    ∃ base, agent.envStep config row
        = .ok (given config t row taskBits, ⟨base, coordinatorAgent, taskBits⟩)
      ∧ Clocked i (t + 1) (⟨base, coordinatorAgent, taskBits⟩ :
          HiTMACQPLEXCameraAgent Hidden G cfg.numTargets) := by
  obtain ⟨state₁, base₁, hcheck₁, state₂, base₂, hcheck₂, hepisode₂, hknows₂, hcounter⟩ :=
    h.checkInputs_twice hrow
  have hobserve : agent.observe row = .ok { agent with base := { base₁ with state := state₁ } } :=
    bind_eq_ok.mpr ⟨_, hcheck₁, rfl⟩
  have hact :
      ({ agent with base := { base₁ with state := state₁ } } :
        HiTMACQPLEXCameraAgent Hidden G cfg.numTargets).act config row = _ :=
    act_eq_ok hrow hcheck₂ hknows₂ hepisode₂ (fun hdue => hdecide hdue _ hknows₂) hkeep
  refine ⟨_, bind_eq_ok.mpr ⟨_, hobserve, hact⟩, hknows₂, hcounter, ?_⟩
  show base₂.episodeStep = ((t + 1 : ℕ) : ℤ) - 1
  rw [hepisode₂]
  push_cast
  ring

/-- Where the decision fails, nothing is done. -/
theorem Clocked.envStep_ne_ok (h : Clocked i t agent) {row : List ℝ}
    (hrow : ObservationRow cfg .camera i row) (hdue : t % config.coordPeriod = 0)
    (hfails : ∀ base : AgentBase .camera G, base.Knows cfg i → ∀ assignment,
      ({ agent with base } : HiTMACQPLEXCameraAgent Hidden G cfg.numTargets).getCoordinatorAssignment
        row ≠ .ok assignment) :
    ∀ result, agent.envStep config row ≠ .ok result := by
  intro result hstep
  obtain ⟨state₁, base₁, hcheck₁, state₂, base₂, hcheck₂, hepisode₂, hknows₂, -⟩ :=
    h.checkInputs_twice hrow
  have hobserve : agent.observe row = .ok { agent with base := { base₁ with state := state₁ } } :=
    bind_eq_ok.mpr ⟨_, hcheck₁, rfl⟩
  have hperiod : base₂.episodeStep % (config.coordPeriod : ℤ) = 0 := by
    rw [hepisode₂]
    omega
  obtain ⟨observed, hobserved, hact⟩ := bind_eq_ok.mp hstep
  obtain rfl := Except.ok.inj (hobserve.symm.trans hobserved)
  obtain ⟨⟨state, base⟩, hcheck, hact⟩ := bind_eq_ok.mp hact
  obtain ⟨rfl, rfl⟩ := Prod.mk.inj (Except.ok.inj (hcheck₂.symm.trans hcheck))
  obtain ⟨assignment, hassignment, -⟩ := bind_eq_ok.mp ((if_pos hperiod).symm.trans hact)
  exact hfails _ hknows₂ assignment hassignment

/-! ### With a coordinator -/

/-- The coordinator of the agent has been called at the times of the decisions before `t`. -/
structure Coordinated (config : HierarchyConfig Hidden cfg.numTargets)
    (settings : Coordinator Hidden cfg.numTargets) (i : Fin (cfg.teamSize .camera))
    (row : ℕ → List ℝ) (t : ℕ) (agent : HiTMACQPLEXCameraAgent Hidden G cfg.numTargets) :
    Prop extends Clocked i t agent where
  coordinatorAgent : ∃ c, agent.coordinatorAgent = some c ∧
    Acted (everyCall settings) i (earlierRows config.coordPeriod row t) c ∧
    (0 < t → agent.currentAssignment = c.lastSelection.getD (fun _ => false))

/-- The tasks at the time `t`, when the coordinator decides at every call. -/
noncomputable def tasksAt (config : HierarchyConfig Hidden cfg.numTargets)
    (settings : Coordinator Hidden cfg.numTargets) (row : ℕ → List ℝ) (t : ℕ) :
    Fin cfg.numTargets → Bool :=
  (everyCall settings).tasks ((decisionRows config.coordPeriod row t).map settings.input)

theorem Coordinated.envStep {settings : Coordinator Hidden cfg.numTargets} {row : ℕ → List ℝ}
    (h : Coordinated config settings i row t agent) (hrow : ObservationRow cfg .camera i (row t)) :
    ∃ agent', agent.envStep config (row t)
        = .ok (given config t (row t) (tasksAt config settings row t), agent') ∧
      Coordinated config settings i row (t + 1) agent' := by
  obtain ⟨c, hc, hacted, hcurrent⟩ := h.coordinatorAgent
  have hrows : decisionRows config.coordPeriod row t = _ := decisionRows_eq row t
  by_cases hdue : t % config.coordPeriod = 0
  · -- the coordinator is called
    rw [if_pos hdue] at hrows
    obtain ⟨c', hact, hacted'⟩ := hacted.act hrow
    rw [← hrows] at hacted'
    have hdecide : ∀ base : AgentBase .camera G, base.Knows cfg i →
        ({ agent with base } : HiTMACQPLEXCameraAgent Hidden G cfg.numTargets).getCoordinatorAssignment
          (row t) = .ok (tasksAt config settings row t, some c') := by
      intro base _
      unfold getCoordinatorAssignment
      rw [hc]
      refine bind_eq_ok.mpr ⟨c', hact, ?_⟩
      rw [hacted'.tasks_eq]
      rfl
    obtain ⟨base, hstep, hclocked⟩ := h.toClocked.envStep config hrow
      (fun _ => hdecide) (fun hnot => absurd hdue hnot)
    exact ⟨_, hstep, hclocked, c', rfl, hacted', fun _ => hacted'.tasks_eq.symm⟩
  · -- the last decision stands
    have hpos : 0 < t := by
      refine Nat.pos_of_ne_zero (fun hzero => hdue ?_)
      rw [hzero, Nat.zero_mod]
    rw [if_neg hdue] at hrows
    rw [← hrows] at hacted
    have hkeep : (agent.currentAssignment, agent.coordinatorAgent)
        = (tasksAt config settings row t, some c) := by
      rw [hcurrent hpos, hacted.tasks_eq, hc]
      rfl
    obtain ⟨base, hstep, hclocked⟩ := h.toClocked.envStep config hrow
      (fun htrue => absurd htrue hdue) (fun _ => hkeep)
    exact ⟨_, hstep, hclocked, c, rfl, hacted, fun _ => hacted.tasks_eq.symm⟩

/-- **An episode of an agent with a trained coordinator**: it decides at the times of the decisions,
on the raw rows. -/
theorem augmented_of_coordinator [RandomState G] {settings : Coordinator Hidden cfg.numTargets}
    (hconfig : config.coordinator = some settings) {row : ℕ → List ℝ} {rows : List (List ℝ)}
    (hne : rows ≠ []) (hrows : ∀ (t : ℕ) r, rows[t]? = some r → r = row t)
    (hrow : ∀ t < rows.length, ObservationRow cfg .camera i (row t)) (g g' : G) :
    ∃ own, augmented config g g' rows = .ok own ∧ own.length = rows.length ∧
      ∀ (t : ℕ) b, own[t]? = some b → b = given config t (row t) (tasksAt config settings row t) := by
  obtain ⟨first, rest, rfl⟩ := List.exists_cons_of_ne_nil hne
  obtain rfl := hrows 0 first rfl
  have hfirst := hrow 0 (Nat.succ_pos _)
  obtain ⟨base, hbase, hknows, -, -, hepisode, hcounter⟩ := hfirst.reset g
  obtain ⟨c, hc, hacted⟩ : ∃ c, HRLMAPPOCameraAgent.reset (everyCall settings) g' (row 0) = .ok c
      ∧ Acted (everyCall settings) i [] c := Acted.reset hfirst g'
  have hreset : reset config g g' (row 0) = .ok ⟨base, some c, fun _ => false⟩ := by
    refine bind_eq_ok.mpr ⟨base, hbase, ?_⟩
    rw [hconfig]
    exact bind_eq_ok.mpr ⟨c, hc, rfl⟩
  have hstart : Coordinated config settings i row 0 ⟨base, some c, fun _ => false⟩ :=
    ⟨⟨hknows, hcounter, hepisode⟩, c, rfl, hacted, fun hpos => absurd hpos (lt_irrefl 0)⟩
  have hstep : ∀ (t : ℕ) r (agent : HiTMACQPLEXCameraAgent Hidden G cfg.numTargets),
      (row 0 :: rest)[t]? = some r → Coordinated config settings i row t agent →
      ∃ b agent', agent.envStep config r = .ok (b, agent') ∧
        b = given config t (row t) (tasksAt config settings row t) ∧
        Coordinated config settings i row (t + 1) agent' := by
    intro t r agent hr hagent
    obtain rfl := hrows t r hr
    obtain ⟨agent', hok, hagent'⟩ := hagent.envStep (hrow t (List.getElem?_eq_some_iff.mp hr).1)
    exact ⟨_, agent', hok, rfl, hagent'⟩
  obtain ⟨own, hown, hlength, hall⟩ := outputs_eq_ok _ _ (row 0 :: rest) _ hstart hstep
  exact ⟨own, bind_eq_ok.mpr ⟨_, hreset, hown⟩, hlength, hall⟩

/-! ### Without one -/

/-- What the assigner of the wrapper makes of one row. -/
def AssignedOne (row : List ℝ) (taskBits : Fin cfg.numTargets → Bool) : Prop :=
  GreedyAssigner.assign cfg.numTargets ⟨cfg.numCameras, HiTMACWrapper.targetViewMaskSlice cfg⟩ [row]
    = .ok [taskBits]

/-- The states of the opponents are in front of the obstacles. -/
theorem opponentMask_eq (numCameras numTargets numObstacles : ℕ) :
    (cameraObservationSlicesOf numCameras numTargets numObstacles).opponentMask
      = (cameraObservationSlicesOf numCameras numTargets 0).opponentMask := by
  simp [cameraObservationSlicesOf, cameraObservationIndicesOf, cumsum, List.ofFn_succ]

/-- The assigner of an agent is the one of the wrapper. -/
theorem assigner_eq {base : AgentBase .camera G} (h : base.Knows cfg i) :
    (⟨base.numCameras, (cameraObservationSlicesOf base.numCameras base.numTargets 0).opponentMask⟩
      : GreedyAssigner) = ⟨cfg.numCameras, HiTMACWrapper.targetViewMaskSlice cfg⟩ := by
  rw [h.numCameras, h.numTargets, HiTMACWrapper.targetViewMaskSlice,
    opponentMask_eq _ _ cfg.numObstacles]

/-- The agent has been assigned tasks on the row of the last decision before `t`. -/
structure Greedy (config : HierarchyConfig Hidden cfg.numTargets) (i : Fin (cfg.teamSize .camera))
    (row : ℕ → List ℝ) (t : ℕ) (agent : HiTMACQPLEXCameraAgent Hidden G cfg.numTargets) :
    Prop extends Clocked i t agent where
  coordinatorAgent : agent.coordinatorAgent = none
  assigned : 0 < t →
    AssignedOne (row ((t - 1) / config.coordPeriod * config.coordPeriod)) agent.currentAssignment

theorem Greedy.envStep {row : ℕ → List ℝ} (hone : cfg.numCameras = 1)
    (h : Greedy config i row t agent) (hrow : ObservationRow cfg .camera i (row t)) :
    ∃ taskBits agent', agent.envStep config (row t) = .ok (given config t (row t) taskBits, agent') ∧
      AssignedOne (row (t / config.coordPeriod * config.coordPeriod)) taskBits ∧
      Greedy config i row (t + 1) agent' := by
  -- a new task at the multiples of the period, the old one in between
  by_cases hdue : t % config.coordPeriod = 0
  · have htime : t / config.coordPeriod * config.coordPeriod = t :=
      Nat.div_mul_cancel (Nat.dvd_of_mod_eq_zero hdue)
    obtain ⟨assignments, hassign, hcount⟩ := GreedyAssigner.assign_eq_ok cfg.numTargets_pos
      ⟨cfg.numCameras, HiTMACWrapper.targetViewMaskSlice cfg⟩
      (show [row t].length = cfg.numCameras from hone.symm)
    obtain ⟨taskBits, rfl⟩ := List.length_eq_one_iff.mp (hcount.trans hone)
    have hassigned : AssignedOne (row (t / config.coordPeriod * config.coordPeriod)) taskBits := by
      rw [htime]
      exact hassign
    have hdecide : ∀ base : AgentBase .camera G, base.Knows cfg i →
        ({ agent with base } : HiTMACQPLEXCameraAgent Hidden G cfg.numTargets).getCoordinatorAssignment
          (row t) = .ok (taskBits, none) := by
      intro base hbase
      unfold getCoordinatorAssignment
      rw [h.coordinatorAgent]
      refine bind_eq_ok.mpr ⟨[taskBits], ?_, rfl⟩
      rw [assigner_eq hbase]
      exact hassign
    obtain ⟨base, hstep, hclocked⟩ := h.toClocked.envStep config hrow
      (fun _ => hdecide) (fun hnot => absurd hdue hnot)
    exact ⟨taskBits, _, hstep, hassigned, hclocked, rfl, fun _ => hassigned⟩
  · obtain ⟨t, rfl⟩ : ∃ s, t = s + 1 := by
      refine Nat.exists_eq_succ_of_ne_zero (fun hzero => hdue ?_)
      rw [hzero, Nat.zero_mod]
    have hsame : (t + 1) / config.coordPeriod = t / config.coordPeriod := by
      rw [Nat.succ_div, if_neg (fun hdvd => hdue (Nat.mod_eq_zero_of_dvd hdvd)), Nat.add_zero]
    have hassigned : AssignedOne (row ((t + 1) / config.coordPeriod * config.coordPeriod))
        agent.currentAssignment := by
      rw [hsame]
      exact h.assigned (Nat.succ_pos t)
    obtain ⟨base, hstep, hclocked⟩ := h.toClocked.envStep config hrow
      (fun htrue => absurd htrue hdue) (fun _ => rfl)
    exact ⟨_, _, hstep, hassigned, hclocked, h.coordinatorAgent, fun _ => hassigned⟩

/-- The reset without a coordinator. -/
theorem Greedy.start [RandomState G] (hconfig : config.coordinator = none) (row : ℕ → List ℝ)
    (hrow : ObservationRow cfg .camera i (row 0)) (g g' : G) :
    ∃ agent, reset config g g' (row 0) = .ok agent ∧ Greedy config i row 0 agent := by
  obtain ⟨base, hbase, hknows, -, -, hepisode, hcounter⟩ := hrow.reset g
  refine ⟨⟨base, none, fun _ => false⟩, bind_eq_ok.mpr ⟨base, hbase, ?_⟩, ?_⟩
  · rw [hconfig]
    rfl
  · exact ⟨⟨hknows, hcounter, hepisode⟩, rfl, fun hpos => absurd hpos (lt_irrefl 0)⟩

/-- **An episode of an agent that assigns greedily**, when there is only one camera. -/
theorem augmented_of_greedy [RandomState G] (hconfig : config.coordinator = none)
    (hone : cfg.numCameras = 1) {row : ℕ → List ℝ} {rows : List (List ℝ)}
    (hne : rows ≠ []) (hrows : ∀ (t : ℕ) r, rows[t]? = some r → r = row t)
    (hrow : ∀ t < rows.length, ObservationRow cfg .camera i (row t)) (g g' : G) :
    ∃ own, augmented config g g' rows = .ok own ∧ own.length = rows.length ∧
      ∀ (t : ℕ) b, own[t]? = some b → ∃ taskBits, b = given config t (row t) taskBits ∧
        AssignedOne (row (t / config.coordPeriod * config.coordPeriod)) taskBits := by
  obtain ⟨first, rest, rfl⟩ := List.exists_cons_of_ne_nil hne
  obtain rfl := hrows 0 first rfl
  obtain ⟨agent, hreset, hstart⟩ := Greedy.start hconfig row (hrow 0 (Nat.succ_pos _)) g g'
  have hstep : ∀ (t : ℕ) r (agent : HiTMACQPLEXCameraAgent Hidden G cfg.numTargets),
      (row 0 :: rest)[t]? = some r → Greedy config i row t agent →
      ∃ b agent', agent.envStep config r = .ok (b, agent') ∧
        (∃ taskBits, b = given config t (row t) taskBits ∧
          AssignedOne (row (t / config.coordPeriod * config.coordPeriod)) taskBits) ∧
        Greedy config i row (t + 1) agent' := by
    intro t r agent hr hagent
    obtain rfl := hrows t r hr
    obtain ⟨taskBits, agent', hok, hassigned, hagent'⟩ :=
      hagent.envStep hone (hrow t (List.getElem?_eq_some_iff.mp hr).1)
    exact ⟨_, agent', hok, ⟨taskBits, rfl, hassigned⟩, hagent'⟩
  obtain ⟨own, hown, hlength, hall⟩ := outputs_eq_ok _ _ (row 0 :: rest) _ hstart hstep
  exact ⟨own, bind_eq_ok.mpr ⟨_, hreset, hown⟩, hlength, hall⟩

/-- **With several cameras** an agent that assigns greedily raises at its first decision. -/
theorem augmented_error [RandomState G] (hconfig : config.coordinator = none)
    (htwo : 2 ≤ cfg.numCameras) {row : List ℝ} (hrow : ObservationRow cfg .camera i row)
    (rest : List (List ℝ)) (g g' : G) :
    ∀ own, augmented config g g' (row :: rest) ≠ .ok own := by
  intro own hown
  obtain ⟨agent, hreset, hstart⟩ := Greedy.start hconfig (fun _ => row) hrow g g'
  obtain ⟨agent', hreset', hown⟩ := bind_eq_ok.mp hown
  obtain rfl : agent = agent' := Except.ok.inj (hreset.symm.trans hreset')
  obtain ⟨result, hstep, -⟩ := bind_eq_ok.mp hown
  refine hstart.toClocked.envStep_ne_ok hrow (Nat.zero_mod _) (fun base hbase assignment h => ?_)
    result hstep
  unfold getCoordinatorAssignment at h
  rw [hstart.coordinatorAgent] at h
  obtain ⟨assignments, hassign, -⟩ := bind_eq_ok.mp h
  refine GreedyAssigner.assign_singleton_error ?_ row assignments hassign
  rw [hbase.numCameras]
  exact htwo

end HiTMACQPLEXCameraAgent

/-! ## Training and deployment -/

section

variable {cfg : Config} {Hidden G S A : Type} [RandomState G] [WordCharacters]

/-- The episodes of a team: `full` has the observations after the reset and after every frame, also
after that with which the episode ends. -/
structure Frames (team : CameraTeam cfg S A) (seed : Option ℕ) (actions : List A) (s : S)
    (rows : List (List (List ℝ))) (full : ℕ → List (List ℝ)) (s₁ s' : S)
    (outcomes : List (Outcome (List ℝ))) : Prop where
  reset : team.reset seed s = .ok (full 0, s₁)
  rollout : rollout team.step actions s₁ = .ok (outcomes, s')
  ready : team.Ready s₁
  observations : ∀ (t : ℕ) outcome, outcomes[t]? = some outcome →
    outcome.observations = full (t + 1)
  joint : ∀ t ≤ outcomes.length, JointRows cfg (full t)
  rows_ne_nil : rows ≠ []
  length_rows : rows.length ≤ outcomes.length + 1
  getElem?_rows : ∀ (t : ℕ) r, rows[t]? = some r → r = full t

/-- The joint observation before every step: the first one, then those of the outcomes. -/
def fullHistory (first : List (List ℝ)) (outcomes : List (Outcome (List ℝ))) :
    ℕ → List (List ℝ)
  | 0 => first
  | t + 1 => (outcomes[t]?.map Outcome.observations).getD []

omit [WordCharacters] in
theorem CameraTeam.exists_frames (team : CameraTeam cfg S A) {seed : Option ℕ} {actions : List A}
    {s : S} {rows : List (List (List ℝ))}
    (h : history team.toTeamEnv seed actions s = .ok rows) :
    ∃ full s₁ s' outcomes, Frames team seed actions s rows full s₁ s' outcomes := by
  obtain ⟨⟨first, s₁⟩, hreset, h⟩ := bind_eq_ok.mp h
  obtain ⟨⟨outcomes, s'⟩, hrollout, h⟩ := bind_eq_ok.mp h
  cases h
  obtain ⟨hfirst, hready⟩ := team.reset_ready hreset
  have hall := team.rollout_ready hready hrollout
  set full := fullHistory first outcomes with hdef
  have hfull : ∀ (t : ℕ) outcome, outcomes[t]? = some outcome →
      outcome.observations = full (t + 1) := by
    intro t outcome ht
    show outcome.observations = (outcomes[t]?.map Outcome.observations).getD []
    rw [ht]
    rfl
  -- the rows of the history are those before the end, and they begin the full one
  have hinitial := List.takeWhile_prefix (fun outcome : Outcome (List ℝ) => !outcome.allDone)
    (l := outcomes)
  refine ⟨full, s₁, s', outcomes, hreset, hrollout, hready, hfull, ?_, List.cons_ne_nil _ _, ?_, ?_⟩
  · intro t ht
    cases t with
    | zero => exact hfirst
    | succ t =>
        rw [← hfull t _ (List.getElem?_eq_getElem ht)]
        exact hall _ (List.getElem_mem ht)
  · rw [List.length_cons, List.length_map]
    exact Nat.succ_le_succ hinitial.length_le
  · intro t r ht
    cases t with
    | zero =>
        cases ht
        rfl
    | succ t =>
        rw [List.getElem?_cons_succ, List.getElem?_map, Option.map_eq_some_iff] at ht
        obtain ⟨outcome, houtcome, rfl⟩ := ht
        have hlt := (List.getElem?_eq_some_iff.mp houtcome).1
        refine hfull t outcome ?_
        rw [List.prefix_iff_getElem?.mp hinitial t hlt]
        exact houtcome ▸ (List.getElem?_eq_getElem hlt).symm

section

variable {team : CameraTeam cfg S A} {seed : Option ℕ} {actions : List A} {s s₁ s' : S}
  {rows : List (List (List ℝ))} {full : ℕ → List (List ℝ)} {outcomes : List (Outcome (List ℝ))}
  {config : HierarchyConfig Hidden cfg.numTargets}

/-- What the wrapper returns of an episode of the team behind the other wrappers. -/
theorem Frames.observed
    (h : Frames team seed (actions.flatMap (List.replicate config.frameSkip)) s rows full s₁ s'
      outcomes)
    {I : ℕ → HiTMACWrapper.Tasks Hidden G cfg.numTargets → Prop} (generators : List G)
    (hreset : (team.preprocessed cfg config.flags).reset seed s
        = .ok (transformEach cfg config.flags (full 0), s₁) →
      ∃ tasks, HiTMACWrapper.reset config (team.preprocessed cfg config.flags) generators seed s
        = .ok (HiTMACWrapper.augmentObservations (transformEach cfg config.flags (full 0))
            tasks.currentAssignments, ⟨s₁, transformEach cfg config.flags (full 0), tasks⟩)
      ∧ I 0 tasks)
    (htick : ∀ t tasks, I t tasks → JointRows cfg (transformEach cfg config.flags (full (t + 1))) →
      ∃ tasks', tasks.tick config (transformEach cfg config.flags (full (t + 1))) = .ok tasks'
        ∧ I (t + 1) tasks') :
    ∃ joint, HiTMACWrapper.observed config (team.preprocessed cfg config.flags) generators seed
        actions s = .ok joint ∧
      ∀ j, j * config.frameSkip ≤ outcomes.length → ∃ tasks, I (j * config.frameSkip) tasks ∧
        joint[j]? = some (HiTMACWrapper.augmentObservations
          (transformEach cfg config.flags (full (j * config.frameSkip)))
          tasks.currentAssignments) := by
  have hlength : (outcomes.map (Outcome.transformed cfg config.flags)).length = outcomes.length :=
    List.length_map _
  -- behind the wrappers the same episode is played, with every row transformed
  have hpreprocessed : (team.preprocessed cfg config.flags).reset seed s
      = .ok (transformEach cfg config.flags (full 0), s₁) :=
    bind_eq_ok.mpr ⟨_, h.reset, bind_eq_ok.mpr
      ⟨_, (h.joint 0 (Nat.zero_le _)).preprocessEach config.flags, rfl⟩⟩
  have hrollout := team.rollout_preprocessed config.flags h.ready h.rollout
  obtain ⟨joint, hjoint, hall⟩ := HiTMACWrapper.observed_eq_ok
    (fun t => transformEach cfg config.flags (full t)) (hreset hpreprocessed) hrollout
    (by
      intro t outcome ht
      rw [List.getElem?_map, Option.map_eq_some_iff] at ht
      obtain ⟨outcome, houtcome, rfl⟩ := ht
      exact congrArg (transformEach cfg config.flags) (h.observations t outcome houtcome))
    (by
      intro t tasks ht hI
      exact htick t tasks hI ((h.joint (t + 1) (hlength ▸ ht)).transformEach config.flags))
  exact ⟨joint, hjoint, fun j hj => hall j (hlength.symm ▸ hj)⟩

omit [WordCharacters] in
/-- A camera's row, and its tasks. -/
theorem getElem?_augmentObservations {observations : List (List ℝ)}
    (hrows : JointRows cfg observations) {assignments : List (Fin cfg.numTargets → Bool)}
    {i : Fin (cfg.teamSize .camera)} {taskBits : Fin cfg.numTargets → Bool}
    (hi : assignments[(i : ℕ)]? = some taskBits) :
    (HiTMACWrapper.augmentObservations observations assignments)[(i : ℕ)]?
      = some ⟨observations.getD i [], taskBits⟩ := by
  rw [HiTMACWrapper.augmentObservations, List.getElem?_zipWith, hrows.getElem? i, hi]

omit [WordCharacters] in
/-- What one camera sees in an episode. -/
theorem Frames.row (h : Frames team seed actions s rows full s₁ s' outcomes)
    (i : Fin (cfg.teamSize .camera)) :
    rows.map (fun r => r.getD i []) ≠ [] ∧
      (∀ (t : ℕ) r, (rows.map (fun r => r.getD (i : ℕ) []))[t]? = some r →
        r = HiTMACWrapper.cameraRow full i t) ∧
      ∀ t < (rows.map (fun r => r.getD (i : ℕ) [])).length,
        ObservationRow cfg .camera i (HiTMACWrapper.cameraRow full i t) := by
  refine ⟨?_, ?_, ?_⟩
  · exact fun hnil => h.rows_ne_nil (List.map_eq_nil_iff.mp hnil)
  · intro t r ht
    rw [List.getElem?_map, Option.map_eq_some_iff] at ht
    obtain ⟨joint, hjoint, rfl⟩ := ht
    rw [h.getElem?_rows t joint hjoint]
    rfl
  · intro t ht
    rw [List.length_map] at ht
    refine (h.joint t ?_).row i
    have := h.length_rows
    omega

end

/-- **The executors are deployed with the tasks that they were trained with**, in an episode: both
go through, and whenever an executor acts, it is given the tasks that the wrapper has returned. -/
def Agrees (config : HierarchyConfig Hidden cfg.numTargets) (team : CameraTeam cfg S A)
    (generators : Fin (cfg.teamSize .camera) → G) (seed : Option ℕ) (actions : List A) (s : S)
    (rows : List (List (List ℝ))) : Prop :=
  ∃ joint, HiTMACWrapper.observed config (team.preprocessed cfg config.flags)
      (List.ofFn generators) seed actions s = .ok joint ∧
    ∀ (i : Fin (cfg.teamSize .camera)) (g g' : G), ∃ own,
      HiTMACQPLEXCameraAgent.augmented config g g' (rows.map (fun r => r.getD i [])) = .ok own ∧
        ∀ t < rows.length, config.frameSkip ∣ t → ∃ a observations b, own[t]? = some (some a) ∧
          joint[t / config.frameSkip]? = some observations ∧ observations[(i : ℕ)]? = some b ∧
          b.taskBits = a.taskBits

section

variable {cfg : Config} {rows : List (List ℝ)}

/-- What an assigner of one camera makes of one row. -/
noncomputable def taskOf (row : List ℝ) : Fin cfg.numTargets → Bool :=
  match GreedyAssigner.assign cfg.numTargets ⟨cfg.numCameras, HiTMACWrapper.targetViewMaskSlice cfg⟩
    [row] with
  | .ok (taskBits :: _) => taskBits
  | _ => fun _ => false

omit [WordCharacters] in
theorem HiTMACQPLEXCameraAgent.AssignedOne.taskOf_eq {row : List ℝ}
    {taskBits : Fin cfg.numTargets → Bool} (h : AssignedOne row taskBits) :
    taskOf row = taskBits := by
  unfold AssignedOne at h
  rw [taskOf, h]

omit [WordCharacters] in
/-- A single camera is assigned the same targets on a row and behind the wrappers. -/
theorem JointRows.assignedOne (h : JointRows cfg rows) (hone : cfg.numCameras = 1)
    (flags : Preprocessing) (i : Fin (cfg.teamSize .camera))
    {assignments : List (Fin cfg.numTargets → Bool)}
    (hassign : GreedyAssigner.assign cfg.numTargets
      ⟨cfg.numCameras, HiTMACWrapper.targetViewMaskSlice cfg⟩ (Rllib.transformEach cfg flags rows)
        = .ok assignments) :
    ∃ taskBits, HiTMACQPLEXCameraAgent.AssignedOne (rows.getD i []) taskBits ∧
      assignments = [taskBits] := by
  obtain ⟨row, rfl⟩ := List.length_eq_one_iff.mp (h.length_eq.trans hone)
  have hlt : (i : ℕ) < cfg.numCameras := i.isLt
  have hzero : (i : ℕ) = 0 := by omega
  have hrow := h.row i
  rw [hzero] at hrow ⊢
  have hread : (Rllib.transformEach cfg flags [row]).map
      (HiTMACWrapper.targetViewMaskSlice cfg).read
        = [row].map (HiTMACWrapper.targetViewMaskSlice cfg).read :=
    congrArg (fun l => [l]) (flags.opponentMask_transform hrow.length_eq_dim)
  have hsame : GreedyAssigner.assign cfg.numTargets
      ⟨cfg.numCameras, HiTMACWrapper.targetViewMaskSlice cfg⟩ (Rllib.transformEach cfg flags [row])
        = GreedyAssigner.assign cfg.numTargets
          ⟨cfg.numCameras, HiTMACWrapper.targetViewMaskSlice cfg⟩ [row] :=
    GreedyAssigner.assign_congr rfl hread
  rw [hsame] at hassign
  obtain ⟨assignments', hassign', hlength⟩ := GreedyAssigner.assign_eq_ok cfg.numTargets_pos
    ⟨cfg.numCameras, HiTMACWrapper.targetViewMaskSlice cfg⟩
    (show [row].length = cfg.numCameras from hone.symm)
  obtain rfl : assignments = assignments' := Except.ok.inj (hassign.symm.trans hassign')
  obtain ⟨taskBits, rfl⟩ := List.length_eq_one_iff.mp (hlength.trans hone)
  exact ⟨taskBits, hassign, rfl⟩

end

section

variable {team : CameraTeam cfg S A} {seed : Option ℕ} {actions : List A} {s s₁ s' : S}
  {rows : List (List (List ℝ))} {full : ℕ → List (List ℝ)} {outcomes : List (Outcome (List ℝ))}
  {config : HierarchyConfig Hidden cfg.numTargets}

/-- In the episode the wrapper tells the executors the task bits `wrapped`. -/
def WrapperTells (config : HierarchyConfig Hidden cfg.numTargets) (team : CameraTeam cfg S A)
    (generators : Fin (cfg.teamSize .camera) → G) (seed : Option ℕ) (actions : List A) (s : S)
    (frames : ℕ) (wrapped : ℕ → Fin (cfg.teamSize .camera) → Fin cfg.numTargets → Bool) : Prop :=
  ∃ joint, HiTMACWrapper.observed config (team.preprocessed cfg config.flags)
      (List.ofFn generators) seed actions s = .ok joint ∧
    ∀ j, j * config.frameSkip ≤ frames → ∃ observations,
      joint[j]? = some observations ∧ ∀ i : Fin (cfg.teamSize .camera),
        ∃ b, observations[(i : ℕ)]? = some b ∧ b.taskBits = wrapped (j * config.frameSkip) i

/-- On the recorded rows the deployed agents append the task bits `deployed`. -/
def AgentsAppend (G : Type) [RandomState G] (config : HierarchyConfig Hidden cfg.numTargets)
    (rows : List (List (List ℝ)))
    (deployed : Fin (cfg.teamSize .camera) → ℕ → Fin cfg.numTargets → Bool) : Prop :=
  ∀ (i : Fin (cfg.teamSize .camera)) (g g' : G), ∃ own,
    HiTMACQPLEXCameraAgent.augmented config g g' (rows.map (fun r => r.getD i [])) = .ok own ∧
      ∀ t < rows.length, config.frameSkip ∣ t → ∃ a, own[t]? = some (some a) ∧
        a.taskBits = deployed i t

/-- Agreement, when what the wrapper and the agents do is known. -/
theorem Frames.agrees_iff
    (h : Frames team seed (actions.flatMap (List.replicate config.frameSkip)) s rows full s₁ s'
      outcomes)
    {generators : Fin (cfg.teamSize .camera) → G}
    {wrapped : ℕ → Fin (cfg.teamSize .camera) → Fin cfg.numTargets → Bool}
    {deployed : Fin (cfg.teamSize .camera) → ℕ → Fin cfg.numTargets → Bool}
    (hjoint : WrapperTells config team generators seed actions s outcomes.length wrapped)
    (hown : AgentsAppend G config rows deployed) :
    Agrees config team generators seed actions s rows
      ↔ ∀ t < rows.length, config.frameSkip ∣ t → ∀ i, wrapped t i = deployed i t := by
  obtain ⟨joint, hobserved, hall⟩ := hjoint
  have hwrapped : ∀ t < rows.length, config.frameSkip ∣ t → ∃ observations,
      joint[t / config.frameSkip]? = some observations ∧ ∀ i : Fin (cfg.teamSize .camera),
        ∃ b, observations[(i : ℕ)]? = some b ∧ b.taskBits = wrapped t i := by
    intro t ht hdvd
    have htime := Nat.div_mul_cancel hdvd
    have hlength := h.length_rows
    obtain ⟨observations, hget, hb⟩ := hall (t / config.frameSkip) (by omega)
    rw [htime] at hb
    exact ⟨observations, hget, hb⟩
  constructor
  · rintro ⟨joint', hobserved', hagree⟩ t ht hdvd i
    -- both runs are determined, so that there is one pair of tasks to compare
    obtain rfl : joint = joint' := Except.ok.inj (hobserved.symm.trans hobserved')
    obtain ⟨own, hok, htasks⟩ := hown i (generators i) (generators i)
    obtain ⟨own', hok', hsame⟩ := hagree i (generators i) (generators i)
    obtain rfl : own = own' := Except.ok.inj (hok.symm.trans hok')
    obtain ⟨a, ha, haBits⟩ := htasks t ht hdvd
    obtain ⟨a', observations', b', ha', hobservations', hb', hbits⟩ := hsame t ht hdvd
    obtain ⟨observations, hobservations, hb⟩ := hwrapped t ht hdvd
    obtain ⟨b, hb, hbBits⟩ := hb i
    obtain rfl : a = a' := Option.some.inj (Option.some.inj (ha.symm.trans ha'))
    obtain rfl : observations = observations' :=
      Option.some.inj (hobservations.symm.trans hobservations')
    obtain rfl : b = b' := Option.some.inj (hb.symm.trans hb')
    rw [← hbBits, hbits, haBits]
  · intro hsame
    refine ⟨joint, hobserved, fun i g g' => ?_⟩
    obtain ⟨own, hok, htasks⟩ := hown i g g'
    refine ⟨own, hok, fun t ht hdvd => ?_⟩
    obtain ⟨a, ha, haBits⟩ := htasks t ht hdvd
    obtain ⟨observations, hobservations, hb⟩ := hwrapped t ht hdvd
    obtain ⟨b, hb, hbBits⟩ := hb i
    refine ⟨a, observations, b, ha, hobservations, hb, ?_⟩
    rw [haBits, hbBits, hsame t ht hdvd i]

omit [WordCharacters] in
/-- A single executor assigns greedily on its own. -/
theorem Frames.agentsAppend_greedy
    (h : Frames team seed (actions.flatMap (List.replicate config.frameSkip)) s rows full s₁ s'
      outcomes)
    (hconfig : config.coordinator = none) (hone : cfg.numCameras = 1) :
    AgentsAppend G config rows (fun i t =>
      taskOf (HiTMACWrapper.cameraRow full i (t / config.coordPeriod * config.coordPeriod))) := by
  intro i g g'
  obtain ⟨hne, hget, hrow⟩ := h.row i
  obtain ⟨own, hok, hlength, hall⟩ :=
    HiTMACQPLEXCameraAgent.augmented_of_greedy hconfig hone hne hget hrow g g'
  refine ⟨own, hok, fun t ht hdvd => ?_⟩
  have hlt : t < own.length := by
    rw [hlength, List.length_map]
    exact ht
  obtain ⟨taskBits, hgiven, hassigned⟩ := hall t _ (List.getElem?_eq_getElem hlt)
  rw [HiTMACQPLEXCameraAgent.given, if_pos (Nat.mod_eq_zero_of_dvd hdvd)] at hgiven
  refine ⟨_, (List.getElem?_eq_getElem hlt).trans (congrArg some hgiven), ?_⟩
  exact hassigned.taskOf_eq.symm

/-- The wrapper assigns greedily on the rows of the last decision. -/
theorem Frames.wrapperTells_greedy
    (h : Frames team seed (actions.flatMap (List.replicate config.frameSkip)) s rows full s₁ s'
      outcomes)
    (hconfig : config.coordinator = none) (hone : cfg.numCameras = 1)
    (generators : Fin (cfg.teamSize .camera) → G) :
    WrapperTells config team generators seed actions s outcomes.length (fun t i =>
      taskOf (HiTMACWrapper.cameraRow full i (t / config.coordPeriod * config.coordPeriod))) := by
  obtain ⟨joint, hobserved, hall⟩ := h.observed (List.ofFn generators)
    (fun hreset => HiTMACWrapper.Greedy.start (fun t => transformEach cfg config.flags (full t))
      hconfig hreset ((h.joint 0 (Nat.zero_le _)).transformEach config.flags) _)
    (fun t tasks hI hrows => hI.tick hrows)
  refine ⟨joint, hobserved, fun j hj => ?_⟩
  obtain ⟨tasks, hI, hget⟩ := hall j hj
  refine ⟨_, hget, fun i => ?_⟩
  have hle := Nat.div_mul_le_self (j * config.frameSkip) config.coordPeriod
  have hseen := h.joint _ (hle.trans hj)
  obtain ⟨taskBits, hassigned, hbits⟩ := hseen.assignedOne hone config.flags i hI.assigned
  have hi : tasks.currentAssignments[(i : ℕ)]? = some taskBits := by
    have hlt : (i : ℕ) < cfg.numCameras := i.isLt
    have hzero : (i : ℕ) = 0 := by omega
    rw [hbits, hzero]
    rfl
  exact ⟨_, getElem?_augmentObservations ((h.joint _ hj).transformEach config.flags) hi,
    hassigned.taskOf_eq.symm⟩

/-- **Greedy fallback**: what the wrapper and the executors do agrees for a single camera only. -/
theorem Frames.agrees_greedy_iff
    (h : Frames team seed (actions.flatMap (List.replicate config.frameSkip)) s rows full s₁ s'
      outcomes)
    (hconfig : config.coordinator = none) (generators : Fin (cfg.teamSize .camera) → G)
    (hcameras : 0 < cfg.numCameras) :
    Agrees config team generators seed actions s rows ↔ cfg.numCameras = 1 := by
  constructor
  · intro hagree
    by_contra hmany
    have htwo : 2 ≤ cfg.numCameras := by omega
    obtain ⟨joint, -, hall⟩ := hagree
    let i : Fin (cfg.teamSize .camera) := ⟨0, hcameras⟩
    obtain ⟨own, hown, -⟩ := hall i (generators i) (generators i)
    obtain ⟨hne, hget, hrow⟩ := h.row i
    obtain ⟨first, rest, hrows⟩ := List.exists_cons_of_ne_nil hne
    rw [hrows] at hown hget hrow
    obtain rfl := hget 0 first rfl
    exact HiTMACQPLEXCameraAgent.augmented_error hconfig htwo (hrow 0 (Nat.succ_pos _)) rest _ _
      own hown
  · intro hone
    exact (h.agrees_iff (h.wrapperTells_greedy hconfig hone generators)
      (h.agentsAppend_greedy hconfig hone)).mpr (fun t _ _ i => rfl)

omit [WordCharacters] in
/-- The inputs of the decisions, behind the wrappers. -/
theorem Frames.map_input (h : Frames team seed actions s rows full s₁ s' outcomes)
    {i : Fin (cfg.teamSize .camera)} {flags : Preprocessing} {period t : ℕ}
    (ht : t ≤ outcomes.length) (f : List ℝ → List ℝ) :
    (decisionRows period (HiTMACWrapper.cameraRow
        (fun t => transformEach cfg flags (full t)) i) t).map f
      = (List.range (t / period + 1)).map (fun m => f (flags.transform .camera cfg.numCameras
          cfg.numTargets cfg.numObstacles (HiTMACWrapper.cameraRow full i (m * period)))) := by
  rw [decisionRows, List.map_map]
  refine List.map_congr_left (fun m hm => congrArg f ?_)
  have hle : m * period ≤ t :=
    le_trans (Nat.mul_le_mul_right _ (Nat.lt_succ_iff.mp (List.mem_range.mp hm)))
      (Nat.div_mul_le_self t period)
  exact (h.joint _ (hle.trans ht)).getD_transformEach flags i

omit [WordCharacters] in
/-- An executor with a coordinator asks it on its own row. -/
theorem Frames.agentsAppend_trained
    (h : Frames team seed (actions.flatMap (List.replicate config.frameSkip)) s rows full s₁ s'
      outcomes)
    {settings : Coordinator Hidden cfg.numTargets} (hconfig : config.coordinator = some settings) :
    AgentsAppend G config rows (fun i t =>
      HiTMACQPLEXCameraAgent.tasksAt config settings (HiTMACWrapper.cameraRow full i) t) := by
  intro i g g'
  obtain ⟨hne, hget, hrow⟩ := h.row i
  obtain ⟨own, hok, hlength, hall⟩ :=
    HiTMACQPLEXCameraAgent.augmented_of_coordinator hconfig hne hget hrow g g'
  refine ⟨own, hok, fun t ht hdvd => ?_⟩
  have hlt : t < own.length := by
    rw [hlength, List.length_map]
    exact ht
  have hgiven := hall t _ (List.getElem?_eq_getElem hlt)
  rw [HiTMACQPLEXCameraAgent.given, if_pos (Nat.mod_eq_zero_of_dvd hdvd)] at hgiven
  exact ⟨_, (List.getElem?_eq_getElem hlt).trans (congrArg some hgiven), rfl⟩

/-- The wrapper asks the coordinator on the rows of all decisions so far. -/
theorem Frames.wrapperTells_trained
    (h : Frames team seed (actions.flatMap (List.replicate config.frameSkip)) s rows full s₁ s'
      outcomes)
    {settings : Coordinator Hidden cfg.numTargets} (hconfig : config.coordinator = some settings)
    (generators : Fin (cfg.teamSize .camera) → G) :
    WrapperTells config team generators seed actions s outcomes.length (fun t i =>
      settings.tasks ((List.range (t / config.coordPeriod + 1)).map (fun m =>
        settings.input (config.flags.transform .camera cfg.numCameras cfg.numTargets
          cfg.numObstacles (HiTMACWrapper.cameraRow full i (m * config.coordPeriod)))))) := by
  obtain ⟨joint, hobserved, hall⟩ := h.observed (List.ofFn generators)
    (fun hreset => HiTMACWrapper.Coordinated.start
      (fun t => transformEach cfg config.flags (full t)) hconfig hreset
      ((h.joint 0 (Nat.zero_le _)).transformEach config.flags) generators)
    (fun t tasks hI hrows => hI.tick hrows)
  refine ⟨joint, hobserved, fun j hj => ?_⟩
  obtain ⟨tasks, hI, hget⟩ := hall j hj
  refine ⟨_, hget, fun i => ?_⟩
  have hi := hI.assignments i
  rw [h.map_input hj] at hi
  exact ⟨_, getElem?_augmentObservations ((h.joint _ hj).transformEach config.flags) hi, rfl⟩

/-- **A trained coordinator**: what the wrapper and the executors do agrees when the coordinators
have the same tasks in mind. -/
theorem Frames.agrees_trained_iff
    (h : Frames team seed (actions.flatMap (List.replicate config.frameSkip)) s rows full s₁ s'
      outcomes)
    {settings : Coordinator Hidden cfg.numTargets} (hconfig : config.coordinator = some settings)
    (generators : Fin (cfg.teamSize .camera) → G) :
    Agrees config team generators seed actions s rows
      ↔ ∀ t < rows.length, config.frameSkip ∣ t → ∀ i : Fin (cfg.teamSize .camera),
          settings.tasks ((List.range (t / config.coordPeriod + 1)).map (fun m =>
              settings.input (config.flags.transform .camera cfg.numCameras cfg.numTargets
                cfg.numObstacles (HiTMACWrapper.cameraRow full i (m * config.coordPeriod)))))
            = HiTMACQPLEXCameraAgent.tasksAt config settings (HiTMACWrapper.cameraRow full i) t := by
  exact h.agrees_iff (h.wrapperTells_trained hconfig generators) (h.agentsAppend_trained hconfig)

omit [RandomState G] [WordCharacters] in
/-- Coordinators with the same policy have the same tasks in mind, whatever the policy is, if they
decide on the same inputs. -/
theorem tasks_eq_iff (cfg : Config) (multiSelection : Bool) (flags : Preprocessing) {frameSkip : ℕ}
    (hpos : 0 < frameSkip) (n : ℕ) (input input' : ℕ → List ℝ) :
    (∀ (Hidden : Type) (policy : SelectionPolicy Hidden cfg.numTargets multiSelection),
      (⟨multiSelection, policy, flags, frameSkip, hpos⟩ : Coordinator Hidden cfg.numTargets).tasks
          ((List.range (n + 1)).map input)
        = (HiTMACQPLEXCameraAgent.everyCall
            (⟨multiSelection, policy, flags, frameSkip, hpos⟩ :
              Coordinator Hidden cfg.numTargets)).tasks ((List.range (n + 1)).map input'))
      ↔ (frameSkip = 1 ∨ n ≤ 1) ∧ ∀ m ≤ n, input m = input' m := by
  have hlength : ∀ f : ℕ → List ℝ, ((List.range (n + 1)).map f).length = n + 1 :=
    fun f => (List.length_map f).trans List.length_range
  have hne : ∀ f : ℕ → List ℝ, (List.range (n + 1)).map f ≠ [] := by
    intro f
    refine List.ne_nil_of_length_pos ?_
    rw [hlength]
    exact Nat.succ_pos n
  have htargets : 0 < cfg.numTargets := cfg.numTargets_pos
  -- the coordinators agree when they have decided on the same inputs
  have hinputs : decided frameSkip ((List.range (n + 1)).map input) = (List.range (n + 1)).map input'
      ↔ (frameSkip = 1 ∨ n ≤ 1) ∧ ∀ m ≤ n, input m = input' m := by
    rw [decided_eq_iff hpos ((hlength input).trans (hlength input').symm), hlength,
      List.map_inj_left]
    refine and_congr (or_congr_right (by omega)) (forall_congr' (fun m => ?_))
    rw [List.mem_range, Nat.lt_succ_iff]
  rw [← hinputs, ← last_eq_iff
    (fun selection : Selection cfg.numTargets multiSelection => selection.bits)
    (Selection.exists_bits_ne htargets multiSelection)]
  refine forall_congr' (fun Hidden => forall_congr' (fun policy => ?_))
  have hdecided : decided frameSkip ((List.range (n + 1)).map input) ≠ [] :=
    decided_ne_nil (hne input)
  obtain ⟨selection, hlast⟩ := policy.exists_last hdecided
  obtain ⟨selection', hlast'⟩ := policy.exists_last (hne input')
  unfold Coordinator.tasks HiTMACQPLEXCameraAgent.everyCall
  rw [decided_one, hlast, hlast']
  exact Option.some_inj.symm

/-- What comes through the wrappers is preprocessed once more to no effect. -/
def Absorbs (cfg : Config) (flags wrappers : Preprocessing) (row : List ℝ) : Prop :=
  flags.transform .camera cfg.numCameras cfg.numTargets cfg.numObstacles
      (wrappers.transform .camera cfg.numCameras cfg.numTargets cfg.numObstacles row)
    = flags.transform .camera cfg.numCameras cfg.numTargets cfg.numObstacles row

omit [RandomState G] [WordCharacters] in
/-- The tasks of the wrapper's coordinator, and those of the agent's. -/
theorem tasksAt_eq_iff (schedule : Schedule) {multiSelection : Bool} {flags : Preprocessing}
    {frameSkip : ℕ} (hpos : 0 < frameSkip) (row : ℕ → List ℝ) (t : ℕ) :
    (∀ (Hidden : Type) (policy : SelectionPolicy Hidden cfg.numTargets multiSelection),
      (⟨multiSelection, policy, flags, frameSkip, hpos⟩ : Coordinator Hidden cfg.numTargets).tasks
          ((List.range (t / schedule.coordPeriod + 1)).map (fun m =>
            (⟨multiSelection, policy, flags, frameSkip, hpos⟩ :
              Coordinator Hidden cfg.numTargets).input
              (schedule.flags.transform .camera cfg.numCameras cfg.numTargets cfg.numObstacles
                (row (m * schedule.coordPeriod)))))
        = HiTMACQPLEXCameraAgent.tasksAt
            ⟨schedule, some ⟨multiSelection, policy, flags, frameSkip, hpos⟩⟩
            ⟨multiSelection, policy, flags, frameSkip, hpos⟩ row t)
      ↔ (frameSkip = 1 ∨ t / schedule.coordPeriod ≤ 1) ∧
        ∀ m ≤ t / schedule.coordPeriod,
          Absorbs cfg flags schedule.flags (row (m * schedule.coordPeriod)) := by
  refine Iff.trans ?_ (tasks_eq_iff cfg multiSelection flags hpos (t / schedule.coordPeriod) _ _)
  refine forall_congr' (fun Hidden => forall_congr' (fun policy => ?_))
  unfold HiTMACQPLEXCameraAgent.tasksAt decisionRows
  rw [List.map_map]
  exact Iff.rfl

end

/-- **Greedily assigned tasks are the trained ones for a single camera only, and those of a
coordinator as long as it decides every time, and to preprocess its inputs once more changes
nothing.** -/
theorem deployed_tasks_agree_iff (team : CameraTeam cfg S A) (schedule : Schedule) (multiSelection : Bool)
    (flags : Preprocessing) (frameSkip : ℕ) (hpos : 0 < frameSkip)
    (generators : Fin (cfg.teamSize .camera) → G) (seed : Option ℕ) (actions : List A) (s : S)
    (rows : List (List (List ℝ)))
    (h : history team.toTeamEnv seed (actions.flatMap (List.replicate schedule.frameSkip)) s
      = .ok rows) :
    (∀ Hidden : Type, Agrees (⟨schedule, none⟩ : HierarchyConfig Hidden cfg.numTargets) team
        generators seed actions s rows ↔ cfg.numCameras = 1) ∧
    ((∀ (Hidden : Type) (policy : SelectionPolicy Hidden cfg.numTargets multiSelection),
        Agrees ⟨schedule, some ⟨multiSelection, policy, flags, frameSkip, hpos⟩⟩ team
          generators seed actions s rows)
      ↔ ∀ t < rows.length, schedule.frameSkip ∣ t →
          (frameSkip = 1 ∨ t / schedule.coordPeriod ≤ 1) ∧
          ∀ m ≤ t / schedule.coordPeriod, ∀ i : Fin (cfg.teamSize .camera),
            Absorbs cfg flags schedule.flags
              ((rows.getD (m * schedule.coordPeriod) []).getD i [])) := by
  obtain ⟨full, s₁, s', outcomes, hframes⟩ := team.exists_frames h
  have hcameras : 0 < cfg.numCameras := by
    rw [← (hframes.joint 0 (Nat.zero_le _)).length_eq, team.length_reset hframes.reset]
    exact team.numTeammates_pos
  refine ⟨fun Hidden => hframes.agrees_greedy_iff rfl generators hcameras, ?_⟩
  -- the rows that the coordinator has seen are those of the frames
  have hrow : ∀ t < rows.length, ∀ m ≤ t / schedule.coordPeriod,
      rows.getD (m * schedule.coordPeriod) [] = full (m * schedule.coordPeriod) := by
    intro t ht m hm
    have hle : m * schedule.coordPeriod ≤ t :=
      (Nat.mul_le_mul_right _ hm).trans (Nat.div_mul_le_self t _)
    have hlt := List.getElem?_eq_getElem (lt_of_le_of_lt hle ht)
    rw [List.getD_eq_getElem?_getD, hlt]
    exact hframes.getElem?_rows _ _ hlt
  constructor
  · intro hall t ht hdvd
    have htasks := fun i : Fin (cfg.teamSize .camera) =>
      (tasksAt_eq_iff schedule hpos (HiTMACWrapper.cameraRow full i) t).mp
      (fun Hidden policy =>
        (hframes.agrees_trained_iff rfl generators).mp (hall Hidden policy) t ht hdvd i)
    refine ⟨(htasks ⟨0, hcameras⟩).1, fun m hm i => ?_⟩
    rw [hrow t ht m hm]
    exact (htasks i).2 m hm
  · intro hall Hidden policy
    refine (hframes.agrees_trained_iff rfl generators).mpr (fun t ht hdvd i => ?_)
    obtain ⟨hskip, habsorbs⟩ := hall t ht hdvd
    refine (tasksAt_eq_iff schedule hpos (HiTMACWrapper.cameraRow full i) t).mpr
      ⟨hskip, fun m hm => ?_⟩ Hidden policy
    have hm' := habsorbs m hm i
    rw [hrow t ht m hm] at hm'
    exact hm'

end

/-! ### The environment -/

/-- Two cameras at the borders. -/
def pairConfig : Config :=
  { leakyConfig with
    camera := some
      { placement := ⟨[(-990, 0), (990, 0)], []⟩
        radius := ⟨1, Positive.one_pos⟩
        minViewingAngle := ⟨180, Positive.oneEighty_pos⟩
        maxSightRange := ⟨3000, Positive.threeThousand_pos⟩
        rotationStep := ⟨360, Positive.threeSixty_pos⟩
        zoomingStep := ⟨5 / 2, Positive.five_halves_pos⟩ } }

section

variable {cfg : Config} {G V T : Type} [RandomState G]

omit [RandomState G] in
/-- The joint observation of an environment has an observation for every camera. -/
theorem jointRows_of_showsObstacles {e : Env cfg G V} (h : e.ShowsObstacles) :
    JointRows cfg (rowsOf e.jointObservation.1 .camera) where
  length_eq := List.length_ofFn
  row := by
    intro i
    have hget : (rowsOf e.jointObservation.1 .camera).getD (i : ℕ) []
        = e.jointObservation.1.row .camera i := by
      have hi : (i : ℕ) < (rowsOf e.jointObservation.1 .camera).length := by
        rw [rowsOf, List.length_ofFn]
        exact i.isLt
      rw [List.getD_eq_getElem?_getD, List.getElem?_eq_getElem hi]
      exact List.getElem_ofFn ..
    rw [hget]
    exact observationRow h .camera i

/-- **The team of the cameras of an environment**, if the opponents leave the obstacles alone. -/
noncomputable def TrackingTeam.cameraTeam [SetOrder] (opponents : Opponents cfg G V T .camera)
    (targetDoneAtDestination : Bool) (fuel : ℕ) (hteam : 0 < cfg.teamSize .camera)
    (hact : ∀ {t : T} {e : Env cfg G V} {r : _ × T × Env cfg G V}, opponents.act t e = .ok r →
      e.KnowsObstacles → r.2.2.KnowsObstacles) :
    CameraTeam cfg (TrackingTeam cfg G V T) (JointAction cfg .camera) where
  toTeamEnv := teamEnv opponents targetDoneAtDestination fuel hteam
  Ready := fun team => team.env.KnowsObstacles
  reset_ready := by
    intro seed team observations team' h
    obtain ⟨⟨rows, reg, e⟩, hreset, h⟩ := bind_eq_ok.mp h
    cases h
    have hknows := reset_knowsObstacles hreset
    obtain rfl := reset_observations hreset
    exact ⟨jointRows_of_showsObstacles hknows.shows, hknows⟩
  step_ready := by
    intro team action outcome team' hready h
    obtain ⟨⟨joint, t, e⟩, hopponents, h⟩ := bind_eq_ok.mp h
    obtain ⟨⟨result, e'⟩, hstep, h⟩ := bind_eq_ok.mp h
    cases h
    have hknows : e'.KnowsObstacles := (Next.step hstep).knowsObstacles (hact hopponents hready)
    refine ⟨?_, hknows⟩
    show JointRows cfg (rowsOf result.observations .camera)
    rw [(step_observations hstep).1]
    exact jointRows_of_showsObstacles hknows.shows

/-- The first observations of an environment, which does not go on. -/
noncomputable def CameraTeam.standing (e : Env cfg G V) (h : e.ShowsObstacles)
    (hteam : 0 < cfg.teamSize .camera) : CameraTeam cfg Unit Unit where
  numTeammates := cfg.teamSize .camera
  numTeammates_pos := hteam
  reset _ _ := .ok (rowsOf e.jointObservation.1 .camera, ())
  step _ _ := .error (.assertionError "The episode is over.")
  length_reset := by
    intro seed s observations s' hreset
    cases hreset
    exact List.length_ofFn
  step_complete := by
    intro s action outcome s' hstep
    cases hstep
  Ready _ := True
  reset_ready := by
    intro seed s observations s' hreset
    cases hreset
    exact ⟨jointRows_of_showsObstacles h, trivial⟩
  step_ready := by
    intro s action outcome s' _ hstep
    cases hstep

/-- An environment with two cameras. -/
theorem exists_pair : ∃ self : Env pairConfig G Unit,
    Env.init pairConfig ⟨0, fun _ => ()⟩ = .ok self ∧ self.ShowsObstacles := by
  have hcamera : ∀ i < 2, Returns (Camera.init (G := G) pairConfig.cameraParams
      (pairConfig.cameraParams.placement.box i)) (fun _ => True) := by
    intro i hi
    unfold Camera.init
    rw [if_pos (by decide +kernel)]
    exact Camera.reset_returns (by decide +kernel) _
  obtain ⟨cameras, hok, -⟩ := initAll_returns 2 hcamera
  have hinit : Env.init (G := G) pairConfig ⟨0, fun _ => ()⟩ = .ok _ :=
    bind_eq_ok.mpr ⟨cameras, hok, rfl⟩
  exact ⟨_, hinit, init_showsObstacles hinit⟩

end

/-- Executors that act at every fifth step and get tasks at every tenth. -/
def pairSchedule (flags : Preprocessing) : Schedule := ⟨flags, 10, 5, Nat.succ_pos 9, Nat.succ_pos 4⟩

/-- **The executors of two cameras raise** when they are deployed without a coordinator. -/
theorem greedy_executors_raise :
    letI := rotating
    letI := asciiWords
    ∃ (self : Env pairConfig (Fin 4) Unit) (hshows : self.ShowsObstacles),
      Env.init pairConfig ⟨0, fun _ => ()⟩ = .ok self ∧
      history (CameraTeam.standing self hshows (by decide)).toTeamEnv none [] ()
        = .ok [rowsOf self.jointObservation.1 .camera] ∧
      ¬ Agrees (⟨pairSchedule ⟨true, true⟩, none⟩ : HierarchyConfig Unit pairConfig.numTargets)
        (CameraTeam.standing self hshows (by decide)) (fun _ => (0 : Fin 4)) none [] ()
        [rowsOf self.jointObservation.1 .camera] := by
  let _ := rotating
  let _ := asciiWords
  obtain ⟨self, hinit, hshows⟩ := exists_pair (G := Fin 4)
  refine ⟨self, hshows, hinit, rfl, ?_⟩
  rintro ⟨joint, -, hall⟩
  obtain ⟨own, hown, -⟩ := hall ⟨0, by decide⟩ 0 0
  have hrow := (jointRows_of_showsObstacles hshows).row ⟨0, by decide⟩
  exact HiTMACQPLEXCameraAgent.augmented_error rfl (by decide) hrow [] 0 0 own hown

/-- The executors of two cameras that have a coordinator, and are behind no wrappers. -/
theorem deployed_tasks_agree_pair :
    letI := rotating
    letI := asciiWords
    ∃ (self : Env pairConfig (Fin 4) Unit) (hshows : self.ShowsObstacles),
      (∀ Hidden : Type, ¬ Agrees (⟨pairSchedule ⟨false, false⟩, none⟩ :
          HierarchyConfig Hidden pairConfig.numTargets)
        (CameraTeam.standing self hshows (by decide)) (fun _ => (0 : Fin 4)) none [] ()
        [rowsOf self.jointObservation.1 .camera]) ∧
      ∀ (Hidden : Type) (policy : SelectionPolicy Hidden pairConfig.numTargets true),
        Agrees (⟨pairSchedule ⟨false, false⟩, some ⟨true, policy, ⟨true, true⟩, 5, by decide⟩⟩ :
            HierarchyConfig Hidden pairConfig.numTargets)
          (CameraTeam.standing self hshows (by decide)) (fun _ => (0 : Fin 4)) none [] ()
          [rowsOf self.jointObservation.1 .camera] := by
  let _ := rotating
  let _ := asciiWords
  obtain ⟨self, -, hshows⟩ := exists_pair (G := Fin 4)
  obtain ⟨hgreedy, htrained⟩ := deployed_tasks_agree_iff
    (CameraTeam.standing self hshows (by decide)) (pairSchedule ⟨false, false⟩) true ⟨true, true⟩ 5
    (by decide) (fun _ => (0 : Fin 4)) none [] () [rowsOf self.jointObservation.1 .camera] rfl
  refine ⟨self, hshows, fun Hidden => (hgreedy Hidden).not.mpr (by decide), ?_⟩
  refine htrained.mpr (fun t ht _ => ⟨Or.inr ?_, fun m _ i => rfl⟩)
  have hzero : t = 0 := Nat.lt_one_iff.mp ht
  rw [hzero, Nat.zero_div]
  exact Nat.zero_le 1

end Mate.Rllib
