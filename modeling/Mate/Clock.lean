import Mate.Agents.Mixture
import Mate.Codec
import Mate.Environment.Init
import Mate.Library.Runs

set_option autoImplicit false

/-! # The clocks of the agents

`check_inputs` counts its calls, and moves `episode_step` on at every other one: `observe` and
`act` are both expected to make one call. All built-in classes do, except that the cameras of
`HeuristicCameraAgent` do not look at the observation when they act. So their clocks run at half
the speed (`Agent.clock_right_iff`).
-/

namespace Mate

open Fallible Runs

/-! ## Clocks that move at every other tick -/

@[ext]
structure Clock where
  episodeStep : ℤ
  stepCounter : ℕ

namespace Clock

/-- The clock of an agent that has been reset. -/
def start : Clock := ⟨-1, 0⟩

/-- What `check_inputs` does to the clock. -/
def tick (c : Clock) : Clock where
  episodeStep := if c.stepCounter % 2 = 0 then c.episodeStep + 1 else c.episodeStep
  stepCounter := c.stepCounter + 1

theorem iterate_tick (k : ℕ) : tick^[k] start = ⟨((k + 1) / 2 : ℕ) - 1, k⟩ := by
  induction k with
  | zero => rfl
  | succ k ih =>
      rw [Function.iterate_succ_apply', ih]
      apply Clock.ext
      · show (if k % 2 = 0 then _ else _) = _
        split
        · dsimp only
          omega
        · dsimp only
          omega
      · rfl

/-- Two ticks in every round: the clock shows the number of the round. -/
theorem iterate_tick_two (n : ℕ) : (tick^[2 * n] start).episodeStep = n - 1 := by
  rw [iterate_tick]
  dsimp only
  omega

/-- The second tick of a round does not move the clock. -/
theorem iterate_tick_second (n : ℕ) :
    (tick^[2 * n + 2] start).episodeStep = (tick^[2 * n + 1] start).episodeStep := by
  rw [iterate_tick, iterate_tick]
  dsimp only
  omega

/-- With one tick in every round the clock is right in the first round only. -/
theorem iterate_tick_one (n : ℕ) : (tick^[n] start).episodeStep = n - 1 ↔ n ≤ 1 := by
  rw [iterate_tick]
  dsimp only
  omega

end Clock

/-! ## What the methods of each class do to the clock -/

namespace AgentBase

variable {team : Team} {G : Type}

def clock (self : AgentBase team G) : Clock := ⟨self.episodeStep, self.stepCounter⟩

theorem checkInputs_clock (self : AgentBase team G) (observation : List ℝ) :
    Ensures (self.checkInputs observation) (fun r => r.2.clock = self.clock.tick) := by
  rintro ⟨state, base⟩ hcheck
  obtain ⟨-, -, rfl⟩ := checkInputs_eq_ok hcheck
  rfl

theorem observe_clock (self : AgentBase team G) (observation : List ℝ) :
    Ensures (self.observe observation) (fun base => base.clock = self.clock.tick) :=
  (self.checkInputs_clock observation).bind (fun _ hbase => Ensures.pure hbase)

theorem reset_clock [RandomState G] (npRandom : G) (observation : List ℝ) :
    Ensures (AgentBase.reset team npRandom observation) (fun base => base.clock = .start) := by
  intro base h
  obtain ⟨cameras, -, h⟩ := bind_eq_ok.mp h
  obtain ⟨targets, -, h⟩ := bind_eq_ok.mp h
  obtain ⟨obstacles, -, h⟩ := bind_eq_ok.mp h
  obtain ⟨index, -, h⟩ := bind_eq_ok.mp h
  obtain ⟨numCameras, -, h⟩ := bind_eq_ok.mp h
  obtain ⟨numTargets, -, h⟩ := bind_eq_ok.mp h
  obtain ⟨numObstacles, -, h⟩ := bind_eq_ok.mp h
  dsimp only at h
  split at h
  · cases h
  · split at h
    · cases h
    · obtain ⟨state, -, h⟩ := bind_eq_ok.mp h
      cases h
      rfl

end AgentBase

section

variable {G : Type}

theorem GreedyCameraAgent.processMessages_base (self : GreedyCameraAgent G)
    (observation : List ℝ) :
    Ensures (self.processMessages observation) (fun a => a.toAgentBase = self.toAgentBase) := by
  refine Ensures.andThen (fun states => ?_)
  refine Ensures.pure ?_
  have hloop : ∀ (seen : List ((TargetStatePublic × Bool) × ℕ)) (a : GreedyCameraAgent G),
      (seen.foldl (fun self ((targetState, tracked), t) =>
        if tracked then GreedyCameraAgent.see self t targetState else self) a).toAgentBase
        = a.toAgentBase := by
    intro seen
    induction seen with
    | nil => exact fun a => rfl
    | cons s rest ih =>
        intro a
        rw [List.foldl_cons, ih]
        dsimp only
        split <;> rfl
  exact hloop states.zipIdx _

theorem GreedyCameraAgent.observe_clock (self : GreedyCameraAgent G) (observation : List ℝ) :
    Ensures (self.observe observation) (fun a => a.clock = self.clock.tick) := by
  refine (self.checkInputs_clock observation).bind (fun r hr => ?_)
  refine (GreedyCameraAgent.processMessages_base _ observation).mono (fun a ha => ?_)
  rw [AgentBase.clock, ha]
  exact hr

theorem GreedyTargetAgent.observe_clock (self : GreedyTargetAgent G) (observation : List ℝ) :
    Ensures (self.observe observation) (fun a => a.clock = self.clock.tick) := by
  refine (self.checkInputs_clock observation).bind (fun r hr => Ensures.pure ?_)
  have hbase : ∀ a : GreedyTargetAgent G, a.processMessages.toAgentBase = a.toAgentBase := by
    intro a
    unfold GreedyTargetAgent.processMessages
    split <;> rfl
  rw [AgentBase.clock, hbase]
  exact hr

theorem HeuristicCameraAgent.observe_clock (self : HeuristicCameraAgent G)
    (observation : List ℝ) :
    Ensures (self.observe observation) (fun a => a.clock = self.clock.tick) :=
  (self.checkInputs_clock observation).bind (fun _ hr => Ensures.pure hr)

variable [RandomState G]

theorem NaiveCameraAgent.act_clock (self : NaiveCameraAgent G) (observation : List ℝ) :
    Ensures (self.act observation) (fun r => r.2.clock = self.clock.tick) :=
  (self.checkInputs_clock observation).bind (fun _ hr => Ensures.pure hr)

theorem NaiveTargetAgent.act_clock (self : NaiveTargetAgent G) (observation : List ℝ) :
    Ensures (self.act observation) (fun r => r.2.clock = self.clock.tick) := by
  refine (self.checkInputs_clock observation).bind (fun r hr => ?_)
  refine Ensures.andThen (fun goal => ?_)
  exact Ensures.pure hr

theorem RandomAgent.act_clock {team : Team} (self : RandomAgent team G) (observation : List ℝ) :
    Ensures (self.act observation) (fun r => r.2.clock = self.clock.tick) := by
  refine (self.checkInputs_clock observation).bind (fun r hr => ?_)
  dsimp only
  split
  · exact Ensures.pure hr
  · split
    · intro _ h
      cases h
    · split
      · exact Ensures.pure hr
      · exact Ensures.pure hr

theorem GreedyCameraAgent.idle_keeps (self : AgentBase .camera G) (prevAction : ℂ) :
    ∃ npRandom actionSpace,
      (GreedyCameraAgent.idle self prevAction).2 = { self with npRandom, actionSpace } := by
  unfold GreedyCameraAgent.idle
  dsimp only
  split
  · exact ⟨_, _, rfl⟩
  · exact ⟨_, self.actionSpace, rfl⟩

theorem GreedyCameraAgent.idle_clock (self : AgentBase .camera G) (prevAction : ℂ) :
    (GreedyCameraAgent.idle self prevAction).2.clock = self.clock := by
  obtain ⟨npRandom, actionSpace, hidle⟩ := GreedyCameraAgent.idle_keeps self prevAction
  rw [hidle]
  rfl

theorem GreedyCameraAgent.act_clock (self : GreedyCameraAgent G) (observation : List ℝ) :
    Ensures (self.act observation) (fun r => r.2.clock = self.clock.tick) := by
  refine (self.checkInputs_clock observation).bind (fun r hr => ?_)
  refine Ensures.andThen (fun targets => ?_)
  split
  · refine Ensures.andThen (fun action => ?_)
    exact Ensures.pure hr
  · exact Ensures.pure ((GreedyCameraAgent.idle_clock _ _).trans hr)

theorem GreedyTargetAgent.act_clock [SetOrder] (self : GreedyTargetAgent G)
    (observation : List ℝ) :
    Ensures (self.act observation) (fun r => r.2.clock = self.clock.tick) := by
  rintro ⟨action, a⟩ h
  obtain ⟨state, base, hcheck, hsame⟩ := GreedyTargetAgent.act_eq_ok h
  rw [AgentBase.clock, hsame.base]
  exact self.checkInputs_clock observation _ hcheck

theorem HeuristicTargetAgent.act_clock [SetOrder] (self : GreedyTargetAgent G)
    (observation : List ℝ) :
    Ensures (HeuristicTargetAgent.act self observation)
      (fun r => r.2.clock = self.clock.tick) := by
  rintro ⟨action, a⟩ h
  obtain ⟨action', hact⟩ := HeuristicTargetAgent.act_eq_ok h
  exact self.act_clock observation (action', a) hact

theorem HeuristicCameraAgent.goalState_clock (self : HeuristicCameraAgent G) :
    Ensures self.goalState (fun r => r.2.clock = self.clock) := by
  unfold HeuristicCameraAgent.goalState
  split
  · split
    · exact Ensures.pure rfl
    · intro _ h
      cases h
  · split
    · exact Ensures.pure rfl
    · intro _ h
      cases h
    · intro _ h
      cases h
    · refine Ensures.andThen (fun states => ?_)
      dsimp only
      split
      · exact Ensures.pure rfl
      · exact Ensures.pure rfl

/-- Here the call of `check_inputs` is missing. -/
theorem HeuristicCameraAgent.act_clock (self : HeuristicCameraAgent G) (observation : List ℝ) :
    Ensures (self.act observation) (fun r => r.2.clock = self.clock) := by
  refine self.goalState_clock.bind ?_
  rintro ⟨goalState, a⟩ ha
  cases goalState with
  | none => exact Ensures.pure ((GreedyCameraAgent.idle_clock _ _).trans ha)
  | some goal => exact Ensures.pure ha

end

/-! ## What communication does to the clock -/

section

variable {G : Type}

theorem GreedyCameraAgent.learnTarget_base (self : GreedyCameraAgent G)
    (targetState : TargetStatePublic) :
    Ensures (self.learnTarget targetState) (fun a => a.toAgentBase = self.toAgentBase) :=
  Ensures.andThen (fun _ => Ensures.pure rfl)

theorem GreedyCameraAgent.receiveResponses_base (self : GreedyCameraAgent G)
    (memory : Memory Content) (messages : List Message) :
    Ensures (self.receiveResponses memory messages)
      (fun a => a.toAgentBase = self.toAgentBase) := by
  refine Ensures.foldlM (I := fun a : GreedyCameraAgent G => a.toAgentBase = self.toAgentBase)
    messages self rfl (fun a message _ ha => ?_)
  split
  · rename_i content _
    have hmeet : ∀ met : GreedyCameraAgent G, met.toAgentBase = self.toAgentBase →
        Ensures ((content.targetStates.getD []).foldlM GreedyCameraAgent.learnTarget met)
          (fun a => a.toAgentBase = self.toAgentBase) := by
      intro met hmet
      refine Ensures.foldlM _ _ hmet (fun a targetState _ ha => ?_)
      exact (GreedyCameraAgent.learnTarget_base a targetState).mono (fun a' ha' => ha'.trans ha)
    dsimp only
    split
    · exact hmeet _ ha
    · exact hmeet _ ha
  · intro _ h
    cases h

theorem GreedyTargetAgent.receiveContents_base (self : GreedyTargetAgent G)
    (memory : Memory Content) (messages : List Message) :
    Ensures (self.receiveContents memory messages)
      (fun a => a.toAgentBase = self.toAgentBase) := by
  refine Ensures.foldlM (I := fun a : GreedyTargetAgent G => a.toAgentBase = self.toAgentBase)
    messages self rfl (fun a message _ ha => ?_)
  split
  · exact Ensures.pure ha
  · intro _ h
    cases h

theorem GreedyTargetAgent.sendContents_base (self : GreedyTargetAgent G)
    (memory : Memory Content) : (self.sendContents memory).2.2.toAgentBase = self.toAgentBase := by
  show (self.sendResponses memory.warehouses).2.2.toAgentBase = self.toAgentBase
  unfold GreedyTargetAgent.sendResponses
  split <;> rfl

variable [RandomState G]

theorem GreedyCameraAgent.sendTo_clock (c : ℕ) (self : GreedyCameraAgent G)
    (memory : Memory Content) (messages : List Message) :
    Ensures (GreedyCameraAgent.sendTo c self memory messages)
      (fun r => r.1.clock = self.clock) := by
  unfold GreedyCameraAgent.sendTo
  split
  · exact Ensures.pure rfl
  · dsimp only
    split
    · refine Ensures.andThen (fun delay => ?_)
      exact Ensures.pure rfl
    · exact Ensures.pure rfl

theorem GreedyCameraAgent.sendResponses_clock (self : GreedyCameraAgent G)
    (memory : Memory Content) :
    Ensures (self.sendResponses memory) (fun r => r.2.2.clock = self.clock) := by
  unfold GreedyCameraAgent.sendResponses
  dsimp only
  split
  · refine Ensures.bind (P := fun r => r.1.clock = self.clock) ?_
      (fun r hr => Ensures.pure hr)
    refine Ensures.foldlM (I := fun r : GreedyCameraAgent G × Memory Content × List Message =>
      r.1.clock = self.clock) _ _ rfl (fun r c _ hr => ?_)
    exact (GreedyCameraAgent.sendTo_clock c r.1 r.2.1 r.2.2).mono (fun r' hr' => hr'.trans hr)
  · exact Ensures.pure rfl

theorem HeuristicCameraAgent.receiveRequests_clock [SetOrder] (self : HeuristicCameraAgent G)
    (memory : Memory Content) (messages : List Message) :
    Ensures (self.receiveRequests memory messages) (fun a => a.clock = self.clock) := by
  unfold HeuristicCameraAgent.receiveRequests
  split
  · exact Ensures.pure rfl
  · refine Ensures.andThen (fun surveyed => ?_)
    exact Ensures.pure rfl

end

/-! ## The clock of any agent -/

namespace Agent

variable {G : Type}

/-- The clock of the agent itself; the agent that a mixture has chosen has one of its own. -/
def clock {team : Team} (self : Agent G team) : Clock := self.base.clock

/-- `episode_step`. -/
def episodeStep {team : Team} (self : Agent G team) : ℤ := self.base.episodeStep

def isHeuristicCamera {team : Team} : Agent G team → Bool
  | .heuristicCamera _ => true
  | _ => false

/-- The clock has ticked, and the class is the same. -/
def Ticked {team : Team} (self after : Agent G team) : Prop :=
  after.clock = self.clock.tick ∧ after.isHeuristicCamera = self.isHeuristicCamera

/-- Nothing that concerns the clock has happened. -/
def Still {team : Team} (self after : Agent G team) : Prop :=
  after.clock = self.clock ∧ after.isHeuristicCamera = self.isHeuristicCamera

theorem observe_ticked {team : Team} (self : Agent G team) (observation : List ℝ) :
    Ensures (self.observe observation) (Ticked self) := by
  cases self with
  | naiveCamera self =>
      exact (self.toAgentBase.observe_clock observation).bind (fun _ h => Ensures.pure ⟨h, rfl⟩)
  | naiveTarget self =>
      exact (self.toAgentBase.observe_clock observation).bind (fun _ h => Ensures.pure ⟨h, rfl⟩)
  | random self =>
      exact (self.toAgentBase.observe_clock observation).bind (fun _ h => Ensures.pure ⟨h, rfl⟩)
  | greedyCamera self =>
      exact (self.observe_clock observation).bind (fun _ h => Ensures.pure ⟨h, rfl⟩)
  | greedyTarget self =>
      exact (self.observe_clock observation).bind (fun _ h => Ensures.pure ⟨h, rfl⟩)
  | heuristicCamera self =>
      exact (self.observe_clock observation).bind (fun _ h => Ensures.pure ⟨h, rfl⟩)
  | heuristicTarget self =>
      exact (self.observe_clock observation).bind (fun _ h => Ensures.pure ⟨h, rfl⟩)
  | mixture self currentAgent =>
      refine (self.checkInputs_clock observation).bind (fun r hr => ?_)
      refine Ensures.andThen (fun _ => ?_)
      exact Ensures.pure ⟨hr, rfl⟩

variable [RandomState G] [SetOrder]

theorem act_ticked {team : Team} (self : Agent G team) (observation : List ℝ) :
    Ensures (self.act observation) (fun r =>
      if self.isHeuristicCamera then Still self r.2 else Ticked self r.2) := by
  cases self with
  | naiveCamera self =>
      exact (self.act_clock observation).bind (fun _ h => Ensures.pure ⟨h, rfl⟩)
  | naiveTarget self =>
      exact (self.act_clock observation).bind (fun _ h => Ensures.pure ⟨h, rfl⟩)
  | random self =>
      exact (self.act_clock observation).bind (fun _ h => Ensures.pure ⟨h, rfl⟩)
  | greedyCamera self =>
      exact (self.act_clock observation).bind (fun _ h => Ensures.pure ⟨h, rfl⟩)
  | greedyTarget self =>
      exact (self.act_clock observation).bind (fun _ h => Ensures.pure ⟨h, rfl⟩)
  | heuristicCamera self =>
      exact (self.act_clock observation).bind (fun _ h => Ensures.pure ⟨h, rfl⟩)
  | heuristicTarget self =>
      exact (HeuristicTargetAgent.act_clock self observation).bind
        (fun _ h => Ensures.pure ⟨h, rfl⟩)
  | mixture self currentAgent =>
      refine (self.checkInputs_clock observation).bind (fun r hr => ?_)
      refine Ensures.andThen (fun _ => ?_)
      exact Ensures.pure ⟨hr, rfl⟩

theorem receiveRequests_still {team : Team} (self : Agent G team) (memory : Memory Content)
    (messages : List Message) : Ensures (self.receiveRequests memory messages) (Still self) := by
  cases self with
  | heuristicCamera self =>
      exact (self.receiveRequests_clock memory messages).bind (fun _ h => Ensures.pure ⟨h, rfl⟩)
  | mixture self currentAgent =>
      refine Ensures.andThen (fun _ => ?_)
      exact Ensures.pure ⟨rfl, rfl⟩
  | naiveCamera self => exact Ensures.pure ⟨rfl, rfl⟩
  | naiveTarget self => exact Ensures.pure ⟨rfl, rfl⟩
  | random self => exact Ensures.pure ⟨rfl, rfl⟩
  | greedyCamera self => exact Ensures.pure ⟨rfl, rfl⟩
  | greedyTarget self => exact Ensures.pure ⟨rfl, rfl⟩
  | heuristicTarget self => exact Ensures.pure ⟨rfl, rfl⟩

omit [SetOrder] in
theorem sendResponses_still {team : Team} (self : Agent G team) (memory : Memory Content) :
    Ensures (self.sendResponses memory) (fun r => Still self r.2.2) := by
  cases self with
  | greedyCamera self =>
      exact (self.sendResponses_clock memory).bind (fun _ h => Ensures.pure ⟨h, rfl⟩)
  | greedyTarget self =>
      exact Ensures.pure ⟨congrArg AgentBase.clock (self.sendContents_base memory), rfl⟩
  | heuristicCamera self =>
      refine Ensures.andThen (fun _ => ?_)
      exact Ensures.pure ⟨rfl, rfl⟩
  | heuristicTarget self =>
      exact Ensures.pure ⟨congrArg AgentBase.clock (self.sendContents_base memory), rfl⟩
  | mixture self currentAgent =>
      refine Ensures.andThen (fun _ => ?_)
      exact Ensures.pure ⟨rfl, rfl⟩
  | naiveCamera self => exact Ensures.pure ⟨rfl, rfl⟩
  | naiveTarget self => exact Ensures.pure ⟨rfl, rfl⟩
  | random self => exact Ensures.pure ⟨rfl, rfl⟩

omit [RandomState G] [SetOrder] in
theorem receiveResponses_still {team : Team} (self : Agent G team) (memory : Memory Content)
    (messages : List Message) : Ensures (self.receiveResponses memory messages) (Still self) := by
  cases self with
  | greedyCamera self =>
      exact (self.receiveResponses_base memory messages).bind
        (fun _ h => Ensures.pure ⟨congrArg AgentBase.clock h, rfl⟩)
  | greedyTarget self =>
      exact (self.receiveContents_base memory messages).bind
        (fun _ h => Ensures.pure ⟨congrArg AgentBase.clock h, rfl⟩)
  | heuristicCamera self => exact Ensures.pure ⟨rfl, rfl⟩
  | heuristicTarget self =>
      exact (self.receiveContents_base memory messages).bind
        (fun _ h => Ensures.pure ⟨congrArg AgentBase.clock h, rfl⟩)
  | mixture self currentAgent =>
      refine Ensures.andThen (fun _ => ?_)
      exact Ensures.pure ⟨rfl, rfl⟩
  | naiveCamera self => exact Ensures.pure ⟨rfl, rfl⟩
  | naiveTarget self => exact Ensures.pure ⟨rfl, rfl⟩
  | random self => exact Ensures.pure ⟨rfl, rfl⟩

/-! ## Episodes -/

/-- A call between observing and acting. What `send_requests` returns does not depend on a change
of the agent, as it makes none. -/
inductive Exchange {team : Team} : Agent G team → Agent G team → Prop
  | receiveRequests {self after : Agent G team} {memory : Memory Content}
      {messages : List Message} :
      self.receiveRequests memory messages = .ok after → Exchange self after
  | sendResponses {self after : Agent G team} {memory memory' : Memory Content}
      {messages : List Message} :
      self.sendResponses memory = .ok (messages, memory', after) → Exchange self after
  | receiveResponses {self after : Agent G team} {memory : Memory Content}
      {messages : List Message} :
      self.receiveResponses memory messages = .ok after → Exchange self after

omit [RandomState G] [SetOrder] in
theorem Still.trans {team : Team} {a b c : Agent G team} (h : Still a b) (h' : Still b c) :
    Still a c :=
  ⟨h'.1.trans h.1, h'.2.trans h.2⟩

theorem Exchange.still {team : Team} {self after : Agent G team} (h : Exchange self after) :
    Still self after := by
  cases h with
  | receiveRequests h => exact self.receiveRequests_still _ _ _ h
  | sendResponses h => exact self.sendResponses_still _ _ h
  | receiveResponses h => exact self.receiveResponses_still _ _ _ h

/-- What an agent does in one step of the environment: it observes, there may be an exchange of
messages, and it acts. The observation it is given to act may be another one. -/
inductive Cycle {team : Team} : Agent G team → Agent G team → Agent G team → Prop
  | mk {before observed ready after : Agent G team} {observation observation' : List ℝ}
      {action : ℂ} :
      before.observe observation = .ok observed →
      Relation.ReflTransGen Exchange observed ready →
      ready.act observation' = .ok (action, after) → Cycle before observed after

/-- **One cycle**: two ticks, or one for a heuristic camera. -/
theorem Cycle.clock {team : Team} {before observed after : Agent G team}
    (h : Cycle before observed after) :
    observed.clock = before.clock.tick ∧ after.isHeuristicCamera = before.isHeuristicCamera
      ∧ after.clock
        = if before.isHeuristicCamera then observed.clock else observed.clock.tick := by
  obtain ⟨hobserve, hexchange, hact⟩ := h
  rename_i ready observation observation' action
  obtain ⟨hobserved, hclass⟩ := before.observe_ticked observation _ hobserve
  have hready : Still observed ready := by
    clear hact
    induction hexchange with
    | refl => exact ⟨rfl, rfl⟩
    | tail _ hlast ih => exact Still.trans ih hlast.still
  have hacted := ready.act_ticked observation' _ hact
  rw [hready.2, hclass] at hacted
  refine ⟨hobserved, ?_⟩
  split at hacted
  · rename_i hheuristic
    rw [if_pos hheuristic]
    exact ⟨hacted.2.trans (hready.2.trans hclass), hacted.1.trans hready.1⟩
  · rename_i hheuristic
    rw [if_neg hheuristic]
    exact ⟨hacted.2.trans (hready.2.trans hclass),
      hacted.1.trans (congrArg Clock.tick hready.1)⟩

/-- A run of `n` cycles after a reset: `2 * n` ticks, or `n` for a heuristic camera. -/
theorem run_clock {team : Team} {start agent : Agent G team} {observed : List (Agent G team)}
    (hstart : start.clock = .start) (hrun : Run Cycle start observed agent) :
    agent.isHeuristicCamera = start.isHeuristicCamera
      ∧ agent.clock = Clock.tick^[if start.isHeuristicCamera then observed.length
          else 2 * observed.length] .start := by
  refine hrun.induct (fun observed agent => agent.isHeuristicCamera = start.isHeuristicCamera
    ∧ agent.clock = Clock.tick^[if start.isHeuristicCamera then observed.length
      else 2 * observed.length] .start) ⟨rfl, ?_⟩ ?_
  · rw [hstart]
    cases start.isHeuristicCamera <;> rfl
  · rintro done agent observed after ⟨hclass, hclock⟩ hcycle
    obtain ⟨hobserved, hafter, hacted⟩ := hcycle.clock
    refine ⟨hafter.trans hclass, ?_⟩
    rw [hacted, hobserved, hclock, hclass, List.length_append]
    cases start.isHeuristicCamera with
    | true =>
        rw [if_pos rfl, if_pos rfl, if_pos rfl]
        exact (Function.iterate_succ_apply' Clock.tick done.length .start).symm
    | false =>
        rw [if_neg Bool.false_ne_true, if_neg Bool.false_ne_true, if_neg Bool.false_ne_true]
        show _ = Clock.tick^[2 * done.length + 1 + 1] .start
        rw [Function.iterate_succ_apply', Function.iterate_succ_apply']

/-- After `n` cycles `episode_step` is `n - 1`, and between the observing and the acting of the
next cycle it stays as it is. -/
def OnTime {team : Team} (self : Agent G team) (n : ℕ) : Prop :=
  self.episodeStep = n - 1
    ∧ ∀ observed after, Cycle self observed after → after.episodeStep = observed.episodeStep

end Agent

/-- `HeuristicCameraAgent` itself; a mixture that has chosen one has a clock of its own. -/
def BuiltAgent.isHeuristicCamera {G : Type} {team : Team} : BuiltAgent G team → Bool
  | .heuristicCamera _ => true
  | _ => false

section

variable {G : Type} [RandomState G]

theorem BuiltAgent.reset_clock {team : Team} (self : BuiltAgent G team) (observation : List ℝ) :
    Ensures (self.reset observation) (fun agent =>
      agent.clock = .start ∧ agent.isHeuristicCamera = self.isHeuristicCamera) := by
  have hbase : ∀ (team : Team) (npRandom : G),
      Ensures (AgentBase.reset team npRandom observation) (fun base => base.clock = .start) :=
    fun _ npRandom => AgentBase.reset_clock npRandom observation
  -- only the mixture does more than its base: it draws a candidate
  cases self with
  | naiveCamera npRandom =>
      refine Ensures.bind (P := fun a : NaiveCameraAgent G => a.clock = .start) ?_
        (fun _ h => Ensures.pure ⟨h, rfl⟩)
      exact (hbase _ npRandom).bind (fun _ h => Ensures.pure h)
  | naiveTarget npRandom =>
      refine Ensures.bind (P := fun a : NaiveTargetAgent G => a.clock = .start) ?_
        (fun _ h => Ensures.pure ⟨h, rfl⟩)
      refine (hbase _ npRandom).bind (fun base h => ?_)
      exact Ensures.andThen (fun _ => Ensures.pure h)
  | random frameSkip npRandom =>
      refine Ensures.bind (P := fun a : RandomAgent _ G => a.clock = .start) ?_
        (fun _ h => Ensures.pure ⟨h, rfl⟩)
      exact (hbase _ npRandom).bind (fun _ h => Ensures.pure h)
  | greedyCamera memoryPeriod filteroutUnloaded filteroutBeyondRange npRandom =>
      refine Ensures.bind (P := fun a : GreedyCameraAgent G => a.clock = .start) ?_
        (fun _ h => Ensures.pure ⟨h, rfl⟩)
      refine (hbase _ npRandom).bind (fun base h => ?_)
      exact Ensures.andThen (fun _ => Ensures.pure h)
  | greedyTarget noiseScale npRandom =>
      refine Ensures.bind (P := fun a : GreedyTargetAgent G => a.clock = .start) ?_
        (fun _ h => Ensures.pure ⟨h, rfl⟩)
      exact (hbase _ npRandom).bind (fun _ h => Ensures.pure h)
  | heuristicCamera npRandom =>
      refine Ensures.bind (P := fun a : HeuristicCameraAgent G => a.clock = .start) ?_
        (fun _ h => Ensures.pure ⟨h, rfl⟩)
      exact (hbase _ npRandom).bind (fun _ h => Ensures.pure h)
  | heuristicTarget noiseScale npRandom =>
      refine Ensures.bind (P := fun a : GreedyTargetAgent G => a.clock = .start) ?_
        (fun _ h => Ensures.pure ⟨h, rfl⟩)
      exact (hbase _ npRandom).bind (fun _ h => Ensures.pure h)
  | mixture candidates weights npRandom npRandomMixture =>
      refine (hbase _ npRandom).bind (fun base h => ?_)
      refine Ensures.andThen (fun _ => ?_)
      refine Ensures.andThen (fun _ => ?_)
      exact Ensures.pure ⟨h, rfl⟩

/-- **The clock of an agent is right** if and only if the agent is no heuristic camera, or is in
its first cycle. -/
theorem Agent.clock_right_iff [SetOrder] {team : Team} {self : BuiltAgent G team}
    {observation : List ℝ} {start agent : Agent G team} {observed : List (Agent G team)}
    (hreset : self.reset observation = .ok start) (hrun : Run Agent.Cycle start observed agent) :
    agent.OnTime observed.length
      ↔ (self.isHeuristicCamera = false ∨ observed.length ≤ 1) := by
  obtain ⟨hstart, hclass⟩ := self.reset_clock observation _ hreset
  obtain ⟨hsame, hclock⟩ := Agent.run_clock hstart hrun
  rw [hclass] at hclock
  have hstep : agent.episodeStep = agent.clock.episodeStep := rfl
  -- `act` leaves the step alone that `observe` has counted
  have hkeeps : ∀ first after, Agent.Cycle agent first after →
      after.episodeStep = first.episodeStep := by
    intro first after hcycle
    obtain ⟨hfirst, -, hafter⟩ := hcycle.clock
    show after.clock.episodeStep = first.clock.episodeStep
    rw [hsame, hclass] at hafter
    cases hself : self.isHeuristicCamera with
    | true => rw [hafter, if_pos hself]
    | false =>
        rw [hafter, hself, if_neg Bool.false_ne_true, hfirst, hclock, hself,
          if_neg Bool.false_ne_true, ← Function.iterate_succ_apply' Clock.tick,
          ← Function.iterate_succ_apply' Clock.tick]
        exact Clock.iterate_tick_second observed.length
  unfold Agent.OnTime
  rw [and_iff_left hkeeps, hstep, hclock]
  cases self.isHeuristicCamera with
  | true =>
      rw [if_pos rfl, Clock.iterate_tick_one]
      simp
  | false =>
      rw [if_neg Bool.false_ne_true, Clock.iterate_tick_two]
      simp

end

/-! ## A camera that nobody tells anything -/

/-- An observation of the second of two cameras, which does not see the only target. -/
def lookout : List ℝ :=
  [2, 1, 0, 1] ++ [925, 925, -925, 925, -925, -925, 925, -925] ++ [75]
    ++ [0, 0, 40, 100, 0, 60, 100, 5, 2] ++ [0, 0, 0, 0, 0]
    ++ [500, 0, 40, 100, 0, 60, 1] ++ [0, 0, 40, 100, 0, 60, 1]

/-- A heuristic camera that was reset on `lookout` and has got no answer. -/
structure HeuristicCameraAgent.Alone {G : Type} (agent : HeuristicCameraAgent G) : Prop where
  numTargets : agent.numTargets = 1
  index : agent.index = 1
  observationIndices : agent.observationIndices = cameraObservationIndicesOf 2 1 0
  observationSlices : agent.observationSlices = observationSlicesOf .camera 2 1 0
  observationDim : agent.observationDim = lookout.length
  lastResponses : agent.lastResponses = []

section

variable {G : Type} [RandomState G]

theorem HeuristicCameraAgent.reset_alone (npRandom : G) :
    Returns (HeuristicCameraAgent.reset npRandom lookout) Alone := by
  have hread : AgentBase.readEntry lookout 0 = .ok ((2 : ℕ) : ℝ)
      ∧ AgentBase.readEntry lookout 1 = .ok ((1 : ℕ) : ℝ)
      ∧ AgentBase.readEntry lookout 2 = .ok ((0 : ℕ) : ℝ)
      ∧ AgentBase.readEntry lookout 3 = .ok ((1 : ℕ) : ℝ) := by
    refine ⟨?_, ?_, ?_, ?_⟩ <;> push_cast <;> rfl
  obtain ⟨hcameras, htargets, hobstacles, hindex⟩ := hread
  have hcount : ∀ n : ℕ, AgentBase.readCount (n : ℤ) = .ok n := by
    intro n
    rw [AgentBase.readCount, if_pos (Int.natCast_nonneg n), Int.toNat_natCast]
  have hlength : lookout.length = observationIndicesOf .camera 2 1 0 5 := rfl
  have hdim : (observationSpaceOf .camera 2 1 0).dim = lookout.length := rfl
  have hstate : ((observationSlicesOf .camera 2 1 0).selfState.read lookout).length
      = Team.stateDim .camera := rfl
  unfold HeuristicCameraAgent.reset AgentBase.reset
  simp only [hcameras, htargets, hobstacles, hindex, bind, Except.bind, hcount, roundToInt_natCast,
    ← hlength, hdim, ne_eq, not_true_eq_false, if_false, StateBase.make, dif_pos hstate, pure,
    Except.pure]
  exact ⟨_, rfl, rfl, rfl, rfl, rfl, rfl, rfl⟩

omit [RandomState G] in
theorem HeuristicCameraAgent.Alone.observe_returns {agent : HeuristicCameraAgent G}
    (h : agent.Alone) :
    Returns (agent.observe lookout)
      (fun observed => observed.Alone ∧ observed.lastObservation = some lookout) := by
  have hstate : ((observationSlicesOf .camera 2 1 0).selfState.read lookout).length
      = Team.stateDim .camera := rfl
  unfold HeuristicCameraAgent.observe AgentBase.checkInputs
  simp only [h.observationDim, ne_eq, not_true_eq_false, if_false, h.observationSlices,
    StateBase.make, dif_pos hstate, bind, Except.bind, pure, Except.pure]
  exact ⟨_, rfl, ⟨h.numTargets, h.index, h.observationIndices, rfl, rfl, h.lastResponses⟩, rfl⟩

omit [RandomState G] in
/-- It sees no target. -/
theorem HeuristicCameraAgent.Alone.unpackOpponentStates {agent : HeuristicCameraAgent G}
    (h : agent.Alone) :
    Returns (agent.unpackOpponentStates lookout) (fun states => ∀ s ∈ states, s.2 = false) := by
  have hopponents : agent.toAgentBase.numOpponents = 1 := h.numTargets
  have hzero : AgentBase.readEntry lookout 26 = .ok 0 := rfl
  obtain ⟨state, hstate⟩ : ∃ state, agent.getOpponentState lookout 0 = .ok (state, false) := by
    have hmake : (Layout.slice 22 26 lookout).length = Team.opponentStateDim .camera := rfl
    refine ⟨⟨Layout.slice 22 26 lookout, 0, hmake⟩, ?_⟩
    unfold AgentBase.getOpponentState AgentBase.getState
    rw [hopponents, h.observationIndices, if_pos (by norm_num)]
    show (StateBase.make _ (Layout.slice 22 26 lookout) 0 >>= _) = _
    rw [StateBase.make, dif_pos hmake]
    have hoffset : cameraObservationIndicesOf 2 1 0 2
        + (Team.camera.opponentStateDim + 1) * Int.toNat 0 + Team.camera.opponentStateDim = 26 := rfl
    simp only [hoffset, hzero, bind, Except.bind, pure, Except.pure, ne_eq, not_true_eq_false,
      decide_false]
  refine ⟨[(state, false)], ?_, ?_⟩
  · unfold AgentBase.unpackOpponentStates AgentBase.getAllOpponentStates
    rw [hopponents]
    show (List.mapM (fun index => agent.getOpponentState lookout index) [(0 : ℤ)] >>= _) = _
    rw [List.mapM_cons, List.mapM_nil, hstate]
    rfl
  · intro s hs
    rw [List.mem_singleton.mp hs]

/-- Nothing is seen where no state is tracked. -/
theorem filterMap_tracked_eq_nil {states : List (TargetStatePublic × Bool)}
    (h : ∀ s ∈ states, s.2 = false) :
    states.filterMap (fun (ts, tracked) => if tracked then some ts else none) = [] := by
  apply List.filterMap_eq_nil_iff.mpr
  intro s hs
  dsimp only
  rw [h s hs, if_neg Bool.false_ne_true]

theorem HeuristicCameraAgent.Alone.act_returns {agent : HeuristicCameraAgent G}
    (h : agent.Alone) (hlast : agent.lastObservation = some lookout) :
    Returns (agent.act lookout) (fun r => r.2.Alone) := by
  have hgoal : agent.goalState = .ok (none, agent) := by
    obtain ⟨states, hstates, hnone⟩ := h.unpackOpponentStates
    have hseen := filterMap_tracked_eq_nil hnone
    unfold HeuristicCameraAgent.goalState
    rw [h.index, if_neg (by decide), h.lastResponses, hlast]
    show (agent.unpackOpponentStates lookout >>= _) = _
    rw [hstates]
    exact if_neg (fun hpos => hpos.ne' (congrArg List.length hseen))
  unfold HeuristicCameraAgent.act
  rw [hgoal]
  obtain ⟨npRandom, actionSpace, hidle⟩ :=
    GreedyCameraAgent.idle_keeps agent.toAgentBase agent.prevAction
  exact ⟨_, rfl, (congrArg AgentBase.numTargets hidle).trans h.numTargets,
    (congrArg AgentBase.index hidle).trans h.index,
    (congrArg AgentBase.observationIndices hidle).trans h.observationIndices,
    (congrArg AgentBase.observationSlices hidle).trans h.observationSlices,
    (congrArg AgentBase.observationDim hidle).trans h.observationDim, h.lastResponses⟩

/-- A cycle of such a camera, on the same observation. -/
theorem HeuristicCameraAgent.Alone.cycle [SetOrder] {agent : HeuristicCameraAgent G}
    (h : agent.Alone) :
    ∃ observed after : HeuristicCameraAgent G,
      Agent.Cycle (.heuristicCamera agent) (.heuristicCamera observed) (.heuristicCamera after)
        ∧ after.Alone := by
  obtain ⟨observed, hobserve, hobserved, hlast⟩ := h.observe_returns
  obtain ⟨⟨action, after⟩, hact, hafter⟩ := hobserved.act_returns hlast
  have hfirst : (Agent.heuristicCamera agent).observe lookout
      = .ok (.heuristicCamera observed) := by
    show (agent.observe lookout >>= _) = _
    rw [hobserve]
    rfl
  have hsecond : (Agent.heuristicCamera observed).act lookout
      = .ok (action, .heuristicCamera after) := by
    show (observed.act lookout >>= _) = _
    rw [hact]
    rfl
  exact ⟨observed, after, .mk hfirst .refl hsecond, hafter⟩

/-- Two cycles of a heuristic camera. -/
theorem exists_two_cycles [SetOrder] (npRandom : G) :
    ∃ (start agent : Agent G .camera) (observed : List (Agent G .camera)),
      (BuiltAgent.heuristicCamera npRandom).reset lookout = .ok start
        ∧ Run Agent.Cycle start observed agent ∧ observed.length = 2 := by
  obtain ⟨start, hstart, halone⟩ := HeuristicCameraAgent.reset_alone npRandom
  obtain ⟨first, middle, hfirst, hmiddle⟩ := halone.cycle
  obtain ⟨second, last, hsecond, -⟩ := hmiddle.cycle
  refine ⟨.heuristicCamera start, .heuristicCamera last,
    [.heuristicCamera first, .heuristicCamera second], ?_, (Run.single hfirst).snoc hsecond, rfl⟩
  show (HeuristicCameraAgent.reset npRandom lookout >>= _) = _
  rw [hstart]
  rfl

end

/-- After two cycles of a heuristic camera its clock still shows the first one. -/
theorem Agent.clock_right_lookout :
    letI := Env.rotating
    letI := SetOrder.increasing
    ∃ (start agent : Agent (Fin 4) .camera) (observed : List (Agent (Fin 4) .camera)),
      (BuiltAgent.heuristicCamera 0).reset lookout = .ok start
        ∧ Run Agent.Cycle start observed agent ∧ ¬ agent.OnTime observed.length := by
  let _ := Env.rotating
  let _ := SetOrder.increasing
  obtain ⟨start, agent, observed, hreset, hrun, htwo⟩ := exists_two_cycles (0 : Fin 4)
  refine ⟨start, agent, observed, hreset, hrun, fun hontime => ?_⟩
  rcases (Agent.clock_right_iff hreset hrun).mp hontime with hclass | hfew
  · cases hclass
  · omega

theorem Agent.episodeStep_lookout :
    letI := Env.rotating
    letI := SetOrder.increasing
    ∃ (start agent : Agent (Fin 4) .camera) (observed : List (Agent (Fin 4) .camera)),
      (BuiltAgent.heuristicCamera 0).reset lookout = .ok start
        ∧ Run Agent.Cycle start observed agent ∧ observed.length = 2
        ∧ agent.episodeStep = 0 := by
  let _ := Env.rotating
  let _ := SetOrder.increasing
  obtain ⟨start, agent, observed, hreset, hrun, htwo⟩ := exists_two_cycles (0 : Fin 4)
  refine ⟨start, agent, observed, hreset, hrun, htwo, ?_⟩
  obtain ⟨hstart, hclass⟩ := BuiltAgent.reset_clock _ _ _ hreset
  have hclock := (Agent.run_clock hstart hrun).2
  rw [hclass, htwo] at hclock
  exact congrArg Clock.episodeStep hclock

end Mate
