import Mate.Rllib.Sequences

set_option autoImplicit false

/-! # What acted and what is learnt from

The actor computes its scores step by step, from a hidden state and previous actions that are
stored outside the network; the learner unrolls the network along a padded sequence. Before the
first step the actor is given the one-hot row of action `0`, since the collector's dummy row is
encoded like any other, and the learner starts from a row of zeros. So the two agree only where
the previous action is not read (`learner_agrees_iff`).
-/

namespace Mate.Rllib

open Fallible Nets

namespace GroupedPolicy

variable {policy : GroupedPolicy} (model : RecurrentAgent policy.toAgentShape)

/-- One call of `compute_actions` in a rollout: what it is given, and the scores. -/
structure ActorStep (policy : GroupedPolicy) where
  flat : List ℝ
  collector : Collector policy
  scores : Fin policy.nAgents → Fin policy.nActions → ℝ

/-- The calls along the rows of an episode. What was executed is fed back, be it greedy or not. -/
noncomputable def acting (c : Collector policy) : List (SampleRow policy) → List (ActorStep policy)
  | [] => []
  | row :: rest =>
      let result := scores model (policy.unpack row.obs).obs c.hidden (some c.prevActions)
      ⟨row.obs, c, result.1⟩ :: acting (c.add result.2 row.actions) rest

/-- The scores of the learner for the first `T` rows of a sequence. -/
noncomputable def learnerScores (T : ℕ)
    (sequence : List (RecurrentAgent.Transition policy.toAgentShape)) :
    List (Fin policy.nAgents → Fin policy.nActions → ℝ) :=
  ((model.unrollCurrentAndNext sequence).take T).map
    (fun u i => policy.scoresFromOutput (u.current i))

/-- The learner's scores for an episode are the actor's, and with a full action mask so are the
greedy actions. -/
structure SequenceAgrees (episode : List (SampleRow policy))
    (sequence : List (RecurrentAgent.Transition policy.toAgentShape)) : Prop where
  scores_eq : learnerScores model episode.length sequence
    = (acting model Collector.start episode).map ActorStep.scores
  greedy_eq : ∀ (t : ℕ) step learner, (acting model Collector.start episode)[t]? = some step →
    (learnerScores model episode.length sequence)[t]? = some learner →
    (∀ i k, 0 < (policy.unpack step.flat).actionMask i k) →
    ∃ next, computeActions model step.flat (some step.collector.hidden)
      (some step.collector.prevActions)
        = .ok (fun i => argmax policy.nActions_pos (learner i), next)

/-- For all parameters, on every episode of `T` steps that fits into one sequence. -/
def LearnerAgrees (policy : GroupedPolicy) (maxSeqLen T : ℕ) : Prop :=
  ∀ (model : RecurrentAgent policy.toAgentShape) (before episode after : List (SampleRow policy)),
    Episode maxSeqLen before episode after → episode.length = T →
      ∃ (batch : GroupedSequenceBatch policy) (k n : ℕ),
        sequenceBatch maxSeqLen (before ++ (episode ++ after)) = .ok batch
        ∧ batch.sequences[k]?
          = some (episode.map SampleRow.transition ++ List.replicate n policy.padding)
        ∧ SequenceAgrees model episode
          (episode.map SampleRow.transition ++ List.replicate n policy.padding)

/-! ## The two unrollings -/

theorem length_flat_of_acting {c : Collector policy} {episode : List (SampleRow policy)}
    (h : ∀ row ∈ episode, row.WellFormed) :
    ∀ step ∈ acting model c episode, policy.WellFormed step.flat := by
  induction episode generalizing c with
  | nil =>
      intro step hstep
      cases hstep
  | cons row rest ih =>
      intro step hstep
      rw [acting] at hstep
      rcases List.mem_cons.mp hstep with rfl | hstep
      · exact (h row List.mem_cons_self).obs
      · exact ih (fun r hr => h r (List.mem_cons_of_mem row hr)) step hstep

/-- The scores that a call computes are those it chooses from. -/
theorem scores_of_acting {c : Collector policy} {episode : List (SampleRow policy)} :
    ∀ step ∈ acting model c episode, step.scores
      = (scores model (policy.unpack step.flat).obs step.collector.hidden
          (some step.collector.prevActions)).1 := by
  induction episode generalizing c with
  | nil =>
      intro step hstep
      cases hstep
  | cons row rest ih =>
      intro step hstep
      rw [acting] at hstep
      rcases List.mem_cons.mp hstep with rfl | hstep
      · rfl
      · exact ih step hstep

/-- Equal scores give equal greedy actions. -/
theorem SequenceAgrees.of_scores {episode : List (SampleRow policy)}
    {sequence : List (RecurrentAgent.Transition policy.toAgentShape)}
    (hwf : ∀ row ∈ episode, row.WellFormed)
    (h : learnerScores model episode.length sequence
      = (acting model Collector.start episode).map ActorStep.scores) :
    SequenceAgrees model episode sequence := by
  refine ⟨h, fun t step learner hstep hlearner hfull => ?_⟩
  have hmem := List.mem_of_getElem? hstep
  have hflat := length_flat_of_acting model hwf step hmem
  have hlearner' : learner = step.scores := by
    rw [h, List.getElem?_map, hstep] at hlearner
    exact (Option.some.inj hlearner).symm
  have hcompute := computeActions_eq model hflat.length_eq hflat.available step.collector.hidden
    (some step.collector.prevActions)
  rw [hlearner', scores_of_acting model step hmem]
  refine ⟨_, hcompute.trans (congrArg Except.ok (Prod.ext (funext fun i => ?_) rfl))⟩
  exact policy.greedy_of_available _ (hfull i)

/-- **The simulation.** The unrollings agree when the network acts alike on hidden states that are
related, whatever the previous actions, and related states stay so. -/
theorem unroll_eq_acting (R : policy.Hidden → policy.Hidden → Prop)
    (hstep : ∀ obs previous previous' h h', R h h' →
      (∀ i, policy.scoresFromOutput ((model.forward obs h (some previous)).1 i)
        = policy.scoresFromOutput ((model.forward obs h' (some previous')).1 i))
      ∧ R (model.forward obs h (some previous)).2 (model.forward obs h' (some previous')).2)
    (episode : List (SampleRow policy)) (c : Collector policy) (hidden : policy.Hidden)
    (previous : Fin policy.nAgents → Fin policy.nActions → ℝ) (hR : R hidden c.hidden) :
    (model.unrollFrom hidden previous (episode.map SampleRow.transition)).map
        (fun u i => policy.scoresFromOutput (u.current i))
      = (acting model c episode).map ActorStep.scores := by
  induction episode generalizing c hidden previous with
  | nil => rfl
  | cons row rest ih =>
      obtain ⟨hscores, hnext⟩ := hstep (policy.unpack row.obs).obs previous
        (policy.previousActionOnehot (some c.prevActions)) hidden c.hidden hR
      rw [List.map_cons, RecurrentAgent.unrollFrom, acting, List.map_cons, List.map_cons]
      refine congrArg₂ List.cons ?_ ?_
      · exact funext hscores
      · exact ih _ _ _ hnext

theorem learnerScores_eq (episode : List (SampleRow policy)) (n : ℕ) :
    learnerScores model episode.length
        (episode.map SampleRow.transition ++ List.replicate n policy.padding)
      = (model.unrollCurrentAndNext (episode.map SampleRow.transition)).map
        (fun u i => policy.scoresFromOutput (u.current i)) := by
  have hlength : episode.length = (episode.map SampleRow.transition).length :=
    (List.length_map _).symm
  rw [learnerScores, hlength, RecurrentAgent.unrollCurrentAndNext, RecurrentAgent.unrollFrom_append]
  rfl

/-- Scores that do not look at what the network puts out. -/
def ConstantScores (policy : GroupedPolicy) : Prop :=
  ∀ o o' : Fin policy.outputDim → ℝ, policy.scoresFromOutput o = policy.scoresFromOutput o'

theorem learnerScores_eq_acting (h : policy.includeLastAction = false ∨ policy.nAgents = 0
      ∨ policy.hiddenDim = 0 ∨ policy.ConstantScores) (episode : List (SampleRow policy)) (n : ℕ) :
    learnerScores model episode.length
        (episode.map SampleRow.transition ++ List.replicate n policy.padding)
      = (acting model Collector.start episode).map ActorStep.scores := by
  rw [learnerScores_eq]
  rcases h with h | h | h | h
  · -- the previous actions are not read, so the states stay equal
    refine unroll_eq_acting model (fun a b => a = b) ?_ episode _ _ _ rfl
    rintro obs previous previous' a _ rfl
    have hforward : model.forward obs a (some previous) = model.forward obs a (some previous') := by
      unfold RecurrentAgent.forward
      simp only [Option.getD_some]
      have hrow : ∀ i, policy.row (obs i) (previous i) i = policy.row (obs i) (previous' i) i :=
        fun i => AgentShape.row_of_not_lastAction h _ _ _ _
      simp only [hrow]
    rw [hforward]
    exact ⟨fun i => rfl, rfl⟩
  · refine unroll_eq_acting model (fun _ _ => True) ?_ episode _ _ _ trivial
    exact fun _ _ _ _ _ _ => ⟨fun i => absurd i.2 (by omega), trivial⟩
  · -- there is only one state, and the output is a function of it
    refine unroll_eq_acting model (fun _ _ => True) ?_ episode _ _ _ trivial
    intro obs previous previous' a b _
    refine ⟨fun i => ?_, trivial⟩
    have hnext : (model.forward obs a (some previous)).2 i
        = (model.forward obs b (some previous')).2 i := funext fun k => absurd k.2 (by omega)
    exact congrArg (fun next => policy.scoresFromOutput (model.fc2.apply next)) hnext
  · refine unroll_eq_acting model (fun _ _ => True) ?_ episode _ _ _ trivial
    exact fun _ _ _ _ _ _ => ⟨fun i => h _ _, trivial⟩

/-! ## The first step -/

/-- A row in which every feature is `1` and every agent takes action `0`. -/
def onesRow (policy : GroupedPolicy) : SampleRow policy where
  epsId := 0
  agentIndex := 0
  unrollId := 0
  obs := policy.ones
  nextObs := policy.ones
  actions := policy.zeroRow

theorem wellFormed_onesRow (policy : GroupedPolicy) : policy.onesRow.WellFormed :=
  ⟨wellFormed_ones policy, (wellFormed_ones policy).length_eq⟩

theorem episode_onesRow {maxSeqLen T : ℕ} (hT : T + 1 ≤ maxSeqLen) :
    Episode maxSeqLen [] (List.replicate (T + 1) policy.onesRow) [] where
  ne_nil := by simp
  fits := by rwa [List.length_replicate]
  wellFormed := by
    intro row hrow
    rw [List.nil_append, List.append_nil] at hrow
    rw [List.eq_of_mem_replicate hrow]
    exact wellFormed_onesRow policy
  one_id := by
    refine ⟨policy.onesRow.uniqueId, fun row hrow => ?_, ?_, ?_⟩
    · rw [List.eq_of_mem_replicate hrow]
    · intro row hrow
      cases hrow
    · intro row hrow
      cases hrow

/-- The actor's first previous action is action `0`, the learner's is none. -/
theorem probe_learner_ne (hlast : policy.includeLastAction = true) (i : Fin policy.nAgents)
    (k : Fin policy.hiddenDim) {o o' : Fin policy.outputDim → ℝ}
    (hne : policy.scoresFromOutput o ≠ policy.scoresFromOutput o') (T n : ℕ) :
    learnerScores (RecurrentAgent.probe
        (AgentShape.lastActionColumn hlast ⟨0, policy.nActions_pos⟩) k o o')
        (List.replicate (T + 1) policy.onesRow).length
        ((List.replicate (T + 1) policy.onesRow).map SampleRow.transition
          ++ List.replicate n policy.padding)
      ≠ (acting (RecurrentAgent.probe
          (AgentShape.lastActionColumn hlast ⟨0, policy.nActions_pos⟩) k o o')
        Collector.start (List.replicate (T + 1) policy.onesRow)).map ActorStep.scores := by
  rw [learnerScores_eq, List.replicate_succ, List.map_cons, RecurrentAgent.unrollCurrentAndNext,
    RecurrentAgent.unrollFrom, acting, List.map_cons, List.map_cons]
  intro h
  apply hne
  have hfirst := congrFun (List.cons.inj h).1 i
  have hlearner : ∀ obs, (policy.row obs (fun _ => 0) i)
      (AgentShape.lastActionColumn hlast ⟨0, policy.nActions_pos⟩) = 0 := fun _ => rfl
  have hactor : ∀ obs, (policy.row obs (oneHot (policy.zeroRow i)) i)
      (AgentShape.lastActionColumn hlast ⟨0, policy.nActions_pos⟩) = 1 := by
    intro obs
    rw [AgentShape.row_lastActionColumn]
    exact if_pos rfl
  have hleft := @RecurrentAgent.probe_step_zero _ _ k o o' _
    (hlearner ((policy.unpack policy.ones).obs i))
  have hright := @RecurrentAgent.probe_step_one _ _ k o o' _
    (hactor ((policy.unpack policy.ones).obs i))
  calc policy.scoresFromOutput o
      = policy.scoresFromOutput _ := (congrArg policy.scoresFromOutput hleft).symm
    _ = policy.scoresFromOutput _ := hfirst
    _ = policy.scoresFromOutput o' := congrArg policy.scoresFromOutput hright

/-- **When the learner evaluates what acted**: there is no such episode or no agent, or the
previous action is not read, or nothing that is read can matter. -/
theorem learner_agrees_iff (policy : GroupedPolicy) (maxSeqLen T : ℕ) :
    policy.LearnerAgrees maxSeqLen T ↔ (T = 0 ∨ maxSeqLen < T) ∨
      (policy.includeLastAction = false ∨ policy.nAgents = 0 ∨ policy.hiddenDim = 0
        ∨ policy.ConstantScores) := by
  constructor
  · intro h
    by_contra hnot
    simp only [not_or] at hnot
    obtain ⟨⟨hT, hmax⟩, hlast, hagents, hhidden, hscores⟩ := hnot
    rw [Bool.not_eq_false] at hlast
    apply hscores
    intro o o'
    by_contra hne
    obtain ⟨T, rfl⟩ : ∃ T', T = T' + 1 := ⟨T - 1, by omega⟩
    obtain ⟨-, k, n, -, -, hagree⟩ := h
      (RecurrentAgent.probe (AgentShape.lastActionColumn hlast ⟨0, policy.nActions_pos⟩)
        ⟨0, Nat.pos_of_ne_zero hhidden⟩ o o')
      [] _ [] (episode_onesRow (Nat.le_of_not_lt hmax)) List.length_replicate
    exact probe_learner_ne hlast ⟨0, Nat.pos_of_ne_zero hagents⟩ _ hne T n hagree.scores_eq
  · rintro (h | h) model before episode after hepisode hlength
    · have hpos := List.length_pos_of_ne_nil hepisode.ne_nil
      have hfits := hepisode.fits
      omega
    · obtain ⟨batch, k, n, hbatch, hsequence⟩ := hepisode.sequence
      refine ⟨batch, k, n, hbatch, hsequence, SequenceAgrees.of_scores model (fun row hrow => ?_)
        (learnerScores_eq_acting model h episode n)⟩
      exact hepisode.wellFormed row
        (List.mem_append_right before (List.mem_append_left after hrow))

/-- A network for the two cameras which scores action `1` higher if the previous action was `0`. -/
noncomputable def tellsFirstStepApart : RecurrentAgent twoCameras.toAgentShape :=
  RecurrentAgent.probe (AgentShape.lastActionColumn rfl (0 : Fin 2)) (0 : Fin 1)
    (oneHot (0 : Fin 2)) (oneHot (1 : Fin 2))

theorem learner_ne_twoCameras :
    sequenceBatch 1 [twoCameras.onesRow] = .ok ⟨[[twoCameras.onesRow.transition]], [1]⟩
      ∧ learnerScores tellsFirstStepApart 1 [twoCameras.onesRow.transition]
        ≠ (acting tellsFirstStepApart Collector.start [twoCameras.onesRow]).map ActorStep.scores := by
  constructor
  · rw [sequenceBatch, mapM_unpackRow_eq (by simp [wellFormed_onesRow])]
    rfl
  · refine @probe_learner_ne twoCameras rfl (0 : Fin 2) (0 : Fin 1) _ _ ?_ 0 0
    intro h
    have hzero := congrFun (show (oneHot (0 : Fin 2) : Fin 2 → ℝ) = oneHot (1 : Fin 2) from h) 0
    exact one_ne_zero hzero

end GroupedPolicy

end Mate.Rllib
