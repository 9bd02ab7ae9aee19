import Mate.Rllib.Rollout

set_option autoImplicit false

/-! # Deployed agents against the joint policy

The agent of camera `i` runs the grouped policy with its own observation in slot `0`. It gives the
policy no previous action, the identity of agent `0`, and, if the observations hold action
masks, an empty mask. So it plays component `i` of the joint policy only where none of these is
read, or where nothing that is read can matter (`deployed_agrees_iff`).
-/

namespace Mate.Rllib

open Fallible Nets Layout

namespace GroupedPolicy

variable {policy : GroupedPolicy} (model : RecurrentAgent policy.toAgentShape)

/-- Scores that choose the same action whatever the network puts out. -/
def Indifferent (policy : GroupedPolicy) : Prop :=
  ∀ o o' : Fin policy.outputDim → ℝ,
    policy.greedy (policy.scoresFromOutput o) (fun _ => 1)
      = policy.greedy (policy.scoresFromOutput o') (fun _ => 1)

/-- Over one camera's whole episode, the deployed agent and the joint policy. -/
def DeployedAgrees (policy : GroupedPolicy) (i : Fin policy.nAgents) (T : ℕ) : Prop :=
  ∀ (model : RecurrentAgent policy.toAgentShape) (observations : List (List ℝ)),
    observations.length = T → (∀ flat ∈ observations, policy.WellFormed flat) →
      deployed model i.pos (observations.map (fun flat => policy.ownObservation flat i))
        = (rollout model observations).map (List.map (fun joint => joint i))

/-! ## One step of either -/

/-- The input row of agent `i` in a rollout. -/
noncomputable def rolloutRow (c : Collector policy) (flat : List ℝ) (i : Fin policy.nAgents) :
    policy.Input → ℝ :=
  policy.row ((policy.unpack flat).obs i) (oneHot (c.prevActions i)) i

/-- The input row of the deployed agent of camera `i`. -/
def deployedRow (flat : List ℝ) (i : Fin policy.nAgents) : policy.Input → ℝ :=
  policy.row ((policy.unpack flat).obs i) (fun _ => 0) ⟨0, i.pos⟩

theorem rolloutStep_eq {flat : List ℝ} (h : policy.WellFormed flat) (c : Collector policy) :
    ∃ joint hidden, rolloutStep model c flat = .ok (joint, c.add hidden joint) ∧ ∀ i,
      joint i = policy.greedy
        (policy.scoresFromOutput (model.step (rolloutRow c flat i) (c.hidden i)).1)
        ((policy.unpack flat).actionMask i)
      ∧ hidden i = (model.step (rolloutRow c flat i) (c.hidden i)).2 := by
  refine ⟨_, _, ?_, fun i => ⟨rfl, rfl⟩⟩
  rw [rolloutStep, computeActions_eq model h.length_eq h.available]
  rfl

theorem deployedStep_eq (hmask : policy.hasActionMask = false) {flat : List ℝ}
    (h : policy.WellFormed flat) (i : Fin policy.nAgents) (state : policy.Hidden) :
    ∃ action hidden,
      computeSingleAction model i.pos state (policy.ownObservation flat i) = .ok (action, hidden)
      ∧ action = policy.greedy
        (policy.scoresFromOutput (model.step (deployedRow flat i) (state ⟨0, i.pos⟩)).1)
        (fun _ => 1)
      ∧ hidden ⟨0, i.pos⟩ = (model.step (deployedRow flat i) (state ⟨0, i.pos⟩)).2 := by
  have hown := policy.length_ownObservation h.length_eq i
  have hobs : (policy.unpack
      (policy.preprocessObservation (policy.ownObservation flat i))).obs ⟨0, i.pos⟩
        = (policy.unpack flat).obs i := by
    funext k
    exact unpack_preprocess_obs hown i.pos k
  have hstep := computeActions_eq model (length_preprocess (obsDim_le_flatDim hown i.pos))
    (sum_actionMask_of_not hmask _) state none
  refine ⟨_, _, by rw [computeSingleAction, hstep]; rfl, ?_, ?_⟩
  · simp only [actionMask_of_not hmask]
    rw [deployedRow, ← hobs]
    rfl
  · rw [deployedRow, ← hobs]
    rfl

theorem deployedStep_error (hmask : policy.hasActionMask = true) {flat : List ℝ}
    (h : policy.WellFormed flat) (i : Fin policy.nAgents) (state : policy.Hidden) :
    ∃ e, computeSingleAction model i.pos state (policy.ownObservation flat i) = .error e := by
  have hown := policy.length_ownObservation h.length_eq i
  have hempty : ∑ k, (policy.unpack
      (policy.preprocessObservation (policy.ownObservation flat i))).actionMask ⟨0, i.pos⟩ k ≤ 0 := by
    rw [unpack_preprocess_mask hown hmask i.pos]
    simp
  have hstep := computeActions_error model (length_preprocess (obsDim_le_flatDim hown i.pos))
    hempty state none
  exact ⟨_, by rw [computeSingleAction, hstep]; rfl⟩

/-! ## Where they agree -/

/-- **The simulation.** Both runs agree when the rows of their inputs have the same effect on
hidden states that are related, and related states stay so. -/
theorem deployed_eq_of_simulation (hmask : policy.hasActionMask = false) (i : Fin policy.nAgents)
    (R : (Fin policy.hiddenDim → ℝ) → (Fin policy.hiddenDim → ℝ) → Prop)
    (hR : R (fun _ => 0) (fun _ => 0))
    (hstep : ∀ c flat h h', R h h' →
      policy.greedy (policy.scoresFromOutput (model.step (deployedRow flat i) h').1) (fun _ => 1)
        = policy.greedy (policy.scoresFromOutput (model.step (rolloutRow c flat i) h).1) (fun _ => 1)
      ∧ R (model.step (rolloutRow c flat i) h).2 (model.step (deployedRow flat i) h').2)
    (observations : List (List ℝ)) (hwf : ∀ flat ∈ observations, policy.WellFormed flat) :
    deployed model i.pos (observations.map (fun flat => policy.ownObservation flat i))
      = (rollout model observations).map (List.map (fun joint => joint i)) := by
  apply Alike.eq_map
  refine Alike.outputs (fun flat => policy.ownObservation flat i)
    (R := fun c state => R (c.hidden i) (state ⟨0, i.pos⟩)) observations _ _ hR ?_
  intro c state flat hflat hrel
  obtain ⟨joint, hidden, hroll, hjoint⟩ := rolloutStep_eq model (hwf flat hflat) c
  obtain ⟨action, hidden', hdep, haction, hhidden'⟩ :=
    deployedStep_eq model hmask (hwf flat hflat) i state
  rw [hroll, hdep]
  have h := hstep c flat _ _ hrel
  constructor
  · show action = joint i
    rw [haction, (hjoint i).1, actionMask_of_not hmask]
    exact h.1
  · show R (hidden i) (hidden' ⟨0, i.pos⟩)
    rw [(hjoint i).2, hhidden']
    exact h.2

/-- Without the previous action, and with the same identity, both read the same row. -/
theorem deployedRow_eq (hlast : policy.includeLastAction = false)
    {i : Fin policy.nAgents} (hid : policy.includeAgentId = false ∨ i.val = 0)
    (c : Collector policy) (flat : List ℝ) : deployedRow flat i = rolloutRow c flat i := by
  rw [deployedRow, rolloutRow, AgentShape.row_of_not_lastAction hlast _ _ (oneHot (c.prevActions i))]
  rcases hid with hid | hid
  · exact AgentShape.row_of_not_agentId hid _ _ _ _
  · have hi : (⟨0, i.pos⟩ : Fin policy.nAgents) = i := Fin.ext hid.symm
    rw [hi]

theorem deployedAgrees_of (hmask : policy.hasActionMask = false) {i : Fin policy.nAgents}
    (h : policy.Indifferent ∨ policy.hiddenDim = 0
      ∨ policy.includeLastAction = false ∧ (policy.includeAgentId = false ∨ i.val = 0)) (T : ℕ) :
    policy.DeployedAgrees i T := by
  intro model observations _ hwf
  rcases h with h | h | ⟨hlast, hid⟩
  · -- whatever the states are, the choice is the same
    exact deployed_eq_of_simulation model hmask i (fun _ _ => True) trivial
      (fun c flat _ _ _ => ⟨h _ _, trivial⟩) observations hwf
  · -- there is only one state, and the output is a function of it
    have hone : ∀ a b : Fin policy.hiddenDim → ℝ, a = b :=
      fun a b => funext fun k => absurd k.2 (by omega)
    refine deployed_eq_of_simulation model hmask i (fun _ _ => True) trivial
      (fun c flat a b _ => ⟨?_, trivial⟩) observations hwf
    have hnext := hone (model.step (deployedRow flat i) b).2 (model.step (rolloutRow c flat i) a).2
    exact congrArg (fun next => policy.greedy (policy.scoresFromOutput (model.fc2.apply next)) _)
      hnext
  · -- the rows are equal, so the states stay equal
    refine deployed_eq_of_simulation model hmask i (fun a b => a = b) rfl ?_ observations hwf
    rintro c flat a _ rfl
    rw [deployedRow_eq hlast hid c flat]
    exact ⟨rfl, rfl⟩

/-! ## Where they differ -/

theorem rollout_returns {observations : List (List ℝ)}
    (hwf : ∀ flat ∈ observations, policy.WellFormed flat) :
    Returns (rollout model observations) (fun joints => joints.length = observations.length) := by
  refine (Returns.outputs (I := fun _ => True) (P := fun _ => True) observations _ trivial
    (fun c flat hflat _ => ?_)).mono (fun joints h => h.1)
  obtain ⟨joint, hidden, h, -⟩ := rolloutStep_eq model (hwf flat hflat) c
  exact ⟨_, h, trivial, trivial⟩

theorem wellFormed_of_replicate {T : ℕ} :
    ∀ flat ∈ List.replicate T policy.ones, policy.WellFormed flat := by
  intro flat hflat
  rw [List.eq_of_mem_replicate hflat]
  exact wellFormed_ones policy

/-- Runs that agree on an episode that is not empty agree on its first step. -/
theorem first_of_agree {i : Fin policy.nAgents} {T : ℕ}
    (h : deployed model i.pos
        ((List.replicate (T + 1) policy.ones).map (fun flat => policy.ownObservation flat i))
      = (rollout model (List.replicate (T + 1) policy.ones)).map (List.map (fun joint => joint i))) :
    ∃ r r', rolloutStep model Collector.start policy.ones = .ok r
      ∧ computeSingleAction model i.pos RecurrentAgent.initialState
        (policy.ownObservation policy.ones i) = .ok r'
      ∧ r'.1 = r.1 i := by
  obtain ⟨joints, hjoints, -⟩ := rollout_returns model (wellFormed_of_replicate (T := T + 1))
  rw [hjoints, List.replicate_succ, List.map_cons] at h
  rw [List.replicate_succ] at hjoints
  obtain ⟨r, hr, hhead⟩ := head_outputs hjoints
  obtain ⟨r', hr', hhead'⟩ := head_outputs h
  refine ⟨r, r', hr, hr', ?_⟩
  rw [List.head?_map, hhead] at hhead'
  exact (Option.some.inj hhead').symm

theorem DeployedAgrees.no_mask {i : Fin policy.nAgents} {T : ℕ}
    (h : policy.DeployedAgrees i (T + 1)) (model : RecurrentAgent policy.toAgentShape) :
    policy.hasActionMask = false := by
  by_contra hmask
  rw [Bool.not_eq_false] at hmask
  obtain ⟨r, r', -, hr', -⟩ :=
    first_of_agree model (h model _ List.length_replicate wellFormed_of_replicate)
  obtain ⟨e, he⟩ := deployedStep_error model hmask (wellFormed_ones policy) i
    RecurrentAgent.initialState
  rw [he] at hr'
  cases hr'

/-- A column that is `1` for the rollout and `0` for the deployed agent tells them apart, as soon
as there is a hidden unit to carry it and a choice to make. -/
theorem probe_differs {i : Fin policy.nAgents} (hmask : policy.hasActionMask = false)
    (k : Fin policy.hiddenDim) (x : policy.Input)
    (hroll : rolloutRow Collector.start policy.ones i x = 1) (hdep : deployedRow policy.ones i x = 0)
    {o o' : Fin policy.outputDim → ℝ}
    (hne : policy.greedy (policy.scoresFromOutput o) (fun _ => 1)
      ≠ policy.greedy (policy.scoresFromOutput o') (fun _ => 1)) (T : ℕ) :
    deployed (RecurrentAgent.probe x k o o') i.pos
        ((List.replicate (T + 1) policy.ones).map (fun flat => policy.ownObservation flat i))
      ≠ (rollout (RecurrentAgent.probe x k o o') (List.replicate (T + 1) policy.ones)).map
        (List.map (fun joint => joint i)) := by
  intro h
  -- at the first step already
  obtain ⟨r, r', hr, hr', heq⟩ := first_of_agree _ h
  obtain ⟨joint, hidden, hstep, hjoint⟩ :=
    rolloutStep_eq (RecurrentAgent.probe x k o o') (wellFormed_ones policy) Collector.start
  obtain ⟨action, hidden', hstep', haction, -⟩ :=
    deployedStep_eq (RecurrentAgent.probe x k o o') hmask (wellFormed_ones policy) i
      RecurrentAgent.initialState
  rw [hr] at hstep
  rw [hr'] at hstep'
  cases hstep
  cases hstep'
  have hactions : action = joint i := heq
  rw [haction, (hjoint i).1, actionMask_of_not hmask] at hactions
  apply hne
  calc policy.greedy (policy.scoresFromOutput o) (fun _ => 1)
      = policy.greedy (policy.scoresFromOutput
          ((RecurrentAgent.probe x k o o').step (deployedRow policy.ones i) (fun _ => 0)).1)
          (fun _ => 1) := by rw [RecurrentAgent.probe_step_zero hdep]
    _ = policy.greedy (policy.scoresFromOutput
          ((RecurrentAgent.probe x k o o').step (rolloutRow Collector.start policy.ones i)
            (fun _ => 0)).1) (fun _ => 1) := hactions
    _ = policy.greedy (policy.scoresFromOutput o') (fun _ => 1) := by
        rw [RecurrentAgent.probe_step_one hroll]

theorem DeployedAgrees.indifferent {i : Fin policy.nAgents} {T : ℕ}
    (h : policy.DeployedAgrees i (T + 1)) (hmask : policy.hasActionMask = false)
    (k : Fin policy.hiddenDim) (x : policy.Input)
    (hroll : rolloutRow Collector.start policy.ones i x = 1) (hdep : deployedRow policy.ones i x = 0) :
    policy.Indifferent := by
  intro o o'
  by_contra hne
  exact probe_differs hmask k x hroll hdep hne T
    (h _ _ List.length_replicate wellFormed_of_replicate)

/-- The identity of every agent but the first is lost in the deployed agent. -/
theorem agentIdColumn_differs (hid : policy.includeAgentId = true) {i : Fin policy.nAgents}
    (hi : i.val ≠ 0) (c : Collector policy) (flat : List ℝ) :
    rolloutRow c flat i (AgentShape.agentIdColumn hid i) = 1
      ∧ deployedRow flat i (AgentShape.agentIdColumn hid i) = 0 := by
  constructor
  · rw [rolloutRow, AgentShape.row_agentIdColumn]
    exact if_pos rfl
  · rw [deployedRow, AgentShape.row_agentIdColumn]
    exact if_neg (fun heq => hi (congrArg Fin.val heq))

/-- The first previous action of a rollout is action `0`, the deployed agent is told of none. -/
theorem lastActionColumn_differs (hlast : policy.includeLastAction = true)
    (i : Fin policy.nAgents) (flat : List ℝ) :
    rolloutRow Collector.start flat i
        (AgentShape.lastActionColumn hlast ⟨0, policy.nActions_pos⟩) = 1
      ∧ deployedRow flat i (AgentShape.lastActionColumn hlast ⟨0, policy.nActions_pos⟩) = 0 := by
  constructor
  · rw [rolloutRow, AgentShape.row_lastActionColumn, Collector.prevActions_start]
    exact if_pos rfl
  · rw [deployedRow, AgentShape.row_lastActionColumn]

/-- **When a deployed agent plays its component of the joint policy**: there is nothing to play,
or the observations hold no action mask, and either the choice or the state is trivial, or the
network reads neither the previous action nor (but for agent `0`) the identity. -/
theorem deployed_agrees_iff (policy : GroupedPolicy) (i : Fin policy.nAgents) (T : ℕ) :
    policy.DeployedAgrees i T ↔ T = 0 ∨ policy.hasActionMask = false ∧
      (policy.Indifferent ∨ policy.hiddenDim = 0
        ∨ policy.includeLastAction = false ∧ (policy.includeAgentId = false ∨ i.val = 0)) := by
  constructor
  · intro h
    rcases T with _ | T
    · exact Or.inl rfl
    have hmask := h.no_mask RecurrentAgent.zeros
    refine Or.inr ⟨hmask, ?_⟩
    rcases Nat.eq_zero_or_pos policy.hiddenDim with hhidden | hhidden
    · exact Or.inr (Or.inl hhidden)
    by_cases hlast : policy.includeLastAction = true
    · obtain ⟨hroll, hdep⟩ := lastActionColumn_differs hlast i policy.ones
      exact Or.inl (h.indifferent hmask ⟨0, hhidden⟩ _ hroll hdep)
    by_cases hid : policy.includeAgentId = true ∧ i.val ≠ 0
    · obtain ⟨hroll, hdep⟩ := agentIdColumn_differs hid.1 hid.2 Collector.start policy.ones
      exact Or.inl (h.indifferent hmask ⟨0, hhidden⟩ _ hroll hdep)
    · rw [not_and_or, Bool.not_eq_true, not_not] at hid
      rw [Bool.not_eq_true] at hlast
      exact Or.inr (Or.inr ⟨hlast, hid⟩)
  · rintro (rfl | ⟨hmask, h⟩)
    · intro model observations hlength _
      rw [List.length_eq_zero_iff.mp hlength]
      rfl
    · exact deployedAgrees_of hmask h T

/-! ### Two cameras

A network which scores action `1` higher exactly for camera `1`. Its deployed agent takes itself
for camera `0`. -/

/-- The first column of `fc1` that is not zero is that of the identity of camera `1`. -/
noncomputable def tellsCamerasApart : RecurrentAgent twoCameras.toAgentShape :=
  RecurrentAgent.probe (AgentShape.agentIdColumn rfl (1 : Fin 2)) (0 : Fin 1)
    (oneHot (0 : Fin 2)) (oneHot (1 : Fin 2))

theorem greedy_oneHot (k : Fin 2) : twoCameras.greedy (oneHot k) (fun _ => 1) = k := by
  rw [greedy_of_available twoCameras _ (fun _ => one_pos)]
  exact argmax_oneHot _ k

theorem deployed_ne_twoCameras :
    twoCameras.WellFormed twoCameras.ones
      ∧ deployed tellsCamerasApart (by decide)
          [twoCameras.ownObservation twoCameras.ones (1 : Fin 2)]
        ≠ (rollout tellsCamerasApart [twoCameras.ones]).map
          (List.map (fun joint => joint (1 : Fin 2))) := by
  refine ⟨wellFormed_ones twoCameras, ?_⟩
  obtain ⟨hroll, hdep⟩ :=
    @agentIdColumn_differs twoCameras rfl (1 : Fin 2) (by decide) Collector.start twoCameras.ones
  refine @probe_differs twoCameras (1 : Fin 2) rfl (0 : Fin 1) _ hroll hdep _ _ ?_ 0
  show twoCameras.greedy (oneHot (0 : Fin 2)) _ ≠ twoCameras.greedy (oneHot (1 : Fin 2)) _
  rw [greedy_oneHot, greedy_oneHot]
  exact Fin.zero_ne_one

end GroupedPolicy

end Mate.Rllib
