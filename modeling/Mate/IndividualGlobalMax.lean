import Mate.Rllib.DuelMixers

set_option autoImplicit false

/-! # Individual-Global-Max of the duelling mixers

When every agent plays its own best available action, the joint value is best. For both mixers the
joint value is a part that does not depend on the joint action, less what the agents miss of their
best utilities, each with a non-negative weight (`FocusDuelMixer.jointValue_eq`,
`DuelMixMixer.jointValue_eq`).
-/

namespace Mate.Rllib

open Nets Mixing

/-- The actions that a mask leaves to an agent. -/
abbrev availableActions {n m : ℕ} (available : Fin n → Fin m → Bool) (i : Fin n) : Set (Fin m) :=
  {k | available i k = true}

/-- The values and advantages of the agents stand for utilities whose maxima are the ones the
advantages are centred by. -/
theorem igm_of_maxActionVals {shape : MixerShape} (q : shape.Utilities)
    {available : Fin shape.nAgents → Fin shape.nActions → Bool}
    (havailable : ∀ i, ∃ k, available i k = true)
    {weight : shape.JointAction → shape.Row} (hweight : ∀ a i, 0 ≤ weight a i) (c : ℝ) :
    Igm (availableActions available) q (fun a => c + ∑ i, weight a i
      * (MixerShape.chosen q a i - MixerShape.maxActionVals available q i)) := by
  apply Igm.of_advantage
  · exact fun i k hk => le_maskedArgmax hk
  · exact fun i => ⟨_, available_maskedArgmax (havailable i), rfl⟩
  · exact hweight

namespace FocusDuelMixer

variable {shape : FocusShape} (mixer : FocusDuelMixer shape)

/-- The weights of what the agents miss. They read the values of the agents only with `nonlinear`,
so any row of values can stand for the chosen one. -/
noncomputable def missWeight (states : shape.State) (rho : Option shape.Row)
    (actions : shape.JointAction) : shape.Row :=
  fun i => mixer.lambdaWeights states (MixerShape.onehot actions) rho i
    * mixer.wFinal (fun _ => 0) states i

theorem wFinal_of_linear (h : shape.nonlinear = false) (agentQs agentQs' : shape.Row)
    (states : shape.State) : mixer.wFinal agentQs states = mixer.wFinal agentQs' states := by
  unfold wFinal
  rw [mixer.attentionWeight.headAttend_of_linear h agentQs agentQs']

theorem jointValue_eq (hminus : shape.isMinusOne = true) (hlinear : shape.nonlinear = false)
    (q : shape.Utilities) (available : Fin shape.nAgents → Fin shape.nActions → Bool)
    (states : shape.State) (rho : Option shape.Row) (actions : shape.JointAction) :
    mixer.jointValue q available states rho actions
      = ∑ i, (mixer.wFinal (fun _ => 0) states i * MixerShape.maxActionVals available q i
          + mixer.v states)
        + ∑ i, mixer.missWeight states rho actions i
          * (MixerShape.chosen q actions i - MixerShape.maxActionVals available q i) := by
  rw [jointValue, mixer.forwardV_add_forwardA hminus,
    mixer.wFinal_of_linear hlinear _ (fun _ => 0)]
  rfl

theorem missWeight_nonneg (states : shape.State) {rho : Option shape.Row}
    (hrho : ∀ r ∈ rho, ∀ i, 0 ≤ r i) (actions : shape.JointAction) (i : Fin shape.nAgents) :
    0 ≤ mixer.missWeight states rho actions i :=
  mul_nonneg (mixer.lambdaWeights_nonneg states _ hrho i) (mixer.wFinal_pos _ states i).le

theorem igm (hminus : shape.isMinusOne = true) (hlinear : shape.nonlinear = false)
    (q : shape.Utilities) {available : Fin shape.nAgents → Fin shape.nActions → Bool}
    (havailable : ∀ i, ∃ k, available i k = true) (states : shape.State)
    {rho : Option shape.Row} (hrho : ∀ r ∈ rho, ∀ i, 0 ≤ r i) :
    Igm (availableActions available) q (mixer.jointValue q available states rho) := by
  have h := igm_of_maxActionVals q havailable (mixer.missWeight_nonneg states hrho)
    (∑ i, (mixer.wFinal (fun _ => 0) states i * MixerShape.maxActionVals available q i
      + mixer.v states))
  exact (funext (mixer.jointValue_eq hminus hlinear q available states rho)).symm ▸ h

end FocusDuelMixer

namespace DuelMixMixer

variable {shape : MixerShape} (mixer : DuelMixMixer shape)

theorem jointValue_eq (agentVs : shape.Row) (agentAs : shape.Utilities)
    (available : Fin shape.nAgents → Fin shape.nActions → Bool) (states : shape.State)
    (actions : shape.JointAction) :
    mixer.jointValue agentVs agentAs available states actions
      = mixer.forwardV agentVs states
        + ∑ i, mixer.lambdaWeight.forward states (MixerShape.onehot actions) i
            * mixer.wT states i
          * (MixerShape.chosen agentAs actions i - MixerShape.maxActionVals available agentAs i) := by
  rw [jointValue, forwardA_some]

theorem igm (agentVs : shape.Row) (agentAs : shape.Utilities)
    {available : Fin shape.nAgents → Fin shape.nActions → Bool}
    (havailable : ∀ i, ∃ k, available i k = true) (states : shape.State) :
    Igm (availableActions available) agentAs
      (mixer.jointValue agentVs agentAs available states) := by
  have hweight : ∀ (a : shape.JointAction) (i : Fin shape.nAgents),
      0 ≤ mixer.lambdaWeight.forward states (MixerShape.onehot a) i * mixer.wT states i :=
    fun a i => mul_nonneg (mixer.lambdaWeight.forward_nonneg states _ i) (mixer.wT_pos states i).le
  have h := igm_of_maxActionVals agentAs havailable hweight (mixer.forwardV agentVs states)
  exact (funext (mixer.jointValue_eq agentVs agentAs available states)).symm ▸ h

end DuelMixMixer

/-- **The best joint action is the one of the agents' best actions**, for both mixers: whatever
their parameters, the state and the utilities are, and whatever is available, as long as each agent
has an available action. An agent of DuelMIX chooses by its value plus its advantages. -/
theorem duelMixers_igm :
    (∀ (shape : FocusShape) (mixer : FocusDuelMixer shape) (q : shape.Utilities)
      (available : Fin shape.nAgents → Fin shape.nActions → Bool) (states : shape.State)
      (rho : Option shape.Row), shape.isMinusOne = true → shape.nonlinear = false →
      (∀ i, ∃ k, available i k = true) → (∀ r ∈ rho, ∀ i, 0 ≤ r i) →
      Igm (availableActions available) q (mixer.jointValue q available states rho))
    ∧ ∀ (shape : MixerShape) (mixer : DuelMixMixer shape) (agentVs : shape.Row)
      (agentAs : shape.Utilities) (available : Fin shape.nAgents → Fin shape.nActions → Bool)
      (states : shape.State), (∀ i, ∃ k, available i k = true) →
      Igm (availableActions available) (fun i k => agentVs i + agentAs i k)
        (mixer.jointValue agentVs agentAs available states) := by
  constructor
  · intro shape mixer q available states rho hminus hlinear havailable hrho
    exact mixer.igm hminus hlinear q havailable states hrho
  · intro shape mixer agentVs agentAs available states havailable
    exact Igm.add_left (mixer.igm agentVs agentAs havailable states) agentVs

/-- Weights of zero. -/
def LamdaWeight.zero (shape : MixerShape) : LamdaWeight shape where
  keyExtractors := fun _ => .one ⟨0, 0⟩
  agentsExtractors := fun _ => .one ⟨0, 0⟩
  actionExtractors := fun _ => .one ⟨0, 0⟩

/-- Attention parameters of zero. -/
def QattenWeight.zero (shape : FocusShape) : QattenWeight shape where
  selectorExtractors := fun _ => ⟨⟨0, 0⟩, 0⟩
  keyExtractors := fun _ => 0
  hyperWHead := ⟨⟨0, 0⟩, ⟨0, 0⟩⟩
  v := ⟨⟨0, 0⟩, ⟨0, 0⟩⟩

def DuelMixMixer.zero (shape : MixerShape) : DuelMixMixer shape where
  wTransform := ⟨⟨0, 0⟩, ⟨0, 0⟩⟩
  bTransform := ⟨⟨0, 0⟩, ⟨0, 0⟩⟩
  vMixW := ⟨⟨0, 0⟩, ⟨0, 0⟩⟩
  vMixBias := ⟨⟨0, 0⟩, ⟨0, 0⟩⟩
  lambdaWeight := .zero shape

theorem duelMixers_igm_twoAgents :
    Igm (availableActions (fun (_ : Fin twoAgents.nAgents) (_ : Fin twoAgents.nActions) => true))
        (fun _ k => (k.val : ℝ))
        ((⟨.zero twoAgents, .zero twoAgents.toMixerShape⟩ : FocusDuelMixer twoAgents).jointValue
          (fun _ k => (k.val : ℝ)) (fun _ _ => true) (fun _ => 0) (some (fun _ => 1)))
      ∧ Igm (availableActions
          (fun (_ : Fin twoAgents.nAgents) (_ : Fin twoAgents.nActions) => true))
        (fun _ k => 0 + (k.val : ℝ))
        ((DuelMixMixer.zero twoAgents.toMixerShape).jointValue (fun _ => 0)
          (fun _ k => (k.val : ℝ)) (fun _ _ => true) (fun _ => 0)) := by
  have hsome : ∀ _ : Fin twoAgents.nAgents, ∃ _ : Fin twoAgents.nActions, true = true :=
    fun _ => ⟨⟨0, by decide⟩, rfl⟩
  constructor
  · refine duelMixers_igm.1 twoAgents _ _ _ _ _ rfl rfl hsome ?_
    rintro r hr i
    rw [Option.mem_some_iff.mp hr.symm]
    exact zero_le_one
  · exact duelMixers_igm.2 twoAgents.toMixerShape _ _ _ _ _ hsome

end Mate.Rllib
