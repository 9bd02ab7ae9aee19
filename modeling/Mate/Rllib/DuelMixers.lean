import Mate.Library.Mixing

set_option autoImplicit false

/-! # The duelling mixers

`FocusDuelMixer` of QPLEX-FOCUS and `DuelMixMixer` of DuelMIX. Both give a joint value in two calls:
a part for the values of the agents (`forwardV`, the call with `is_v=True`) and a part for the
advantages of the chosen actions (`forwardA`, the call with `is_v=False`). The weights of the
advantages come from `LamdaWeight` and look at the whole joint action.
-/

namespace Mate.Rllib

open Nets Mixing

/-- What the constructors of the mixers are given. -/
structure MixerShape where
  nAgents : ℕ
  nActions : ℕ
  stateDim : ℕ
  mixingEmbedDim : ℕ
  ffnHiddenDim : ℕ
  advHypernetEmbed : ℕ
  numKernel : ℕ
  /-- `log(n_agents)` scales the priors of `LamdaWeight`, which divide by it. -/
  two_le_nAgents : 2 ≤ nAgents
  nActions_pos : 0 < nActions
  /-- There is a head to stack. -/
  numKernel_pos : 0 < numKernel

namespace MixerShape

variable (shape : MixerShape)

abbrev State : Type := Fin shape.stateDim → ℝ

/-- One number for each agent. -/
abbrev Row : Type := Fin shape.nAgents → ℝ

/-- The values of all agents' actions. -/
abbrev Utilities : Type := Fin shape.nAgents → Fin shape.nActions → ℝ

abbrev JointAction : Type := Fin shape.nAgents → Fin shape.nActions

variable {shape}

/-- `torch.gather` of the values of a joint action. -/
def chosen (q : shape.Utilities) (actions : shape.JointAction) : shape.Row :=
  fun i => q i (actions i)

def onehot (actions : shape.JointAction) : shape.Utilities := fun i => oneHot (actions i)

/-- `max(dim=3)[0]` of the values, after minus infinity for what is not available. -/
noncomputable def maxActionVals (available : Fin shape.nAgents → Fin shape.nActions → Bool)
    (q : shape.Utilities) : shape.Row :=
  fun i => q i (maskedArgmax shape.nActions_pos (available i) (q i))

end MixerShape

/-- The extractors of `LamdaWeight`, for `adv_hypernet_layers` 1, 2 and 3. -/
inductive Extractor (ι : Type) (embed : ℕ) (κ : Type)
  | one (fc1 : Linear ι κ)
  | two (net : TwoLayer ι embed κ)
  | three (fc1 : Linear ι (Fin embed)) (net : TwoLayer (Fin embed) embed κ)

noncomputable def Extractor.apply {ι κ : Type} {embed : ℕ} [Fintype ι] (x : ι → ℝ) :
    Extractor ι embed κ → κ → ℝ
  | one fc1 => fc1.apply x
  | two net => net.apply x
  | three fc1 net => net.apply (fun k => relu (fc1.apply x k))

/-- `LamdaWeight`, the same in `qplex_v2/mixers.py` and `duelmix/mixers.py`. -/
structure LamdaWeight (shape : MixerShape) where
  keyExtractors : Fin shape.numKernel →
    Extractor (Fin shape.stateDim) shape.advHypernetEmbed (Fin 1)
  agentsExtractors : Fin shape.numKernel →
    Extractor (Fin shape.stateDim) shape.advHypernetEmbed (Fin shape.nAgents)
  actionExtractors : Fin shape.numKernel →
    Extractor (Fin shape.stateDim ⊕ Fin shape.nAgents × Fin shape.nActions)
      shape.advHypernetEmbed (Fin shape.nAgents)

namespace LamdaWeight

variable {shape : MixerShape} (weight : LamdaWeight shape)

noncomputable def xKey (states : shape.State) (head : Fin shape.numKernel) : ℝ :=
  |(weight.keyExtractors head).apply states 0| + 1e-10

noncomputable def xAgents (states : shape.State) (head : Fin shape.numKernel) : shape.Row :=
  let scaleFactor := Real.log shape.nAgents
  softmax (fun i => (weight.agentsExtractors head).apply states i / scaleFactor)

noncomputable def xAction (states : shape.State) (actions : shape.Utilities)
    (head : Fin shape.numKernel) : shape.Row :=
  let data := Sum.elim states (fun c => actions c.1 c.2)
  fun i => Real.tanh ((weight.actionExtractors head).apply data i) + 1

noncomputable def forward (states : shape.State) (actions : shape.Utilities) : shape.Row :=
  fun i => ∑ head, weight.xKey states head
    * (weight.xAgents states head i * weight.xAction states actions head i)

/-- `lambda_weights_from_rho` of `FocusDuelMixer`: the prior of each head is replaced by `rho`. -/
noncomputable def fromRho (states : shape.State) (actions : shape.Utilities) (rho : shape.Row) :
    shape.Row :=
  fun i => ∑ head, weight.xKey states head * rho i * weight.xAction states actions head i

theorem xKey_pos (states : shape.State) (head : Fin shape.numKernel) :
    0 < weight.xKey states head :=
  add_pos_of_nonneg_of_pos (abs_nonneg _) (by norm_num)

theorem xAgents_pos (states : shape.State) (head : Fin shape.numKernel) (i : Fin shape.nAgents) :
    0 < weight.xAgents states head i := by
  unfold xAgents
  exact softmax_pos _ i

theorem xAction_pos (states : shape.State) (actions : shape.Utilities)
    (head : Fin shape.numKernel) (i : Fin shape.nAgents) :
    0 < weight.xAction states actions head i :=
  zero_lt_tanh_add_one _

theorem forward_nonneg (states : shape.State) (actions : shape.Utilities)
    (i : Fin shape.nAgents) : 0 ≤ weight.forward states actions i := by
  apply Finset.sum_nonneg
  intro head _
  have hkey := (weight.xKey_pos states head).le
  have hprior := (weight.xAgents_pos states head i).le
  have haction := (weight.xAction_pos states actions head i).le
  exact mul_nonneg hkey (mul_nonneg hprior haction)

theorem fromRho_nonneg (states : shape.State) (actions : shape.Utilities) {rho : shape.Row}
    {i : Fin shape.nAgents} (h : 0 ≤ rho i) : 0 ≤ weight.fromRho states actions rho i := by
  apply Finset.sum_nonneg
  intro head _
  have hkey := (weight.xKey_pos states head).le
  have haction := (weight.xAction_pos states actions head i).le
  exact mul_nonneg (mul_nonneg hkey h) haction

end LamdaWeight

/-! ## QPLEX-FOCUS -/

/-- What the constructor of `FocusDuelMixer` reads besides: `weighted_head`, `nonlinear`,
`state_bias` and `is_minus_one` of the arguments. The state starts with a feature for each agent. -/
structure FocusShape extends MixerShape where
  weightedHead : Bool
  nonlinear : Bool
  stateBias : Bool
  isMinusOne : Bool
  nAgents_le_stateDim : nAgents ≤ stateDim
  mixingEmbedDim_pos : 0 < mixingEmbedDim

namespace FocusShape

/-- The columns of a value in a key. -/
def valueDim (shape : FocusShape) : ℕ := if shape.nonlinear then 1 else 0

/-- The columns of a key: the agent's feature, and its value when `nonlinear` asks for it. -/
abbrev KeyColumn (shape : FocusShape) : Type := Fin 1 ⊕ Fin shape.valueDim

end FocusShape

/-- A selector; its last layer has no bias. -/
structure Selector (shape : FocusShape) where
  fc1 : Linear (Fin shape.stateDim) (Fin shape.ffnHiddenDim)
  weight2 : Matrix (Fin shape.mixingEmbedDim) (Fin shape.ffnHiddenDim) ℝ

noncomputable def Selector.apply {shape : FocusShape} (selector : Selector shape)
    (states : shape.State) : Fin shape.mixingEmbedDim → ℝ :=
  fun e => ∑ k, selector.weight2 e k * relu (selector.fc1.apply states k)

/-- `Qatten_Weight`, with `mask_dead` off. -/
structure QattenWeight (shape : FocusShape) where
  selectorExtractors : Fin shape.numKernel → Selector shape
  keyExtractors : Fin shape.numKernel → Matrix (Fin shape.mixingEmbedDim) shape.KeyColumn ℝ
  hyperWHead : TwoLayer (Fin shape.stateDim) shape.ffnHiddenDim (Fin shape.numKernel)
  v : TwoLayer (Fin shape.stateDim) shape.mixingEmbedDim (Fin 1)

namespace QattenWeight

variable {shape : FocusShape} (attention : QattenWeight shape)

/-- The features of agent `i`, of which there is one, at the start of the state. -/
def unitStates (agentQs : shape.Row) (states : shape.State) (i : Fin shape.nAgents) :
    shape.KeyColumn → ℝ :=
  Sum.elim (fun _ => states (i.castLE shape.nAgents_le_stateDim)) (fun _ => agentQs i)

noncomputable def attendLogits (agentQs : shape.Row) (states : shape.State)
    (head : Fin shape.numKernel) : shape.Row :=
  fun i => ∑ e, (attention.selectorExtractors head).apply states e
    * ∑ c, attention.keyExtractors head e c * unitStates agentQs states i c

noncomputable def attendWeights (agentQs : shape.Row) (states : shape.State)
    (head : Fin shape.numKernel) : shape.Row :=
  softmax (fun i =>
    attention.attendLogits agentQs states head i / Real.sqrt shape.mixingEmbedDim)

/-- The weights of the heads, when they are weighted. -/
noncomputable def wHead (states : shape.State) (head : Fin shape.numKernel) : ℝ :=
  if shape.weightedHead then |attention.hyperWHead.apply states head| else 1

noncomputable def headAttend (agentQs : shape.Row) (states : shape.State) : shape.Row :=
  fun i => ∑ head, attention.attendWeights agentQs states head i * attention.wHead states head
    * Real.sqrt shape.numKernel

noncomputable def stateValue (states : shape.State) : ℝ :=
  if shape.stateBias then attention.v.apply states 0 else attention.v.apply states 0 * 0

theorem headAttend_nonneg (agentQs : shape.Row) (states : shape.State) (i : Fin shape.nAgents) :
    0 ≤ attention.headAttend agentQs states i := by
  apply Finset.sum_nonneg
  intro head _
  have hattend : 0 ≤ attention.attendWeights agentQs states head i := by
    unfold attendWeights
    exact (softmax_pos _ i).le
  have hhead : 0 ≤ attention.wHead states head := by
    unfold wHead
    split
    · exact abs_nonneg _
    · exact zero_le_one
  exact mul_nonneg (mul_nonneg hattend hhead) (Real.sqrt_nonneg _)

/-- Without `nonlinear` the attention does not look at the values. -/
theorem headAttend_of_linear (h : shape.nonlinear = false) (agentQs agentQs' : shape.Row)
    (states : shape.State) :
    attention.headAttend agentQs states = attention.headAttend agentQs' states := by
  have hunit : unitStates agentQs states = unitStates agentQs' states := by
    funext i c
    rcases c with c | c
    · rfl
    · have hdim : shape.valueDim = 0 := by rw [FocusShape.valueDim, h]; rfl
      exact absurd c.2 (by omega)
  unfold headAttend attendWeights attendLogits
  rw [hunit]

end QattenWeight

structure FocusDuelMixer (shape : FocusShape) where
  attentionWeight : QattenWeight shape
  siWeight : LamdaWeight shape.toMixerShape

namespace FocusDuelMixer

variable {shape : FocusShape} (mixer : FocusDuelMixer shape)

noncomputable def wFinal (agentQs : shape.Row) (states : shape.State) : shape.Row :=
  fun i => mixer.attentionWeight.headAttend agentQs states i + 1e-10

/-- The share of each agent in the state value. -/
noncomputable def v (states : shape.State) : ℝ :=
  mixer.attentionWeight.stateValue states / shape.nAgents

noncomputable def calcV (agentQs : shape.Row) : ℝ := ∑ i, agentQs i

noncomputable def lambdaWeights (states : shape.State) (actions : shape.Utilities)
    (rho : Option shape.Row) : shape.Row :=
  match rho with
  | some rho => mixer.siWeight.fromRho states actions rho
  | none => mixer.siWeight.forward states actions

noncomputable def calcAdv (agentQs : shape.Row) (states : shape.State)
    (actions : shape.Utilities) (maxActionVals : shape.Row) (rho : Option shape.Row) : ℝ :=
  let advQ := fun i => agentQs i - maxActionVals i
  let advWFinal := mixer.lambdaWeights states actions rho
  if shape.isMinusOne then ∑ i, advQ i * (advWFinal i - 1) else ∑ i, advQ i * advWFinal i

/-- `forward` with `is_v=True`. -/
noncomputable def forwardV (agentQs : shape.Row) (states : shape.State) : ℝ :=
  calcV (fun i => mixer.wFinal agentQs states i * agentQs i + mixer.v states)

/-- `forward` with `is_v=False`. -/
noncomputable def forwardA (agentQs : shape.Row) (states : shape.State)
    (actions : shape.Utilities) (maxActionVals : shape.Row) (rho : Option shape.Row) : ℝ :=
  let w := mixer.wFinal agentQs states
  mixer.calcAdv (fun i => w i * agentQs i + mixer.v states) states actions
    (fun i => w i * maxActionVals i + mixer.v states) rho

/-- The joint value of a joint action: the sum of the two calls. -/
noncomputable def jointValue (q : shape.Utilities)
    (available : Fin shape.nAgents → Fin shape.nActions → Bool) (states : shape.State)
    (rho : Option shape.Row) (actions : shape.JointAction) : ℝ :=
  mixer.forwardV (MixerShape.chosen q actions) states
    + mixer.forwardA (MixerShape.chosen q actions) states (MixerShape.onehot actions)
      (MixerShape.maxActionVals available q) rho

theorem wFinal_pos (agentQs : shape.Row) (states : shape.State) (i : Fin shape.nAgents) :
    0 < mixer.wFinal agentQs states i :=
  add_pos_of_nonneg_of_pos (mixer.attentionWeight.headAttend_nonneg agentQs states i)
    (by norm_num)

theorem lambdaWeights_nonneg (states : shape.State) (actions : shape.Utilities)
    {rho : Option shape.Row} (h : ∀ r ∈ rho, ∀ i, 0 ≤ r i) (i : Fin shape.nAgents) :
    0 ≤ mixer.lambdaWeights states actions rho i := by
  cases rho with
  | none => exact mixer.siWeight.forward_nonneg states actions i
  | some r => exact mixer.siWeight.fromRho_nonneg states actions (h r rfl i)

/-- What the two calls have in common cancels. -/
theorem forwardV_add_forwardA (hminus : shape.isMinusOne = true) (agentQs : shape.Row)
    (states : shape.State) (actions : shape.Utilities) (maxActionVals : shape.Row)
    (rho : Option shape.Row) :
    mixer.forwardV agentQs states + mixer.forwardA agentQs states actions maxActionVals rho
      = ∑ i, (mixer.wFinal agentQs states i * maxActionVals i + mixer.v states)
        + ∑ i, mixer.lambdaWeights states actions rho i * mixer.wFinal agentQs states i
          * (agentQs i - maxActionVals i) := by
  rw [forwardV, forwardA, calcV, calcAdv]
  dsimp only
  rw [if_pos hminus, ← Finset.sum_add_distrib, ← Finset.sum_add_distrib]
  exact Finset.sum_congr rfl (fun i _ => by ring)

end FocusDuelMixer

/-- Two agents with two actions each. -/
def twoAgents : FocusShape where
  nAgents := 2
  nActions := 2
  stateDim := 2
  mixingEmbedDim := 1
  ffnHiddenDim := 1
  advHypernetEmbed := 1
  numKernel := 1
  two_le_nAgents := le_rfl
  nActions_pos := Nat.two_pos
  numKernel_pos := Nat.one_pos
  weightedHead := true
  nonlinear := false
  stateBias := true
  isMinusOne := true
  nAgents_le_stateDim := le_rfl
  mixingEmbedDim_pos := by decide

/-! ## DuelMIX -/

structure DuelMixMixer (shape : MixerShape) where
  wTransform : TwoLayer (Fin shape.stateDim) shape.ffnHiddenDim (Fin shape.nAgents)
  bTransform : TwoLayer (Fin shape.stateDim) shape.ffnHiddenDim (Fin shape.nAgents)
  vMixW : TwoLayer (Fin shape.stateDim ⊕ Fin shape.nAgents) shape.mixingEmbedDim
    (Fin shape.nAgents)
  vMixBias : TwoLayer (Fin shape.stateDim ⊕ Fin shape.nAgents) shape.mixingEmbedDim (Fin 1)
  lambdaWeight : LamdaWeight shape

namespace DuelMixMixer

variable {shape : MixerShape} (mixer : DuelMixMixer shape)

noncomputable def wT (states : shape.State) : shape.Row :=
  fun i => |mixer.wTransform.apply states i| + 1e-10

/-- `forward` with `is_v=True`. -/
noncomputable def forwardV (agentVs : shape.Row) (states : shape.State) : ℝ :=
  let transformedV := fun i => mixer.wT states i * agentVs i + mixer.bTransform.apply states i
  let valueMixInput := Sum.elim states transformedV
  let vWeights := mixer.vMixW.apply valueMixInput
  ∑ i, vWeights i * transformedV i + mixer.vMixBias.apply valueMixInput 0

/-- `forward` with `is_v=False`. -/
noncomputable def forwardA (agentAs : shape.Row) (states : shape.State)
    (actions : shape.Utilities) (maxActionAdvs : Option shape.Row) : ℝ :=
  let transformedA := fun i => mixer.wT states i * agentAs i
  let advQ := match maxActionAdvs with
    | some maxAdvs => fun i => transformedA i - mixer.wT states i * maxAdvs i
    | none => transformedA
  let lambdaW := mixer.lambdaWeight.forward states actions
  ∑ i, advQ i * lambdaW i

/-- The joint value of a joint action, from the values and the advantages of the agents. -/
noncomputable def jointValue (agentVs : shape.Row) (agentAs : shape.Utilities)
    (available : Fin shape.nAgents → Fin shape.nActions → Bool) (states : shape.State)
    (actions : shape.JointAction) : ℝ :=
  mixer.forwardV agentVs states
    + mixer.forwardA (MixerShape.chosen agentAs actions) states (MixerShape.onehot actions)
      (some (MixerShape.maxActionVals available agentAs))

theorem wT_pos (states : shape.State) (i : Fin shape.nAgents) : 0 < mixer.wT states i :=
  add_pos_of_nonneg_of_pos (abs_nonneg _) (by norm_num)

theorem forwardA_some (agentAs : shape.Row) (states : shape.State) (actions : shape.Utilities)
    (maxActionAdvs : shape.Row) :
    mixer.forwardA agentAs states actions (some maxActionAdvs)
      = ∑ i, mixer.lambdaWeight.forward states actions i * mixer.wT states i
        * (agentAs i - maxActionAdvs i) := by
  rw [forwardA]
  exact Finset.sum_congr rfl (fun i _ => by ring)

end DuelMixMixer

end Mate.Rllib
