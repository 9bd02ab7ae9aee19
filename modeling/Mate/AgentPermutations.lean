import Mate.Library.Nets

set_option autoImplicit false

/-! # The mixer of SPECTra

Two layers with weights that networks generate from the state. The columns of a state are the
entries of the observations of all agents.
-/

namespace Mate.Rllib

open Nets

/-- The arguments of the constructor of the mixer, for states that are observations. -/
structure SPECTraMixerShape where
  nAgents : ℕ
  obsSize : ℕ
  mixingDim : ℕ
  embedDim : ℕ

/-- The utilities of the agents, for one entry of a batch and one time. -/
abbrev SPECTraMixerShape.Row (shape : SPECTraMixerShape) := Fin shape.nAgents → ℝ

/-- The observations of the agents. -/
abbrev SPECTraMixerShape.Observations (shape : SPECTraMixerShape) :=
  Fin shape.nAgents → Fin shape.obsSize → ℝ

/-- `nn.Sequential(nn.Linear(state_dim, embed_dim), nn.ReLU(), nn.Linear(embed_dim, ..))`. -/
abbrev SPECTraMixerShape.Network (shape : SPECTraMixerShape) (κ : Type) :=
  TwoLayer (Fin shape.nAgents × Fin shape.obsSize) shape.embedDim κ

variable {shape : SPECTraMixerShape}

/-- The networks that `forward` applies. The embeddings and the queries and keys of the constructor
are not used. -/
structure STHyperNet (shape : SPECTraMixerShape) where
  W1_net : shape.Network (Fin shape.nAgents × Fin shape.mixingDim)
  W2_net : shape.Network (Fin shape.mixingDim)
  b1_net : shape.Network (Fin shape.mixingDim)
  b2_net : shape.Network (Fin 1)

/-- What `STHyperNet.forward` returns. -/
structure MixingWeights (shape : SPECTraMixerShape) where
  W1 : Fin shape.nAgents → Fin shape.mixingDim → ℝ
  b1 : Fin shape.mixingDim → ℝ
  W2 : Fin shape.mixingDim → ℝ
  b2 : ℝ

noncomputable def STHyperNet.forward (self : STHyperNet shape)
    (states : Fin shape.nAgents × Fin shape.obsSize → ℝ) : MixingWeights shape where
  W1 := fun i e => self.W1_net.apply states (i, e)
  b1 := self.b1_net.apply states
  W2 := self.W2_net.apply states
  b2 := self.b2_net.apply states 0

structure SPECTraMixer (shape : SPECTraMixerShape) where
  hypernet : STHyperNet shape

namespace SPECTraMixer

/-- The two layers, with given weights. -/
noncomputable def mix (weights : MixingWeights shape) (agentQs : shape.Row) : ℝ :=
  let hidden := fun e => elu (∑ i, agentQs i * |weights.W1 i e| + weights.b1 e)
  ∑ e, hidden e * |weights.W2 e| + weights.b2

/-- `forward`, for a row of the flat batch. -/
noncomputable def forward (self : SPECTraMixer shape) (agentQs : shape.Row)
    (states : Fin shape.nAgents × Fin shape.obsSize → ℝ) : ℝ :=
  mix (self.hypernet.forward states) agentQs

end SPECTraMixer

/-- `state = obs`, in the loss: a row of the observations of all agents, as one row of the state. -/
def SPECTraLoss.state (obs : shape.Observations) : Fin shape.nAgents × Fin shape.obsSize → ℝ :=
  fun column => obs column.1 column.2

/-- `self.mixer(chosen_qs, state)`, in the loss. -/
noncomputable def SPECTraLoss.chosenQTot (mixer : SPECTraMixer shape) (chosenQs : shape.Row)
    (obs : shape.Observations) : ℝ :=
  mixer.forward chosenQs (state obs)

end Mate.Rllib

/-! ## Permuting the agents of SPECTra

The mixer takes absolute values of its weights, so it is monotone (`monotone_mix`). It would not
care about the order of the agents if the networks tied the weights of an agent to its observation
(`mix_permute`). But each agent has weights of its own in them, so the order matters as soon as
there are two agents and a unit (`laws_iff`).
-/

namespace Mate.Rllib.SPECTraMixer

open Nets Finset

variable {shape : SPECTraMixerShape}

/-! ## The two layers -/

theorem monotone_mix (weights : MixingWeights shape) : Monotone (mix weights) := by
  intro q q' h
  unfold mix
  dsimp only
  refine add_le_add_left (sum_le_sum (fun e _ => ?_)) _
  have hsum : ∑ i, q i * |weights.W1 i e| ≤ ∑ i, q' i * |weights.W1 i e| :=
    sum_le_sum (fun i _ => mul_le_mul_of_nonneg_right (h i) (abs_nonneg _))
  exact mul_le_mul_of_nonneg_right (elu_monotone (add_le_add_left hsum _)) (abs_nonneg _)

/-- The weights for agents in another order are those of the same agents. -/
structure Tied (σ : Equiv.Perm (Fin shape.nAgents)) (weights permuted : MixingWeights shape) :
    Prop where
  W1 : ∀ i e, permuted.W1 i e = weights.W1 (σ i) e
  b1 : permuted.b1 = weights.b1
  W2 : permuted.W2 = weights.W2
  b2 : permuted.b2 = weights.b2

theorem mix_permute {σ : Equiv.Perm (Fin shape.nAgents)} {weights permuted : MixingWeights shape}
    (h : Tied σ weights permuted) (q : shape.Row) : mix permuted (q ∘ σ) = mix weights q := by
  have hsum : ∀ e, ∑ i, (q ∘ σ) i * |permuted.W1 i e| = ∑ i, q i * |weights.W1 i e| := by
    intro e
    simp only [h.W1, Function.comp_apply]
    exact Equiv.sum_comp σ (fun i => q i * |weights.W1 i e|)
  unfold mix
  dsimp only
  simp only [hsum, h.b1, h.W2, h.b2]

/-- Without units only the bias is left. -/
theorem mix_of_no_units (hzero : shape.mixingDim = 0) (weights : MixingWeights shape)
    (q : shape.Row) : mix weights q = weights.b2 := by
  have hempty : IsEmpty (Fin shape.mixingDim) := hzero ▸ Fin.isEmpty
  unfold mix
  dsimp only
  rw [univ_eq_empty, sum_empty, zero_add]

/-! ## The laws -/

/-- The two laws: the joint value rises with every utility, and does not depend on the order of the
agents, whose utilities and observations are permuted together. -/
structure Laws (mixer : SPECTraMixer shape) : Prop where
  monotone : ∀ obs, Monotone (fun q => SPECTraLoss.chosenQTot mixer q obs)
  permute : ∀ (σ : Equiv.Perm (Fin shape.nAgents)) q obs,
    SPECTraLoss.chosenQTot mixer (q ∘ σ) (obs ∘ σ) = SPECTraLoss.chosenQTot mixer q obs

/-- There is nothing to permute, or nothing that the order could change. -/
def Orderless (shape : SPECTraMixerShape) : Prop :=
  shape.nAgents ≤ 1 ∨ shape.mixingDim = 0 ∧ (shape.embedDim = 0 ∨ shape.obsSize = 0)

/-- A network without a hidden layer, or without an input, has one output. -/
theorem apply_constant {κ : Type} (network : shape.Network κ)
    (h : shape.embedDim = 0 ∨ shape.obsSize = 0)
    (x y : Fin shape.nAgents × Fin shape.obsSize → ℝ) : network.apply x = network.apply y := by
  rcases h with h | h
  · have hempty : IsEmpty (Fin shape.embedDim) := h ▸ Fin.isEmpty
    unfold TwoLayer.apply
    congr 1
    exact Subsingleton.elim _ _
  · have hempty : IsEmpty (Fin shape.obsSize) := h ▸ Fin.isEmpty
    rw [Subsingleton.elim x y]

theorem laws_of_orderless (h : Orderless shape) (mixer : SPECTraMixer shape) : mixer.Laws where
  monotone _ := monotone_mix _
  permute := by
    intro σ q obs
    rcases h with hone | ⟨hzero, hconstant⟩
    · have hsubsingleton : Subsingleton (Fin shape.nAgents) := Fin.subsingleton_iff_le_one.mpr hone
      obtain rfl : σ = 1 := Subsingleton.elim σ 1
      rfl
    · unfold SPECTraLoss.chosenQTot forward
      rw [mix_of_no_units hzero, mix_of_no_units hzero]
      exact congrFun (apply_constant mixer.hypernet.b2_net hconstant _ _) 0

/-! ## Two agents -/

section

variable {shape : SPECTraMixerShape}

/-- A network whose output does not depend on the state. -/
def constant {κ : Type} (output : κ → ℝ) : shape.Network κ := ⟨⟨0, 0⟩, ⟨0, output⟩⟩

theorem constant_apply {κ : Type} (output : κ → ℝ)
    (x : Fin shape.nAgents × Fin shape.obsSize → ℝ) :
    (constant output : shape.Network κ).apply x = output :=
  Linear.apply_bias rfl _

/-- A mixer whose unit `e` has the utility of agent `i`. -/
def picking (i : Fin shape.nAgents) (e : Fin shape.mixingDim) : SPECTraMixer shape where
  hypernet := {
    W1_net := constant (fun output => if output = (i, e) then 1 else 0)
    W2_net := constant (fun e' => if e' = e then 1 else 0)
    b1_net := constant 0
    b2_net := constant 0 }

theorem picking_apply (i : Fin shape.nAgents) (e : Fin shape.mixingDim) (q : shape.Row)
    (obs : shape.Observations) : SPECTraLoss.chosenQTot (picking i e) q obs = elu (q i) := by
  have hW1 : ∀ j e', |if (j, e') = (i, e) then (1 : ℝ) else 0| = if j = i ∧ e' = e then 1 else 0 := by
    intro j e'
    by_cases heq : j = i ∧ e' = e <;> simp [heq]
  have hW2 : ∀ e', |if e' = e then (1 : ℝ) else 0| = if e' = e then 1 else 0 := by
    intro e'
    split_ifs <;> simp
  simp only [SPECTraLoss.chosenQTot, forward, mix, STHyperNet.forward, picking, constant_apply,
    Pi.zero_apply, add_zero, hW1, hW2]
  rw [sum_eq_single e (fun e' _ he => by simp [he]) (fun he => absurd (mem_univ e) he)]
  simp

/-- A mixer whose bias is a positive entry of the observation of agent `i`. -/
def reading (i : Fin shape.nAgents) (k : Fin shape.obsSize) (d : Fin shape.embedDim) :
    SPECTraMixer shape where
  hypernet := {
    W1_net := constant 0
    W2_net := constant 0
    b1_net := constant 0
    b2_net := ⟨Linear.reading (i, k) d, Linear.reading d 0⟩ }

theorem reading_apply (i : Fin shape.nAgents) (k : Fin shape.obsSize) (d : Fin shape.embedDim)
    (q : shape.Row) (obs : shape.Observations) :
    SPECTraLoss.chosenQTot (reading i k d) q obs = relu (obs i k) := by
  have hbias : (⟨Linear.reading (i, k) d, Linear.reading d 0⟩ : shape.Network (Fin 1)).apply
      (SPECTraLoss.state obs) 0 = relu (obs i k) := by
    simp only [TwoLayer.apply, Linear.reading_apply_self]
    rfl
  simp only [SPECTraLoss.chosenQTot, forward, mix, STHyperNet.forward, reading, constant_apply,
    Pi.zero_apply, abs_zero, mul_zero, sum_const_zero, zero_add, hbias]

end

theorem not_laws_picking {i j : Fin shape.nAgents} (hne : j ≠ i) (e : Fin shape.mixingDim) :
    ¬ (picking i e).Laws := by
  intro h
  have hlaw := h.permute (Equiv.swap i j) (Pi.single i 1) 0
  rw [picking_apply, picking_apply, Function.comp_apply, Equiv.swap_apply_left,
    Pi.single_eq_of_ne hne, Pi.single_eq_same, elu_zero, elu_of_pos one_pos] at hlaw
  exact zero_ne_one hlaw

theorem not_laws_reading {i j : Fin shape.nAgents} (hne : j ≠ i) (k : Fin shape.obsSize)
    (d : Fin shape.embedDim) : ¬ (reading i k d).Laws := by
  intro h
  have hlaw := h.permute (Equiv.swap i j) 0 (Pi.single i 1)
  rw [reading_apply, reading_apply, Function.comp_apply, Equiv.swap_apply_left,
    Pi.single_eq_of_ne hne, Pi.single_eq_same, Pi.zero_apply, Pi.one_apply, relu_zero,
    relu_of_pos one_pos] at hlaw
  exact zero_ne_one hlaw

/-- **Two agents can be told apart**, unless no unit and no bias depends on them. -/
theorem orderless_of_laws (h : ∀ mixer : SPECTraMixer shape, mixer.Laws) : Orderless shape := by
  by_contra hnot
  simp only [Orderless, not_or, not_le, not_and] at hnot
  obtain ⟨htwo, hdepends⟩ := hnot
  have hne : (⟨1, htwo⟩ : Fin shape.nAgents) ≠ ⟨0, by omega⟩ := by simp
  by_cases hunits : shape.mixingDim = 0
  · obtain ⟨hembed, hobs⟩ := hdepends hunits
    exact not_laws_reading hne ⟨0, by omega⟩ ⟨0, by omega⟩ (h _)
  · exact not_laws_picking hne ⟨0, by omega⟩ (h _)

/-- **When the mixer has both laws**, for all parameters. -/
theorem laws_iff (shape : SPECTraMixerShape) :
    (∀ mixer : SPECTraMixer shape, mixer.Laws) ↔
      shape.nAgents ≤ 1 ∨ shape.mixingDim = 0 ∧ (shape.embedDim = 0 ∨ shape.obsSize = 0) :=
  ⟨orderless_of_laws, laws_of_orderless⟩

/-- Two agents with a single number each, and the default number of units. -/
def twoAgents : SPECTraMixerShape := ⟨2, 1, 32, 64⟩

/-- The joint value is the utility of the first agent, whoever that is. -/
theorem not_laws_twoAgents :
    ¬ Laws (picking (0 : Fin 2) (0 : Fin 32) : SPECTraMixer twoAgents) := by
  have hne : (1 : Fin 2) ≠ 0 := by decide
  exact not_laws_picking hne _

end Mate.Rllib.SPECTraMixer
