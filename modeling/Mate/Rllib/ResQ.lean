import Mate.Library.Mixing
import Mate.Rllib.RecurrentAgent
import Mate.Utils

set_option autoImplicit false

/-! # ResQ

ResQ adds to a monotone mixture of main utilities a residual, which is switched off at the greedy
joint action. The mixers are those of `value_factorization/components.py`.
-/

namespace Mate.Rllib

open Nets Mixing

/-- What the constructors of the policy are given. -/
structure ResQShape extends AgentShape where
  stateDim : ℕ
  mixingEmbedDim : ℕ
  hypernetEmbed : ℕ
  centralMixingEmbedDim : ℕ
  residualNegativeAbs : Bool
  /-- The agents are built without an `output_dim`, which is then the number of actions. -/
  outputDim_eq : outputDim = nActions

namespace ResQShape

variable (shape : ResQShape)

abbrev State : Type := Fin shape.stateDim → ℝ

abbrev Row : Type := Fin shape.nAgents → ℝ

abbrev Utilities : Type := Fin shape.nAgents → Fin shape.nActions → ℝ

end ResQShape

/-! ## Mixers -/

/-- The hypernetworks of `MonotonicMixer`, with `hypernet_layers` one or two. -/
inductive Hypernet (ι : Type) (embed : ℕ) (κ : Type)
  | one (fc1 : Linear ι κ)
  | two (net : TwoLayer ι embed κ)

noncomputable def Hypernet.apply {ι κ : Type} {embed : ℕ} [Fintype ι] (x : ι → ℝ) :
    Hypernet ι embed κ → κ → ℝ
  | one fc1 => fc1.apply x
  | two net => net.apply x

structure MonotonicMixer (shape : ResQShape) where
  hyperW1 : Hypernet (Fin shape.stateDim) shape.hypernetEmbed
    (Fin shape.nAgents × Fin shape.mixingEmbedDim)
  hyperWFinal : Hypernet (Fin shape.stateDim) shape.hypernetEmbed (Fin shape.mixingEmbedDim)
  hyperB1 : Linear (Fin shape.stateDim) (Fin shape.mixingEmbedDim)
  v : TwoLayer (Fin shape.stateDim) shape.mixingEmbedDim (Fin 1)
  skipConnections : Bool
  /-- `None` when the mixer is not gated. -/
  gate : Option ℝ

namespace MonotonicMixer

variable {shape : ResQShape} (mixer : MonotonicMixer shape)

noncomputable def hidden (agentQs : shape.Row) (states : shape.State)
    (e : Fin shape.mixingEmbedDim) : ℝ :=
  elu (∑ i, agentQs i * |mixer.hyperW1.apply states (i, e)| + mixer.hyperB1.apply states e)

noncomputable def forward (agentQs : shape.Row) (states : shape.State) : ℝ :=
  let mixed := ∑ e, mixer.hidden agentQs states e * |mixer.hyperWFinal.apply states e|
  let mixed := match mixer.gate with
    | some gate => mixed * gate
    | none => mixed
  let mixed := mixed + mixer.v.apply states 0
  if mixer.skipConnections then mixed + ∑ i, agentQs i else mixed

theorem monotone_hidden (states : shape.State) (e : Fin shape.mixingEmbedDim) :
    Monotone (fun agentQs => mixer.hidden agentQs states e) := by
  intro q q' hq
  have hle : ∀ i ∈ Finset.univ, q i * |mixer.hyperW1.apply states (i, e)|
      ≤ q' i * |mixer.hyperW1.apply states (i, e)| :=
    fun i _ => mul_le_mul_of_nonneg_right (hq i) (abs_nonneg _)
  exact elu_monotone (add_le_add (Finset.sum_le_sum hle) le_rfl)

/-- Without a gate, or with one that is not negative, the mixture is monotone. -/
theorem monotone_forward (hgate : ∀ g ∈ mixer.gate, 0 ≤ g) (states : shape.State) :
    Monotone (fun agentQs => mixer.forward agentQs states) := by
  intro q q' hq
  have hmixed : ∑ e, mixer.hidden q states e * |mixer.hyperWFinal.apply states e|
      ≤ ∑ e, mixer.hidden q' states e * |mixer.hyperWFinal.apply states e| :=
    Finset.sum_le_sum (fun e _ =>
      mul_le_mul_of_nonneg_right (mixer.monotone_hidden states e hq) (abs_nonneg _))
  have hsum : ∑ i, q i ≤ ∑ i, q' i := Finset.sum_le_sum (fun i _ => hq i)
  show mixer.forward q states ≤ mixer.forward q' states
  unfold forward
  cases hg : mixer.gate with
  | none =>
      dsimp only
      split
      · linarith
      · linarith
  | some g =>
      have hscaled := mul_le_mul_of_nonneg_right hmixed (hgate g hg)
      dsimp only
      split
      · linarith
      · linarith

end MonotonicMixer

/-- `UnrestrictedMixer` with three hidden layers of one width, and a state value. -/
structure UnrestrictedMixer (shape : ResQShape) where
  fc1 : Linear (Fin shape.nAgents ⊕ Fin shape.stateDim) (Fin shape.centralMixingEmbedDim)
  fc2 : Linear (Fin shape.centralMixingEmbedDim) (Fin shape.centralMixingEmbedDim)
  rest : TwoLayer (Fin shape.centralMixingEmbedDim) shape.centralMixingEmbedDim (Fin 1)
  stateValue : TwoLayer (Fin shape.stateDim) shape.centralMixingEmbedDim (Fin 1)

noncomputable def UnrestrictedMixer.forward {shape : ResQShape} (mixer : UnrestrictedMixer shape)
    (agentValues : shape.Row) (states : shape.State) : ℝ :=
  let x := Sum.elim agentValues states
  let hidden1 := fun k => relu (mixer.fc1.apply x k)
  let hidden2 := fun k => relu (mixer.fc2.apply hidden1 k)
  mixer.rest.apply hidden2 0 + mixer.stateValue.apply states 0

/-! ## The policy -/

/-- The networks of `ResQTorchPolicy` that the joint value is made of. -/
structure ResQ (shape : ResQShape) where
  model : RecurrentAgent shape.toAgentShape
  residualModel : RecurrentAgent shape.toAgentShape
  mixer : MonotonicMixer shape
  residualMixer : UnrestrictedMixer shape
  /-- `gated` is left at its default. -/
  ungated : mixer.gate = none

/-- One step of a sampled sequence. Padded steps are not active. -/
structure ResQStep (shape : ResQShape) where
  transition : RecurrentAgent.Transition shape.toAgentShape
  actionMask : Fin shape.nAgents → Fin shape.nActions → Bool
  state : shape.State
  active : Bool

namespace ResQStep

variable {shape : ResQShape} (step : ResQStep shape)

/-- `safe_mask` of `safe_action_values`. -/
def safeMask : Fin shape.nAgents → Fin shape.nActions → Bool :=
  if step.active then step.actionMask else fun _ _ => true

/-- Some agent has nothing to choose from. -/
def Invalid : Prop := step.active = true ∧ ∃ i, ∀ k, step.actionMask i k = false

theorem safeMask_of_active (h : step.active = true) : step.safeMask = step.actionMask := if_pos h

end ResQStep

namespace ResQ

variable {shape : ResQShape} (policy : ResQ shape)

/-- The current utilities that `unroll_current_and_next` computes along a sequence. -/
noncomputable def currentUtilities (model : RecurrentAgent shape.toAgentShape)
    (sequence : List (ResQStep shape)) : List shape.Utilities :=
  (model.unrollCurrentAndNext (sequence.map ResQStep.transition)).map
    (fun out i k => out.current i (k.cast shape.outputDim_eq.symm))

def chosen (q : shape.Utilities) (actions : shape.JointAction) : shape.Row :=
  fun i => q i (actions i)

/-- `current_greedy`: the first best of the actions that are left. -/
noncomputable def currentGreedy (mainQ : shape.Utilities)
    (mask : Fin shape.nAgents → Fin shape.nActions → Bool) : shape.JointAction :=
  fun i => maskedArgmax shape.nActions_pos (mask i) (mainQ i)

/-- `residual_weight`. -/
noncomputable def residualWeight (mainQ : shape.Utilities)
    (mask : Fin shape.nAgents → Fin shape.nActions → Bool) (actions : shape.JointAction) : ℝ :=
  if actions = currentGreedy mainQ mask then 0 else 1

noncomputable def residualTotal (residualQ : shape.Row) (states : shape.State) : ℝ :=
  let raw := policy.residualMixer.forward residualQ states
  if shape.residualNegativeAbs then -|raw| else raw

/-- The value that the loss fits, for a joint action. -/
noncomputable def jointValue (mainQ residualQ : shape.Utilities)
    (mask : Fin shape.nAgents → Fin shape.nActions → Bool) (states : shape.State)
    (actions : shape.JointAction) : ℝ :=
  policy.mixer.forward (chosen mainQ actions) states
    + residualWeight mainQ mask actions * policy.residualTotal (chosen residualQ actions) states

open Classical in
/-- `main_total + residual_weight * residual_total` along one row of the batch. -/
noncomputable def learnSequence (sequence : List (ResQStep shape)) : Except Error (List ℝ) :=
  if ∃ step ∈ sequence, step.Invalid then
    .error (.runtimeError "a live transition has no available action")
  else
    let mainAll := currentUtilities policy.model sequence
    let residualAll := currentUtilities policy.residualModel sequence
    .ok (List.zipWith (fun step (q : shape.Utilities × shape.Utilities) =>
      policy.jointValue q.1 q.2 step.safeMask step.state step.transition.actions)
      sequence (mainAll.zip residualAll))

theorem residualTotal_nonpos (h : shape.residualNegativeAbs = true) (residualQ : shape.Row)
    (states : shape.State) : policy.residualTotal residualQ states ≤ 0 := by
  unfold residualTotal
  rw [if_pos h]
  exact neg_nonpos.mpr (abs_nonneg _)

theorem residualWeight_nonneg (mainQ : shape.Utilities)
    (mask : Fin shape.nAgents → Fin shape.nActions → Bool) (actions : shape.JointAction) :
    0 ≤ residualWeight mainQ mask actions := by
  unfold residualWeight
  split
  · exact le_rfl
  · exact zero_le_one

/-- The residual is switched off at the greedy joint action and nowhere else. -/
theorem residualWeight_eq_zero_iff (mainQ : shape.Utilities)
    (mask : Fin shape.nAgents → Fin shape.nActions → Bool) (actions : shape.JointAction) :
    residualWeight mainQ mask actions = 0 ↔ actions = currentGreedy mainQ mask := by
  unfold residualWeight
  split
  · exact iff_of_true rfl ‹_›
  · exact iff_of_false one_ne_zero ‹_›

end ResQ

end Mate.Rllib
