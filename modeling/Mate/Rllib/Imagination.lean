import Mate.Library.Broadcasting
import Mate.Leak

set_option autoImplicit false

/-! # Imagined targets of QPLEX-WM2 and QPLEX-WM4

With `use_imagination_targets` the losses let the world model run on by itself for a number of
steps from the posterior of every transition, all transitions of the batch in one axis. The
rewards it predicts on the way, and the value of the target network at the end, are blended into
the one-step targets. WM2 keeps to the action of the transition. WM4 goes on with what the agents'
network would choose on the observations that are decoded from the latent state.
-/

namespace Mate.Rllib

open Nets Axes Broadcasting Broadcasting.Tensor

/-- The sizes of a policy with at least one agent. -/
structure TeamShape extends QplexWM4 where
  nAgents_pos : 0 < nAgents

/-! ## The heads of the world models -/

structure RewardPredictor (shape : WorldModelShape) where
  net : TwoLayer shape.Feature shape.hiddenDim (Fin 1)

noncomputable def RewardPredictor.forward {shape : WorldModelShape} (self : RewardPredictor shape)
    (feature : shape.Feature → ℝ) : ℝ :=
  self.net.apply feature 0

/-- `agent_embed_dim` of the decoder. -/
def WorldModelShape.agentEmbedDim (shape : WorldModelShape) : ℕ := max (shape.hiddenDim / 4) 8

structure ObsDecoder (shape : WorldModelShape) where
  agentEmbed : Fin shape.nAgents → Fin shape.agentEmbedDim → ℝ
  fc1 : Linear (shape.Feature ⊕ Fin shape.agentEmbedDim) (Fin shape.hiddenDim)
  fc2 : Linear (Fin shape.hiddenDim) (Fin shape.hiddenDim)
  fc3 : Linear (Fin shape.hiddenDim) (Fin shape.obsSize)

noncomputable def ObsDecoder.forward {shape : WorldModelShape} (self : ObsDecoder shape)
    (feature : shape.Feature → ℝ) : shape.JointObs := fun i =>
  let hidden := fun k => relu (self.fc1.apply (Sum.elim feature (self.agentEmbed i)) k)
  self.fc3.apply (fun k => relu (self.fc2.apply hidden k))

/-- `LatentWorldModel` of WM2, without its `state_decoder`. -/
structure QplexWM2.WorldModel (shape : WorldModelShape) extends LatentWorldModel shape where
  rewardPredictor : RewardPredictor shape

/-- `LatentWorldModel` of WM4, without its `state_decoder`. -/
structure QplexWM4.WorldModel (shape : WorldModelShape) extends QplexWM2.WorldModel shape where
  obsDecoder : ObsDecoder shape

/-! ## Imagined rewards -/

section Imagine

variable {shape : WorldModelShape} {R : ℕ} (worldModel : QplexWM2.WorldModel shape)
  (stepActions : ℕ → (Fin R → shape.Latent) → Fin R → shape.Actions)
  (noise : ℕ → Fin R → Fin shape.stochDim → ℝ)

/-- One pass of the loop, over all rows: the rewards and the next states. -/
noncomputable def imagStep (h : ℕ) (imagState : Fin R → shape.Latent) :
    (Fin R → ℝ) × (Fin R → shape.Latent) :=
  let next := fun r => worldModel.transition.imgStep (imagState r)
    (worldModel.actionEmbed.forward (stepActions h imagState r)) (noise h r)
  (fun r => worldModel.rewardPredictor.forward (next r).feature, next)

/-- `imag_rewards_list`. -/
noncomputable def imagRewardsList (imagState : Fin R → shape.Latent) (horizon : ℕ) :
    List (Fin R → ℝ) :=
  unroll (imagStep worldModel stepActions noise) imagState (List.range horizon)

end Imagine

/-- The discounted sum of the rewards. To `torch.stack` none at all is an error. -/
noncomputable def imagReturn {R : ℕ} (gamma : ℝ) (rewards : List (Fin R → ℝ)) :
    Option (Fin R → ℝ) :=
  let gammas := (List.range rewards.length).map (fun h => gamma ^ h)
  if rewards = [] then none
  else some (fun r => (List.zipWith (fun reward g => reward r * g) rewards gammas).sum)

/-- `reshape(B * T, -1)`, which cannot infer the last axis of a tensor without entries. -/
def flattenRows {α : Type} {B T : ℕ} (x : Fin B → Fin T → α) : Option (Fin (B * T) → α) :=
  if B * T = 0 then none else some (mergeAxes x)

/-! ## The losses -/

/-- What the losses take from their configuration for the targets. -/
structure ImaginationLoss where
  gamma : ℝ
  imaginationHorizon : ℕ
  imaginationLossWeight : ℝ

/-- What the targets depend on: the posteriors of the world model, the actions, the done flags of
the agents, the rewards with the bonus, and `target_max_qvals` after the mixer. -/
structure ImaginationBatch (shape : WorldModelShape) (B T : ℕ) where
  posteriors : Fin B → Fin T → shape.Latent
  actions : Fin B → Fin T → shape.Actions
  terminated : Fin B → Fin T → Fin shape.nAgents → ℝ
  shapedRewards : Fin B → Fin T → Fin shape.nAgents → ℝ
  targetMaxQvals : Fin B → Fin T → Fin 1 → ℝ

namespace ImaginationLoss

variable (loss : ImaginationLoss) {shape : WorldModelShape} {B T : ℕ}
  (batch : ImaginationBatch shape B T)

/-- The one-step targets. -/
noncomputable def realTargets : Option (Tensor ℝ) := do
  let bootstrap ← map₂ (· * ·)
    (ofCube fun b t i => loss.gamma * (1 - batch.terminated b t i)) (ofCube batch.targetMaxQvals)
  map₂ (· + ·) (ofCube batch.shapedRewards) bootstrap

/-- The targets with the imagined ones blended in. -/
noncomputable def blend (imagTdTargets : Option (Tensor ℝ)) : Option (Tensor ℝ) := do
  let targets ← loss.realTargets batch
  let imagined ← imagTdTargets
  let weight := loss.imaginationLossWeight
  map₂ (fun real imag => (1 - weight) * real + weight * imag) targets imagined

end ImaginationLoss

/-! ### WM2 -/

/-- `QPLEXWM2Loss`. -/
structure QPLEXWM2Loss extends ImaginationLoss

namespace QPLEXWM2Loss

variable (loss : QPLEXWM2Loss) {shape : WorldModelShape} (worldModel : QplexWM2.WorldModel shape)
  {B T : ℕ} (batch : ImaginationBatch shape B T)
  (noise : ℕ → Fin (B * T) → Fin shape.stochDim → ℝ)

noncomputable def imagTdTargets : Option (Tensor ℝ) := do
  let H := loss.imaginationHorizon
  let imagState ← flattenRows batch.posteriors
  let actFlat := mergeAxes batch.actions
  -- the action of the transition, at every step
  let rewards := imagRewardsList worldModel (fun _ _ => actFlat) noise imagState H
  let imagReturn ← (imagReturn loss.gamma rewards).map splitAxis
  let termMean := fun b t => mean (batch.terminated b t)
  let bootstrap ← map₂ (· * ·)
    (ofMatrix fun b t => loss.gamma ^ H * (1 - termMean b t)) (ofCube batch.targetMaxQvals)
  map₂ (· + ·) (ofMatrix imagReturn) bootstrap

noncomputable def targets : Option (Tensor ℝ) :=
  loss.blend batch (loss.imagTdTargets worldModel batch noise)

end QPLEXWM2Loss

/-! ### WM4 -/

/-- `QPLEXWM4Loss`. -/
structure QPLEXWM4Loss extends ImaginationLoss

namespace QPLEXWM4Loss

section Actions

variable {policy : QplexWM4} (worldModel : QplexWM4.WorldModel policy.toWorldModelShape)
  (model : policy.Model)

/-- What the agents choose on the observations that are decoded from a latent state, from hidden
states of zeros. -/
noncomputable def greedyActions (imagState : policy.Latent) : policy.Actions :=
  let imagFeature := imagState.feature
  let imagObs := worldModel.obsDecoder.forward imagFeature
  let obsAugImag := QplexWM4.augment imagObs imagFeature
  let qImag := (mac model obsAugImag (fun _ _ => 0)).1
  fun i => argmax policy.nActions_pos (qImag i)

/-- `step_actions`: at first the action of the transition. -/
noncomputable def stepActions {R : ℕ} (actFlat : Fin R → policy.Actions) (h : ℕ)
    (imagState : Fin R → policy.Latent) : Fin R → policy.Actions :=
  if h = 0 then actFlat else fun r => greedyActions worldModel model (imagState r)

end Actions

variable (loss : QPLEXWM4Loss) {policy : QplexWM4}
  (worldModel : QplexWM4.WorldModel policy.toWorldModelShape) (model : policy.Model) {B T : ℕ}
  (batch : ImaginationBatch policy.toWorldModelShape B T)
  (noise : ℕ → Fin (B * T) → Fin policy.stochDim → ℝ)

noncomputable def imagTdTargets : Option (Tensor ℝ) := do
  let H := loss.imaginationHorizon
  let imagState ← flattenRows batch.posteriors
  let actFlat := mergeAxes batch.actions
  let rewards := imagRewardsList worldModel.toWorldModel (stepActions worldModel model actFlat)
    noise imagState H
  let imagReturn ← (imagReturn loss.gamma rewards).map splitAxis
  let termMean := fun b t (_ : Fin 1) => mean (batch.terminated b t)
  let bootstrap ← map₂ (· * ·)
    (ofCube fun b t k => loss.gamma ^ H * (1 - termMean b t k)) (ofCube batch.targetMaxQvals)
  map₂ (· + ·) (ofCube fun b t (_ : Fin 1) => imagReturn b t) bootstrap

noncomputable def targets : Option (Tensor ℝ) :=
  loss.blend batch (loss.imagTdTargets worldModel model batch noise)

end QPLEXWM4Loss

end Mate.Rllib
