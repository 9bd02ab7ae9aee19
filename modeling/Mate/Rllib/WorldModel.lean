import Mate.Library.Nets
import Mathlib.Tactic.Common

set_option autoImplicit false

/-! # The recurrent state-space model

`LatentWorldModel` of the WM2 and WM4 policies. A step of its transition model takes the latent
state, the embedded joint action and the embedded observations; the feature that is appended to the
observations is read off the posterior. The noise that `torch.randn_like` draws is an argument.
-/

namespace Mate.Rllib

open Nets

/-- The sizes the constructor of `LatentWorldModel` is given. -/
structure WorldModelShape where
  obsSize : ℕ
  nAgents : ℕ
  nActions : ℕ
  stochDim : ℕ
  deterDim : ℕ
  hiddenDim : ℕ
  actionEmbedDim : ℕ
  embedDim : ℕ

namespace WorldModelShape

variable (shape : WorldModelShape)

/-- The columns of an embedded joint action. -/
abbrev ActionColumn : Type := Fin shape.nAgents × Fin shape.actionEmbedDim

/-- The columns of a feature: `cat([stoch, deter])`. -/
abbrev Feature : Type := Fin shape.stochDim ⊕ Fin shape.deterDim

abbrev JointObs : Type := Fin shape.nAgents → Fin shape.obsSize → ℝ

abbrev Actions : Type := Fin shape.nAgents → Fin shape.nActions

/-- The draws of one step: for the prior and for the posterior. -/
structure Noise where
  prior : Fin shape.stochDim → ℝ
  posterior : Fin shape.stochDim → ℝ

/-- `[mean, std, stoch, deter]`. -/
structure Latent where
  mean : Fin shape.stochDim → ℝ
  std : Fin shape.stochDim → ℝ
  stoch : Fin shape.stochDim → ℝ
  deter : Fin shape.deterDim → ℝ

/-- `get_initial_state`. -/
def initialLatent : shape.Latent := ⟨fun _ => 0, fun _ => 0, fun _ => 0, fun _ => 0⟩

variable {shape} in
/-- `get_feature`. -/
def Latent.feature (latent : shape.Latent) : shape.Feature → ℝ :=
  Sum.elim latent.stoch latent.deter

end WorldModelShape

structure ObservationEncoder (shape : WorldModelShape) where
  fc1 : Linear (Fin shape.obsSize) (Fin shape.hiddenDim)
  fc2 : Linear (Fin shape.hiddenDim) (Fin shape.embedDim)

noncomputable def ObservationEncoder.forward {shape : WorldModelShape}
    (encoder : ObservationEncoder shape) (obs : shape.JointObs) : Fin shape.embedDim → ℝ :=
  let agentEmbeds := fun i k =>
    relu (encoder.fc2.apply (fun j => relu (encoder.fc1.apply (obs i) j)) k)
  -- mean pool across agents
  fun k => (∑ i, agentEmbeds i k) / shape.nAgents

/-- The table of `nn.Embedding`. -/
structure ActionEmbedding (shape : WorldModelShape) where
  embed : Fin shape.nActions → Fin shape.actionEmbedDim → ℝ

def ActionEmbedding.forward {shape : WorldModelShape} (table : ActionEmbedding shape)
    (actions : shape.Actions) : shape.ActionColumn → ℝ :=
  fun c => table.embed (actions c.1) c.2

structure TransitionModel (shape : WorldModelShape) where
  priorFc1 : Linear (Fin shape.stochDim ⊕ shape.ActionColumn) (Fin shape.hiddenDim)
  gru : GRUCell (Fin shape.hiddenDim) (Fin shape.deterDim)
  priorFc2 : Linear (Fin shape.deterDim) (Fin shape.hiddenDim)
  /-- the mean and the logarithm of the deviation, one after the other -/
  priorFc3 : Linear (Fin shape.hiddenDim) (Fin shape.stochDim ⊕ Fin shape.stochDim)
  postFc1 : Linear (Fin shape.deterDim ⊕ Fin shape.embedDim) (Fin shape.hiddenDim)
  postFc2 : Linear (Fin shape.hiddenDim) (Fin shape.stochDim ⊕ Fin shape.stochDim)

namespace TransitionModel

variable {shape : WorldModelShape} (transition : TransitionModel shape)

/-- The deterministic part of the prior. -/
noncomputable def deterStep (prev : shape.Latent) (actionEmbed : shape.ActionColumn → ℝ) :
    Fin shape.deterDim → ℝ :=
  transition.gru.apply
    (fun k => elu (transition.priorFc1.apply (Sum.elim prev.stoch actionEmbed) k)) prev.deter

noncomputable def imgStep (prev : shape.Latent) (actionEmbed : shape.ActionColumn → ℝ)
    (noise : Fin shape.stochDim → ℝ) : shape.Latent :=
  let deter := transition.deterStep prev actionEmbed
  let stats := transition.priorFc3.apply (fun k => elu (transition.priorFc2.apply deter k))
  let mean := fun k => stats (.inl k)
  let std := fun k => softplus (stats (.inr k)) + 0.1
  { mean := mean, std := std, stoch := fun k => mean k + std k * noise k, deter := deter }

/-- The posterior and the prior. -/
noncomputable def obsStep (prev : shape.Latent) (actionEmbed : shape.ActionColumn → ℝ)
    (obsEmbed : Fin shape.embedDim → ℝ) (noise : shape.Noise) : shape.Latent × shape.Latent :=
  let prior := transition.imgStep prev actionEmbed noise.prior
  let stats := transition.postFc2.apply
    (fun k => elu (transition.postFc1.apply (Sum.elim prior.deter obsEmbed) k))
  let mean := fun k => stats (.inl k)
  let std := fun k => softplus (stats (.inr k)) + 0.1
  ({ mean := mean, std := std, stoch := fun k => mean k + std k * noise.posterior k
     deter := prior.deter }, prior)

/-- The loop of `observe`: the posteriors and priors along a sequence. -/
noncomputable def observeFrom (state : shape.Latent) :
    List ((shape.ActionColumn → ℝ) × (Fin shape.embedDim → ℝ) × shape.Noise) →
      List (shape.Latent × shape.Latent)
  | [] => []
  | (actionEmbed, obsEmbed, noise) :: rest =>
      let step := transition.obsStep state actionEmbed obsEmbed noise
      step :: observeFrom step.1 rest

end TransitionModel

/-- The parts of `LatentWorldModel` that the features come from. -/
structure LatentWorldModel (shape : WorldModelShape) where
  obsEncoder : ObservationEncoder shape
  actionEmbed : ActionEmbedding shape
  transition : TransitionModel shape

/-- One step of a sampled sequence, as the features read it, with the draws for it. -/
structure WorldModelStep (shape : WorldModelShape) where
  obs : shape.JointObs
  actions : shape.Actions
  noise : shape.Noise

namespace LatentWorldModel

variable {shape : WorldModelShape} (worldModel : LatentWorldModel shape)

/-- The features that `compute_loss` returns. -/
noncomputable def features (sequence : List (WorldModelStep shape)) :
    List (shape.Feature → ℝ) :=
  let embedded := sequence.map (fun s =>
    (worldModel.actionEmbed.forward s.actions, worldModel.obsEncoder.forward s.obs, s.noise))
  (worldModel.transition.observeFrom shape.initialLatent embedded).map (fun step => step.1.feature)

/-- `encode_obs`: a step from the initial state under an action of zeros. -/
noncomputable def encodeObs (obs : shape.JointObs) (noise : shape.Noise) : shape.Feature → ℝ :=
  (worldModel.transition.obsStep shape.initialLatent (fun _ => 0)
    (worldModel.obsEncoder.forward obs) noise).1.feature

/-- The posterior after one step. -/
noncomputable def posterior (state : shape.Latent) (s : WorldModelStep shape) : shape.Latent :=
  (worldModel.transition.obsStep state (worldModel.actionEmbed.forward s.actions)
    (worldModel.obsEncoder.forward s.obs) s.noise).1

/-- The features from a posterior state on. -/
noncomputable def featuresFrom (state : shape.Latent) :
    List (WorldModelStep shape) → List (shape.Feature → ℝ)
  | [] => []
  | s :: rest => (worldModel.posterior state s).feature :: featuresFrom (worldModel.posterior state s) rest

theorem features_eq (sequence : List (WorldModelStep shape)) :
    worldModel.features sequence = worldModel.featuresFrom shape.initialLatent sequence := by
  rw [features]
  generalize shape.initialLatent = state
  induction sequence generalizing state with
  | nil => rfl
  | cons s rest ih =>
      rw [List.map_cons, TransitionModel.observeFrom, List.map_cons, featuresFrom, ← ih]
      rfl

/-! ## Augmented observations

The losses of QPLEX-WM2, with `augment_local_obs` on, and of QPLEX-WM4 augment in the same way. -/

/-- `cat([obs, feature])`, the feature being the same for all agents. -/
def augment (obs : shape.JointObs) (feature : shape.Feature → ℝ) :
    Fin shape.nAgents → Fin shape.obsSize ⊕ shape.Feature → ℝ :=
  fun i => Sum.elim (obs i) feature

/-- `obs_aug` of the losses. -/
noncomputable def obsAug (sequence : List (WorldModelStep shape)) :
    List (Fin shape.nAgents → Fin shape.obsSize ⊕ shape.Feature → ℝ) :=
  List.zipWith augment (sequence.map WorldModelStep.obs) (worldModel.features sequence)

/-- `_augment_obs_inference`, with the draws it makes. -/
noncomputable def augmentObsInference (obs : shape.JointObs) (noise : shape.Noise) :
    Fin shape.nAgents → Fin shape.obsSize ⊕ shape.Feature → ℝ :=
  augment obs (worldModel.encodeObs obs noise)

/-! ## What a posterior depends on -/

/-- The observation only enters through the refinement: the deterministic parts agree, so do the
posteriors. -/
theorem obsStep_congr (transition : TransitionModel shape) {prev prev' : shape.Latent}
    {action action' : shape.ActionColumn → ℝ}
    (h : transition.deterStep prev action = transition.deterStep prev' action')
    (obsEmbed : Fin shape.embedDim → ℝ) (noise : shape.Noise) :
    (transition.obsStep prev action obsEmbed noise).1
      = (transition.obsStep prev' action' obsEmbed noise).1 := by
  rw [TransitionModel.obsStep, TransitionModel.obsStep, TransitionModel.imgStep,
    TransitionModel.imgStep, h]

/-! ## A world model that remembers one action -/

/-- The world model whose deterministic state `d` takes in the first column `c` of the embedded
joint action, which is `1` for the action `a` and `0` for the others. All else is zero. -/
def copying (c : shape.ActionColumn) (a : Fin shape.nActions) (k : Fin shape.hiddenDim)
    (d : Fin shape.deterDim) : LatentWorldModel shape where
  obsEncoder := ⟨⟨0, 0⟩, ⟨0, 0⟩⟩
  actionEmbed := ⟨fun a' _ => if a' = a then 1 else 0⟩
  transition :=
    { priorFc1 := Linear.reading (.inr c) k
      gru := GRUCell.copying k d
      priorFc2 := ⟨0, 0⟩
      priorFc3 := ⟨0, 0⟩
      postFc1 := ⟨0, 0⟩
      postFc2 := ⟨0, 0⟩ }

/-- A state whose feature is zero. -/
def Quiet (state : shape.Latent) : Prop := state.stoch = 0 ∧ state.deter = 0

theorem quiet_initialLatent : Quiet shape.initialLatent := ⟨rfl, rfl⟩

/-- A step without noise. -/
def still (actions : shape.Actions) : WorldModelStep shape where
  obs := fun _ _ => 0
  actions := actions
  noise := ⟨fun _ => 0, fun _ => 0⟩

/-- The deterministic state after one step from a state that is zero. -/
theorem copying_deter (c : shape.ActionColumn) (a : Fin shape.nActions)
    (k : Fin shape.hiddenDim) (d : Fin shape.deterDim) {state : shape.Latent}
    (h : state.deter = 0) (s : WorldModelStep shape) :
    ((copying c a k d).posterior state s).deter
      = fun d' => if d' = d then Real.tanh (elu (if s.actions c.1 = a then 1 else 0)) / 2 else 0 := by
  show (GRUCell.copying k d).apply _ state.deter = _
  rw [h, GRUCell.copying_apply]
  funext d'
  have hinput : (Linear.reading (.inr c) k : Linear (Fin shape.stochDim ⊕ _) _).apply
      (Sum.elim state.stoch ((copying c a k d).actionEmbed.forward s.actions)) k
        = if s.actions c.1 = a then 1 else 0 := Linear.reading_apply_self _ _ _
  exact congrArg (fun x => if d' = d then Real.tanh (elu x) / 2 else 0) hinput

theorem copying_posterior (c : shape.ActionColumn) (a : Fin shape.nActions)
    (k : Fin shape.hiddenDim) (d : Fin shape.deterDim) {state : shape.Latent} (h : Quiet state)
    (actions : shape.Actions) :
    ((copying c a k d).posterior state (still actions)).stoch = 0
      ∧ ((copying c a k d).posterior state (still actions)).deter
        = fun d' => if d' = d then Real.tanh (elu (if actions c.1 = a then 1 else 0)) / 2 else 0 := by
  constructor
  · funext j
    show Linear.apply (⟨0, 0⟩ : Linear _ _) _ _ + _ * (0 : ℝ) = 0
    rw [Linear.zero_apply, mul_zero, add_zero]
    rfl
  · exact copying_deter c a k d h.2 (still actions)

/-- The other actions leave no trace. -/
theorem copying_quiet {c : shape.ActionColumn} {a : Fin shape.nActions} {actions : shape.Actions}
    (ha : actions c.1 ≠ a) (k : Fin shape.hiddenDim) (d : Fin shape.deterDim)
    {state : shape.Latent} (h : Quiet state) :
    Quiet ((copying c a k d).posterior state (still actions)) := by
  obtain ⟨hstoch, hdeter⟩ := copying_posterior c a k d h actions
  refine ⟨hstoch, hdeter.trans (funext fun d' => ?_)⟩
  rw [if_neg ha, elu_zero, Real.tanh_zero, zero_div, ite_self]
  rfl

theorem feature_quiet {state : shape.Latent} (h : Quiet state) : state.feature = fun _ => 0 := by
  rw [WorldModelShape.Latent.feature, h.1, h.2]
  funext x
  cases x <;> rfl

end LatentWorldModel

end Mate.Rllib
