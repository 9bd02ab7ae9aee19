import Mate.Library.LogSumExp
import Mate.Library.Layers
import Mate.Rllib.Occupancy
import Mate.Rllib.FocusTarget

set_option autoImplicit false

/-! # The networks of the recurrent PPO models

`SimpleMLP` and `SimpleRNN`, with any hidden layers. Both keep what they computed last. An
auxiliary loss reads it there.
-/

namespace Mate.Rllib

open Nets

structure SimpleMLP (ι κ : Type) where
  Features : Type
  [fintype : Fintype Features]
  hidden : Layers ι Features
  activation : ℝ → ℝ
  output : Linear Features κ

attribute [instance] SimpleMLP.fintype

/-- `forward`, without `output_activation`. -/
noncomputable def SimpleMLP.forward {ι κ : Type} [Fintype ι] (self : SimpleMLP ι κ) (x : ι → ℝ) :
    κ → ℝ :=
  self.output.apply (self.hidden.apply self.activation x)

structure SimpleRNN (ι κ : Type) where
  Features : Type
  [fintype : Fintype Features]
  cellSize : ℕ
  hidden : Layers ι Features
  activation : ℝ → ℝ
  lstm : LSTMCell Features (Fin cellSize)
  output : Linear (Features ⊕ Fin cellSize) κ

attribute [instance] SimpleRNN.fintype

namespace SimpleRNN

variable {ι κ : Type} [Fintype ι] (self : SimpleRNN ι κ)

abbrev State : Type := LSTMState (Fin self.cellSize)

/-- One step of `forward`: `cat([x_in, x_out])` and the next state. -/
noncomputable def step (x : ι → ℝ) (state : self.State) :
    (self.Features ⊕ Fin self.cellSize → ℝ) × self.State :=
  let xIn := self.hidden.apply self.activation x
  let next := self.lstm.apply xIn state
  (Sum.elim xIn next.1, next)

/-- `last_output` at step `t`, after `forward` on a sequence of inputs. -/
noncomputable def lastOutput (inputs : ℕ → ι → ℝ) (state : self.State) (t : ℕ) : κ → ℝ :=
  self.output.apply (outputAt self.step inputs state t)

theorem lastOutput_congr {inputs inputs' : ℕ → ι → ℝ} (state : self.State) {t : ℕ}
    (h : ∀ k ≤ t, inputs k = inputs' k) :
    self.lastOutput inputs state t = self.lastOutput inputs' state t := by
  rw [lastOutput, outputAt_congr self.step state h, lastOutput]

end SimpleRNN

end Mate.Rllib

/-! # The auxiliary loss of I2C

`I2CModel` has, next to its actor, a network for the joint value of all actions and one that
decides which other agents to listen to. `custom_loss` trains both: the values on the value
targets, and the decision on how much the others matter for the own values. It also draws the
policy of the actor to the policy that the values suggest.

The rows of a sequence are numbered from the first step on. A batch that is padded to `T` steps
has rows below `T` only, and nothing reads further.
-/

namespace Mate.Rllib

open Nets

structure I2CShape where
  localObsDim : ℕ
  globalStateDim : ℕ
  /-- `num_agents - 1` -/
  nOthers : ℕ
  nActions : ℕ
  messageDim : ℕ
  localObsDim_pos : 0 < localObsDim
  nActions_pos : 0 < nActions

namespace I2CShape

variable (shape : I2CShape)

abbrev Obs : Type := Fin shape.localObsDim → ℝ

/-- A one-hot row for each of the others. -/
abbrev OthersAction : Type := Fin shape.nOthers → Fin shape.nActions → ℝ

/-- The columns of `joint_state_action`: the state, the actions of the others and the own action. -/
abbrev JointStateAction : Type :=
  Fin shape.globalStateDim ⊕ (Fin shape.nOthers × Fin shape.nActions) ⊕ Fin shape.nActions

end I2CShape

/-- What the loss and the actor read of a row: the slices of the observation, the own action and the
value target. -/
structure I2CRow (shape : I2CShape) where
  localObs : shape.Obs
  globalState : Fin shape.globalStateDim → ℝ
  othersJointObs : Fin shape.nOthers → shape.Obs
  othersJointAction : shape.OthersAction
  action : Fin shape.nActions
  valueTarget : ℝ

/-! ## The networks -/

/-- `nn.MultiheadAttention` with one head and `add_zero_attn`, and an affine layer. -/
structure I2CMessageAggregator (shape : I2CShape) where
  qProj : Linear (Fin shape.localObsDim) (Fin shape.localObsDim)
  kProj : Linear (Fin shape.localObsDim) (Fin shape.localObsDim)
  vProj : Linear (Fin shape.localObsDim) (Fin shape.localObsDim)
  outProj : Linear (Fin shape.localObsDim) (Fin shape.localObsDim)
  linear : Linear (Fin shape.localObsDim) (Fin shape.messageDim)

open Classical in
/-- `forward`, for one row. The others that are not listened to have no weight. -/
noncomputable def I2CMessageAggregator.forward {shape : I2CShape}
    (self : I2CMessageAggregator shape) (query : shape.Obs) (keys : Fin shape.nOthers → shape.Obs)
    (commMask : Fin shape.nOthers → Prop) : Fin shape.messageDim → ℝ :=
  let q := self.qProj.apply query
  let score := fun j => (∑ c, q c * self.kProj.apply (keys j) c) / Real.sqrt shape.localObsDim
  let weight : Fin shape.nOthers → ℝ := fun j => if commMask j then Real.exp (score j) else 0
  -- the token of zeros has the score zero
  let attn := fun j => weight j / (∑ k, weight k + Real.exp 0)
  let attnOutput := self.outProj.apply (fun c => ∑ j, attn j * self.vProj.apply (keys j) c)
  self.linear.apply attnOutput

structure I2CModel (shape : I2CShape) where
  messageAggregator : I2CMessageAggregator shape
  actor : SimpleRNN (Fin shape.localObsDim ⊕ Fin shape.messageDim) (Fin shape.nActions)
  jointQNetwork : SimpleMLP shape.JointStateAction (Fin 1)
  priorNetwork : SimpleMLP (Fin shape.localObsDim ⊕ Fin shape.nOthers) (Fin 1)
  policyCorrRegCoeff : ℝ
  temperature : ℝ
  priorBufferSize : ℕ
  temperature_pos : 0 < temperature

namespace I2CModel

variable {shape : I2CShape} (self : I2CModel shape)

/-! ## The forward pass -/

/-- The output of `prior_network` for one of the others. -/
noncomputable def priorLogits (row : I2CRow shape) (j : Fin shape.nOthers) : ℝ :=
  self.priorNetwork.forward (Sum.elim row.localObs (oneHot j)) 0

/-- `cat([local_obs, aggregated_message])`. -/
noncomputable def actorInput (row : I2CRow shape) :
    Fin shape.localObsDim ⊕ Fin shape.messageDim → ℝ :=
  Sum.elim row.localObs
    (self.messageAggregator.forward row.localObs row.othersJointObs
      (fun j => 0 ≤ self.priorLogits row j))

/-- `actor.last_output` at step `t` of a sequence, from the state of the actor that comes with it.
-/
noncomputable def lastOutput (rows : ℕ → I2CRow shape) (stateIn : self.actor.State) (t : ℕ) :
    Fin shape.nActions → ℝ :=
  self.actor.lastOutput (fun k => self.actorInput (rows k)) stateIn t

/-! ## The terms of the loss -/

noncomputable def jointQValue (row : I2CRow shape) (others : shape.OthersAction)
    (action : Fin shape.nActions) : ℝ :=
  self.jointQNetwork.forward
    (Sum.elim row.globalState (Sum.elim (fun p => others p.1 p.2) (oneHot action))) 0

noncomputable def qLoss (row : I2CRow shape) : ℝ :=
  (self.jointQValue row row.othersJointAction row.action - row.valueTarget) ^ 2

/-- `q_values_i`, for all own actions. -/
noncomputable def qValuesI (row : I2CRow shape) (action : Fin shape.nActions) : ℝ :=
  self.jointQValue row row.othersJointAction action

noncomputable def logProbsI (row : I2CRow shape) : Fin shape.nActions → ℝ :=
  logSoftmax (fun a => self.qValuesI row a / self.temperature)

/-- `q_values_ij`: the action of the other `j` is any action, too. -/
noncomputable def qValuesIJ (row : I2CRow shape) (j : Fin shape.nOthers)
    (action other : Fin shape.nActions) : ℝ :=
  self.jointQValue row (Function.update row.othersJointAction j (oneHot other)) action

noncomputable def logProbsISumupJ (row : I2CRow shape) (j : Fin shape.nOthers) :
    Fin shape.nActions → ℝ :=
  logSoftmax (fun a => logsumexp (fun a' => self.qValuesIJ row j a a' / self.temperature))

end I2CModel

/-- `torch.kl_div` with `log_target=True`, for one entry. -/
noncomputable def klDiv (input target : ℝ) : ℝ := Real.exp target * (target - input)

/-- `binary_cross_entropy_with_logits`, for one entry. -/
noncomputable def binaryCrossEntropyWithLogits (logit target : ℝ) : ℝ :=
  -(target * Real.log (Real.sigmoid logit) + (1 - target) * Real.log (1 - Real.sigmoid logit))

namespace I2CModel

variable {shape : I2CShape} (self : I2CModel shape)

/-- How much the other `j` matters. -/
noncomputable def klValue (row : I2CRow shape) (j : Fin shape.nOthers) : ℝ :=
  ∑ a, klDiv (self.logProbsISumupJ row j a) (self.logProbsI row a)

/-- `policy_corr_KLs` at step `t` of a sequence that is padded to `T` steps. -/
noncomputable def policyCorrKLs (T : ℕ) (rows : ℕ → I2CRow shape) (stateIn : self.actor.State)
    (t : ℕ) : ℝ :=
  let lastOutput := self.lastOutput rows stateIn
  -- `log_softmax(dim=1)`, and this axis is the time
  let target := fun a => lastOutput t a - logsumexp (fun k : Fin T => lastOutput k a)
  ∑ a, klDiv (self.logProbsI (rows t) a) (target a)

end I2CModel

/-! ## Reductions -/

section Reductions

variable {B : ℕ}

/-- `sequence_mask`. -/
def sequenceMask (seqLens : Fin B → ℕ) (b : Fin B) (t : ℕ) : Bool := decide (t < seqLens b)

/-- `reduce_mean_valid`: the mean of the valid rows, each of which may be a sum already. -/
noncomputable def reduceMeanValid (T : ℕ) (seqLens : Fin B → ℕ) (x : Fin B → ℕ → ℝ) : ℝ :=
  let mask := sequenceMask seqLens
  let numValid : ℝ := ∑ b, ∑ t ∈ Finset.range T, if mask b t then 1 else 0
  (∑ b, ∑ t ∈ Finset.range T, if mask b t then x b t else 0) / numValid

/-- The valid rows, in C order. -/
def validRows {α : Type} (T : ℕ) (seqLens : Fin B → ℕ) (x : Fin B → ℕ → α) : List α :=
  (List.finRange B).flatMap fun b => ((List.range T).filter (sequenceMask seqLens b)).map (x b)

/-- `extend` of a `deque` with a maximal length. -/
def extendDeque {α : Type} (maxlen : ℕ) (deque values : List α) : List α :=
  (deque ++ values).drop ((deque ++ values).length - maxlen)

end Reductions

/-! ## The loss -/

/-- A batch of sequences that is padded to `T` steps. -/
structure I2CBatch {shape : I2CShape} (model : I2CModel shape) (B T : ℕ) where
  seqLens : Fin B → ℕ
  rows : Fin B → ℕ → I2CRow shape
  /-- the state of the actor that every sequence starts from -/
  stateIn : Fin B → model.actor.State
  seqLens_le : ∀ b, seqLens b ≤ T

namespace I2CModel

variable {shape : I2CShape} (self : I2CModel shape) {B T : ℕ} (batch : I2CBatch self B T)

/-- The buffer after the values of the batch have been added. -/
noncomputable def nextPriorBuffer (priorBuffer : List ℝ) : List ℝ :=
  let klValues := fun b t => List.ofFn (self.klValue (batch.rows b t))
  extendDeque self.priorBufferSize priorBuffer (validRows T batch.seqLens klValues).flatten

open Classical in
/-- `additional_loss` of `custom_loss`. The percentile of the buffer is `np.percentile`. -/
noncomputable def additionalLoss (percentile : List ℝ → ℝ) (priorBuffer : List ℝ) : ℝ :=
  let priorThreshold := percentile (self.nextPriorBuffer batch priorBuffer)
  let priorLoss := fun row : I2CRow shape => ∑ j,
    binaryCrossEntropyWithLogits (self.priorLogits row j)
      (if priorThreshold ≤ self.klValue row j then 1 else 0)
  let reduceMean := reduceMeanValid T batch.seqLens
  reduceMean (fun b t => self.qLoss (batch.rows b t))
    + reduceMean (fun b t => priorLoss (batch.rows b t))
    + self.policyCorrRegCoeff
      * reduceMean (fun b t => self.policyCorrKLs T (batch.rows b) (batch.stateIn b) t)

end I2CModel

end Mate.Rllib

/-! # The auxiliary loss of SMPE2

An encoder infers a latent belief from the local observation. `custom_loss` keeps the belief near
a standard normal distribution, and lets it reconstruct the global state as far as a filter finds
it informative.

The rows of a sequence are numbered from the first step on, and a batch is padded to `T` steps.
-/

namespace Mate.Rllib

open Nets Focus

structure SMPE2Shape where
  localObsDim : ℕ
  globalStateDim : ℕ
  latentDim : ℕ
  globalStateDim_pos : 0 < globalStateDim

/-- The slices of an observation that the belief is about. -/
structure SMPE2Row (shape : SMPE2Shape) where
  localObs : Fin shape.localObsDim → ℝ
  globalState : Fin shape.globalStateDim → ℝ

structure SMPE2Model (shape : SMPE2Shape) where
  encoder1 : Linear (Fin shape.localObsDim) (Fin 128)
  encoder2 : Linear (Fin 128) (Fin 64)
  /-- the mean and the logarithm of the deviation, one after the other -/
  encoder3 : Linear (Fin 64) (Fin shape.latentDim ⊕ Fin shape.latentDim)
  decoder1 : Linear (Fin shape.latentDim) (Fin 64)
  decoder2 : Linear (Fin 64) (Fin 128)
  decoder3 : Linear (Fin 128) (Fin shape.globalStateDim)
  amFilter1 : Linear (Fin shape.localObsDim) (Fin 64)
  amFilter2 : Linear (Fin 64) (Fin shape.globalStateDim)
  lambdaRec : ℝ
  lambdaKl : ℝ
  lambdaNorm : ℝ

/-- `torch.mean` of a tensor of the shape `[B, T, D]`. -/
noncomputable def meanEntries {B D : ℕ} (T : ℕ) (x : Fin B → ℕ → Fin D → ℝ) : ℝ :=
  (∑ b, ∑ t ∈ Finset.range T, ∑ k, x b t k) / (B * T * D : ℕ)

namespace SMPE2Model

variable {shape : SMPE2Shape} (self : SMPE2Model shape)

noncomputable def encOut (row : SMPE2Row shape) : Fin shape.latentDim ⊕ Fin shape.latentDim → ℝ :=
  let hidden := fun k => relu (self.encoder1.apply row.localObs k)
  self.encoder3.apply (fun k => relu (self.encoder2.apply hidden k))

noncomputable def mu (row : SMPE2Row shape) (k : Fin shape.latentDim) : ℝ :=
  self.encOut row (.inl k)

noncomputable def logSigma (row : SMPE2Row shape) (k : Fin shape.latentDim) : ℝ :=
  self.encOut row (.inr k)

/-- The latent belief, with the draw of `randn_like`. -/
noncomputable def z (row : SMPE2Row shape) (noise : Fin shape.latentDim → ℝ) :
    Fin shape.latentDim → ℝ := fun k =>
  let sigma := Real.exp (clamp (-5) 2 (self.logSigma row k))
  self.mu row k + sigma * noise k

noncomputable def decoded (z : Fin shape.latentDim → ℝ) : Fin shape.globalStateDim → ℝ :=
  let hidden := fun k => relu (self.decoder1.apply z k)
  self.decoder3.apply (fun k => relu (self.decoder2.apply hidden k))

noncomputable def amWeights (row : SMPE2Row shape) (k : Fin shape.globalStateDim) : ℝ :=
  Real.sigmoid (self.amFilter2.apply (fun l => relu (self.amFilter1.apply row.localObs l)) k)

variable {B : ℕ} (T : ℕ) (rows : Fin B → ℕ → SMPE2Row shape)
  (noise : Fin B → ℕ → Fin shape.latentDim → ℝ)

noncomputable def klLoss : ℝ :=
  -0.5 * meanEntries T (fun b t k => 1 + 2 * self.logSigma (rows b t) k - self.mu (rows b t) k ^ 2
    - Real.exp (2 * self.logSigma (rows b t) k))

noncomputable def recLoss : ℝ :=
  meanEntries T (fun b t k =>
    let filteredTarget := self.amWeights (rows b t) k * (rows b t).globalState k
    let filteredPred := self.amWeights (rows b t) k
      * self.decoded (self.z (rows b t) (noise b t)) k
    (filteredPred - filteredTarget) ^ 2)

noncomputable def normLoss : ℝ := -meanEntries T (fun b t k => self.amWeights (rows b t) k ^ 2)

/-- `total_aux` of `custom_loss`. -/
noncomputable def totalAux : ℝ :=
  self.lambdaRec * self.recLoss T rows noise + self.lambdaKl * self.klLoss T rows
    + self.lambdaNorm * self.normLoss T rows

end SMPE2Model

end Mate.Rllib

/-! # The auxiliary loss of TarMAC

With FOCUS, `TarMACModel` has an occupancy model, and `custom_loss` adds its belief loss: how well
the positions of the targets are forecast from the global states of a sequence. The step after a
step is the next row of the same sequence.

The rows of a sequence are numbered from the first step on, and a batch is padded to `T` steps.
-/

namespace Mate.Rllib

open Focus

structure TarMACShape where
  globalStateDim : ℕ
  nFocusAgents : ℕ
  nTargets : ℕ
  nTargets_pos : 0 < nTargets
  requiredDim_le : requiredDim nFocusAgents nTargets ≤ globalStateDim

/-- What the loss reads of a row. -/
structure TarMACRow (shape : TarMACShape) where
  globalState : Fin shape.globalStateDim → ℝ
  agentIndex : ℤ

/-- The FOCUS parts of the model, for `H` horizons. -/
structure TarMACModel (shape : TarMACShape) (H : ℕ) where
  focusConfig : FocusConfig
  betaBelief : ℝ
  focusModel : Option (OccupancyModel shape.globalStateDim H shape.nTargets)

namespace TarMACModel

variable {shape : TarMACShape} {H : ℕ} (self : TarMACModel shape H) {B : ℕ}

/-- `weights`: the horizons that fit into the batch share the weight. -/
noncomputable def weights (numHorizons h : ℕ) : ℝ :=
  let discount : ℝ := self.focusConfig.horizonDiscount
  discount ^ h / (∑ k ∈ Finset.range numHorizons, discount ^ k + self.focusConfig.eps)

/-- `time_valid`: the step and the one after it are steps of the sequence, and the row is that of
the first agent. -/
def timeValid (seqLens : Fin B → ℕ) (withAgentIndex : Bool) (rows : Fin B → ℕ → TarMACRow shape)
    (b : Fin B) (t : ℕ) : Prop :=
  t < seqLens b - 1 ∧ (withAgentIndex = true → (rows b t).agentIndex = 0)

/-- `belief_loss`. The model is in training mode or not, as it says itself. -/
noncomputable def beliefLoss (focusModel : OccupancyModel shape.globalStateDim H shape.nTargets)
    (T : ℕ) (seqLens : Fin B → ℕ) (withAgentIndex : Bool)
    (rows : Fin B → ℕ → TarMACRow shape) : ℝ :=
  let state := fun b (t : Fin (T - 1)) => (rows b t).globalState
  let futureState := fun b (t : Fin (T - 1)) => (rows b (t + 1)).globalState
  let model := focusModel.observe state
  let perHorizonLosses := fun (h : Fin H) b t =>
    (model.nll shape.nFocusAgents state futureState b t h).loss
  -- `nll` stops at the horizons that are longer than the batch; a mean of no step is zero
  ∑ h : Fin H, if (h : ℕ) < T - 1 then
      self.weights (min H (T - 1)) h * maskedMean (fun b (t : Fin (T - 1)) =>
        (t : ℕ) + h < T - 1 ∧ timeValid seqLens withAgentIndex rows b t) (perHorizonLosses h)
    else 0

/-- What `custom_loss` adds. -/
noncomputable def auxLoss (T : ℕ) (seqLens : Fin B → ℕ) (withAgentIndex : Bool)
    (rows : Fin B → ℕ → TarMACRow shape) : ℝ :=
  match self.focusModel with
  | none => 0
  | some focusModel =>
      if B = 0 ∨ T < 2 then 0
      else self.betaBelief * self.beliefLoss focusModel T seqLens withAgentIndex rows

end TarMACModel

end Mate.Rllib
