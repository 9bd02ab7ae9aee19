import Mate.Library.Layers
import Mate.Rllib.FocusCredit

set_option autoImplicit false

/-! # Occupancy models

The two models that forecast the positions of the targets, `LearnedOccupancyModel` and
`CategoricalOccupancyModel`, and the errors that their `nll` finds in the forecasts. A model is a
network on normalized states, which reads the steps of a sequence in order; the normalizer, which
learns from every batch it is applied to, is shared by all sequences.
-/

namespace Mate.Rllib.Focus

open Nets

/-! ## Normalization -/

/-- `torch.clamp`. -/
def clamp {K : Type} [LinearOrder K] (low high x : K) : K := min (max x low) high

structure RunningFeatureNormalizer (D : ℕ) where
  clip : ℚ
  eps : ℚ
  mean : Fin D → ℝ
  variance : Fin D → ℝ
  count : ℝ

namespace RunningFeatureNormalizer

variable {D B T : ℕ}

/-- A new normalizer, with the default of `eps`. -/
def init (D : ℕ) (clip : ℚ) : RunningFeatureNormalizer D :=
  ⟨clip, 1 / 10 ^ 5, fun _ => 0, fun _ => 1, 0⟩

open Classical in
noncomputable def update (self : RunningFeatureNormalizer D) (value : Fin B → Fin T → Fin D → ℝ) :
    RunningFeatureNormalizer D :=
  if B * T * D = 0 then self
  else
    let batchCount : ℝ := (B * T : ℕ)
    let batchMean := fun d => (∑ b, ∑ t, value b t d) / batchCount
    let batchVariance := fun d => (∑ b, ∑ t, (value b t d - batchMean d) ^ 2) / batchCount
    if self.count = 0 then
      { self with
        mean := batchMean
        variance := fun d => max (batchVariance d) self.eps
        count := batchCount }
    else
      -- the parallel merge of two samples
      let delta := fun d => batchMean d - self.mean d
      let total := self.count + batchCount
      let oldM2 := fun d => self.variance d * self.count
      let batchM2 := fun d => batchVariance d * batchCount
      let correction := fun d => delta d ^ 2 * self.count * batchCount / total
      { self with
        mean := fun d => self.mean d + delta d * (batchCount / total)
        variance := fun d => max ((oldM2 d + batchM2 d + correction d) / total) self.eps
        count := total }

/-- An update leaves the constants as they are. -/
theorem constants_update (self : RunningFeatureNormalizer D) (states : Fin B → Fin T → Fin D → ℝ) :
    ((self.update states).clip, (self.update states).eps) = (self.clip, self.eps) := by
  unfold update
  split
  · rfl
  · dsimp only
    split
    · rfl
    · rfl

/-- The rest of `forward`. -/
noncomputable def normalize (self : RunningFeatureNormalizer D) (value : Fin D → ℝ) : Fin D → ℝ :=
  fun d => clamp (-self.clip : ℝ) self.clip
    ((value d - self.mean d) / √(self.variance d + self.eps))

end RunningFeatureNormalizer

/-- The normalizer of a model, if it has one, its mode, and its network: an output row for every
horizon and target, from the normalized states up to a step. -/
structure BeliefNet (D H J O : ℕ) where
  inputNormalizer : Option (RunningFeatureNormalizer D)
  training : Bool
  net : List (Fin D → ℝ) → Fin H → Fin J → Fin O → ℝ

namespace BeliefNet

variable {D H J O B T : ℕ}

/-- The normalizer learns from the states in training mode only. -/
noncomputable def observe (self : BeliefNet D H J O) (state : Fin B → Fin T → Fin D → ℝ) :
    BeliefNet D H J O :=
  { self with
    inputNormalizer := self.inputNormalizer.map
      (fun normalizer => if self.training then normalizer.update state else normalizer) }

noncomputable def features (self : BeliefNet D H J O) (state : Fin D → ℝ) : Fin D → ℝ :=
  match self.inputNormalizer with
  | some normalizer => normalizer.normalize state
  | none => state

/-- The outputs at step `t` of a sequence, once the normalizer has seen the batch. -/
noncomputable def output (self : BeliefNet D H J O) (state : Fin T → Fin D → ℝ) (t : Fin T) :
    Fin H → Fin J → Fin O → ℝ :=
  self.net (List.ofFn (fun k : Fin (t + 1) => self.features (state ⟨k, by omega⟩)))

end BeliefNet

/-! ## Errors of a forecast -/

/-- `.mean(dim=-1)` over the targets. -/
noncomputable def meanTargets {J : ℕ} (x : Fin J → ℝ) : ℝ := (∑ j, x j) / J

/-- What `nll` finds for one step and one horizon. -/
structure StepErrors where
  loss : ℝ
  positionError : ℝ
  baselinePositionError : ℝ

/-- The errors of horizons that end behind the sequence. -/
def StepErrors.zero : StepErrors := ⟨0, 0, 0⟩

/-- `torch.linalg.norm(target - position, dim=-1).mean(dim=-1)`. -/
noncomputable def positionError {J : ℕ} (target position : Fin J → ℂ) : ℝ :=
  meanTargets (fun j => ‖target j - position j‖)

/-! ## Gaussian forecasts -/

noncomputable def softplus (x : ℝ) : ℝ := Real.log (1 + Real.exp x)

structure LearnedOccupancyModel (D H J : ℕ) where
  beliefNet : BeliefNet D H J 4
  maxDelta : ℚ
  minStd : ℚ

namespace LearnedOccupancyModel

variable {D H J : ℕ} (self : LearnedOccupancyModel D H J)

/-- The mean of `forward`. -/
noncomputable def mean (out : Fin H → Fin J → Fin 4 → ℝ) (currentPos : Fin J → ℂ) (h : Fin H)
    (j : Fin J) : ℂ :=
  currentPos j + ⟨Real.tanh (out h j 0) * self.maxDelta, Real.tanh (out h j 1) * self.maxDelta⟩

/-- The standard deviation of `forward`. -/
noncomputable def std (out : Fin H → Fin J → Fin 4 → ℝ) (h : Fin H) (j : Fin J) : ℂ :=
  ⟨softplus (out h j 2) + self.minStd, softplus (out h j 3) + self.minStd⟩

/-- One step of `nll`. -/
noncomputable def stepErrors (out : Fin H → Fin J → Fin 4 → ℝ) (currentPos target : Fin J → ℂ)
    (h : Fin H) : StepErrors :=
  let predMean := self.mean out currentPos h
  let predStd := self.std out h
  let coordinate := fun x m s : ℝ =>
    1 / 2 * ((x - m) / s) ^ 2 + Real.log s + 1 / 2 * Real.log (2 * Real.pi)
  { loss := meanTargets (fun j =>
      coordinate (target j).re (predMean j).re (predStd j).re
        + coordinate (target j).im (predMean j).im (predStd j).im)
    positionError := positionError target predMean
    baselinePositionError := positionError target currentPos }

end LearnedOccupancyModel

/-! ## Categorical forecasts -/

/-- `F.smooth_l1_loss` of a number and zero. -/
noncomputable def smoothL1 (x : ℝ) : ℝ := if |x| < 1 then 1 / 2 * x ^ 2 else |x| - 1 / 2

/-- The grid of displacements and the constants of `CategoricalOccupancyModel`. The last fields are
the checks of the constructor. -/
structure CategoricalGrid where
  gridSize : ℕ
  maxDelta : ℚ
  labelStd : ℚ
  persistencePriorStd : ℚ
  positionLossCoeff : ℚ
  minStd : ℚ
  eps : ℚ
  gridSize_odd : Odd gridSize
  three_le : 3 ≤ gridSize
  labelStd_pos : 0 < labelStd
  persistencePriorStd_pos : 0 < persistencePriorStd

namespace CategoricalGrid

variable (grid : CategoricalGrid) {J : ℕ}

def numCells : ℕ := grid.gridSize * grid.gridSize

theorem numCells_pos : 0 < grid.numCells :=
  Nat.mul_pos (by have := grid.three_le; omega) (by have := grid.three_le; omega)

instance : Nonempty (Fin grid.numCells) := ⟨⟨0, grid.numCells_pos⟩⟩

/-- `displacement_grid`. -/
noncomputable def displacementGrid (k : Fin grid.numCells) : ℂ :=
  let axis := fun m : ℕ => -grid.maxDelta + m * (2 * grid.maxDelta / (grid.gridSize - 1))
  ⟨(axis (k % grid.gridSize) : ℚ), (axis (k / grid.gridSize) : ℚ)⟩

/-- `persistence_prior_logits`. -/
noncomputable def persistencePriorLogits (k : Fin grid.numCells) : ℝ :=
  let priorLogits := fun k =>
    (((grid.displacementGrid k).re / grid.persistencePriorStd) ^ 2
      + ((grid.displacementGrid k).im / grid.persistencePriorStd) ^ 2) * (-1 / 2)
  priorLogits k - logsumexp priorLogits

/-- The expected displacement of `moments_from_probabilities`. -/
noncomputable def expectedDelta (probabilities : Fin grid.numCells → ℝ) : ℂ :=
  ⟨∑ k, probabilities k * (grid.displacementGrid k).re,
    ∑ k, probabilities k * (grid.displacementGrid k).im⟩

/-- The mean of `moments_from_probabilities`. -/
noncomputable def mean (probabilities : Fin J → Fin grid.numCells → ℝ) (currentPosition : Fin J → ℂ)
    (j : Fin J) : ℂ :=
  currentPosition j + grid.expectedDelta (probabilities j)

/-- One step of `nll`. -/
noncomputable def stepErrors (logits : Fin J → Fin grid.numCells → ℝ)
    (currentPosition target : Fin J → ℂ) : StepErrors :=
  let predMean := grid.mean (fun j => softmax (logits j)) currentPosition
  let labelLogits := fun j k =>
    let delta := grid.displacementGrid k - (target j - currentPosition j)
    ((delta.re / grid.labelStd) ^ 2 + (delta.im / grid.labelStd) ^ 2) * (-1 / 2)
  let spatialNll := meanTargets (fun j =>
    0 - ∑ k, softmax (labelLogits j) k * (logits j k - logsumexp (logits j)))
  let scale : ℝ := (max grid.maxDelta grid.eps : ℚ)
  let positionLoss := meanTargets (fun j =>
    let error := predMean j - target j
    smoothL1 (error.re / scale) + smoothL1 (error.im / scale))
  { loss := spatialNll + grid.positionLossCoeff * positionLoss
    positionError := positionError target predMean
    baselinePositionError := positionError target currentPosition }

end CategoricalGrid

structure CategoricalOccupancyModel (D H J : ℕ) where
  grid : CategoricalGrid
  beliefNet : BeliefNet D H J grid.numCells

/-! ## Both models -/

/-- What `build_occupancy_model` returns. -/
inductive OccupancyModel (D H J : ℕ)
  | gaussian (model : LearnedOccupancyModel D H J)
  | categorical (model : CategoricalOccupancyModel D H J)

/-- What a model says about the targets, for all steps. -/
inductive Belief (ι : Type) (H J : ℕ)
  | gaussian (mean std : ι → Fin H → Fin J → ℂ)
  | categorical (grid : CategoricalGrid)
      (probabilities : ι → Fin H → Fin J → Fin grid.numCells → ℝ)

namespace OccupancyModel

variable {D H J B T : ℕ}

/-- The model after it has been applied to a batch. -/
noncomputable def observe (self : OccupancyModel D H J) (state : Fin B → Fin T → Fin D → ℝ) :
    OccupancyModel D H J :=
  match self with
  | gaussian model => gaussian { model with beliefNet := model.beliefNet.observe state }
  | categorical model => categorical { model with beliefNet := model.beliefNet.observe state }

/-- The distributions that a model that has seen the batch forecasts. -/
noncomputable def forecast (self : OccupancyModel D H J) (nAgents : ℕ)
    (state : Fin B → Fin T → Fin D → ℝ) : Belief (Fin B × Fin T) H J :=
  match self with
  | gaussian model =>
    let currentPos := fun (step : Fin B × Fin T) (j : Fin J) =>
      targetPosition (state step.1 step.2) nAgents j
    let out := fun step : Fin B × Fin T => model.beliefNet.output (state step.1) step.2
    .gaussian (fun step => model.mean (out step) (currentPos step)) (fun step => model.std (out step))
  | categorical model =>
    .categorical model.grid (fun step h j =>
      let residualLogits := model.beliefNet.output (state step.1) step.2
      softmax (fun k => residualLogits h j k + model.grid.persistencePriorLogits k))

/-- The errors of step `t`, when the targets are at `target` after the horizon `h`. -/
noncomputable def stepErrors (self : OccupancyModel D H J) (nAgents : ℕ)
    (state : Fin T → Fin D → ℝ) (t : Fin T) (h : Fin H) (target : Fin J → ℂ) : StepErrors :=
  let currentPosition := fun j : Fin J => targetPosition (state t) nAgents j
  match self with
  | gaussian model => model.stepErrors (model.beliefNet.output state t) currentPosition target h
  | categorical model =>
    let residualLogits := model.beliefNet.output state t
    model.grid.stepErrors
      (fun j k => residualLogits h j k + model.grid.persistencePriorLogits k) currentPosition target

/-- `nll` of a model that has seen the batch: the errors are padded to the length of the batch. -/
noncomputable def nll (self : OccupancyModel D H J) (nAgents : ℕ)
    (state nextState : Fin B → Fin T → Fin D → ℝ) (b : Fin B) (t : Fin T) (h : Fin H) : StepErrors :=
  if hlt : (t : ℕ) + h < T then
    self.stepErrors nAgents (state b) t h
      (fun j : Fin J => targetPosition (nextState b ⟨t + h, hlt⟩) nAgents j)
  else StepErrors.zero

end OccupancyModel

/-! ## Networks

The two architectures of a belief: a perceptron, which looks at one state, and an LSTM, which has
seen all states of the sequence up to there. Dropout is for training only; the networks are those of
a model in evaluation mode.
-/

/-- The hidden states of an LSTM layer along a sequence. -/
noncomputable def hiddenStates {ι κ : Type} [Fintype ι] [Fintype κ] (cell : LSTMCell ι κ) :
    List (ι → ℝ) → LSTMState κ → List (κ → ℝ)
  | [], _ => []
  | x :: rest, state => (cell.apply x state).1 :: hiddenStates cell rest (cell.apply x state)

/-- `belief_arch`, with the parameters of the network. An LSTM has at least one layer. -/
inductive Architecture (D H J O : ℕ)
  | mlp {hiddenDim : ℕ} (first : Linear (Fin D) (Fin hiddenDim))
      (second : Linear (Fin hiddenDim) (Fin hiddenDim))
      (last : Linear (Fin hiddenDim) (Fin H × Fin J × Fin O))
  | lstm {hiddenDim : ℕ} (first : LSTMCell (Fin D) (Fin hiddenDim))
      (rest : List (LSTMCell (Fin hiddenDim) (Fin hiddenDim)))
      (head : Linear (Fin hiddenDim) (Fin H × Fin J × Fin O))

namespace Architecture

variable {D H J O : ℕ}

/-- The features of the last state of a sequence. There is one: a step is in its own sequence. -/
noncomputable def net : Architecture D H J O → List (Fin D → ℝ) → Fin H → Fin J → Fin O → ℝ
  | mlp first second last, states => fun h j o =>
      let x := states.getLast?.getD 0
      last.apply (fun k => relu (second.apply (fun k => relu (first.apply x k)) k)) (h, j, o)
  | lstm first rest head, states => fun h j o =>
      let features := rest.foldl (fun features cell => hiddenStates cell features (0, 0))
        (hiddenStates first states (0, 0))
      head.apply (features.getLast?.getD 0) (h, j, o)

end Architecture

/-! ## Networks that look at one state -/

/-- The output depends on the last state only. -/
def RowWise {D H J O : ℕ} (net : List (Fin D → ℝ) → Fin H → Fin J → Fin O → ℝ) : Prop :=
  ∀ states states' x, net (states ++ [x]) = net (states' ++ [x])

/-- The network of a model looks at one state. -/
def OccupancyModel.RowWise {D H J : ℕ} : OccupancyModel D H J → Prop
  | gaussian model => Focus.RowWise model.beliefNet.net
  | categorical model => Focus.RowWise model.beliefNet.net

end Mate.Rllib.Focus
