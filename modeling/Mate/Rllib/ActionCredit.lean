import Mate.Library.LogSumExp
import Mate.Rllib.SubsetActions

set_option autoImplicit false

/-! # Losses of the official FOCUS objective

The learners move the action values towards the camera-target gains (`actionCreditLoss`). Heads that
select every target on its own are trained without enumerating the subsets
(`factoredActionCreditLoss`). The carriers of the mixer are moved towards the responsibilities
(`carrierCreditLoss`). Tensors have the shapes `[B, T, C, ·]`, by their types.
-/

namespace Mate.Rllib

open Nets

variable {B T C A J : ℕ}

/-! ## Standardised values -/

/-- `value.std(dim=-1, unbiased=False)`. -/
noncomputable def populationStd (value : Fin A → ℝ) : ℝ :=
  Real.sqrt (mean (fun a => (value a - mean value) ^ 2))

/-- The deviation that values are divided by, at least `std_floor`. -/
noncomputable def clampedStd (value : Fin A → ℝ) (stdFloor : ℝ) : ℝ :=
  max (populationStd (fun a => value a - mean value)) stdFloor

/-- `_standardize`. -/
noncomputable def standardize (value : Fin A → ℝ) (stdFloor : ℝ) : Fin A → ℝ :=
  fun a => (value a - mean value) / clampedStd value stdFloor

/-! ## Weights of the steps -/

/-- The weights of the steps, `valid` being converted to floats. -/
def creditWeights (valid : Fin B → Fin T → ℝ) (confidence signalWeights : Option (Fin B → Fin T → ℝ)) :
    Fin B → Fin T → ℝ :=
  let weights := valid
  let weights := match confidence with
    | some confidence => fun b t => weights b t * confidence b t
    | none => weights
  match signalWeights with
  | some signalWeights => fun b t => weights b t * signalWeights b t
  | none => weights

/-- The weighted mean over the agents, with the weights of the steps for all of them. -/
noncomputable def weightedLoss (perAgent : Fin B → Fin T → Fin C → ℝ) (weights : Fin B → Fin T → ℝ)
    (eps : ℝ) : ℝ :=
  let denominator := ∑ b, ∑ t, ∑ _c : Fin C, weights b t
  if denominator ≤ eps then 0
  else (∑ b, ∑ t, ∑ c, perAgent b t c * weights b t) / (denominator + eps)

/-! ## Over all subsets -/

/-- Entry `(a, j)` of a table. -/
def entry (table : List (List ℤ)) (a j : ℕ) : ℝ := (((table.getD a []).getD j 0 : ℤ) : ℝ)

/-- `torch.einsum("btcj,aj->btca", pair_gains, action_bits)`. -/
def actionGains (pairGains : Fin B → Fin T → Fin C → Fin J → ℝ) (actionBits : Fin A → Fin J → ℝ) :
    Fin B → Fin T → Fin C → Fin A → ℝ :=
  fun b t c a => ∑ j, pairGains b t c j * actionBits a j

/-- The loss of `action_credit_loss`, once the bits of the actions are known. -/
noncomputable def actionCreditLossOf (actionBits : Fin A → Fin J → ℝ)
    (qValues : Fin B → Fin T → Fin C → Fin A → ℝ) (pairGains : Fin B → Fin T → Fin C → Fin J → ℝ)
    (valid : Fin B → Fin T → ℝ) (confidence signalWeights : Option (Fin B → Fin T → ℝ))
    (temperature qStdFloor eps : ℝ) : ℝ :=
  let gains := actionGains pairGains actionBits
  let target := fun b t c => softmax (fun a => standardize (gains b t c) eps a / temperature)
  let prediction := fun b t c =>
    logSoftmax (fun a => standardize (qValues b t c) qStdFloor a / temperature)
  weightedLoss (fun b t c => crossEntropy (target b t c) (prediction b t c))
    (creditWeights valid confidence signalWeights) eps

/-- `action_credit_loss`. -/
noncomputable def actionCreditLoss (qValues : Fin B → Fin T → Fin C → Fin A → ℝ)
    (pairGains : Fin B → Fin T → Fin C → Fin J → ℝ) (valid : Fin B → Fin T → ℝ)
    (confidence signalWeights : Option (Fin B → Fin T → ℝ)) (temperature qStdFloor eps : ℝ) :
    Except Error (ℝ × (Fin B → Fin T → Fin C → Fin A → ℝ)) := do
  let table ← subsetActionMatrix A J
  let actionBits := fun (a : Fin A) (j : Fin J) => entry table a j
  return (actionCreditLossOf actionBits qValues pairGains valid confidence signalWeights temperature
    qStdFloor eps, actionGains pairGains actionBits)

/-! ## Target by target -/

/-- `factored_action_credit_loss`. -/
noncomputable def factoredActionCreditLoss (logits pairGains : Fin B → Fin T → Fin C → Fin J → ℝ)
    (valid : Fin B → Fin T → ℝ) (confidence signalWeights : Option (Fin B → Fin T → ℝ))
    (temperature qStdFloor eps : ℝ) : ℝ :=
  let gainStd := fun b t c => Real.sqrt (∑ j, pairGains b t c j ^ 2) / 2
  let target := fun b t c j =>
    Real.sigmoid (pairGains b t c j / ((gainStd b t c + eps) * temperature))
  let qStd := fun b t c => Real.sqrt ((∑ j, logits b t c j ^ 2) / 4 + qStdFloor ^ 2)
  let prediction := fun b t c j => logits b t c j / (qStd b t c * temperature)
  let perAgent := fun b t c => -∑ j, (target b t c j * logsigmoid (prediction b t c j)
    + (1 - target b t c j) * logsigmoid (-prediction b t c j))
  weightedLoss perAgent (creditWeights valid confidence signalWeights) eps

/-! ## Carriers of the mixer -/

/-- The carriers of a step as probabilities. -/
noncomputable def carrierProb (carrier : Fin C → ℝ) (eps : ℝ) : Fin C → ℝ :=
  let clamped := fun c => max (carrier c) eps
  fun c => clamped c / max (∑ c, clamped c) eps

/-- `carrier_credit_loss`. -/
noncomputable def carrierCreditLoss (rho carrier : Fin B → Fin T → Fin C → ℝ)
    (valid : Fin B → Fin T → ℝ) (confidence signalWeights : Option (Fin B → Fin T → ℝ)) (eps : ℝ) :
    ℝ × (Fin B → Fin T → Fin C → ℝ) :=
  let prob := fun b t => carrierProb (carrier b t) eps
  let perStep := fun b t => crossEntropy (rho b t) (fun c => Real.log (prob b t c))
  let weights := creditWeights valid confidence signalWeights
  let denominator := ∑ b, ∑ t, weights b t
  (if denominator ≤ eps then 0
    else (∑ b, ∑ t, perStep b t * weights b t) / (denominator + eps), prob)

end Mate.Rllib
