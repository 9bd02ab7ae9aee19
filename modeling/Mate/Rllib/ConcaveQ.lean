import Mate.Library.Chunks
import Mate.Library.Nets
import Mate.Library.RunningMax
import Mate.Utils

set_option autoImplicit false

/-! # ConcaveQ

The input-concave mixer of ConcaveQ and the coordinate search its policy chooses actions by, from
`value_factorization/components.py`.
-/

namespace Mate.Rllib

open Nets

/-! ## The mixer -/

/-- `_PositiveHyperLayer`: a layer whose weights and biases are generated from the state. -/
structure PositiveHyperLayer (stateDim : ℕ) (ι κ : Type) where
  weight : Linear (Fin stateDim) (ι × κ)
  bias : Linear (Fin stateDim) κ

namespace PositiveHyperLayer

variable {stateDim : ℕ} {ι κ : Type} [Fintype ι] (layer : PositiveHyperLayer stateDim ι κ)

noncomputable def weights (state : Fin stateDim → ℝ) (i : ι) (k : κ) : ℝ :=
  |layer.weight.apply state (i, k)| / Fintype.card ι

noncomputable def forward (x : ι → ℝ) (state : Fin stateDim → ℝ) : κ → ℝ :=
  fun k => ∑ i, x i * layer.weights state i k + layer.bias.apply state k

noncomputable def negativeWeightForward (x : ι → ℝ) (state : Fin stateDim → ℝ) : κ → ℝ :=
  fun k => -∑ i, x i * layer.weights state i k + layer.bias.apply state k

end PositiveHyperLayer

/-- The sizes a mixer is built with. -/
structure ConcaveShape where
  nAgents : ℕ
  stateDim : ℕ
  hidden1 : ℕ
  hidden2 : ℕ
  hidden3 : ℕ
  deriving DecidableEq, Repr

/-- The constructor takes exactly three hidden sizes. -/
def ConcaveShape.ofHiddenDims (nAgents stateDim : ℕ) : List ℕ → Except Error ConcaveShape
  | [h1, h2, h3] => .ok ⟨nAgents, stateDim, h1, h2, h3⟩
  | _ => .error (.valueError "ConcaveQ uses exactly three hidden layers before output")

structure ConcaveMixer (shape : ConcaveShape) where
  layer1 : PositiveHyperLayer shape.stateDim (Fin shape.nAgents) (Fin shape.hidden1)
  layer2 : PositiveHyperLayer shape.stateDim (Fin shape.hidden1) (Fin shape.hidden2)
  layer3 : PositiveHyperLayer shape.stateDim (Fin shape.hidden1 ⊕ Fin shape.hidden2)
    (Fin shape.hidden3)
  outputLayer : PositiveHyperLayer shape.stateDim
    ((Fin shape.hidden1 ⊕ Fin shape.hidden2) ⊕ Fin shape.hidden3) (Fin 1)

namespace ConcaveMixer

variable {shape : ConcaveShape} (mixer : ConcaveMixer shape)

noncomputable def forward (utilities : Fin shape.nAgents → ℝ) (states : Fin shape.stateDim → ℝ) : ℝ :=
  let z1 := mixer.layer1.forward utilities states
  let z2 := fun k => relu (mixer.layer2.forward z1 states k)
  let z3 := fun k => relu (mixer.layer3.forward (Sum.elim z1 z2) states k)
  mixer.outputLayer.negativeWeightForward (Sum.elim (Sum.elim z1 z2) z3) states 0

end ConcaveMixer

/-! ## The coordinate search -/

section CoordinateAscent

variable {ι α β μ : Type} [LinearOrder α] [LinearOrder β] [OrderBot β] [LinearOrder μ] [Zero μ]
variable {nAgents nActions : ℕ}

/-- `candidate_values`, with minus infinity for what the mask forbids. `evaluate_joint` is given one
joint action for each candidate of the agent. -/
def candidateValues (evaluateJoint : (Fin nAgents → Fin nActions) → β)
    (actionMask : Fin nAgents → Fin nActions → μ) (actions : Fin nAgents → Fin nActions)
    (agent : Fin nAgents) (candidate : Fin nActions) : β :=
  if actionMask agent candidate ≤ 0 then ⊥ else evaluateJoint (Function.update actions agent candidate)

/-- The loop over the chunks: the chosen value and the chosen action. -/
def chooseCandidate (hactions : 0 < nActions) (chunkSize : ℕ) (values : Fin nActions → β) :
    β × Fin nActions :=
  (List.range (Chunks.count nActions chunkSize)).foldl
    (fun chosen j => RunningMax.improveChunk values chosen
      (Chunks.sublist (List.finRange nActions) (j * chunkSize) (j * chunkSize + chunkSize)))
    (⊥, ⟨0, hactions⟩)

/-- The turn of one agent. -/
def sweepAgent (hactions : 0 < nActions) (chunkSize : ℕ)
    (evaluateJoint : (Fin nAgents → Fin nActions) → β) (actionMask : Fin nAgents → Fin nActions → μ)
    (current : (Fin nAgents → Fin nActions) × β) (agent : Fin nAgents) :
    (Fin nAgents → Fin nActions) × β :=
  let chosen := chooseCandidate hactions chunkSize
    (candidateValues evaluateJoint actionMask current.1 agent)
  if current.2 < chosen.1 then (Function.update current.1 agent chosen.2, chosen.1) else current

/-- Without initial actions, each agent starts with its best allowed one. -/
def startActions (hactions : 0 < nActions) (actionValues : Fin nAgents → Fin nActions → α)
    (actionMask : Fin nAgents → Fin nActions → μ) (initialActions : Option (Fin nAgents → Fin nActions)) :
    Fin nAgents → Fin nActions :=
  match initialActions with
  | none => fun agent => argmax hactions
      (fun k => if actionMask agent k ≤ 0 then (⊥ : WithBot α) else actionValues agent k)
  | some actions => actions

/-- One joint action of the batch. -/
def coordinateSweep (hactions : 0 < nActions) (chunkSize : ℕ)
    (actionMask : Fin nAgents → Fin nActions → μ)
    (evaluateJoint : (Fin nAgents → Fin nActions) → β) (start : Fin nAgents → Fin nActions) :
    (Fin nAgents → Fin nActions) × β :=
  (List.finRange nAgents).foldl (sweepAgent hactions chunkSize evaluateJoint actionMask)
    (start, evaluateJoint start)

/-- `coordinate_ascent_actions` on a batch `ι`. Like the masks, `evaluate_joint` may be another one
at each place of the batch. -/
def coordinateAscentActions (hactions : 0 < nActions)
    (actionValues : ι → Fin nAgents → Fin nActions → α)
    (actionMask : ι → Fin nAgents → Fin nActions → μ)
    (evaluateJoint : ι → (Fin nAgents → Fin nActions) → β)
    (initialActions : Option (ι → Fin nAgents → Fin nActions)) (candidateChunkSize : Option ℤ) :
    Except Error ((ι → Fin nAgents → Fin nActions) × (ι → β)) :=
  let chunkSize := candidateChunkSize.getD nActions
  if chunkSize ≤ 0 then .error (.valueError "candidate_chunk_size must be positive")
  else
    let swept := fun b => coordinateSweep hactions chunkSize.toNat (actionMask b) (evaluateJoint b)
      (startActions hactions (actionValues b) (actionMask b) (initialActions.map (fun a => a b)))
    .ok (fun b => (swept b).1, fun b => (swept b).2)

end CoordinateAscent

end Mate.Rllib
