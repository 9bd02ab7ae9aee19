import Mate.Rllib.DuelMixers
import Mate.Utils
import Mate.Library.Nets

set_option autoImplicit false

/-! # The multi-agent controller of the QPLEX policies

All agents run one `RNNModel`, each on its own observation and from its own hidden state. The
losses unroll it along whole sequences, from hidden states of zeros.
-/

namespace Mate.Rllib

open Nets

section Mac

variable {n : ℕ} {ι κ ν : Type*} [Fintype ι] [Fintype κ] (model : Recurrent ι κ ν)

/-- `_mac`: the values of all agents, and their next hidden states. -/
noncomputable def mac (obs : Fin n → ι → ℝ) (h : Fin n → κ → ℝ) :
    (Fin n → ν → ℝ) × (Fin n → κ → ℝ) :=
  (fun i => (model.step (obs i) (h i)).1, fun i => (model.step (obs i) (h i)).2)

/-- The loop of `_unroll_mac`. -/
noncomputable def unrollMacFrom (h : Fin n → κ → ℝ) :
    List (Fin n → ι → ℝ) → List (Fin n → ν → ℝ)
  | [] => []
  | obs :: rest => (mac model obs h).1 :: unrollMacFrom (mac model obs h).2 rest

/-- `_unroll_mac`. -/
noncomputable def unrollMac (obsTensor : List (Fin n → ι → ℝ)) : List (Fin n → ν → ℝ) :=
  unrollMacFrom model (fun _ _ => 0) obsTensor

end Mac

end Mate.Rllib

/-! # The losses of QPLEX-FOCUS, DuelMIX and SPECTra

Each of them unrolls an agents' network along the observations and along the next observations of
its sequences. The utilities of the next observations choose the next joint action, whose joint
value by the target networks is bootstrapped. What is modelled here are these utilities, and, for
the two duelling losses, the bootstrapped values of a batch with `double_q`.
-/

namespace Mate.Rllib

open Nets Mixing

/-- The sizes of the agents of a loss. -/
structure LossShape where
  nAgents : ℕ
  nActions : ℕ
  obsSize : ℕ
  rnnHiddenDim : ℕ
  nActions_pos : 0 < nActions

namespace LossShape

variable (shape : LossShape)

abbrev Obs : Type := Fin shape.nAgents → Fin shape.obsSize → ℝ

abbrev Utilities : Type := Fin shape.nAgents → Fin shape.nActions → ℝ

abbrev JointAction : Type := Fin shape.nAgents → Fin shape.nActions

abbrev Mask : Type := Fin shape.nAgents → Fin shape.nActions → Bool

abbrev Hidden : Type := Fin shape.nAgents → Fin shape.rnnHiddenDim → ℝ

/-- `RNNModel` of QPLEX-FOCUS, without its bias head. -/
abbrev RNNModel : Type :=
  Recurrent (Fin shape.obsSize) (Fin shape.rnnHiddenDim) (Fin shape.nActions)

/-- What the agents see of one step of a sequence. -/
structure Transition where
  obs : shape.Obs
  nextObs : shape.Obs
  prevActions : shape.JointAction
  actions : shape.JointAction

end LossShape

/-! ## Utilities -/

section Focus

variable {shape : LossShape} (model : shape.RNNModel)

/-- `mac_out` of `QPLEXFocusLoss`. -/
noncomputable def focusMacOut (sequence : List shape.Transition) : List shape.Utilities :=
  unrollMac model (sequence.map LossShape.Transition.obs)

/-- `mac_out_tp1` of `QPLEXFocusLoss`, and `target_mac_out` for the target model. -/
noncomputable def focusMacOutTp1 (sequence : List shape.Transition) : List shape.Utilities :=
  unrollMac model (sequence.map LossShape.Transition.nextObs)

end Focus

/-- The agents of DuelMIX: a value and an advantage for each action. -/
structure DualStreamRNNModel (shape : LossShape) where
  fc1 : Linear (Fin shape.obsSize ⊕ Fin shape.nActions) (Fin shape.rnnHiddenDim)
  rnn : GRUCell (Fin shape.rnnHiddenDim) (Fin shape.rnnHiddenDim)
  vHead : Linear (Fin shape.rnnHiddenDim) (Fin 1)
  aHead : Linear (Fin shape.rnnHiddenDim) (Fin shape.nActions)

namespace DualStreamRNNModel

variable {shape : LossShape} (model : DualStreamRNNModel shape)

/-- The values and advantages of all agents. -/
structure Output (shape : LossShape) where
  v : Fin shape.nAgents → ℝ
  a : shape.Utilities

/-- `V + A`, by which the agents choose. -/
def Output.q (out : Output shape) : shape.Utilities := fun i k => out.v i + out.a i k

/-- The next hidden state of one agent. -/
noncomputable def hidden (obs : Fin shape.obsSize → ℝ) (prevAction : Fin shape.nActions → ℝ)
    (h : Fin shape.rnnHiddenDim → ℝ) : Fin shape.rnnHiddenDim → ℝ :=
  model.rnn.apply (fun k => relu (model.fc1.apply (Sum.elim obs prevAction) k)) h

/-- `_mac_duelmix`; the advantages of an agent are centred by their mean. -/
noncomputable def mac (input : shape.Obs × shape.JointAction) (h : shape.Hidden) :
    Output shape × shape.Hidden :=
  let next : shape.Hidden := fun i => model.hidden (input.1 i) (oneHot (input.2 i)) (h i)
  ({ v := fun i => model.vHead.apply (next i) 0
     a := fun i k => model.aHead.apply (next i) k - mean (model.aHead.apply (next i)) }, next)

/-- `_unroll_mac_duelmix`, along observations and previous actions. -/
noncomputable def unrollMac (inputs : List (shape.Obs × shape.JointAction)) :
    List (Output shape) :=
  unroll model.mac (fun _ _ => 0) inputs

/-- `all_v` and `all_a` of `DuelMixLoss`. -/
noncomputable def current (sequence : List shape.Transition) : List (Output shape) :=
  model.unrollMac (sequence.map (fun tr => (tr.obs, tr.prevActions)))

/-- `mac_v_tp1` and `mac_a_tp1`, and `target_v` and `target_a` for the target model. -/
noncomputable def tp1 (sequence : List shape.Transition) : List (Output shape) :=
  model.unrollMac (sequence.map (fun tr => (tr.nextObs, tr.actions)))

end DualStreamRNNModel

/-- The configuration of a SPECTra agent besides its sizes. -/
structure SpectraShape extends LossShape where
  ownDim : ℕ
  entityDim : ℕ
  embedDim : ℕ
  nHeads : ℕ
  useSaqa : Bool
  ownDim_le : ownDim ≤ obsSize
  entityDim_pos : 0 < entityDim
  /-- The heads share the columns of an embedding. -/
  nHeads_dvd : nHeads ∣ embedDim
  /-- An observation without entities is its own entity. -/
  ownDim_eq : (obsSize - ownDim) / entityDim = 0 → ownDim = entityDim

namespace SpectraShape

variable (shape : SpectraShape)

/-- The entities that an observation has room for. -/
def nEntities : ℕ := (shape.obsSize - shape.ownDim) / shape.entityDim

/-- The entities that an agent attends to. -/
def nTokens : ℕ := if shape.nEntities = 0 then 1 else shape.nEntities

variable {shape}

/-- Column `k` of a flat observation. -/
def column (obs : Fin shape.obsSize → ℝ) (k : ℕ) : ℝ :=
  if h : k < shape.obsSize then obs ⟨k, h⟩ else 0

/-- The two parts of `_parse_obs`. -/
def ownObs (obs : Fin shape.obsSize → ℝ) (c : Fin shape.ownDim) : ℝ := column obs c

def entityObs (obs : Fin shape.obsSize → ℝ) (e : Fin shape.nTokens) (c : Fin shape.entityDim) :
    ℝ :=
  if shape.nEntities = 0 then column obs c
  else column obs (shape.ownDim + (e * shape.entityDim + c))

end SpectraShape

/-- `SAQAModule`. -/
structure SAQAModule (shape : SpectraShape) where
  eOwn : Linear (Fin shape.ownDim) (Fin shape.embedDim)
  eEntity : Linear (Fin shape.entityDim) (Fin shape.embedDim)
  wQ : Linear (Fin shape.embedDim) (Fin shape.embedDim)
  wK : Linear (Fin shape.embedDim) (Fin shape.embedDim)
  wV : Linear (Fin shape.embedDim) (Fin shape.embedDim)
  wO : Linear (Fin shape.embedDim) (Fin shape.embedDim)
  layerNorm : LayerNorm shape.embedDim

noncomputable def SAQAModule.forward {shape : SpectraShape} (saqa : SAQAModule shape)
    (ownObs : Fin shape.ownDim → ℝ) (entityObs : Fin shape.nTokens → Fin shape.entityDim → ℝ) :
    Fin shape.embedDim → ℝ :=
  let ownEmbed := saqa.eOwn.apply ownObs
  let entEmbed := fun e => saqa.eEntity.apply (entityObs e)
  let attended := saqa.wO.apply (attend (shape.embedDim / shape.nHeads) (saqa.wQ.apply ownEmbed)
    (fun e => saqa.wK.apply (entEmbed e)) (fun e => saqa.wV.apply (entEmbed e)))
  saqa.layerNorm.apply (fun k => ownEmbed k + attended k)

/-- `SPECTraRNNModel`: `fc1` reads the attended embedding, or the observation itself. -/
structure SPECTraRNNModel (shape : SpectraShape) where
  saqa : SAQAModule shape
  fc1Saqa : Linear (Fin shape.embedDim) (Fin shape.rnnHiddenDim)
  fc1Flat : Linear (Fin shape.obsSize) (Fin shape.rnnHiddenDim)
  rnn : GRUCell (Fin shape.rnnHiddenDim) (Fin shape.rnnHiddenDim)
  fc2 : Linear (Fin shape.rnnHiddenDim) (Fin shape.nActions)

namespace SPECTraRNNModel

variable {shape : SpectraShape} (model : SPECTraRNNModel shape)

/-- The layer `fc1`, which the constructor builds for one of two inputs. -/
noncomputable def fc1 (obs : Fin shape.obsSize → ℝ) : Fin shape.rnnHiddenDim → ℝ :=
  if shape.useSaqa then
    model.fc1Saqa.apply (model.saqa.forward (SpectraShape.ownObs obs) (SpectraShape.entityObs obs))
  else model.fc1Flat.apply obs

noncomputable def mac (obs : shape.Obs) (h : shape.Hidden) : shape.Utilities × shape.Hidden :=
  let next : shape.Hidden := fun i => model.rnn.apply (fun k => relu (model.fc1 (obs i) k)) (h i)
  (fun i => model.fc2.apply (next i), next)

/-- `mac_out` of `SPECTraLoss`. -/
noncomputable def macOut (sequence : List shape.Transition) : List shape.Utilities :=
  unroll model.mac (fun _ _ => 0) (sequence.map LossShape.Transition.obs)

/-- `mac_out_tp1` of `SPECTraLoss`. -/
noncomputable def macOutTp1 (sequence : List shape.Transition) : List shape.Utilities :=
  unroll model.mac (fun _ _ => 0) (sequence.map LossShape.Transition.nextObs)

end SPECTraRNNModel

end Mate.Rllib
