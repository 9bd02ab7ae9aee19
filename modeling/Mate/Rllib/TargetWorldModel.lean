import Mate.Library.Nets

set_option autoImplicit false

/-! # The transformer of the QPLEX-WM policy

`TargetWorldModel` predicts for each camera the next positions of all targets. Its tokens, one for
each target, are cut out of the camera's observation, but for the velocity, which is a difference
to the observation of the step before.
-/

namespace Mate.Rllib

open Nets

/-- What the constructor of `TargetWorldModel` is given, with four warehouses and no dropout, its
defaults. -/
structure TargetModelShape where
  nCameras : ℕ
  nTargets : ℕ
  obsSize : ℕ
  dModel : ℕ
  nHeads : ℕ
  nLayers : ℕ
  dFf : ℕ
  alpha : ℕ
  topK : ℕ
  obsSize_ge : 22 + nTargets * 5 ≤ obsSize
  nHeads_pos : 0 < nHeads
  /-- The heads share the columns of a token. -/
  nHeads_dvd : nHeads ∣ dModel
  alpha_pos : 0 < alpha

namespace TargetModelShape

variable (shape : TargetModelShape)

/-- The observations of all cameras. -/
abbrev Obs : Type := Fin shape.nCameras → Fin shape.obsSize → ℝ

abbrev Tokens : Type := Fin shape.nTargets → Fin shape.dModel → ℝ

/-- For each camera and target a predicted position. -/
abbrev Prediction : Type := Fin shape.nCameras → Fin shape.nTargets → Fin 2 → ℝ

def nExperts : ℕ := shape.nCameras * shape.alpha

variable {shape}

/-! ## Features -/

/-- Column `k` of a camera's observation. -/
def column (obs : Fin shape.obsSize → ℝ) (k : ℕ) : ℝ :=
  if h : k < shape.obsSize then obs ⟨k, h⟩ else 0

/-- `target_pos`, relative to the camera. -/
def targetPos (obs : Fin shape.obsSize → ℝ) (j : Fin shape.nTargets) (c : Fin 2) : ℝ :=
  column obs (22 + j * 5 + c)

/-- The velocity of a target; without an observation before, it is zero. -/
def velocity (prevObs : Option (Fin shape.obsSize → ℝ)) (obs : Fin shape.obsSize → ℝ)
    (j : Fin shape.nTargets) (c : Fin 2) : ℝ :=
  match prevObs with
  | some prev => targetPos obs j c - targetPos prev j c
  | none => 0

/-- From a target to warehouse `w`. -/
def diff (obs : Fin shape.obsSize → ℝ) (j : Fin shape.nTargets) (w : Fin 4) (c : Fin 2) : ℝ :=
  column obs (4 + w * 2 + c) - targetPos obs j c

noncomputable def dist (obs : Fin shape.obsSize → ℝ) (j : Fin shape.nTargets) (w : Fin 4) : ℝ :=
  Real.sqrt (∑ c, diff obs j w c ^ 2)

noncomputable def nearestIdx (obs : Fin shape.obsSize → ℝ) (j : Fin shape.nTargets) : Fin 4 :=
  argmax (by decide) (fun w => -dist obs j w)

/-- The token of target `j`, as `extract_features` puts it together. -/
noncomputable def token (prevObs : Option (Fin shape.obsSize → ℝ)) (obs : Fin shape.obsSize → ℝ)
    (j : Fin shape.nTargets) : Fin 10 → ℝ :=
  let nearestDir := diff obs j (nearestIdx obs j)
  let nearestDist := dist obs j (nearestIdx obs j)
  ![targetPos obs j 0, targetPos obs j 1, velocity prevObs obs j 0, velocity prevObs obs j 1,
    column obs (22 + j * 5 + 2), column obs (22 + j * 5 + 3), column obs (22 + j * 5 + 4),
    nearestDir 0 / (nearestDist + 1e-8), nearestDir 1 / (nearestDist + 1e-8), nearestDist]

/-- The context of the camera: its state, its identity and the warehouses. -/
def cameraCtx (obs : Fin shape.obsSize → ℝ) (k : Fin 18) : ℝ :=
  if k.val < 9 then column obs (13 + k) else if k.val = 9 then column obs 3
  else column obs (4 + (k - 10))

end TargetModelShape

/-! ## Layers -/

/-- `nn.MultiheadAttention`, of tokens to each other. -/
structure MultiheadAttention (d : ℕ) where
  query : Linear (Fin d) (Fin d)
  key : Linear (Fin d) (Fin d)
  value : Linear (Fin d) (Fin d)
  outProj : Linear (Fin d) (Fin d)

noncomputable def MultiheadAttention.apply {d n : ℕ} (attn : MultiheadAttention d) (nHeads : ℕ)
    (x : Fin n → Fin d → ℝ) : Fin n → Fin d → ℝ :=
  fun i => attn.outProj.apply (attend (d / nHeads) (attn.query.apply (x i))
    (fun j => attn.key.apply (x j)) (fun j => attn.value.apply (x j)))

structure MixtureOfExperts (shape : TargetModelShape) where
  experts : Fin shape.nExperts → TwoLayer (Fin shape.dModel) shape.dFf (Fin shape.dModel)
  router : Linear (Fin shape.dModel ⊕ Fin 18) (Fin shape.nExperts)

namespace MixtureOfExperts

variable {shape : TargetModelShape} (moe : MixtureOfExperts shape)

/-- The experts with the `top_k` largest logits, the first ones among equals. -/
noncomputable def topKIdx (gateLogits : Fin shape.nExperts → ℝ) : List (Fin shape.nExperts) :=
  ((List.finRange shape.nExperts).insertionSort (fun e e' => gateLogits e' ≤ gateLogits e)).take
    (min shape.topK shape.nExperts)

/-- One token. -/
noncomputable def apply (x : Fin shape.dModel → ℝ) (ctx : Fin 18 → ℝ) : Fin shape.dModel → ℝ :=
  let gateLogits := moe.router.apply (Sum.elim x ctx)
  let top := topKIdx gateLogits
  let total := (top.map (fun e => Real.exp (gateLogits e))).sum
  fun c => (top.map (fun e =>
    (moe.experts e).apply x c * (Real.exp (gateLogits e) / total))).sum

end MixtureOfExperts

structure TransformerMoELayer (shape : TargetModelShape) where
  selfAttn : MultiheadAttention shape.dModel
  norm1 : LayerNorm shape.dModel
  moe : MixtureOfExperts shape
  norm2 : LayerNorm shape.dModel

noncomputable def TransformerMoELayer.apply {shape : TargetModelShape}
    (layer : TransformerMoELayer shape) (ctx : Fin 18 → ℝ) (x : shape.Tokens) : shape.Tokens :=
  let attnOut := layer.selfAttn.apply shape.nHeads x
  let x := fun j => layer.norm1.apply (fun c => x j c + attnOut j c)
  fun j => layer.norm2.apply (fun c => x j c + layer.moe.apply (x j) ctx c)

structure TargetWorldModel (shape : TargetModelShape) where
  tokenProj : Linear (Fin 10) (Fin shape.dModel)
  layers : List (TransformerMoELayer shape)
  outputHead : Linear (Fin shape.dModel) (Fin 2)
  length_layers : layers.length = shape.nLayers

namespace TargetWorldModel

variable {shape : TargetModelShape} (model : TargetWorldModel shape)

/-- `forward`, for one camera. -/
noncomputable def forward (tokens : Fin shape.nTargets → Fin 10 → ℝ) (ctx : Fin 18 → ℝ) :
    Fin shape.nTargets → Fin 2 → ℝ :=
  let x := model.layers.foldl (fun x layer => layer.apply ctx x)
    (fun j => model.tokenProj.apply (tokens j))
  fun j => model.outputHead.apply (x j)

/-- The predictions of all cameras for one step, from the observations of the step before, where
there is one. -/
noncomputable def predict (prevObs : Option shape.Obs) (obs : shape.Obs) : shape.Prediction :=
  fun i => model.forward
    (TargetModelShape.token (prevObs.map (fun prev => prev i)) (obs i))
    (TargetModelShape.cameraCtx (obs i))

/-- `per_cam_pred` of `compute_loss`: the predictions along a sequence. -/
noncomputable def perCamPred (prevObs : Option shape.Obs) :
    List shape.Obs → List shape.Prediction
  | [] => []
  | obs :: rest => model.predict prevObs obs :: perCamPred (some obs) rest

/-- `predict_per_camera` of a sequence of one step, as `_augment_obs_inference` calls it. -/
noncomputable def predictPerCamera (obs : shape.Obs) : shape.Prediction := model.predict none obs

end TargetWorldModel

end Mate.Rllib
