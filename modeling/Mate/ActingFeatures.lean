import Mate.Rllib.TargetWorldModel
import Mate.Rllib.WorldModel
import Mathlib.Data.List.Chain

set_option autoImplicit false

/-! # The features that world-model policies act on

A world-model policy appends features to its observations. The losses compute them along a
sequence, with what came before; acting computes them for one observation, with nothing before it.
For QPLEX-WM they agree exactly when no target is seen to move, or the network is too narrow to
show it; for QPLEX-WM2 and QPLEX-WM4 they do not agree even at a second step
(`actingFeatures_iff`).
-/

namespace Mate.Rllib

open Nets

/-! ## QPLEX-WM -/

namespace TargetWorldModel

variable {shape : TargetModelShape} (model : TargetWorldModel shape)

/-- `cat([obs, pred_flat])`. -/
def augment (obs : shape.Obs) (pred : shape.Prediction) :
    Fin shape.nCameras → Fin shape.obsSize ⊕ Fin shape.nTargets × Fin 2 → ℝ :=
  fun i => Sum.elim (obs i) (fun c => pred i c.1 c.2)

/-- `obs_aug` of the loss. -/
noncomputable def obsAug (sequence : List shape.Obs) :
    List (Fin shape.nCameras → Fin shape.obsSize ⊕ Fin shape.nTargets × Fin 2 → ℝ) :=
  List.zipWith augment sequence (model.perCamPred none sequence)

/-- `_augment_obs_inference`. -/
noncomputable def augmentObsInference (obs : shape.Obs) :
    Fin shape.nCameras → Fin shape.obsSize ⊕ Fin shape.nTargets × Fin 2 → ℝ :=
  augment obs (model.predictPerCamera obs)

theorem augment_inj {obs : shape.Obs} {pred pred' : shape.Prediction} :
    augment obs pred = augment obs pred' ↔ pred = pred' := by
  refine ⟨fun h => ?_, fun h => by rw [h]⟩
  funext i j c
  exact congrFun (congrFun h i) (.inr (j, c))

/-- The loss and acting agree along a sequence when each step is predicted as if nothing came
before it. -/
theorem obsAug_eq_iff (sequence : List shape.Obs) :
    model.obsAug sequence = sequence.map model.augmentObsInference
      ↔ sequence.IsChain (fun prev obs => model.predict (some prev) obs = model.predict none obs) := by
  have hfrom : ∀ (prev : shape.Obs) (rest : List shape.Obs),
      List.zipWith augment rest (model.perCamPred (some prev) rest)
        = rest.map model.augmentObsInference
      ↔ (prev :: rest).IsChain
        (fun prev obs => model.predict (some prev) obs = model.predict none obs) := by
    intro prev rest
    induction rest generalizing prev with
    | nil => simp [perCamPred]
    | cons obs rest ih =>
        rw [perCamPred, List.zipWith_cons_cons, List.map_cons, List.cons_eq_cons, ih,
          List.isChain_cons_cons, augmentObsInference, augment_inj]
        rfl
  cases sequence with
  | nil => simp [obsAug, perCamPred]
  | cons obs rest =>
      rw [obsAug, perCamPred, List.zipWith_cons_cons, List.map_cons, List.cons_eq_cons, hfrom]
      exact and_iff_right rfl

/-! ### Where the step before does not matter -/

theorem predict_of_unmoved {prev obs : shape.Obs}
    (h : ∀ i j, TargetModelShape.targetPos (prev i) j = TargetModelShape.targetPos (obs i) j) :
    model.predict (some prev) obs = model.predict none obs := by
  have hvelocity : ∀ i j c, TargetModelShape.velocity (some (prev i)) (obs i) j c
      = TargetModelShape.velocity none (obs i) j c := by
    intro i j c
    exact sub_eq_zero.mpr (congrFun (h i j).symm c)
  have htoken : ∀ i, TargetModelShape.token (some (prev i)) (obs i)
      = TargetModelShape.token none (obs i) := by
    intro i
    funext j
    unfold TargetModelShape.token
    rw [hvelocity, hvelocity]
  funext i
  exact congrArg (fun tokens => model.forward tokens _) (htoken i)

end TargetWorldModel

/-- The network cannot show a difference of tokens: it has no columns, or one that is centred. -/
def TargetModelShape.Narrow (shape : TargetModelShape) : Prop :=
  shape.dModel = 0 ∨ (shape.dModel = 1 ∧ shape.nLayers ≠ 0)

namespace TargetWorldModel

variable {shape : TargetModelShape} (model : TargetWorldModel shape)

theorem forward_of_narrow (h : shape.Narrow) (tokens tokens' : Fin shape.nTargets → Fin 10 → ℝ)
    (ctx : Fin 18 → ℝ) : model.forward tokens ctx = model.forward tokens' ctx := by
  rcases h with h | ⟨h, hlayers⟩
  · have hempty : ∀ x y : Fin shape.dModel → ℝ, x = y :=
      fun x y => funext fun k => absurd k.2 (by omega)
    funext j
    exact congrArg model.outputHead.apply (hempty _ _)
  · -- the last layer forgets its input
    have hne : model.layers ≠ [] := by
      intro hnil
      have hlength := model.length_layers
      rw [hnil, List.length_nil] at hlength
      exact hlayers hlength.symm
    have hlast : ∀ (layer : TransformerMoELayer shape) (x : shape.Tokens),
        layer.apply ctx x = fun _ => layer.norm2.bias := by
      intro layer x
      funext j
      exact LayerNorm.apply_of_one h _ _
    unfold forward
    rw [← List.dropLast_append_getLast hne]
    simp only [List.foldl_append, List.foldl_cons, List.foldl_nil, hlast]

/-! ### A network that shows one column of the tokens -/

/-- A layer that centres and scales, and does nothing else. -/
def plainLayer (shape : TargetModelShape) : TransformerMoELayer shape where
  selfAttn := ⟨⟨0, 0⟩, ⟨0, 0⟩, ⟨0, 0⟩, ⟨0, 0⟩⟩
  norm1 := ⟨1, 0⟩
  moe := ⟨fun _ => ⟨⟨0, 0⟩, ⟨0, 0⟩⟩, ⟨0, 0⟩⟩
  norm2 := ⟨1, 0⟩

theorem plainLayer_apply (ctx : Fin 18 → ℝ) (x : shape.Tokens) (j : Fin shape.nTargets) :
    (plainLayer shape).apply ctx x j
      = LayerNorm.apply ⟨1, 0⟩ (LayerNorm.apply ⟨1, 0⟩ (x j)) := by
  have hattn : ∀ j, (plainLayer shape).selfAttn.apply shape.nHeads x j = 0 :=
    fun j => Linear.zero_apply _
  have hexpert : ∀ e y, ((plainLayer shape).moe.experts e).apply y = 0 :=
    fun e y => Linear.zero_apply _
  have hmoe : ∀ y, (plainLayer shape).moe.apply y ctx = 0 := by
    intro y
    funext c
    unfold MixtureOfExperts.apply
    simp only [hexpert, Pi.zero_apply, zero_mul]
    simp
  unfold TransformerMoELayer.apply
  simp only [hattn, hmoe, Pi.zero_apply, add_zero]
  rfl

/-- What a plain layer preserves in a row, a stack of them preserves. -/
theorem foldl_plainLayer {P : (Fin shape.dModel → ℝ) → Prop}
    (hP : ∀ x, P x → P (LayerNorm.apply ⟨1, 0⟩ x)) (ctx : Fin 18 → ℝ) (j : Fin shape.nTargets)
    (n : ℕ) {x : shape.Tokens} (hx : P (x j)) :
    P ((List.replicate n (plainLayer shape)).foldl (fun x layer => layer.apply ctx x) x j) := by
  induction n generalizing x with
  | zero => exact hx
  | succ n ih =>
      rw [List.replicate_succ, List.foldl_cons]
      apply ih
      rw [plainLayer_apply]
      exact hP _ (hP _ hx)

/-- The network that shows column `c` of the tokens. -/
def showing (k₀ : Fin shape.dModel) (c : Fin 10) : TargetWorldModel shape where
  tokenProj := Linear.reading c k₀
  layers := List.replicate shape.nLayers (plainLayer shape)
  outputHead := Linear.reading k₀ 0
  length_layers := List.length_replicate

theorem showing_forward_of_zero (k₀ : Fin shape.dModel) {c : Fin 10}
    {tokens : Fin shape.nTargets → Fin 10 → ℝ} {j : Fin shape.nTargets} (h : tokens j c = 0)
    (ctx : Fin 18 → ℝ) : (showing k₀ c).forward tokens ctx j 0 = 0 := by
  have hstart : (Linear.reading c k₀).apply (tokens j) = fun _ => 0 := by
    rw [Linear.reading_apply, h]
    simp
  have hrow := foldl_plainLayer (P := fun x => x = fun _ => 0)
    (fun x hx => by rw [hx, LayerNorm.apply_zero]) ctx j shape.nLayers
    (x := fun j => (Linear.reading c k₀).apply (tokens j)) hstart
  refine (Linear.reading_apply_self k₀ 0 _).trans ?_
  exact congrFun hrow k₀

theorem showing_forward_ne_zero (hnarrow : ¬ shape.Narrow) (k₀ : Fin shape.dModel) {c : Fin 10}
    {tokens : Fin shape.nTargets → Fin 10 → ℝ} {j : Fin shape.nTargets} (h : tokens j c ≠ 0)
    (ctx : Fin 18 → ℝ) : (showing k₀ c).forward tokens ctx j 0 ≠ 0 := by
  have hstart : Peaked k₀ ((Linear.reading c k₀).apply (tokens j)) :=
    ⟨tokens j c, 0, h, h, Linear.reading_apply c k₀ _⟩
  have hrow : Peaked k₀ ((List.replicate shape.nLayers (plainLayer shape)).foldl
      (fun x layer => layer.apply ctx x)
      (fun j => (Linear.reading c k₀).apply (tokens j)) j) := by
    by_cases hlayers : shape.nLayers = 0
    · rw [hlayers]
      exact hstart
    · have hwide : 2 ≤ shape.dModel := by
        have := k₀.2
        unfold TargetModelShape.Narrow at hnarrow
        omega
      exact foldl_plainLayer (P := Peaked k₀) (fun x hx => LayerNorm.apply_peaked hwide hx) ctx j
        shape.nLayers hstart
  have hvalue : (showing k₀ c).forward tokens ctx j 0 = _ := Linear.reading_apply_self k₀ 0 _
  rw [hvalue]
  exact hrow.apply_ne_zero

/-- The column of the velocity in direction `c`. -/
def velocityColumn (c : Fin 2) : Fin 10 := ![2, 3] c

theorem token_velocityColumn (prevObs : Option (Fin shape.obsSize → ℝ))
    (obs : Fin shape.obsSize → ℝ) (j : Fin shape.nTargets) (c : Fin 2) :
    TargetModelShape.token prevObs obs j (velocityColumn c)
      = TargetModelShape.velocity prevObs obs j c := by
  fin_cases c <;> rfl

/-- A network shows that a target is seen to move. -/
theorem showing_predict_ne (hnarrow : ¬ shape.Narrow) (k₀ : Fin shape.dModel)
    {prev obs : shape.Obs} {i : Fin shape.nCameras} {j : Fin shape.nTargets} {c : Fin 2}
    (h : TargetModelShape.targetPos (prev i) j c ≠ TargetModelShape.targetPos (obs i) j c) :
    (showing k₀ (velocityColumn c)).predict (some prev) obs
      ≠ (showing k₀ (velocityColumn c)).predict none obs := by
  intro heq
  have hvalue := congrFun (congrFun (congrFun heq i) j) 0
  have hnone : (showing k₀ (velocityColumn c)).predict none obs i j 0 = 0 :=
    showing_forward_of_zero k₀ (token_velocityColumn _ _ _ _) _
  have hsome : TargetModelShape.token (some (prev i)) (obs i) j (velocityColumn c) ≠ 0 := by
    rw [token_velocityColumn]
    exact sub_ne_zero.mpr h.symm
  exact showing_forward_ne_zero hnarrow k₀ hsome _ (hvalue.trans hnone)

/-- For every network a step is predicted as if nothing came before it, exactly when no camera sees
a target move, or no network could show it. -/
theorem forall_predict_iff (prev obs : shape.Obs) :
    (∀ model : TargetWorldModel shape, model.predict (some prev) obs = model.predict none obs)
      ↔ shape.Narrow
        ∨ ∀ i j, TargetModelShape.targetPos (prev i) j = TargetModelShape.targetPos (obs i) j := by
  constructor
  · intro h
    by_contra hnot
    obtain ⟨hnarrow, hmoved⟩ := not_or.mp hnot
    apply hmoved
    intro i j
    by_contra hne
    obtain ⟨c, hc⟩ := Function.ne_iff.mp hne
    have hpos : 0 < shape.dModel := by
      unfold TargetModelShape.Narrow at hnarrow
      omega
    exact showing_predict_ne hnarrow ⟨0, hpos⟩ hc (h _)
  · rintro (h | h) model
    · funext i
      exact model.forward_of_narrow h _ _ _
    · exact model.predict_of_unmoved h

end TargetWorldModel

/-! ## QPLEX-WM2 and QPLEX-WM4 -/

namespace LatentWorldModel

variable {shape : WorldModelShape} (worldModel : LatentWorldModel shape)

/-- Acting computes the posterior of a first step with an action of zeros. -/
noncomputable def actingPosterior (s : WorldModelStep shape) : shape.Latent :=
  (worldModel.transition.obsStep shape.initialLatent (fun _ => 0)
    (worldModel.obsEncoder.forward s.obs) s.noise).1

theorem augmentObsInference_eq (s : WorldModelStep shape) :
    worldModel.augmentObsInference s.obs s.noise
      = augment s.obs (worldModel.actingPosterior s).feature := rfl

/-- Where no step of the loss looks at what came before, or at its action, the loss augments as
acting does. -/
theorem obsAug_eq_of {worldModel : LatentWorldModel shape}
    (h : ∀ state s, augment s.obs (worldModel.posterior state s).feature
      = augment s.obs (worldModel.actingPosterior s).feature)
    (sequence : List (WorldModelStep shape)) : worldModel.obsAug sequence
      = sequence.map (fun s => worldModel.augmentObsInference s.obs s.noise) := by
  rw [obsAug, features_eq]
  generalize shape.initialLatent = state
  induction sequence generalizing state with
  | nil => rfl
  | cons s rest ih =>
      rw [List.map_cons, List.map_cons, featuresFrom, List.zipWith_cons_cons, ih,
        augmentObsInference_eq, h]

theorem obsAug_singleton (s : WorldModelStep shape) : worldModel.obsAug [s]
    = [augment s.obs (worldModel.posterior shape.initialLatent s).feature] := rfl

/-- A step with no action to embed, or no layer to read the embedding, is the one that acting
computes. -/
theorem posterior_initial_of (h : shape.hiddenDim = 0 ∨ shape.actionEmbedDim = 0)
    (s : WorldModelStep shape) :
    worldModel.posterior shape.initialLatent s = worldModel.actingPosterior s := by
  apply obsStep_congr
  rcases h with h | h
  · rw [TransitionModel.deterStep, TransitionModel.deterStep]
    congr 1
    exact funext fun k => absurd k.2 (by omega)
  · have hembed : worldModel.actionEmbed.forward s.actions = fun _ => 0 :=
      funext fun c => absurd c.2.2 (by omega)
    rw [hembed]

/-- The world model whose deterministic states count the steps. -/
def counting (shape : WorldModelShape) : LatentWorldModel shape where
  obsEncoder := ⟨⟨0, 0⟩, ⟨0, 0⟩⟩
  actionEmbed := ⟨fun _ _ => 0⟩
  transition :=
    { priorFc1 := ⟨0, 0⟩
      gru := GRUCell.counting
      priorFc2 := ⟨0, 0⟩
      priorFc3 := ⟨0, 0⟩
      postFc1 := ⟨0, 0⟩
      postFc2 := ⟨0, 0⟩ }

theorem counting_posterior (state : shape.Latent) (s : WorldModelStep shape)
    (d : Fin shape.deterDim) :
    ((counting shape).posterior state s).deter d = (Real.tanh 1 + state.deter d) / 2 :=
  GRUCell.counting_apply _ _ _

/-- At a second step the count of the loss is ahead. -/
theorem counting_obsAug_ne (i : Fin shape.nAgents) (d : Fin shape.deterDim)
    (s s' : WorldModelStep shape) (rest : List (WorldModelStep shape)) :
    (counting shape).obsAug (s :: s' :: rest)
      ≠ (s :: s' :: rest).map
        (fun s => (counting shape).augmentObsInference s.obs s.noise) := by
  intro h
  rw [obsAug, features_eq] at h
  have hsecond := (List.cons.inj (List.cons.inj h).2).1
  have hdeter : ((counting shape).posterior ((counting shape).posterior shape.initialLatent s)
      s').deter d = ((counting shape).actingPosterior s').deter d :=
    congrFun (congrFun hsecond i) (.inr (.inr d))
  have hacting : ((counting shape).actingPosterior s').deter d = (Real.tanh 1 + 0) / 2 :=
    GRUCell.counting_apply _ _ _
  have hinitial : shape.initialLatent.deter d = 0 := rfl
  rw [counting_posterior, counting_posterior, hacting, hinitial] at hdeter
  have hpos := tanh_pos one_pos
  linarith

/-- At a first step the loss knows the action. -/
theorem copying_obsAug_ne (c : shape.ActionColumn) (k : Fin shape.hiddenDim)
    (d : Fin shape.deterDim) (s : WorldModelStep shape) :
    (copying c (s.actions c.1) k d).obsAug [s]
      ≠ [s].map (fun s => (copying c (s.actions c.1) k d).augmentObsInference s.obs s.noise) := by
  intro h
  rw [obsAug_singleton] at h
  have hdeter : ((copying c (s.actions c.1) k d).posterior shape.initialLatent s).deter d
      = ((copying c (s.actions c.1) k d).actingPosterior s).deter d :=
    congrFun (congrFun (List.cons.inj h).1 c.1) (.inr (.inr d))
  have hacting : ((copying c (s.actions c.1) k d).actingPosterior s).deter d = 0 := by
    have hquiet := GRUCell.copying_apply_zero (i := k) d (x := fun k' => elu
      ((Linear.reading (.inr c) k : Linear (Fin shape.stochDim ⊕ shape.ActionColumn) _).apply
        (Sum.elim (fun _ => 0) (fun _ => 0)) k')) (by
          rw [Linear.reading_apply_self]
          exact elu_zero)
    exact congrFun hquiet d
  have hposterior : ((copying c (s.actions c.1) k d).posterior shape.initialLatent s).deter d
      = Real.tanh (elu 1) / 2 := by
    simpa using congrFun (copying_deter c (s.actions c.1) k d rfl s) d
  rw [hposterior, hacting, elu_of_pos one_pos] at hdeter
  exact (half_pos (tanh_pos one_pos)).ne' hdeter

/-- For every world model the loss augments an episode as acting does, exactly when it has no step,
or there is no agent or no deterministic state, or it has a single step and no way from the action
to the state. -/
theorem forall_obsAug_iff (sequence : List (WorldModelStep shape)) :
    (∀ worldModel : LatentWorldModel shape, worldModel.obsAug sequence
        = sequence.map (fun s => worldModel.augmentObsInference s.obs s.noise))
      ↔ shape.nAgents = 0 ∨ shape.deterDim = 0 ∨ sequence.length = 0
        ∨ (sequence.length = 1 ∧ (shape.hiddenDim = 0 ∨ shape.actionEmbedDim = 0)) := by
  constructor
  · intro h
    by_contra hnot
    simp only [not_or, not_and] at hnot
    obtain ⟨hagents, hdeter, hlength, hone⟩ := hnot
    -- a model that counts its steps, and one that copies the action, tell the two apart
    have i : Fin shape.nAgents := ⟨0, Nat.pos_of_ne_zero hagents⟩
    have d : Fin shape.deterDim := ⟨0, Nat.pos_of_ne_zero hdeter⟩
    match sequence, h, hlength, hone with
    | [], _, hlength, _ => exact hlength rfl
    | [s], h, _, hone =>
        obtain ⟨hhidden, hembed⟩ := hone rfl
        exact copying_obsAug_ne (i, ⟨0, Nat.pos_of_ne_zero hembed⟩)
          ⟨0, Nat.pos_of_ne_zero hhidden⟩ d s (h _)
    | s :: s' :: rest, h, _, _ => exact counting_obsAug_ne i d s s' rest (h _)
  · rintro (h | h | h | ⟨hlength, h⟩) worldModel
    · apply obsAug_eq_of
      intro state s
      exact funext fun i => absurd i.2 (by omega)
    · apply obsAug_eq_of
      intro state s
      have hposterior : worldModel.posterior state s = worldModel.actingPosterior s :=
        obsStep_congr _ (funext fun k => absurd k.2 (by omega)) _ _
      rw [hposterior]
    · rw [List.eq_nil_of_length_eq_zero h]
      rfl
    · obtain ⟨s, rfl⟩ := List.length_eq_one_iff.mp hlength
      rw [obsAug_singleton, List.map_singleton, augmentObsInference_eq,
        posterior_initial_of worldModel h]

end LatentWorldModel

/-! ## All three policies -/

/-- No camera sees a target move from one step to the next. -/
def TargetModelShape.Unmoved {shape : TargetModelShape} (sequence : List shape.Obs) : Prop :=
  sequence.IsChain (fun prev obs => ∀ i j,
    TargetModelShape.targetPos (prev i) j = TargetModelShape.targetPos (obs i) j)

theorem forall_isChain_iff {α β : Type*} {R : β → α → α → Prop} (l : List α) :
    (∀ b, l.IsChain (R b)) ↔ l.IsChain (fun x y => ∀ b, R b x y) := by
  induction l with
  | nil => simp
  | cons x rest ih =>
      cases rest with
      | nil => simp
      | cons y rest =>
          simp only [List.isChain_cons_cons, forall_and, ih]

theorem TargetWorldModel.forall_obsAug_iff {shape : TargetModelShape} (sequence : List shape.Obs) :
    (∀ model : TargetWorldModel shape,
        model.obsAug sequence = sequence.map model.augmentObsInference)
      ↔ shape.Narrow ∨ TargetModelShape.Unmoved sequence := by
  simp only [obsAug_eq_iff]
  rw [forall_isChain_iff]
  simp only [forall_predict_iff]
  by_cases h : shape.Narrow
  · simp only [h, true_or, iff_true]
    exact List.isChain_iff_forall_rel_of_append_cons_cons.mpr (fun _ _ _ _ _ => trivial)
  · simp only [h, false_or]
    rfl

/-- One camera and one target. -/
def oneTarget : TargetModelShape where
  nCameras := 1
  nTargets := 1
  obsSize := 27
  dModel := 2
  nHeads := 1
  nLayers := 1
  dFf := 1
  alpha := 1
  topK := 1
  obsSize_ge := le_rfl
  nHeads_pos := Nat.one_pos
  nHeads_dvd := one_dvd _
  alpha_pos := Nat.one_pos

/-- The observations of the camera; the target is at `x`. -/
def targetAt (x : ℝ) : oneTarget.Obs := fun _ k => if k.val = 22 then x else 0

/-- One agent with one action, and all networks one unit wide. -/
def oneAgent : WorldModelShape where
  obsSize := 1
  nAgents := 1
  nActions := 1
  stochDim := 1
  deterDim := 1
  hiddenDim := 1
  actionEmbedDim := 1
  embedDim := 1

/-- The network that shows the velocity in direction `0`. -/
def showingVelocity : TargetWorldModel oneTarget :=
  TargetWorldModel.showing ⟨0, by decide⟩ (TargetWorldModel.velocityColumn 0)

/-- A step of the agent without noise. -/
def stillStep : WorldModelStep oneAgent := LatentWorldModel.still (fun _ => ⟨0, by decide⟩)

/-- A target that moves from `0` to `1`, and two steps of a world model that counts. -/
theorem acting_features_differ :
    showingVelocity.obsAug [targetAt 0, targetAt 1]
      ≠ [targetAt 0, targetAt 1].map showingVelocity.augmentObsInference
    ∧ (LatentWorldModel.counting oneAgent).obsAug [stillStep, stillStep]
      ≠ [stillStep, stillStep].map
        (fun s => (LatentWorldModel.counting oneAgent).augmentObsInference s.obs s.noise) := by
  constructor
  · intro h
    have hpair := List.isChain_pair.mp ((TargetWorldModel.obsAug_eq_iff _ _).mp h)
    have hnarrow : ¬ oneTarget.Narrow := by
      rintro (h | ⟨h, -⟩)
      · exact absurd h (by decide)
      · exact absurd h (by decide)
    have hmoved : TargetModelShape.targetPos (targetAt 0 ⟨0, by decide⟩) ⟨0, by decide⟩ 0
        ≠ TargetModelShape.targetPos (targetAt 1 ⟨0, by decide⟩) ⟨0, by decide⟩ 0 := by
      simp [TargetModelShape.targetPos, TargetModelShape.column, targetAt, oneTarget]
    exact TargetWorldModel.showing_predict_ne hnarrow _ hmoved hpair
  · exact LatentWorldModel.counting_obsAug_ne ⟨0, by decide⟩ ⟨0, by decide⟩ _ _ _

/-- **When a policy acts on the features it is trained with**, for all parameters and a given
episode: for QPLEX-WM, when its network is too narrow to tell, or no camera sees a target move; for
QPLEX-WM2 and QPLEX-WM4, when the sizes leave nothing to tell, or the episode has no step, or a
single one that no action can enter. -/
theorem actingFeatures_iff {targetShape : TargetModelShape} (sequence : List targetShape.Obs)
    {shape : WorldModelShape} (steps : List (WorldModelStep shape)) :
    ((∀ model : TargetWorldModel targetShape,
        model.obsAug sequence = sequence.map model.augmentObsInference)
      ↔ targetShape.Narrow ∨ TargetModelShape.Unmoved sequence)
    ∧ ((∀ worldModel : LatentWorldModel shape, worldModel.obsAug steps
        = steps.map (fun s => worldModel.augmentObsInference s.obs s.noise))
      ↔ shape.nAgents = 0 ∨ shape.deterDim = 0 ∨ steps.length = 0
        ∨ (steps.length = 1 ∧ (shape.hiddenDim = 0 ∨ shape.actionEmbedDim = 0))) :=
  ⟨TargetWorldModel.forall_obsAug_iff sequence, LatentWorldModel.forall_obsAug_iff steps⟩

end Mate.Rllib
