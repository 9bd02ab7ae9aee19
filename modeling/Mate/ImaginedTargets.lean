import Mate.Rllib.Imagination

set_option autoImplicit false

/-! # Imagined targets, transition by transition

An imagined target should belong to one transition: the discounted rewards that are imagined from
its own posterior, and at the end its own bootstrap value, unless it is done. WM4 keeps an axis
for the agents everywhere and computes this (`imagTdTargets_wm4`). WM2 adds `[B, T]` to
`[B, T, 1]`. The axis of the batch is then lined up with the steps, and the steps with the agents. For
most sizes this is an error. For others the targets of different transitions are mixed. Only a
batch of a single transition is right (`imaginedTargets`).
-/

namespace Mate.Rllib

open Nets Axes Broadcasting Broadcasting.Tensor

/-! ## One transition -/

section Row

variable {shape : WorldModelShape} (worldModel : QplexWM2.WorldModel shape)
  (choose : ℕ → shape.Latent → shape.Actions) (noise : ℕ → Fin shape.stochDim → ℝ)
  (posterior : shape.Latent)

/-- The latent states that are imagined from a posterior. -/
noncomputable def imaginedState : ℕ → shape.Latent
  | 0 => posterior
  | h + 1 => worldModel.transition.imgStep (imaginedState h)
      (worldModel.actionEmbed.forward (choose h (imaginedState h))) (noise h)

/-- The `h`-th imagined reward. -/
noncomputable def imaginedReward (h : ℕ) : ℝ :=
  worldModel.rewardPredictor.forward
    (imaginedState worldModel choose noise posterior (h + 1)).feature

end Row

namespace ImaginationLoss

variable (loss : ImaginationLoss)

/-- The target of a transition with these imagined rewards, done flags and bootstrap value. -/
noncomputable def transitionTarget {n : ℕ} (rewards : ℕ → ℝ) (terminated : Fin n → ℝ)
    (targetMaxQval : ℝ) : ℝ :=
  let H := loss.imaginationHorizon
  ∑ h ∈ Finset.range H, loss.gamma ^ h * rewards h
    + loss.gamma ^ H * (1 - mean terminated) * targetMaxQval

/-- The imagined targets are those of the transitions, and the blended ones have the shape of the
one-step targets. The last axis may have any length but zero. -/
def PerTransition {shape : WorldModelShape} {B T : ℕ} (batch : ImaginationBatch shape B T)
    (rewards : Fin B → Fin T → ℕ → ℝ) (imagTdTargets targets : Option (Tensor ℝ)) : Prop :=
  (∃ imag k, imagTdTargets = some imag ∧ 0 < k ∧ imag.axes = [k, T, B]
    ∧ ∀ (b : Fin B) (t : Fin T) (j : Fin k), imag.entry [j, t, b]
      = some (loss.transitionTarget (rewards b t) (batch.terminated b t)
          (batch.targetMaxQvals b t 0)))
  ∧ ∃ real blended, loss.realTargets batch = some real ∧ targets = some blended
    ∧ blended.axes = real.axes

end ImaginationLoss

/-- The rewards WM2 imagines from row `(b, t)`. -/
noncomputable def QPLEXWM2Loss.rewards {shape : WorldModelShape}
    (worldModel : QplexWM2.WorldModel shape) {B T : ℕ} (batch : ImaginationBatch shape B T)
    (noise : ℕ → Fin (B * T) → Fin shape.stochDim → ℝ) (b : Fin B) (t : Fin T) : ℕ → ℝ :=
  imaginedReward worldModel (fun _ _ => batch.actions b t)
    (fun h => noise h (finProdFinEquiv (b, t))) (batch.posteriors b t)

/-- The rewards WM4 imagines from row `(b, t)`. -/
noncomputable def QPLEXWM4Loss.rewards {policy : QplexWM4}
    (worldModel : QplexWM4.WorldModel policy.toWorldModelShape) (model : policy.Model) {B T : ℕ}
    (batch : ImaginationBatch policy.toWorldModelShape B T)
    (noise : ℕ → Fin (B * T) → Fin policy.stochDim → ℝ) (b : Fin B) (t : Fin T) : ℕ → ℝ :=
  imaginedReward worldModel.toWorldModel
    (fun h state => if h = 0 then batch.actions b t
      else QPLEXWM4Loss.greedyActions worldModel model state)
    (fun h => noise h (finProdFinEquiv (b, t))) (batch.posteriors b t)

/-- The targets of WM2 are right for all parameters, draws and batches of these sizes. -/
def QPLEXWM2Loss.Imagines (shape : WorldModelShape) (B T : ℕ) : Prop :=
  ∀ (loss : QPLEXWM2Loss) (worldModel : QplexWM2.WorldModel shape)
    (batch : ImaginationBatch shape B T) (noise : ℕ → Fin (B * T) → Fin shape.stochDim → ℝ),
    1 ≤ loss.imaginationHorizon →
    loss.PerTransition batch (QPLEXWM2Loss.rewards worldModel batch noise)
      (loss.imagTdTargets worldModel batch noise) (loss.targets worldModel batch noise)

/-- The targets of WM4 are right for all parameters, draws and batches of these sizes. -/
def QPLEXWM4Loss.Imagines (policy : QplexWM4) (B T : ℕ) : Prop :=
  ∀ (loss : QPLEXWM4Loss) (worldModel : QplexWM4.WorldModel policy.toWorldModelShape)
    (model : policy.Model) (batch : ImaginationBatch policy.toWorldModelShape B T)
    (noise : ℕ → Fin (B * T) → Fin policy.stochDim → ℝ), 1 ≤ loss.imaginationHorizon →
    loss.PerTransition batch (QPLEXWM4Loss.rewards worldModel model batch noise)
      (loss.imagTdTargets worldModel model batch noise)
      (loss.targets worldModel model batch noise)

/-! ## The flattened batch -/

theorem flattenRows_eq {α : Type} {B T : ℕ} (hB : 0 < B) (hT : 0 < T) (x : Fin B → Fin T → α) :
    flattenRows x = some (mergeAxes x) :=
  if_neg (Nat.mul_pos hB hT).ne'

theorem imagReturn_map_range {R : ℕ} (gamma : ℝ) (rewards : ℕ → Fin R → ℝ) {H : ℕ} (hH : 1 ≤ H) :
    imagReturn gamma ((List.range H).map rewards)
      = some fun r => ∑ h ∈ Finset.range H, gamma ^ h * rewards h r := by
  have hne : (List.range H).map rewards ≠ [] := by
    intro h
    have := congrArg List.length h
    simp at this
    omega
  rw [imagReturn, if_neg hne, List.length_map, List.length_range, Option.some_inj]
  funext r
  rw [List.zipWith_map_left, List.zipWith_map_right, List.zipWith_self]
  calc ((List.range H).map fun h => rewards h r * gamma ^ h).sum
      = ∑ h ∈ Finset.range H, rewards h r * gamma ^ h := rfl
    _ = ∑ h ∈ Finset.range H, gamma ^ h * rewards h r :=
        Finset.sum_congr rfl fun h _ => mul_comm _ _

section Rows

variable {shape : WorldModelShape} {R : ℕ} (worldModel : QplexWM2.WorldModel shape)
  {stepActions : ℕ → (Fin R → shape.Latent) → Fin R → shape.Actions}
  (noise : ℕ → Fin R → Fin shape.stochDim → ℝ) (imagState : Fin R → shape.Latent)
  (choose : Fin R → ℕ → shape.Latent → shape.Actions)

/-- A row of the loop only sees itself, where its actions are chosen from its own state. -/
theorem stateAfter_imagStep (hchoose : ∀ h state r, stepActions h state r = choose r h (state r))
    (h : ℕ) (r : Fin R) :
    stateAfter (imagStep worldModel stepActions noise) imagState h r
      = imaginedState worldModel (choose r) (fun h => noise h r) (imagState r) h := by
  induction h with
  | zero => rfl
  | succ h ih =>
      rw [stateAfter, imagStep, imaginedState, ← ih]
      dsimp only
      rw [hchoose]

theorem imagReturn_imagRewardsList
    (hchoose : ∀ h state r, stepActions h state r = choose r h (state r)) (gamma : ℝ) {H : ℕ}
    (hH : 1 ≤ H) :
    imagReturn gamma (imagRewardsList worldModel stepActions noise imagState H)
      = some fun r => ∑ h ∈ Finset.range H, gamma ^ h
        * imaginedReward worldModel (choose r) (fun h => noise h r) (imagState r) h := by
  rw [imagRewardsList, unroll_range, imagReturn_map_range gamma _ hH, Option.some_inj]
  funext r
  refine Finset.sum_congr rfl fun h _ => ?_
  rw [imaginedReward, ← stateAfter_imagStep worldModel noise imagState choose hchoose]
  rfl

end Rows

/-! ## The one-step targets -/

section Blend

variable (loss : ImaginationLoss) {shape : WorldModelShape} {B T : ℕ}
  (batch : ImaginationBatch shape B T)

theorem realTargets_eq : loss.realTargets batch = some (ofCube fun b t i =>
    batch.shapedRewards b t i
      + loss.gamma * (1 - batch.terminated b t i) * batch.targetMaxQvals b t 0) := by
  rw [ImaginationLoss.realTargets, map₂_ofCube_one]
  exact map₂_ofCube _ _ _

/-- Imagined targets with one column for the agents leave the shape as it is. -/
theorem blend_ofCube (imag : Fin B → Fin T → Fin 1 → ℝ) :
    ∃ real blended, loss.realTargets batch = some real
      ∧ loss.blend batch (some (ofCube imag)) = some blended ∧ blended.axes = real.axes := by
  have hblend : loss.blend batch (some (ofCube imag)) = some (ofCube fun b t i =>
      (1 - loss.imaginationLossWeight) * (batch.shapedRewards b t i
        + loss.gamma * (1 - batch.terminated b t i) * batch.targetMaxQvals b t 0)
      + loss.imaginationLossWeight * imag b t 0) := by
    rw [ImaginationLoss.blend, realTargets_eq]
    exact map₂_ofCube_one _ _ _
  exact ⟨_, _, realTargets_eq loss batch, hblend, rfl⟩

theorem perTransition_ofCube {rewards : Fin B → Fin T → ℕ → ℝ} {imagTdTargets : Option (Tensor ℝ)}
    (h : imagTdTargets = some (ofCube fun b t (_ : Fin 1) =>
      loss.transitionTarget (rewards b t) (batch.terminated b t) (batch.targetMaxQvals b t 0))) :
    loss.PerTransition batch rewards imagTdTargets (loss.blend batch imagTdTargets) := by
  subst h
  exact ⟨⟨_, 1, rfl, one_pos, rfl, fun b t j => entry_ofCube _ b t j⟩, blend_ofCube loss batch _⟩

end Blend

/-! ## WM4 -/

/-- **Every transition has its own target.** -/
theorem imagTdTargets_wm4 (loss : QPLEXWM4Loss) {policy : QplexWM4}
    (worldModel : QplexWM4.WorldModel policy.toWorldModelShape) (model : policy.Model) {B T : ℕ}
    (hB : 0 < B) (hT : 0 < T) (batch : ImaginationBatch policy.toWorldModelShape B T)
    (noise : ℕ → Fin (B * T) → Fin policy.stochDim → ℝ) (hH : 1 ≤ loss.imaginationHorizon) :
    loss.imagTdTargets worldModel model batch noise = some (ofCube fun b t (_ : Fin 1) =>
      loss.transitionTarget (QPLEXWM4Loss.rewards worldModel model batch noise b t)
        (batch.terminated b t) (batch.targetMaxQvals b t 0)) := by
  let choose : Fin (B * T) → ℕ → policy.Latent → policy.Actions := fun r h state =>
    if h = 0 then mergeAxes batch.actions r else QPLEXWM4Loss.greedyActions worldModel model state
  have hchoose : ∀ h state r, QPLEXWM4Loss.stepActions worldModel model
      (mergeAxes batch.actions) h state r = choose r h (state r) := by
    intro h state r
    by_cases hh : h = 0
    · rw [QPLEXWM4Loss.stepActions, if_pos hh]
      exact (if_pos hh).symm
    · rw [QPLEXWM4Loss.stepActions, if_neg hh]
      exact (if_neg hh).symm
  have hreturn := imagReturn_imagRewardsList worldModel.toWorldModel noise
    (mergeAxes batch.posteriors) choose hchoose loss.gamma hH
  -- one row of the merged axes is one transition of the batch
  have hrow : ∀ b t h, imaginedReward worldModel.toWorldModel (choose (finProdFinEquiv (b, t)))
      (fun h => noise h (finProdFinEquiv (b, t)))
      (mergeAxes batch.posteriors (finProdFinEquiv (b, t))) h
        = QPLEXWM4Loss.rewards worldModel model batch noise b t h := by
    intro b t h
    rw [QPLEXWM4Loss.rewards, mergeAxes_apply]
    dsimp only [choose]
    rw [mergeAxes_apply]
  rw [QPLEXWM4Loss.imagTdTargets, flattenRows_eq hB hT]
  dsimp only [Option.bind_eq_bind, Option.bind_some]
  rw [hreturn]
  dsimp only [Option.map_some, Option.bind_some]
  rw [map₂_ofCube, Option.bind_some, map₂_ofCube, Option.some_inj]
  refine congrArg ofCube (funext fun b => funext fun t => funext fun k => ?_)
  rw [Subsingleton.elim k 0, ImaginationLoss.transitionTarget, splitAxis]
  simp only [hrow]

theorem imagines_wm4 {policy : QplexWM4} {B T : ℕ} (hB : 0 < B) (hT : 0 < T) :
    QPLEXWM4Loss.Imagines policy B T := by
  intro loss worldModel model batch noise hH
  exact perTransition_ofCube loss.toImaginationLoss batch
    (imagTdTargets_wm4 loss worldModel model hB hT batch noise hH)

/-! ## WM2 -/

section WM2

variable (loss : QPLEXWM2Loss) {shape : WorldModelShape} (worldModel : QplexWM2.WorldModel shape)
  {B T : ℕ} (batch : ImaginationBatch shape B T)
  (noise : ℕ → Fin (B * T) → Fin shape.stochDim → ℝ)

/-- The imagined returns of the transitions, and what is left of the horizon. -/
theorem imagTdTargets_wm2 (hB : 0 < B) (hT : 0 < T) (hH : 1 ≤ loss.imaginationHorizon) :
    loss.imagTdTargets worldModel batch noise
      = (map₂ (· * ·) (ofMatrix fun b t => loss.gamma ^ loss.imaginationHorizon
          * (1 - mean (batch.terminated b t))) (ofCube batch.targetMaxQvals)).bind
        (map₂ (· + ·) (ofMatrix fun b t => ∑ h ∈ Finset.range loss.imaginationHorizon,
          loss.gamma ^ h * QPLEXWM2Loss.rewards worldModel batch noise b t h)) := by
  have hreturn := imagReturn_imagRewardsList worldModel noise (mergeAxes batch.posteriors)
    (fun r _ _ => mergeAxes batch.actions r) (fun _ _ _ => rfl) loss.gamma hH
  have hsplit : splitAxis (fun r => ∑ h ∈ Finset.range loss.imaginationHorizon, loss.gamma ^ h
      * imaginedReward worldModel (fun _ _ => mergeAxes batch.actions r) (fun h => noise h r)
        (mergeAxes batch.posteriors r) h)
      = fun b t => ∑ h ∈ Finset.range loss.imaginationHorizon,
        loss.gamma ^ h * QPLEXWM2Loss.rewards worldModel batch noise b t h := by
    funext b t
    refine Finset.sum_congr rfl fun h _ => ?_
    rw [QPLEXWM2Loss.rewards, mergeAxes_apply, mergeAxes_apply]
  rw [QPLEXWM2Loss.imagTdTargets, flattenRows_eq hB hT]
  dsimp only [Option.bind_eq_bind, Option.bind_some]
  rw [hreturn]
  dsimp only [Option.map_some, Option.bind_some]
  rw [hsplit]

/-- The tensors of WM2 have the steps as their last axis, and the batch lined up with the steps. -/
theorem axes_imagTdTargets_wm2 (hB : 0 < B) (hT : 0 < T) (hH : 1 ≤ loss.imaginationHorizon)
    {imag : Tensor ℝ} (h : loss.imagTdTargets worldModel batch noise = some imag) :
    ∃ c, joinAxis B T = some c ∧ ∃ d, joinAxis B c = some d ∧ imag.axes = [T, d, B] := by
  rw [imagTdTargets_wm2 loss worldModel batch noise hB hT hH, Option.bind_eq_some_iff] at h
  obtain ⟨bootstrap, hbootstrap, himag⟩ := h
  obtain ⟨a, c, ha, hc, haxes⟩ := joinAxes_two_three_eq_some_iff.mp
    (axes_of_map₂_eq_some hbootstrap)
  rw [joinAxis_one, Option.some_inj] at ha
  subst ha
  have hjoin := axes_of_map₂_eq_some himag
  rw [haxes] at hjoin
  obtain ⟨a, d, ha, hd, haxes'⟩ := joinAxes_two_three_eq_some_iff.mp hjoin
  rw [joinAxis_self, Option.some_inj] at ha
  subst ha
  exact ⟨c, hc, d, hd, haxes'⟩

/-- The first row of the batch is combined with every step. -/
theorem entry_imagTdTargets_wm2 (hB : 0 < B) (hT : 0 < T) (hH : 1 ≤ loss.imaginationHorizon)
    {imag : Tensor ℝ} (h : loss.imagTdTargets worldModel batch noise = some imag) (j : Fin T) :
    imag.entry [j, 0, 0] = some (∑ h ∈ Finset.range loss.imaginationHorizon,
        loss.gamma ^ h * QPLEXWM2Loss.rewards worldModel batch noise ⟨0, hB⟩ j h
      + loss.gamma ^ loss.imaginationHorizon * (1 - mean (batch.terminated ⟨0, hB⟩ j))
        * batch.targetMaxQvals ⟨0, hB⟩ ⟨0, hT⟩ 0) := by
  obtain ⟨c, hc, d, hd, haxes⟩ := axes_imagTdTargets_wm2 loss worldModel batch noise hB hT hH h
  rw [imagTdTargets_wm2 loss worldModel batch noise hB hT hH, Option.bind_eq_some_iff] at h
  obtain ⟨bootstrap, hbootstrap, himag⟩ := h
  have hbaxes : bootstrap.axes = [T, c, B] := by
    have hjoin : joinAxes [T, B] [1, T, B] = some [T, c, B] :=
      joinAxes_two_three_eq_some_iff.mpr ⟨T, c, joinAxis_one T, hc, rfl⟩
    exact Option.some_inj.mp ((axes_of_map₂_eq_some hbootstrap).symm.trans hjoin)
  have hpos : 0 < c ∧ 0 < d := by
    rw [joinAxis_eq_some_iff] at hc hd
    omega
  -- the first row of the batch, at the first step
  let b : Fin B := ⟨0, hB⟩
  let t : Fin T := ⟨0, hT⟩
  have hread : bootstrap.read [j, 0, 0] = bootstrap.entry [j, 0, 0] := by
    rw [Tensor.read, hbaxes, pick_cons j.isLt, pick_cons hpos.1, pick_cons hB, pick_nil]
  rw [entry_of_map₂_eq_some himag (haxes ▸ inside_of_fin b ⟨0, hpos.2⟩ j), hread,
    entry_of_map₂_eq_some hbootstrap (hbaxes ▸ inside_of_fin b ⟨0, hpos.1⟩ j),
    read_ofMatrix _ b j, read_ofMatrix _ b j, read_ofCube_one _ b t j]
  rfl

theorem exists_imagTdTargets_wm2 (hB : 0 < B) (hT : 0 < T) (hH : 1 ≤ loss.imaginationHorizon)
    {c d : ℕ} (hc : joinAxis B T = some c) (hd : joinAxis B c = some d) :
    ∃ imag, loss.imagTdTargets worldModel batch noise = some imag ∧ imag.axes = [T, d, B] := by
  rw [imagTdTargets_wm2 loss worldModel batch noise hB hT hH]
  obtain ⟨bootstrap, hbootstrap, hbaxes⟩ := map₂_eq_some (· * ·)
    (ofMatrix fun b t => loss.gamma ^ loss.imaginationHorizon
      * (1 - mean (batch.terminated b t))) (ofCube batch.targetMaxQvals)
    (joinAxes_two_three_eq_some_iff.mpr ⟨T, c, joinAxis_one T, hc, rfl⟩)
  rw [hbootstrap, Option.bind_some]
  apply map₂_eq_some
  rw [hbaxes]
  exact joinAxes_two_three_eq_some_iff.mpr ⟨T, d, joinAxis_self T, hd, rfl⟩

end WM2

/-- A single transition is not combined with any other. -/
theorem imagTdTargets_wm2_one (loss : QPLEXWM2Loss) {shape : WorldModelShape}
    (worldModel : QplexWM2.WorldModel shape) (batch : ImaginationBatch shape 1 1)
    (noise : ℕ → Fin (1 * 1) → Fin shape.stochDim → ℝ) (hH : 1 ≤ loss.imaginationHorizon) :
    loss.imagTdTargets worldModel batch noise = some (ofCube fun b t (_ : Fin 1) =>
      loss.transitionTarget (QPLEXWM2Loss.rewards worldModel batch noise b t)
        (batch.terminated b t) (batch.targetMaxQvals b t 0)) := by
  obtain ⟨imag, himag, haxes⟩ := exists_imagTdTargets_wm2 loss worldModel batch noise one_pos
    one_pos hH (joinAxis_self 1) (joinAxis_self 1)
  rw [himag, Option.some_inj]
  refine eq_ofCube haxes fun b t k => ?_
  rw [Subsingleton.elim b 0, Subsingleton.elim t 0, Subsingleton.elim k 0]
  exact entry_imagTdTargets_wm2 loss worldModel batch noise one_pos one_pos hH himag 0

/-! ## Sizes -/

/-- A world model that predicts no reward. -/
def silent (shape : WorldModelShape) : QplexWM2.WorldModel shape where
  obsEncoder := ⟨⟨0, 0⟩, ⟨0, 0⟩⟩
  actionEmbed := ⟨fun _ _ => 0⟩
  transition := ⟨⟨0, 0⟩, ⟨⟨0, 0⟩, ⟨0, 0⟩, ⟨0, 0⟩, ⟨0, 0⟩, ⟨0, 0⟩, ⟨0, 0⟩⟩, ⟨0, 0⟩, ⟨0, 0⟩, ⟨0, 0⟩,
    ⟨0, 0⟩⟩
  rewardPredictor := ⟨⟨⟨0, 0⟩, ⟨0, 0⟩⟩⟩

/-- The episodes of this batch are done from the second step on. -/
def doneAfterFirst {shape : WorldModelShape} (actions : shape.Actions) (B T : ℕ) :
    ImaginationBatch shape B T where
  posteriors := fun _ _ => shape.initialLatent
  actions := fun _ _ => actions
  terminated := fun _ t _ => if t.val = 0 then 0 else 1
  shapedRewards := fun _ _ _ => 0
  targetMaxQvals := fun _ _ _ => 1

def oneStep : QPLEXWM2Loss := ⟨⟨1, 1, 1⟩⟩

/-- Without a transition there is nothing to flatten. -/
theorem flattenRows_eq_none {α : Type} {B T : ℕ} (h : ¬ (0 < B ∧ 0 < T)) (x : Fin B → Fin T → α) :
    flattenRows x = none := by
  refine if_pos ?_
  rw [Nat.mul_eq_zero]
  omega

section

variable {shape : WorldModelShape} {B T : ℕ}

theorem rewards_silent (batch : ImaginationBatch shape B T)
    (noise : ℕ → Fin (B * T) → Fin shape.stochDim → ℝ) (b : Fin B) (t : Fin T) (h : ℕ) :
    QPLEXWM2Loss.rewards (silent shape) batch noise b t h = 0 := by
  show Linear.apply (⟨0, 0⟩ : Linear (Fin shape.hiddenDim) (Fin 1)) _ 0 = 0
  rw [Linear.zero_apply]
  rfl

variable (hn : 0 < shape.nAgents) (actions : shape.Actions)

include hn

theorem mean_terminated (b : Fin B) (t : Fin T) :
    mean ((doneAfterFirst actions B T).terminated b t) = if t.val = 0 then 0 else 1 := by
  have hn' : (shape.nAgents : ℝ) ≠ 0 := by exact_mod_cast hn.ne'
  rw [mean, doneAfterFirst, Finset.sum_const, Finset.card_univ, Fintype.card_fin, nsmul_eq_mul,
    mul_div_cancel_left₀ _ hn']

/-- The bootstrap value of the first transition counts where it is combined with its own step. -/
theorem entry_doneAfterFirst (hB : 0 < B) (hT : 0 < T)
    (noise : ℕ → Fin (B * T) → Fin shape.stochDim → ℝ) {imag : Tensor ℝ}
    (h : oneStep.imagTdTargets (silent shape) (doneAfterFirst actions B T) noise = some imag)
    (j : Fin T) : imag.entry [j, 0, 0] = some (if j.val = 0 then 1 else 0) := by
  rw [entry_imagTdTargets_wm2 oneStep (silent shape) _ noise hB hT le_rfl h j, mean_terminated hn]
  have hsum : ∑ h ∈ Finset.range oneStep.imaginationHorizon, oneStep.gamma ^ h
      * QPLEXWM2Loss.rewards (silent shape) (doneAfterFirst actions B T) noise ⟨0, hB⟩ j h = 0 :=
    Finset.sum_eq_zero fun h _ => by rw [rewards_silent, mul_zero]
  rw [hsum, Option.some_inj]
  show 0 + 1 ^ 1 * (1 - if j.val = 0 then (0 : ℝ) else 1) * 1 = _
  by_cases hj : j.val = 0
  · simp [hj]
  · simp [hj]

/-- **The second step tells**: the first transition is not combined with any other where there is
just one. -/
theorem sizes_of_perTransition {noise : ℕ → Fin (B * T) → Fin shape.stochDim → ℝ}
    (h : oneStep.PerTransition (doneAfterFirst actions B T)
      (QPLEXWM2Loss.rewards (silent shape) (doneAfterFirst actions B T) noise)
      (oneStep.imagTdTargets (silent shape) (doneAfterFirst actions B T) noise)
      (oneStep.targets (silent shape) (doneAfterFirst actions B T) noise)) : B = 1 ∧ T = 1 := by
  obtain ⟨⟨imag, k, himag, hk, haxes, hentry⟩, -⟩ := h
  -- an empty batch is an error
  have hpos : 0 < B ∧ 0 < T := by
    by_contra hnot
    rw [QPLEXWM2Loss.imagTdTargets, flattenRows_eq_none hnot] at himag
    cases himag
  obtain ⟨hB, hT⟩ := hpos
  obtain ⟨c, hc, d, hd, haxes'⟩ := axes_imagTdTargets_wm2 oneStep (silent shape)
    (doneAfterFirst actions B T) noise hB hT le_rfl himag
  rw [haxes, List.cons.injEq, List.cons.injEq] at haxes'
  obtain ⟨hkT, hTd, -⟩ := haxes'
  rw [joinAxis_eq_some_iff] at hc hd
  have hT1 : T = 1 := by
    by_contra hne
    -- the entries of the first transition for the steps `0` and `1` differ
    have hfirst := entry_doneAfterFirst hn actions hB hT noise himag
    have h0 := hfirst ⟨0, hT⟩
    have h1 := hfirst ⟨1, by omega⟩
    have heq := (hentry ⟨0, hB⟩ ⟨0, hT⟩ ⟨0, hk⟩).trans
      (hentry ⟨0, hB⟩ ⟨0, hT⟩ ⟨1, by omega⟩).symm
    dsimp only at h0 h1 heq
    rw [h0, h1] at heq
    simp at heq
  omega

end

theorem sizes_of_imagines_wm4 {policy : QplexWM4} (actions : policy.Actions) {B T : ℕ}
    (h : QPLEXWM4Loss.Imagines policy B T) : 0 < B ∧ 0 < T := by
  by_contra hnot
  let worldModel : QplexWM4.WorldModel policy.toWorldModelShape :=
    ⟨silent policy.toWorldModelShape, ⟨fun _ _ => 0, ⟨0, 0⟩, ⟨0, 0⟩, ⟨0, 0⟩⟩⟩
  obtain ⟨⟨imag, k, himag, -⟩, -⟩ := h ⟨⟨1, 1, 1⟩⟩ worldModel
    ⟨⟨0, 0⟩, ⟨⟨0, 0⟩, ⟨0, 0⟩, ⟨0, 0⟩, ⟨0, 0⟩, ⟨0, 0⟩, ⟨0, 0⟩⟩, ⟨0, 0⟩⟩ (doneAfterFirst actions B T)
    (fun _ _ _ => 0) le_rfl
  rw [QPLEXWM4Loss.imagTdTargets, flattenRows_eq_none hnot] at himag
  cases himag

/-- **Imagined targets per transition.** Those of WM4 are right in every batch. Those of WM2 are
right in batches of a single transition only. -/
theorem imaginedTargets (policy : TeamShape) (B T : ℕ) :
    (QPLEXWM2Loss.Imagines policy.toWorldModelShape B T ↔ B = 1 ∧ T = 1)
      ∧ (QPLEXWM4Loss.Imagines policy.toQplexWM4 B T ↔ 0 < B ∧ 0 < T) := by
  have actions : policy.Actions := fun _ => ⟨0, policy.nActions_pos⟩
  constructor
  · constructor
    · intro h
      exact sizes_of_perTransition policy.nAgents_pos actions
        (h oneStep (silent _) (doneAfterFirst actions B T) (fun _ _ _ => 0) le_rfl)
    · rintro ⟨rfl, rfl⟩ loss worldModel batch noise hH
      exact perTransition_ofCube loss.toImaginationLoss batch
        (imagTdTargets_wm2_one loss worldModel batch noise hH)
  · constructor
    · exact sizes_of_imagines_wm4 actions
    · rintro ⟨hB, hT⟩
      exact imagines_wm4 hB hT

/-! ## Two agents -/

/-- Two agents, and one column for everything else. -/
def twoAgentShape : WorldModelShape := ⟨1, 2, 1, 1, 1, 1, 1, 1⟩

def onlyActions : twoAgentShape.Actions := fun _ => ⟨0, Nat.one_pos⟩

/-- With two sequences of two steps the shapes agree, and the target of the first transition is
read from another one. With sequences of three steps they do not agree. -/
theorem targets_mixed :
    (∃ blended, oneStep.targets (silent twoAgentShape) (doneAfterFirst onlyActions 2 2)
        (fun _ _ _ => 0) = some blended ∧ blended.axes = [2, 2, 2])
      ∧ ¬ oneStep.PerTransition (doneAfterFirst onlyActions 2 2)
          (QPLEXWM2Loss.rewards (silent twoAgentShape) (doneAfterFirst onlyActions 2 2)
            (fun _ _ _ => 0))
          (oneStep.imagTdTargets (silent twoAgentShape) (doneAfterFirst onlyActions 2 2)
            (fun _ _ _ => 0))
          (oneStep.targets (silent twoAgentShape) (doneAfterFirst onlyActions 2 2)
            (fun _ _ _ => 0))
      ∧ oneStep.imagTdTargets (silent twoAgentShape) (doneAfterFirst onlyActions 2 3)
          (fun _ _ _ => 0) = none := by
  refine ⟨?_, ?_, ?_⟩
  · obtain ⟨imag, himag, haxes⟩ := exists_imagTdTargets_wm2 oneStep (silent twoAgentShape)
      (doneAfterFirst onlyActions 2 2) (fun _ _ _ => 0) two_pos two_pos le_rfl
      (joinAxis_self 2) (joinAxis_self 2)
    rw [QPLEXWM2Loss.targets, ImaginationLoss.blend, himag, realTargets_eq]
    refine map₂_eq_some _ _ imag ?_
    rw [haxes]
    exact joinAxes_self _
  · intro h
    have hsizes := sizes_of_perTransition two_pos onlyActions h
    omega
  · rw [Option.eq_none_iff_forall_ne_some]
    intro imag himag
    obtain ⟨c, hc, -⟩ := axes_imagTdTargets_wm2 oneStep (silent twoAgentShape)
      (doneAfterFirst onlyActions 2 3) (fun _ _ _ => 0) two_pos three_pos le_rfl himag
    rw [joinAxis_eq_some_iff] at hc
    omega

end Mate.Rllib
