import Mate.IndividualGlobalMax
import Mate.Library.Broadcasting
import Mate.Rllib.DuelMixers

set_option autoImplicit false

/-! # The joint values of QPLEX-WM3

The agents have quantiles of the value of each action. `DuelMixerV2` mixes numbers, so the loss
puts the quantiles into the axis of the batch, and takes the mean over the quantiles to be what an
action is worth.
-/

namespace Mate.Rllib

open Nets Mixing Axes

/-! ## The mixer -/

/-- `DuelMixerV2`, which is `FocusDuelMixer` without responsibilities. -/
structure DuelMixerV2 (shape : FocusShape) extends FocusDuelMixer shape

variable {shape : FocusShape}

/-- `forward`, row by row: with `is_v=True` if there are no actions, and otherwise with one-hot
actions and the maximal values of the agents. -/
noncomputable def DuelMixerV2.forward {R : ℕ} (self : DuelMixerV2 shape) (agentQs : Fin R → shape.Row)
    (states : Fin R → shape.State) :
    Option ((Fin R → shape.Utilities) × (Fin R → shape.Row)) → Fin R → ℝ
  | none => fun r => self.forwardV (agentQs r) (states r)
  | some (actions, maxActionVals) =>
      fun r => self.forwardA (agentQs r) (states r) (actions r) (maxActionVals r) none

/-- `_mix_per_quantile`. -/
noncomputable def mixPerQuantile {R nQuantiles : ℕ} (mixer : DuelMixerV2 shape)
    (agentQs : Fin R → Fin shape.nAgents → Fin nQuantiles → ℝ) (states : Fin R → shape.State)
    (advantage : Option ((Fin R → shape.Utilities)
      × (Fin R → Fin shape.nAgents → Fin nQuantiles → ℝ))) : Fin R → Fin nQuantiles → ℝ :=
  let qFlat := mergeAxes (swapLast agentQs)
  let stateFlat := mergeAxes (fun b (_ : Fin nQuantiles) => states b)
  let result :=
    match advantage with
    | none => mixer.forward qFlat stateFlat none
    | some (actionsOnehot, maxActionVals) =>
        let actFlat := mergeAxes (fun b (_ : Fin nQuantiles) => actionsOnehot b)
        let maxQFlat := mergeAxes (swapLast maxActionVals)
        mixer.forward qFlat stateFlat (some (actFlat, maxQFlat))
  splitAxis result

/-! ## The loss -/

/-- What the chosen joint values depend on, for `B` sequences of length `T`: the quantiles of the
agents, which action is masked, which step is one of the sequence, and the states. -/
structure QuantileBatch (shape : FocusShape) (B T nQuantiles : ℕ) where
  macOut : Fin B → Fin T → Fin shape.nAgents → Fin shape.nActions → Fin nQuantiles → ℝ
  actionMask : Fin B → Fin T → Fin shape.nAgents → Fin shape.nActions → ℝ
  mask : Fin B → Fin T → ℝ
  state : Fin B → Fin T → shape.State

namespace QuantileBatch

variable {B T nQuantiles : ℕ} (batch : QuantileBatch shape B T nQuantiles)

/-- `mac_out.mean(dim=-1)`. -/
noncomputable def qMean (b : Fin B) (t : Fin T) : shape.Utilities :=
  fun i a => mean (batch.macOut b t i a)

/-- `(action_mask == 0) & (mask == 1)`. -/
noncomputable def ignoreAction (b : Fin B) (t : Fin T) (i : Fin shape.nAgents)
    (a : Fin shape.nActions) : Bool :=
  decide (batch.actionMask b t i a = 0 ∧ batch.mask b t = 1)

noncomputable def maxActionIdx (b : Fin B) (t : Fin T) : shape.JointAction :=
  fun i => maskedArgmax shape.nActions_pos (fun a => !batch.ignoreAction b t i a) (batch.qMean b t i)

/-- `torch.gather` of the quantiles of joint actions. -/
def gather (actions : Fin B → Fin T → shape.JointAction) :
    Fin B → Fin T → Fin shape.nAgents → Fin nQuantiles → ℝ :=
  fun b t i => batch.macOut b t i (actions b t i)

/-- `chosen_mixed`. -/
noncomputable def chosenMixed (mixer : DuelMixerV2 shape) (actions : Fin B → Fin T → shape.JointAction) :
    Fin B → Fin T → Fin nQuantiles → ℝ :=
  let cq := mergeAxes (batch.gather actions)
  let mq := mergeAxes (batch.gather batch.maxActionIdx)
  let st := mergeAxes batch.state
  let vChosen := mixPerQuantile mixer cq st none
  let actionsOh := mergeAxes (fun b t => MixerShape.onehot (actions b t))
  let aChosen := mixPerQuantile mixer cq st (some (actionsOh, mq))
  splitAxis (fun r k => vChosen r k + aChosen r k)

end QuantileBatch

end Mate.Rllib

/-! ## Individual-Global-Max in the mean

A single quantile of another action may be higher than that of the greedy one, so the advantage
part of a single quantile may be positive. But the weights of the mixer do not depend on the
quantiles, so the mean of what is mixed is what the means are mixed to (`mean_chosenMixed`), and
the greedy action has the highest mean.
-/

namespace Mate.Rllib

open Nets Mixing Axes

variable {shape : FocusShape} (mixer : DuelMixerV2 shape)

/-! ## Quantile by quantile -/

section

variable {R nQuantiles : ℕ} (agentQs : Fin R → Fin shape.nAgents → Fin nQuantiles → ℝ)
  (states : Fin R → shape.State) (b : Fin R) (k : Fin nQuantiles)

/-- **Each quantile is mixed on its own**, with the state of its row. -/
theorem mixPerQuantile_none :
    mixPerQuantile mixer agentQs states none b k
      = mixer.forwardV (fun i => agentQs b i k) (states b) := by
  simp only [mixPerQuantile, splitAxis, DuelMixerV2.forward, mergeAxes_apply]
  rfl

/-- And with the actions of its row. -/
theorem mixPerQuantile_some (actions : Fin R → shape.Utilities)
    (maxActionVals : Fin R → Fin shape.nAgents → Fin nQuantiles → ℝ) :
    mixPerQuantile mixer agentQs states (some (actions, maxActionVals)) b k
      = mixer.forwardA (fun i => agentQs b i k) (states b) (actions b)
        (fun i => maxActionVals b i k) none := by
  simp only [mixPerQuantile, splitAxis, DuelMixerV2.forward, mergeAxes_apply]
  rfl

end

namespace QuantileBatch

variable {B T nQuantiles : ℕ} (batch : QuantileBatch shape B T nQuantiles)
  (actions : Fin B → Fin T → shape.JointAction) (b : Fin B) (t : Fin T)

/-- The two calls for a quantile. -/
theorem chosenMixed_eq (k : Fin nQuantiles) :
    batch.chosenMixed mixer actions b t k
      = mixer.forwardV (fun i => batch.gather actions b t i k) (batch.state b t)
        + mixer.forwardA (fun i => batch.gather actions b t i k) (batch.state b t)
          (MixerShape.onehot (actions b t)) (fun i => batch.gather batch.maxActionIdx b t i k) none := by
  simp only [chosenMixed, splitAxis, mixPerQuantile_none, mixPerQuantile_some, mergeAxes_apply]

/-! ## The mean -/

variable (hminus : shape.isMinusOne = true) (hlinear : shape.nonlinear = false)

include hminus hlinear

/-- What the two calls have in common cancels, and the weights do not look at the quantiles. -/
theorem chosenMixed_eq_advantage (k : Fin nQuantiles) :
    batch.chosenMixed mixer actions b t k
      = ∑ i, (mixer.wFinal (fun _ => 0) (batch.state b t) i * batch.gather batch.maxActionIdx b t i k
          + mixer.v (batch.state b t))
        + ∑ i, mixer.missWeight (batch.state b t) none (actions b t) i
          * (batch.gather actions b t i k - batch.gather batch.maxActionIdx b t i k) := by
  rw [chosenMixed_eq, mixer.forwardV_add_forwardA hminus, mixer.wFinal_of_linear hlinear _ (fun _ => 0)]
  rfl

/-- **The mean of what is mixed.** -/
theorem mean_chosenMixed :
    mean (batch.chosenMixed mixer actions b t)
      = mean (fun k => ∑ i, (mixer.wFinal (fun _ => 0) (batch.state b t) i
          * batch.gather batch.maxActionIdx b t i k + mixer.v (batch.state b t)))
        + ∑ i, mixer.missWeight (batch.state b t) none (actions b t) i
          * (batch.qMean b t i (actions b t i) - batch.qMean b t i (batch.maxActionIdx b t i)) := by
  rw [funext (batch.chosenMixed_eq_advantage mixer actions b t hminus hlinear), mean_add]
  refine congrArg (mean _ + ·) ?_
  rw [mean_sum]
  refine Finset.sum_congr rfl (fun i _ => ?_)
  rw [mean_mul_left, mean_sub]
  rfl

omit hminus hlinear

/-- The actions that an agent is allowed, according to the mask. -/
def allowed (b : Fin B) (t : Fin T) (i : Fin shape.nAgents) : Set (Fin shape.nActions) :=
  {a | batch.actionMask b t i a ≠ 0}

/-- In a step of a sequence the masked actions are ignored. -/
theorem not_ignoreAction_iff {b : Fin B} {t : Fin T} (hmask : batch.mask b t = 1)
    {i : Fin shape.nAgents} {a : Fin shape.nActions} :
    (!batch.ignoreAction b t i a) = true ↔ a ∈ batch.allowed b t i := by
  simp [ignoreAction, hmask, allowed]

include hminus hlinear

/-- **The mean is maximal where every agent plays its mean-greedy allowed action.** -/
theorem mean_chosenMixed_le {b : Fin B} {t : Fin T} (hmask : batch.mask b t = 1)
    (hallowed : ∀ i, (batch.allowed b t i).Nonempty)
    {actions actions' : Fin B → Fin T → shape.JointAction}
    (hgreedy : Greedy (batch.allowed b t) (batch.qMean b t) (actions b t))
    (hother : Allowed (batch.allowed b t) (actions' b t)) :
    mean (batch.chosenMixed mixer actions' b t) ≤ mean (batch.chosenMixed mixer actions b t) := by
  rw [batch.mean_chosenMixed mixer actions b t hminus hlinear,
    batch.mean_chosenMixed mixer actions' b t hminus hlinear]
  have hgreedyIdx : Greedy (batch.allowed b t) (batch.qMean b t) (batch.maxActionIdx b t) := by
    have hsets : batch.allowed b t = fun i => {a | (!batch.ignoreAction b t i a) = true} := by
      funext i
      ext a
      exact (batch.not_ignoreAction_iff hmask).symm
    rw [hsets] at hallowed ⊢
    exact greedy_maskedArgmax shape.nActions_pos hallowed (batch.qMean b t)
  have hle : ∀ i, ∀ a ∈ batch.allowed b t i,
      batch.qMean b t i a ≤ batch.qMean b t i (batch.maxActionIdx b t i) :=
    fun i a ha => hgreedyIdx.2 i ha
  exact Igm.of_advantage hle (fun i => ⟨_, hgreedyIdx.1 i, rfl⟩)
    (fun a i => mixer.missWeight_nonneg (batch.state b t) (by simp) a i) _ _ hgreedy hother

end QuantileBatch

/-- **Individual-Global-Max in the mean, row by row.** In every step of the sequences the mean
over the quantiles of the joint value is maximal where every agent plays its mean-greedy allowed
action. And a quantile that is mixed depends on the state and the actions of its row and on this
quantile of the values, whatever else is in the batch. -/
theorem quantileMixing (hminus : shape.isMinusOne = true) (hlinear : shape.nonlinear = false) :
    (∀ (B T nQuantiles : ℕ) (batch : QuantileBatch shape B T nQuantiles) (b : Fin B) (t : Fin T),
      batch.mask b t = 1 → (∀ i, (batch.allowed b t i).Nonempty) →
      ∀ actions actions' : Fin B → Fin T → shape.JointAction,
        Greedy (batch.allowed b t) (batch.qMean b t) (actions b t) →
        Allowed (batch.allowed b t) (actions' b t) →
        mean (batch.chosenMixed mixer actions' b t) ≤ mean (batch.chosenMixed mixer actions b t)) ∧
    (∀ (R R' nQuantiles : ℕ) (agentQs maxActionVals : Fin R → Fin shape.nAgents → Fin nQuantiles → ℝ)
      (agentQs' maxActionVals' : Fin R' → Fin shape.nAgents → Fin nQuantiles → ℝ)
      (states : Fin R → shape.State) (states' : Fin R' → shape.State)
      (actions : Fin R → shape.Utilities) (actions' : Fin R' → shape.Utilities)
      (b : Fin R) (b' : Fin R') (k : Fin nQuantiles),
      states b = states' b' → actions b = actions' b' →
      (∀ i, agentQs b i k = agentQs' b' i k) → (∀ i, maxActionVals b i k = maxActionVals' b' i k) →
      mixPerQuantile mixer agentQs states none b k = mixPerQuantile mixer agentQs' states' none b' k ∧
      mixPerQuantile mixer agentQs states (some (actions, maxActionVals)) b k
        = mixPerQuantile mixer agentQs' states' (some (actions', maxActionVals')) b' k) ∧
    (∀ (B T B' T' nQuantiles : ℕ) (batch : QuantileBatch shape B T nQuantiles)
      (batch' : QuantileBatch shape B' T' nQuantiles) (actions : Fin B → Fin T → shape.JointAction)
      (actions' : Fin B' → Fin T' → shape.JointAction) (b : Fin B) (t : Fin T) (b' : Fin B')
      (t' : Fin T') (k : Fin nQuantiles),
      batch.state b t = batch'.state b' t' → actions b t = actions' b' t' →
      (∀ i, batch.gather actions b t i k = batch'.gather actions' b' t' i k) →
      (∀ i, batch.gather batch.maxActionIdx b t i k = batch'.gather batch'.maxActionIdx b' t' i k) →
      batch.chosenMixed mixer actions b t k = batch'.chosenMixed mixer actions' b' t' k) := by
  refine ⟨?_, ?_, ?_⟩
  · intro B T nQuantiles batch b t hmask hallowed actions actions' hgreedy hother
    exact batch.mean_chosenMixed_le mixer hminus hlinear hmask hallowed hgreedy hother
  · intro R R' nQuantiles agentQs maxActionVals agentQs' maxActionVals' states states' actions
      actions' b b' k hstate hactions hq hmax
    rw [mixPerQuantile_none, mixPerQuantile_none, mixPerQuantile_some, mixPerQuantile_some, hstate,
      hactions, funext hq, funext hmax]
    exact ⟨rfl, rfl⟩
  · intro B T B' T' nQuantiles batch batch' actions actions' b t b' t' k hstate hactions hq hmax
    rw [QuantileBatch.chosenMixed_eq, QuantileBatch.chosenMixed_eq, hstate, hactions, funext hq,
      funext hmax]

/-- Two agents with two quantiles: the first action has the higher mean, the second one the higher
first quantile. -/
def crossingQuantiles : QuantileBatch twoAgents 1 1 2 where
  macOut _ _ _ a k := if a.val = 0 then 4 * k.val else 1
  actionMask _ _ _ _ := 1
  mask _ _ := 1
  state _ _ _ := 0

theorem quantileMixing_crossing :
    (∀ actions : Fin 1 → Fin 1 → twoAgents.JointAction,
      mean (crossingQuantiles.chosenMixed
          ⟨.zero twoAgents, .zero twoAgents.toMixerShape⟩ actions 0 0)
        ≤ mean (crossingQuantiles.chosenMixed
          ⟨.zero twoAgents, .zero twoAgents.toMixerShape⟩ (fun _ _ _ => (0 : Fin 2)) 0 0)) ∧
    ∀ i, crossingQuantiles.macOut 0 0 i (0 : Fin 2) 0 < crossingQuantiles.macOut 0 0 i (1 : Fin 2) 0 := by
  constructor
  · intro actions
    have hallowed : ∀ i (a : Fin 2), a ∈ crossingQuantiles.allowed 0 0 i := by
      intro i a
      show (1 : ℝ) ≠ 0
      exact one_ne_zero
    refine (quantileMixing (⟨.zero twoAgents, .zero twoAgents.toMixerShape⟩ : DuelMixerV2 twoAgents)
      rfl rfl).1 1 1 2 crossingQuantiles 0 0 rfl (fun i => ⟨(0 : Fin 2), hallowed i 0⟩) _ actions
      ⟨fun i => hallowed i 0, fun i a _ => ?_⟩ (fun i => hallowed i _)
    have hmean : ∀ a : Fin 2,
        crossingQuantiles.qMean 0 0 i a = if a.val = 0 then 2 else 1 := by
      intro a
      simp only [QuantileBatch.qMean, crossingQuantiles, mean, Fin.sum_univ_two]
      split_ifs <;> norm_num
    have hbest : ∀ a : Fin 2,
        crossingQuantiles.qMean 0 0 i a ≤ crossingQuantiles.qMean 0 0 i (0 : Fin 2) := by
      intro a
      rw [hmean, hmean]
      fin_cases a <;> norm_num
    exact hbest a
  · intro i
    show (if (0 : Fin 2).val = 0 then 4 * ((0 : Fin 2).val : ℝ) else 1)
      < if (1 : Fin 2).val = 0 then 4 * ((0 : Fin 2).val : ℝ) else 1
    norm_num

end Mate.Rllib
