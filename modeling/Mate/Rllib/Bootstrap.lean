import Mate.Rllib.Losses

set_option autoImplicit false

/-! # What the duelling losses bootstrap

The part of `QPLEXFocusLoss.forward` and of `DuelMixLoss.forward` that leads from a batch to the
values that are bootstrapped, with `double_q`: the online agents choose the next joint action, and
the target networks value it.
-/

namespace Mate.Rllib

open Nets Mixing

namespace MixerShape

/-- The agents whose utilities are mixed. -/
abbrev agents (shape : MixerShape) (obsSize rnnHiddenDim : ℕ) : LossShape where
  nAgents := shape.nAgents
  nActions := shape.nActions
  obsSize := obsSize
  rnnHiddenDim := rnnHiddenDim
  nActions_pos := shape.nActions_pos

end MixerShape

/-- One step of a sampled sequence. Padded steps are not `active`. -/
structure BatchStep (shape : MixerShape) (obsSize rnnHiddenDim : ℕ) where
  transition : (shape.agents obsSize rnnHiddenDim).Transition
  actionMask : Fin shape.nAgents → Fin shape.nActions → Bool
  nextActionMask : Fin shape.nAgents → Fin shape.nActions → Bool
  nextState : shape.State
  active : Bool
  terminated : Bool

/-- A mask where it is in force, and everything elsewhere. -/
def maskedWhere {n m : ℕ} (active : Bool) (mask : Fin n → Fin m → Bool) : Fin n → Fin m → Bool :=
  if active then mask else fun _ _ => true

section Greedy

variable {shape : MixerShape}

/-- `argmax(dim=3)` after minus infinity for what is not available. -/
noncomputable def curMaxActions (available : Fin shape.nAgents → Fin shape.nActions → Bool)
    (q : shape.Utilities) : shape.JointAction :=
  fun i => maskedArgmax shape.nActions_pos (available i) (q i)

end Greedy

/-! ## QPLEX-FOCUS -/

section Focus

variable {shape : FocusShape} {obsSize rnnHiddenDim : ℕ}

/-- The utilities for the next step: of the online and of the target agents. -/
structure FocusUtilities (shape : FocusShape) where
  macOutTp1 : shape.Utilities
  targetMacOut : shape.Utilities

noncomputable def focusUtilities
    (model targetModel : (shape.agents obsSize rnnHiddenDim).RNNModel)
    (row : List (BatchStep shape.toMixerShape obsSize rnnHiddenDim)) :
    List (FocusUtilities shape) :=
  let sequence := row.map BatchStep.transition
  List.zipWith FocusUtilities.mk (focusMacOutTp1 model sequence)
    (focusMacOutTp1 targetModel sequence)

/-- A step with its utilities. -/
abbrev FocusStep (shape : FocusShape) (obsSize rnnHiddenDim : ℕ) : Type :=
  BatchStep shape.toMixerShape obsSize rnnHiddenDim × FocusUtilities shape

namespace FocusStep

variable (step : FocusStep shape obsSize rnnHiddenDim)

/-- What may be played next, as `ignore_action_tp1` has it. -/
def availableTp1 : Fin shape.nAgents → Fin shape.nActions → Bool :=
  maskedWhere step.1.active step.1.nextActionMask

/-- `cur_max_actions`. -/
noncomputable def curMax : shape.JointAction := curMaxActions (availableTp1 step) step.2.macOutTp1

/-- `target_max_qvals` is minus infinity for some agent. -/
def Rejected : Prop :=
  ∃ i, masked (availableTp1 step i) (step.2.targetMacOut i) (curMax step i) = ⊥

/-- The bootstrapped value; `rho` is not injected. -/
noncomputable def bootstrap (targetMixer : FocusDuelMixer shape) : ℝ :=
  let targetMaxQvals := MixerShape.chosen step.2.targetMacOut (curMax step)
  targetMixer.forwardV targetMaxQvals step.1.nextState
    -- the chosen values stand in the place of the maxima
    + targetMixer.forwardA targetMaxQvals step.1.nextState (MixerShape.onehot (curMax step))
      targetMaxQvals none

end FocusStep

/-- The steps of a batch with their utilities. -/
noncomputable def focusSteps (model targetModel : (shape.agents obsSize rnnHiddenDim).RNNModel)
    (row : List (BatchStep shape.toMixerShape obsSize rnnHiddenDim)) :
    List (FocusStep shape obsSize rnnHiddenDim) :=
  row.zip (focusUtilities model targetModel row)

open Classical in
/-- `QPLEXFocusLoss.forward` up to the targets: the bootstrapped values. -/
noncomputable def focusForward (model targetModel : (shape.agents obsSize rnnHiddenDim).RNNModel)
    (targetMixer : FocusDuelMixer shape)
    (batch : List (List (BatchStep shape.toMixerShape obsSize rnnHiddenDim))) :
    Except Error (List (List ℝ)) :=
  if ∃ row ∈ batch, ∃ step ∈ focusSteps model targetModel row, FocusStep.Rejected step then
    .error (.assertionError ("target_max_qvals contains a masked action; "
      ++ "            there may be a state with no valid actions."))
  else
    .ok (batch.map (fun row => (focusSteps model targetModel row).map
      (fun step => FocusStep.bootstrap step targetMixer)))

end Focus

/-! ## DuelMIX -/

section DuelMix

variable {shape : MixerShape} {obsSize rnnHiddenDim : ℕ}

/-- The outputs for the next step: of the online and of the target agents. -/
structure DuelOutputs (shape : MixerShape) (obsSize rnnHiddenDim : ℕ) where
  tp1 : DualStreamRNNModel.Output (shape.agents obsSize rnnHiddenDim)
  target : DualStreamRNNModel.Output (shape.agents obsSize rnnHiddenDim)

/-- A step with its outputs. -/
abbrev DuelStep (shape : MixerShape) (obsSize rnnHiddenDim : ℕ) : Type :=
  BatchStep shape obsSize rnnHiddenDim × DuelOutputs shape obsSize rnnHiddenDim

namespace DuelStep

variable (step : DuelStep shape obsSize rnnHiddenDim)

/-- `bootstrap_active`. -/
def bootstrapActive : Bool := step.1.active && !step.1.terminated

/-- `safe_next_action_mask`. -/
def safeNextActionMask : Fin shape.nAgents → Fin shape.nActions → Bool :=
  maskedWhere (bootstrapActive step) step.1.nextActionMask

noncomputable def curMax : shape.JointAction := curMaxActions (safeNextActionMask step) step.2.tp1.q

/-- The agents without a valid action, where there should be one. -/
def invalid (active : Bool) (mask : Fin shape.nAgents → Fin shape.nActions → Bool) : ℕ :=
  if active then (Finset.univ.filter (fun i => ∀ k, mask i k = false)).card else 0

/-- The bootstrapped value. -/
noncomputable def bootstrap (targetMixer : DuelMixMixer shape) : ℝ :=
  targetMixer.forwardV step.2.target.v step.1.nextState
    + targetMixer.forwardA (MixerShape.chosen step.2.target.a (curMax step)) step.1.nextState
      (MixerShape.onehot (curMax step))
      (some (MixerShape.maxActionVals (safeNextActionMask step) step.2.target.a))

end DuelStep

noncomputable def duelSteps
    (model targetModel : DualStreamRNNModel (shape.agents obsSize rnnHiddenDim))
    (row : List (BatchStep shape obsSize rnnHiddenDim)) :
    List (DuelStep shape obsSize rnnHiddenDim) :=
  let sequence := row.map BatchStep.transition
  row.zip (List.zipWith DuelOutputs.mk (model.tp1 sequence) (targetModel.tp1 sequence))

/-- `DuelMixLoss.forward` up to the targets: the bootstrapped values. The chosen advantages are
finite, so the last check, which is for this, is left out. -/
noncomputable def duelForward
    (model targetModel : DualStreamRNNModel (shape.agents obsSize rnnHiddenDim))
    (targetMixer : DuelMixMixer shape)
    (batch : List (List (BatchStep shape obsSize rnnHiddenDim))) :
    Except Error (List (List ℝ)) :=
  let steps := batch.map (duelSteps model targetModel)
  let invalidCurrent :=
    (steps.flatten.map (fun step => DuelStep.invalid step.1.active step.1.actionMask)).sum
  let invalidNext := (steps.flatten.map
    (fun step => DuelStep.invalid (DuelStep.bootstrapActive step) step.1.nextActionMask)).sum
  if 0 < invalidCurrent then
    .error (.runtimeError ("DuelMIX received a live transition with no valid current actions. "
      ++ "count=" ++ toString invalidCurrent))
  else if 0 < invalidNext then
    .error (.runtimeError ("DuelMIX received a non-terminal transition with no valid next actions. "
      ++ "count=" ++ toString invalidNext))
  else .ok (steps.map (List.map (fun step => DuelStep.bootstrap step targetMixer)))

end DuelMix

end Mate.Rllib
