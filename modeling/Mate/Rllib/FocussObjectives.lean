import Mate.Rllib.FocusTrajectory

set_option autoImplicit false

/-! # The objective of FOCUSS for the agents

A learner of grouped agents (`GroupedCTDEPolicy`) asks `FocusResponsibilityEngine` for the
responsibilities of the cameras in a batch. They move the mixer, by the gradients of the joint value
with respect to the utilities of the agents (`focussAgentObjective`). Gradients are given: the
objective only reads them.
-/

namespace Mate.Rllib.Focus

open Nets

variable {B T n J K : ℕ}

/-! ## The engine -/

/-- `_focus_output`: the engine is told the update of the learner. -/
noncomputable def focusOutput [Quadrature] (cfg : FocusConfig) {D H : ℕ} (nActions : ℤ)
    (engine : Option (FocusLoss D H cfg.nTargets)) (batch : FocusBatch D n) (learnerUpdates : ℕ) :
    Except Error
      (Option (FocusOutput batch.B batch.T n cfg.nTargets) × Option (FocusLoss D H cfg.nTargets)) :=
  match engine with
  | none => .ok (none, none)
  | some engine => do
    let gate := engine.gate.setFocusLearnerUpdate learnerUpdates
    let (output, engine) ←
      FocusResponsibilityEngine.forward cfg nActions { engine with gate } batch true
    return (some output, some engine)

/-! ## The signals of the steps -/

/-- What the objective reads of `focus_config`. -/
structure ObjectiveConfig extends FocusConfig where
  creditLevel : String := "both"
  creditMechanism : String := "align"
  signalWeightMin : ℚ := 1 / 10
  signalWeightMax : ℚ := 3
  alphaCredit : ℚ := 1 / 10

variable (cfg : ObjectiveConfig)

open Classical in
/-- The signals of the steps, relative to their mean over the valid ones, and clamped. -/
noncomputable def signalWeights (totalGain : Fin B → Fin T → ℝ) (valid : Fin B → Fin T → Bool)
    (b : Fin B) (t : Fin T) : ℝ :=
  let signal := if ∃ b t, valid b t = true then
      totalGain b t / max (maskedMean (fun b t => valid b t = true) totalGain) (1 / 10 ^ 8)
    else 1
  min (max signal cfg.signalWeightMin) cfg.signalWeightMax

/-- `valid.to(dtype)`. -/
def validWeights (valid : Fin B → Fin T → Bool) (b : Fin B) (t : Fin T) : ℝ :=
  if valid b t then 1 else 0

/-! ## Agents -/

/-- `_focuss_gradient_carrier`: axes other than those of the agents, `K` entries, are averaged. -/
noncomputable def focussGradientCarrier (gradient : Fin B → Fin T → Fin n → Fin K → ℝ) (b : Fin B)
    (t : Fin T) : Fin n → ℝ :=
  let magnitude := fun i => mean (fun k => |gradient b t i k|)
  fun i => magnitude i / max (∑ i, magnitude i) cfg.eps

/-- The loss of `_focuss_agent_objective`, and its statistics. -/
structure AgentObjective where
  loss : ℝ
  focussCreditLoss : ℝ
  focussAlphaCredit : ℝ
  focussCarrierEntropy : Option ℝ

/-- No loss, where the objective is not for the agents. -/
def AgentObjective.zero : AgentObjective := ⟨0, 0, 0, none⟩

open Classical in
/-- The entropy of the carriers, over the valid steps. -/
noncomputable def carrierEntropy (carrier : Fin B → Fin T → Fin n → ℝ)
    (valid : Fin B → Fin T → Bool) : ℝ :=
  if ∃ b t, valid b t = true then
    maskedMean (fun b t => valid b t = true)
      (fun b t => crossEntropy (carrier b t) (fun i => Real.log (max (carrier b t i) (1 / 10 ^ 8))))
  else 0

/-- `_focuss_agent_objective`. -/
noncomputable def focussAgentObjective (gradient : Fin B → Fin T → Fin n → Fin K → ℝ)
    (focus : Option (FocusOutput B T n J)) : Except Error AgentObjective :=
  match focus with
  | none => .ok AgentObjective.zero
  | some focus =>
    let creditLevel := cfg.creditLevel.toLower
    let mechanism := cfg.creditMechanism.toLower
    if creditLevel ∉ ["agent", "both"] ∨ mechanism = "route" then .ok AgentObjective.zero
    else if mechanism ∉ ["align", "both"] then
      .error (.valueError "focus.credit_mechanism must be one of align, route, or both")
    else
      let (creditLoss, carrier) := carrierCreditLoss focus.rho (focussGradientCarrier cfg gradient)
        (validWeights focus.valid) (some focus.confidence)
        (some (signalWeights cfg focus.totalGain focus.valid)) cfg.eps
      .ok { loss := cfg.alphaCredit * creditLoss
            focussCreditLoss := creditLoss
            focussAlphaCredit := cfg.alphaCredit
            focussCarrierEntropy := some (carrierEntropy carrier focus.valid) }

end Mate.Rllib.Focus
