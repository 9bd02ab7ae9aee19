import Mate.Rllib.Occupancy

set_option autoImplicit false

/-! # The credit target of FOCUS

`QPLEXFocusLoss._focus_credit_target`: the responsibilities of the cameras at every step of a batch,
the supervision of the belief they are computed from, and the confidence in it. The gate of the loss
is read before the errors of the batch are averaged into it.
-/

namespace Mate.Rllib.Focus

open Nets

/-! ## Batches -/

/-- A batch of sequences: `B` sequences of `T` steps. A step is padded where its mask is zero. -/
structure FocusBatch (D n : ℕ) where
  B : ℕ
  T : ℕ
  state : Option (Fin B → Fin T → Fin D → ℝ)
  nextState : Option (Fin B → Fin T → Fin D → ℝ)
  actions : Fin B → Fin T → Fin n → ℤ
  mask : Fin B → Fin T → ℝ

open Classical in
/-- `values[valid].mean()`. -/
noncomputable def maskedMean {B T : ℕ} (valid : Fin B → Fin T → Prop) (values : Fin B → Fin T → ℝ) :
    ℝ :=
  (∑ b, ∑ t, if valid b t then values b t else 0) / (∑ b, ∑ t, if valid b t then (1 : ℝ) else 0)

/-! ## Confidence -/

/-- `confidence_mode`. -/
def confidenceMode (cfg : FocusConfig) (defaultMode : String) : String :=
  if !cfg.confidenceGateEnabled then "off"
  else
    let mode := cfg.confidenceGateMode.toLower
    if mode = "auto" then defaultMode else mode

section Confidence

variable (cfg : FocusConfig) {B T : ℕ} (valid : Fin B → Fin T → Prop) (loss : Fin B → Fin T → ℝ)

open Classical in
/-- `loss_confidence`. -/
noncomputable def lossConfidence (b : Fin B) (t : Fin T) : ℝ :=
  let threshold : ℝ := match cfg.confidenceLossThreshold with
    | some threshold => threshold
    | none =>
      if ∃ b t, valid b t then maskedMean valid loss else maskedMean (fun _ _ => True) loss
  let temperature : ℝ := (max cfg.confidenceLossTemperature cfg.eps : ℚ)
  Real.sigmoid ((threshold - loss b t) / temperature)

/-- `resolve_confidence` with the loss of every step, and without probabilities. -/
noncomputable def resolveConfidence (defaultMode : String) : (Fin B → Fin T → ℝ) × String :=
  let mode := confidenceMode cfg defaultMode
  if mode = "loss" then (lossConfidence cfg valid loss, "loss")
  else (fun _ _ => 1, "off")

end Confidence

/-! ## Supervision of the belief -/

/-- What a batch says about the belief. -/
structure Supervision (B T : ℕ) where
  beliefLoss : ℝ
  confidence : Fin B → Fin T → ℝ
  confidenceMode : String
  /-- the errors of the model and of the baseline, if there is a step that is not padded -/
  pendingBeliefEma : Option (ℝ × ℝ)

section Supervise

variable (cfg : FocusConfig) {D H J B T : ℕ}

open Classical in
/-- The supervision by a model that has seen the batch. -/
noncomputable def supervise (model : OccupancyModel D H J) (nAgents : ℕ)
    (state nextState : Fin B → Fin T → Fin D → ℝ) (mask : Fin B → Fin T → ℝ) : Supervision B T :=
  let errors := model.nll nAgents state nextState
  let validBelief := fun b t => 0 < mask b t
  let weighted := fun (error : StepErrors → ℝ) b t =>
    ∑ h, horizonWeights cfg H h * error (errors b t h)
  let perStepBeliefLoss := weighted StepErrors.loss
  -- a horizon is supervised at the steps whose future lies within the sequence
  let beliefLoss := ∑ h : Fin H,
    let validH := fun (b : Fin B) (t : Fin T) => (t : ℕ) + h < T ∧ validBelief b t
    if ∃ b t, validH b t then
      horizonWeights cfg H h * maskedMean validH (fun b t => (errors b t h).loss)
    else 0
  let (confidence, mode) := resolveConfidence cfg validBelief perStepBeliefLoss "loss"
  { beliefLoss, confidence
    confidenceMode := mode
    pendingBeliefEma :=
      if ∃ b t, validBelief b t then
        some (maskedMean validBelief (weighted StepErrors.positionError),
          maskedMean validBelief (weighted StepErrors.baselinePositionError))
      else none }

variable (model : OccupancyModel D H J) (nAgents : ℕ) (mask : Fin B → Fin T → ℝ)
  {state nextState : Fin B → Fin T → Fin D → ℝ}

/-- The errors of a step, weighted by horizon. -/
noncomputable def weightedError (error : StepErrors → ℝ)
    (state nextState : Fin B → Fin T → Fin D → ℝ) (b : Fin B) (t : Fin T) : ℝ :=
  ∑ h, horizonWeights cfg H h * error (model.nll nAgents state nextState b t h)

open Classical in
theorem supervise_beliefLoss :
    (supervise cfg model nAgents state nextState mask).beliefLoss = ∑ h : Fin H,
      if ∃ b, ∃ t : Fin T, (t : ℕ) + h < T ∧ 0 < mask b t then
        horizonWeights cfg H h * maskedMean (fun b t => (t : ℕ) + h < T ∧ 0 < mask b t)
          (fun b t => (model.nll nAgents state nextState b t h).loss)
      else 0 := rfl

theorem supervise_confidence :
    (supervise cfg model nAgents state nextState mask).confidence
      = (resolveConfidence cfg (fun b t => 0 < mask b t)
          (weightedError cfg model nAgents StepErrors.loss state nextState) "loss").1 := rfl

open Classical in
theorem supervise_pendingBeliefEma :
    (supervise cfg model nAgents state nextState mask).pendingBeliefEma =
      if ∃ b t, 0 < mask b t then
        some (maskedMean (fun b t => 0 < mask b t)
            (weightedError cfg model nAgents StepErrors.positionError state nextState),
          maskedMean (fun b t => 0 < mask b t)
            (weightedError cfg model nAgents StepErrors.baselinePositionError state nextState))
      else none := rfl

end Supervise

/-! ## The gains of a belief -/

section Gains

variable (cfg : FocusConfig) {D H n : ℕ} [Quadrature]

/-- The mean of the forecast, blended with the position. -/
noncomputable def blendMean {J : ℕ} (effectiveBlend : ℝ) (mean : Fin H → Fin J → ℂ)
    (currentPosition : Fin J → ℂ) (h : Fin H) (j : Fin J) : ℂ :=
  currentPosition j + effectiveBlend * (mean h j - currentPosition j)

/-- The forecast of the cells, blended with the one that nothing moves. -/
noncomputable def blendProbabilities {J : ℕ} (effectiveBlend : ℝ) (grid : CategoricalGrid)
    (probabilities : Fin H → Fin J → Fin grid.numCells → ℝ) (h : Fin H) (j : Fin J)
    (k : Fin grid.numCells) : ℝ :=
  let persistence := softmax grid.persistencePriorLogits k
  persistence + effectiveBlend * (probabilities h j k - persistence)

/-- The gains of the learned belief at all steps, and those of the pairs where they are kept. -/
noncomputable def learnedGains {ι : Type} (effectiveBlend : ℝ) (belief : Belief ι H cfg.nTargets)
    (state : ι → Fin D → ℝ) (selection : ι → Selection n cfg.nTargets) :
    Except Error (ι → (Fin n → ℝ) × Option (Fin n → Fin cfg.nTargets → ℝ)) :=
  let geometry := fun step => creditGeometry cfg n (state step)
  let currentPosition := fun step (j : Fin cfg.nTargets) => targetPosition (state step) n j
  match belief with
  | .categorical grid probabilities =>
    .ok (fun step =>
      (creditFromCategoricalGrid cfg (geometry step) (selection step)
        (blendProbabilities effectiveBlend grid (probabilities step)) grid.displacementGrid
        (currentPosition step), none))
  -- the mean is blended with the current position, the deviation is not
  | .gaussian mean std =>
    let creditMean := fun step => blendMean effectiveBlend (mean step) (currentPosition step)
    if cfg.integralMode = "grid" then do
      let g ← creditFromGrid cfg geometry selection creditMean std
      return fun step => (g step, none)
    else if cfg.integralMode = "sigma" then do
      let sigma ← sigmaPoints cfg creditMean std
      return fun step =>
        (creditFromSigmaPoints cfg (geometry step) (selection step) (sigma step).points
          (some (sigma step).weights), none)
    else if cfg.integralMode = "MC" then
      let gains := fun step =>
        creditFromMcPoints cfg (geometry step) (selection step) (creditMean step) (std step)
      .ok (fun step => ((gains step).camera,
        if cfg.officialMode && cfg.actionCreditEnabled then some (gains step).pair else none))
    else .error (.valueError ("Unknown FOCUS integral_mode: " ++ cfg.integralMode))

/-- The gains of `oracle_next_ablation` at one step: one sample at the next position. -/
noncomputable def oracleGains (state nextState : Fin D → ℝ) (selection : Selection n cfg.nTargets) :
    Fin n → ℝ :=
  let samples : Fin 1 → Fin cfg.nTargets → Fin 1 → ℂ := fun _ j _ => targetPosition nextState n j
  creditFromSigmaPoints cfg (creditGeometry cfg n state) selection samples none

end Gains

/-! ## The target -/

/-- What `_focus_credit_target` returns for one step. -/
structure CreditStep (n J : ℕ) where
  rho : Fin n → ℝ
  valid : Bool
  totalG : ℝ
  pairGains : Option (Fin n → Fin J → ℝ)

/-- What `_focus_credit_target` returns, and the blend that its statistics report. -/
structure CreditTarget (B T n J : ℕ) where
  steps : Fin B → Fin T → CreditStep n J
  supervision : Supervision B T
  blendSchedule : Option ℚ

/-- The part of the loss that `_focus_credit_target` changes. -/
structure FocusLoss (D H J : ℕ) where
  occupancyModel : Option (OccupancyModel D H J)
  gate : FocusGate

section Target

variable (cfg : FocusConfig) {D H n : ℕ}

open Classical in
/-- The end of `_focus_credit_target` at one step. -/
noncomputable def creditStep {J : ℕ} (mask : ℝ) (g : Fin n → ℝ)
    (pairGains : Option (Fin n → Fin J → ℝ)) : CreditStep n J :=
  let totalG := ∑ i, g i
  let valid := decide ((cfg.minCreditSignal : ℝ) < totalG ∧ 0 < mask)
  { rho := fun i => if valid then g i / (totalG + cfg.eps) else 1 / (n : ℝ)
    valid, totalG, pairGains }

/-- No belief loss, full confidence and no errors. -/
def Supervision.none (B T : ℕ) : Supervision B T := ⟨0, fun _ _ => 1, "off", Option.none⟩

/-- The result without a belief: uniform responsibilities that are not valid. -/
noncomputable def uniformTarget (B T n J : ℕ) : Except Error (CreditTarget B T n J) :=
  if n = 0 then .error (.zeroDivisionError "float division by zero")
  else .ok {
    steps := fun _ _ => ⟨fun _ => 1 / (n : ℝ), false, 0, none⟩
    supervision := Supervision.none B T
    blendSchedule := none }

/-- `_extract_camera_fov` and `_extract_target_positions` stack what they read. -/
def checkStacks (n J : ℕ) : Except Error Unit :=
  if n = 0 ∨ J = 0 then .error (.runtimeError "stack expects a non-empty TensorList") else .ok ()

/-- The gate after the errors of a batch. -/
noncomputable def commitErrors (gate : FocusGate) (updateBeliefEma : Bool)
    (pending : Option (ℝ × ℝ)) : FocusGate :=
  match pending with
  | some (modelError, baselineError) =>
    if updateBeliefEma && cfg.beliefPerformanceGate then
      gate.updateBeliefErrorEma cfg modelError baselineError
    else gate
  | none => gate

variable [Quadrature]

/-- `_focus_credit_target`. -/
noncomputable def focusCreditTarget (nActions : ℤ) (loss : FocusLoss D H cfg.nTargets)
    (batch : FocusBatch D n) (updateBeliefEma : Bool) :
    Except Error (CreditTarget batch.B batch.T n cfg.nTargets × FocusLoss D H cfg.nTargets) := do
  match batch.state with
  | none => return (← uniformTarget batch.B batch.T n cfg.nTargets, loss)
  | some state =>
    if D < requiredDim n cfg.nTargets then
      return (← uniformTarget batch.B batch.T n cfg.nTargets, loss)
    else if cfg.beliefMode = "learned" then
      match loss.occupancyModel, batch.nextState with
      | some model, some nextState =>
        checkStacks n cfg.nTargets
        let model := model.observe state
        let supervision := supervise cfg model n state nextState batch.mask
        let selection ← targetSelections cfg nActions
          (fun step : Fin batch.B × Fin batch.T => batch.actions step.1 step.2)
        let g ← learnedGains cfg (loss.gate.effectiveBlend cfg) (model.forecast n state)
          (fun step => state step.1 step.2) selection
        -- after the gains, so that the errors of a batch do not raise its own trust
        let gate := commitErrors cfg loss.gate updateBeliefEma supervision.pendingBeliefEma
        return ({
          steps := fun b t => creditStep cfg (batch.mask b t) (g (b, t)).1 (g (b, t)).2
          supervision
          blendSchedule := some (loss.gate.beliefBlendSchedule cfg) },
          { occupancyModel := some model, gate })
      | _, _ => return (← uniformTarget batch.B batch.T n cfg.nTargets, loss)
    else if cfg.beliefMode = "oracle_next_ablation" then
      match batch.nextState with
      | none => .error (.typeError "'NoneType' object is not subscriptable")
      | some nextState =>
        checkStacks n cfg.nTargets
        let selection ← targetSelections cfg nActions
          (fun step : Fin batch.B × Fin batch.T => batch.actions step.1 step.2)
        return ({
          steps := fun b t => creditStep cfg (batch.mask b t)
            (oracleGains cfg (state b t) (nextState b t) (selection (b, t))) none
          supervision := Supervision.none batch.B batch.T
          blendSchedule := none }, loss)
    else .error (.valueError ("Unknown FOCUS belief_mode: " ++ cfg.beliefMode))

end Target

/-- `focus_agent_weights` at one step. -/
noncomputable def focusAgentWeights {n : ℕ} (rho : Fin n → ℝ) (eta : ℝ) (confidence : Option ℝ)
    (i : Fin n) : ℝ :=
  let etaT := match confidence with
    | some confidence => eta * confidence
    | none => eta
  1 - etaT + etaT * n * rho i

end Mate.Rllib.Focus
