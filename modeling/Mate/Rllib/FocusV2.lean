import Mate.Rllib.FocusTarget

set_option autoImplicit false

/-! # FOCUS-v2

`QPLEXFocusV2Loss` inherits from `QPLEXFocusLoss`. What a camera sees at a later horizon is widened
by what it can turn to until then, and the responsibilities are drawn towards a teacher where they
are ambiguous. Two methods that `_focus_credit_target` of the super class calls are overridden, with
fewer parameters than they have there.
-/

namespace Mate.Rllib.Focus.V2

open Chunks

/-! ## Configuration -/

/-- `focus_config`, with the keys that only this loss reads. -/
structure FocusV2Config extends FocusConfig where
  reachableVisibilityEnabled : Bool := true
  reachableMode : String := "union"
  reachableRotationStepDeg : ℚ := 20
  reachableRangeStep : ℚ := 0
  reachableHalfAngleStepDeg : ℚ := 0
  creditAmbiguityGateEnabled : Bool := true
  teacherMode : String := "uniform"

/-! ## Visibility -/

section Visibility

variable (cfg : FocusV2Config) {n : ℕ}

/-- `_reachable_params`. -/
noncomputable def reachableParams (camera : CameraFov) (horizonIndex : ℕ) : CameraFov :=
  if !cfg.reachableVisibilityEnabled then camera
  else
    let h : ℝ := horizonIndex + 1
    let rot : ℝ := cfg.reachableRotationStepDeg * (Real.pi / 180)
    let rangeStep : ℝ := cfg.reachableRangeStep
    let angleStep : ℝ := cfg.reachableHalfAngleStepDeg * (Real.pi / 180)
    let mode := cfg.reachableMode.toLower
    if mode = "conservative" then camera
    else
      { camera with
        sightRange := camera.sightRange + h * rangeStep
        halfAngle := min (camera.halfAngle + h * rot + h * angleStep) Real.pi }

open Classical in
/-- `_point_visibility_horizon` of one point for one camera. -/
noncomputable def pointVisibilityHorizon (geometry : Geometry n) (horizonIndex : ℕ) (i : Fin n)
    (point : ℂ) : ℝ :=
  let camera := reachableParams cfg (geometry.cameras i) horizonIndex
  let rel := point - camera.position
  let dist := √(rel.re ^ 2 + rel.im ^ 2 + cfg.eps)
  let bearing := Complex.arg rel
  let angle := Complex.arg
    ⟨Real.cos (bearing - camera.orientation), Real.sin (bearing - camera.orientation)⟩
  let visible := if dist ≤ camera.sightRange ∧ |angle| ≤ camera.halfAngle then 1 else 0
  if ∃ obstacle ∈ geometry.obstacles, Blocks cfg.toFocusConfig camera point obstacle then
    visible * cfg.obstacleTransmittance
  else visible

end Visibility

/-! ## Gains -/

section Gains

variable (cfg : FocusV2Config) {n J H : ℕ} (geometry : Geometry n) (selection : Selection n J)

/-- `_credit_chunk_sum_horizon`. -/
noncomputable def creditChunkSumHorizon {S : ℕ} (samples : Fin J → Fin S → ℂ) (horizonIndex : ℕ)
    (i : Fin n) : ℝ :=
  let visible := fun i j s =>
    selection.apply (pointVisibilityHorizon cfg geometry horizonIndex i (samples j s)) i j
  let uniqueGain := fun j s => visible i j s * uncoveredByOthers (fun k => visible k j s) i
  ∑ j, ∑ s, uniqueGain j s

/-- `_credit_from_sigma_points`. -/
noncomputable def creditFromSigmaPoints {S : ℕ} (samples : Fin H → Fin J → Fin S → ℂ)
    (i : Fin n) : ℝ :=
  let size := chunkSize (cfg.sampleChunkSize.getD (cfg.mcChunkSize.getD 32)) S
  ∑ h, ∑ c ∈ Finset.range (count S size),
    let start := c * size
    let chunkSum := creditChunkSumHorizon cfg geometry selection
      (fun j => slice (samples h j) start (start + size)) h i
    horizonWeights cfg.toFocusConfig H h * chunkSum / (S : ℝ)

/-- `_credit_from_mc_points`. -/
noncomputable def creditFromMcPoints [Quadrature] (mean std : Fin H → Fin J → ℂ) (i : Fin n) : ℝ :=
  let numPoints := cfg.mcNumPoints
  let size := chunkSize (cfg.mcChunkSize.getD (cfg.sampleChunkSize.getD 32)) numPoints
  ∑ h, ∑ c ∈ Finset.range (count numPoints size),
    let normalChunk := slice (mcNormals cfg.toFocusConfig) (c * size) (c * size + size)
    let chunkSum := creditChunkSumHorizon cfg geometry selection
      (fun j k => spread (mean h j) (std h j) (normalChunk k)) h i
    horizonWeights cfg.toFocusConfig H h * chunkSum / (numPoints : ℝ)

end Gains

/-! ## Overridden methods -/

/-- The methods that `_focus_credit_target` calls on its loss and that a subclass may override, for
all steps of a batch. An argument with a default is `none` where the call does not pass it. -/
structure CreditMethods (cfg : FocusConfig) (n : ℕ) where
  creditFromSigmaPoints : {ι : Type} → {H : ℕ} → {S : ι → ℕ} → (geometry : ι → Geometry n) →
    (selection : ι → Selection n cfg.nTargets) →
    (targetSamples : (step : ι) → Fin H → Fin cfg.nTargets → Fin (S step) → ℂ) →
    (sampleWeights : Option ((step : ι) → Fin (S step) → ℝ)) → Except Error (ι → Fin n → ℝ)
  creditFromMcPoints : {ι : Type} → {H : ℕ} → (geometry : ι → Geometry n) →
    (selection : ι → Selection n cfg.nTargets) → (mean std : ι → Fin H → Fin cfg.nTargets → ℂ) →
    (returnPairGains : Option Bool) →
    Except Error (ι → (Fin n → ℝ) × Option (Fin n → Fin cfg.nTargets → ℝ))

/-- The methods of `QPLEXFocusLoss`. -/
noncomputable def baseMethods (cfg : FocusConfig) (n : ℕ) [Quadrature] : CreditMethods cfg n where
  creditFromSigmaPoints geometry selection targetSamples sampleWeights :=
    .ok (fun step => Focus.creditFromSigmaPoints cfg (geometry step) (selection step)
      (targetSamples step) (sampleWeights.map (fun weights => weights step)))
  creditFromMcPoints geometry selection mean std returnPairGains :=
    let gains := fun step =>
      Focus.creditFromMcPoints cfg (geometry step) (selection step) (mean step) (std step)
    .ok (fun step => ((gains step).camera,
      if returnPairGains.getD false then some (gains step).pair else none))

/-- A call with an argument that the method does not have. -/
def unexpectedKeyword (method argument : String) : Error :=
  .typeError (method ++ "() got an unexpected keyword argument '" ++ argument ++ "'")

/-- The methods of `QPLEXFocusV2Loss`. -/
noncomputable def v2Methods (cfg : FocusV2Config) (n : ℕ) [Quadrature] :
    CreditMethods cfg.toFocusConfig n where
  creditFromSigmaPoints geometry selection targetSamples sampleWeights :=
    match sampleWeights with
    | some _ => .error (unexpectedKeyword "_credit_from_sigma_points" "sample_weights")
    | none => .ok (fun step =>
        creditFromSigmaPoints cfg (geometry step) (selection step) (targetSamples step))
  creditFromMcPoints geometry selection mean std returnPairGains :=
    match returnPairGains with
    | some _ => .error (unexpectedKeyword "_credit_from_mc_points" "return_pair_gains")
    | none => .ok (fun step =>
        (creditFromMcPoints cfg (geometry step) (selection step) (mean step) (std step), none))

section Dispatch

variable {cfg : FocusConfig} {D H n : ℕ} [Quadrature] (methods : CreditMethods cfg n)

/-- The gains of the learned belief at all steps, as `_focus_credit_target` of `QPLEXFocusLoss` asks
its loss for them. -/
noncomputable def learnedGains {ι : Type} (effectiveBlend : ℝ) (belief : Belief ι H cfg.nTargets)
    (state : ι → Fin D → ℝ) (selection : ι → Selection n cfg.nTargets) :
    Except Error (ι → (Fin n → ℝ) × Option (Fin n → Fin cfg.nTargets → ℝ)) :=
  let geometry := fun step => creditGeometry cfg n (state step)
  let currentPosition := fun step (j : Fin cfg.nTargets) => targetPosition (state step) n j
  match belief with
  | .categorical grid probabilities =>
    .ok (fun step =>
      (creditFromCategoricalGrid cfg (geometry step) (selection step)
        (blendProbabilities effectiveBlend grid (probabilities step)) grid.displacementGrid
        (currentPosition step), none))
  | .gaussian mean std =>
    let creditMean := fun step => blendMean effectiveBlend (mean step) (currentPosition step)
    if cfg.integralMode = "grid" then do
      let g ← creditFromGrid cfg geometry selection creditMean std
      return fun step => (g step, none)
    else if cfg.integralMode = "sigma" then do
      let sigma ← sigmaPoints cfg creditMean std
      let g ← methods.creditFromSigmaPoints geometry selection (fun step => (sigma step).points)
        (some (fun step => (sigma step).weights))
      return fun step => (g step, none)
    else if cfg.integralMode = "MC" then
      -- handed on as a keyword
      let officialAction := cfg.officialMode && cfg.actionCreditEnabled
      methods.creditFromMcPoints geometry selection creditMean std (some officialAction)
    else .error (.valueError ("Unknown FOCUS integral_mode: " ++ cfg.integralMode))

/-- The gains of `oracle_next_ablation` at all steps. -/
noncomputable def oracleGains {ι : Type} (state nextState : ι → Fin D → ℝ)
    (selection : ι → Selection n cfg.nTargets) : Except Error (ι → Fin n → ℝ) :=
  let samples := fun step (_ : Fin 1) (j : Fin cfg.nTargets) (_ : Fin 1) =>
    targetPosition (nextState step) n j
  methods.creditFromSigmaPoints (fun step => creditGeometry cfg n (state step)) selection samples
    none

/-- `_focus_credit_target` of `QPLEXFocusLoss`, of a loss with these methods. -/
noncomputable def superFocusCreditTarget (nActions : ℤ) (loss : FocusLoss D H cfg.nTargets)
    (batch : FocusBatch D n) (updateBeliefEma : Bool) :
    Except Error (CreditTarget batch.B batch.T n cfg.nTargets × FocusLoss D H cfg.nTargets) := do
  match batch.state with
  | none => return (← uniformTarget batch.B batch.T n cfg.nTargets, loss)
  | some state =>
    if D < requiredDim n cfg.nTargets then
      return (← uniformTarget batch.B batch.T n cfg.nTargets, loss)
    else if cfg.beliefMode = "learned" then
      match loss.occupancyModel, batch.nextState with
      | some model, some nextState =>
        checkStacks n cfg.nTargets
        let model := model.observe state
        let supervision := supervise cfg model n state nextState batch.mask
        let selection ← targetSelections cfg nActions
          (fun step : Fin batch.B × Fin batch.T => batch.actions step.1 step.2)
        -- the integrals are looked up in the class of the loss
        let g ← learnedGains methods (loss.gate.effectiveBlend cfg) (model.forecast n state)
          (fun step => state step.1 step.2) selection
        let gate := commitErrors cfg loss.gate updateBeliefEma supervision.pendingBeliefEma
        return ({
          steps := fun b t => creditStep cfg (batch.mask b t) (g (b, t)).1 (g (b, t)).2
          supervision
          blendSchedule := some (loss.gate.beliefBlendSchedule cfg) },
          { occupancyModel := some model, gate })
      | _, _ => return (← uniformTarget batch.B batch.T n cfg.nTargets, loss)
    else if cfg.beliefMode = "oracle_next_ablation" then
      match batch.nextState with
      | none => .error (.typeError "'NoneType' object is not subscriptable")
      | some nextState =>
        checkStacks n cfg.nTargets
        let selection ← targetSelections cfg nActions
          (fun step : Fin batch.B × Fin batch.T => batch.actions step.1 step.2)
        let g ← oracleGains methods (fun step => state step.1 step.2)
          (fun step => nextState step.1 step.2) selection
        return ({
          steps := fun b t => creditStep cfg (batch.mask b t) (g (b, t)) none
          supervision := Supervision.none batch.B batch.T
          blendSchedule := none }, loss)
    else .error (.valueError ("Unknown FOCUS belief_mode: " ++ cfg.beliefMode))

end Dispatch

/-! ## The target -/

section Target

variable (cfg : FocusV2Config) {D H n : ℕ}

/-- `_credit_confidence` at one step. -/
noncomputable def creditConfidence (rho : Fin n → ℝ) : ℝ :=
  if !cfg.creditAmbiguityGateEnabled then 1
  else
    let maxEntropy := Real.log (max n 2 : ℕ)
    let entropy := -∑ i, rho i * Real.log (rho i + cfg.eps)
    clip01 (1 - entropy / maxEntropy)

/-- `_teacher_rho` at one step. -/
noncomputable def teacherRho (rho : Fin n → ℝ) : Fin n → ℝ :=
  let mode := cfg.teacherMode.toLower
  if mode = "off" ∨ mode = "none" ∨ mode = "predicted" then rho else fun _ => 1 / (n : ℝ)

/-- `final_confidence` at one step. -/
noncomputable def finalConfidence {J : ℕ} (confidence : ℝ) (step : CreditStep n J) : ℝ :=
  confidence * creditConfidence cfg step.rho * (if step.valid then 1 else 0)

/-- `rho_final` at one step. -/
noncomputable def rhoFinal {J : ℕ} (confidence : ℝ) (step : CreditStep n J) : Fin n → ℝ :=
  let finalConfidence := finalConfidence cfg confidence step
  let blended := fun i =>
    finalConfidence * step.rho i + (1 - finalConfidence) * teacherRho cfg step.rho i
  fun i => blended i / (∑ k, blended k + cfg.eps)

/-- `_focus_credit_target`. -/
noncomputable def focusCreditTarget [Quadrature] (nActions : ℤ) (loss : FocusLoss D H cfg.nTargets)
    (batch : FocusBatch D n) :
    Except Error (CreditTarget batch.B batch.T n cfg.nTargets × FocusLoss D H cfg.nTargets) := do
  let (target, loss) ← superFocusCreditTarget (v2Methods cfg n) nActions loss batch true
  let confidence := target.supervision.confidence
  return ({ target with
    steps := fun b t =>
      { target.steps b t with rho := rhoFinal cfg (confidence b t) (target.steps b t) }
    supervision := { target.supervision with
      confidence := fun b t => finalConfidence cfg (confidence b t) (target.steps b t)
      confidenceMode := "v2:" ++ target.supervision.confidenceMode ++ "+credit" } }, loss)

end Target

end Mate.Rllib.Focus.V2
