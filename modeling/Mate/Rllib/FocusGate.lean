import Mate.Library.Numerals
import Mathlib.Data.Real.Basic
import Mathlib.Data.String.Basic
import Mathlib.Tactic.Linarith
import Mathlib.Tactic.NormNum

set_option autoImplicit false

/-! # The configuration and the trust gate of FOCUS

A learned belief about the targets is blended in only as far as the gate of the loss trusts it: by a
schedule over the updates of the learner, and by how the belief did on earlier batches compared with
the forecast that nothing moves.
-/

namespace Mate.Rllib

/-! ## Configuration -/

/-- Every default passes its own check. -/
theorem defaultEps_pos : (0 : ℚ) < 1 / 10 ^ 8 := by norm_num

theorem defaultMinCreditSignal_nonneg : (0 : ℚ) ≤ 1 / 10 ^ 6 := by norm_num

theorem defaultHorizonDiscount_nonneg : (0 : ℚ) ≤ 9 / 10 := by norm_num

/-- `focus_config` after `resolve_focus_config`. The defaults are those of the reads; a key whose
default is another key is an option. The last fields say what every configuration of the repository
has. -/
structure FocusConfig where
  enabled : Bool := true
  eps : ℚ := 1 / 10 ^ 8
  nTargets : ℕ := 8
  nObstacles : ℕ := 0
  obstacleTransmittance : ℚ := 0
  useActionSelection : Bool := true
  minCreditSignal : ℚ := 1 / 10 ^ 6
  beliefMode : String := "learned"
  integralMode : String := "MC"
  horizonDiscount : ℚ := 9 / 10
  sigmaMethod : String := "legacy5"
  sigmaOrder : ℤ := 3
  mcNumPoints : ℕ := 128
  mcSeed : ℤ := 0
  mcChunkSize : Option ℤ := none
  sampleChunkSize : Option ℤ := none
  gridSize : ℕ := 64
  gridXRange : ℚ × ℚ := (-1000, 1000)
  gridYRange : ℚ × ℚ := (-1000, 1000)
  gridChunkSize : Option ℤ := none
  beliefGridChunkSize : Option ℤ := none
  officialMode : Bool := false
  actionCreditEnabled : Bool := true
  confidenceGateEnabled : Bool := true
  confidenceGateMode : String := "auto"
  confidenceLossThreshold : Option ℚ := none
  confidenceLossTemperature : ℚ := 1
  beliefProgressiveBlend : Bool := false
  beliefBlendWarmupUpdates : ℤ := 0
  beliefBlendRampUpdates : ℤ := 0
  beliefPerformanceGate : Bool := false
  beliefGateMargin : ℚ := 0
  beliefGateFullImprovement : ℚ := 2 / 10
  beliefErrorEmaDecay : ℚ := 95 / 100
  eps_pos : 0 < eps := by first | exact defaultEps_pos | norm_num
  minCreditSignal_nonneg : 0 ≤ minCreditSignal := by
    first | exact defaultMinCreditSignal_nonneg | norm_num
  horizonDiscount_nonneg : 0 ≤ horizonDiscount := by
    first | exact defaultHorizonDiscount_nonneg | norm_num

/-- `np.clip(x, 0.0, 1.0)`. -/
def clip01 {K : Type} [Zero K] [One K] [LinearOrder K] (x : K) : K := min (max x 0) 1

theorem clip01_nonneg {K : Type} [Field K] [LinearOrder K] [IsStrictOrderedRing K] (x : K) :
    0 ≤ clip01 x :=
  le_min (le_max_right _ _) zero_le_one

theorem clip01_le_one {K : Type} [Zero K] [One K] [LinearOrder K] (x : K) : clip01 x ≤ 1 :=
  min_le_right _ _

/-! ## The gate -/

/-- The buffers of `QPLEXFocusLoss`. `None` is stored as a number that is none. -/
structure FocusGate where
  learnerUpdate : ℕ
  beliefModelErrorEma : Option ℝ
  beliefBaselineErrorEma : Option ℝ
  beliefErrorEmaUpdates : ℕ

namespace FocusGate

/-- The buffers of a new loss. -/
def init : FocusGate := ⟨0, none, none, 0⟩

/-- `set_focus_learner_update`. -/
def setFocusLearnerUpdate (gate : FocusGate) (learnerUpdate : ℤ) : FocusGate :=
  { gate with learnerUpdate := learnerUpdate.toNat }

/-- `_belief_blend_schedule`. -/
def beliefBlendSchedule (cfg : FocusConfig) (gate : FocusGate) : ℚ :=
  if !cfg.beliefProgressiveBlend then 1
  else
    let warmup := cfg.beliefBlendWarmupUpdates.toNat
    let ramp := cfg.beliefBlendRampUpdates.toNat
    if gate.learnerUpdate ≤ warmup then 0
    else if ramp = 0 then 1
    else clip01 (((gate.learnerUpdate : ℚ) - warmup) / ramp)

/-- `_belief_performance_gate`. -/
noncomputable def beliefPerformanceGate (cfg : FocusConfig) (gate : FocusGate) : ℝ :=
  if !cfg.beliefPerformanceGate then 1
  else
    match gate.beliefModelErrorEma, gate.beliefBaselineErrorEma with
    | some modelError, some baselineError =>
      if gate.beliefErrorEmaUpdates ≤ 0 then 0
      else
        let baseline := max baselineError (cfg.eps : ℝ)
        let margin : ℝ := (max cfg.beliefGateMargin 0 : ℚ)
        let fullImprovement : ℝ := (max cfg.beliefGateFullImprovement cfg.eps : ℚ)
        let improvement := (baseline * (1 - margin) - modelError) / baseline
        clip01 (improvement / fullImprovement)
    | _, _ => 0

/-- The blend of `_focus_credit_target`. -/
noncomputable def effectiveBlend (cfg : FocusConfig) (gate : FocusGate) : ℝ :=
  (gate.beliefBlendSchedule cfg : ℝ) * gate.beliefPerformanceGate cfg

/-- `_update_belief_error_ema`. An average that is missing after the first update would be an
arithmetic error; it is there whenever the count is positive. -/
noncomputable def updateBeliefErrorEma (cfg : FocusConfig) (gate : FocusGate)
    (modelError baselineError : ℝ) : FocusGate :=
  let decay : ℝ := (clip01 cfg.beliefErrorEmaDecay : ℚ)
  let updates := gate.beliefErrorEmaUpdates + 1
  if gate.beliefErrorEmaUpdates = 0 then
    { gate with
      beliefModelErrorEma := some modelError
      beliefBaselineErrorEma := some baselineError
      beliefErrorEmaUpdates := updates }
  else
    { gate with
      beliefModelErrorEma :=
        gate.beliefModelErrorEma.map (fun ema => decay * ema + (1 - decay) * modelError)
      beliefBaselineErrorEma :=
        gate.beliefBaselineErrorEma.map (fun ema => decay * ema + (1 - decay) * baselineError)
      beliefErrorEmaUpdates := updates }

/-! ## Runtime state -/

/-- What `get_focus_runtime_state` returns. -/
structure RuntimeState where
  learnerUpdate : ℤ
  beliefModelErrorEma : Option ℝ
  beliefBaselineErrorEma : Option ℝ
  beliefErrorEmaUpdates : ℤ

def getFocusRuntimeState (gate : FocusGate) : RuntimeState :=
  ⟨gate.learnerUpdate, gate.beliefModelErrorEma, gate.beliefBaselineErrorEma,
    gate.beliefErrorEmaUpdates⟩

def setFocusRuntimeState (state : RuntimeState) : FocusGate :=
  ⟨state.learnerUpdate.toNat, state.beliefModelErrorEma, state.beliefBaselineErrorEma,
    state.beliefErrorEmaUpdates.toNat⟩

/-! ## What the gate returns -/

variable {cfg : FocusConfig} {gate : FocusGate}

theorem setFocusRuntimeState_get (gate : FocusGate) :
    setFocusRuntimeState gate.getFocusRuntimeState = gate := rfl

theorem beliefBlendSchedule_mem (cfg : FocusConfig) (gate : FocusGate) :
    0 ≤ gate.beliefBlendSchedule cfg ∧ gate.beliefBlendSchedule cfg ≤ 1 := by
  unfold beliefBlendSchedule
  split
  · exact ⟨zero_le_one, le_rfl⟩
  · dsimp only
    split
    · exact ⟨le_rfl, zero_le_one⟩
    · split
      · exact ⟨zero_le_one, le_rfl⟩
      · exact ⟨clip01_nonneg _, clip01_le_one _⟩

theorem beliefPerformanceGate_mem (cfg : FocusConfig) (gate : FocusGate) :
    0 ≤ gate.beliefPerformanceGate cfg ∧ gate.beliefPerformanceGate cfg ≤ 1 := by
  unfold beliefPerformanceGate
  split
  · exact ⟨zero_le_one, le_rfl⟩
  · split
    · split
      · exact ⟨le_rfl, zero_le_one⟩
      · exact ⟨clip01_nonneg _, clip01_le_one _⟩
    · exact ⟨le_rfl, zero_le_one⟩

theorem effectiveBlend_mem (cfg : FocusConfig) (gate : FocusGate) :
    0 ≤ gate.effectiveBlend cfg ∧ gate.effectiveBlend cfg ≤ 1 := by
  obtain ⟨hs0, hs1⟩ := gate.beliefBlendSchedule_mem cfg
  obtain ⟨hp0, hp1⟩ := gate.beliefPerformanceGate_mem cfg
  have hs0' : (0 : ℝ) ≤ gate.beliefBlendSchedule cfg := by exact_mod_cast hs0
  have hs1' : (gate.beliefBlendSchedule cfg : ℝ) ≤ 1 := by exact_mod_cast hs1
  exact ⟨mul_nonneg hs0' hp0, mul_le_one₀ hs1' hp0 hp1⟩

@[simp] theorem learnerUpdate_updateBeliefErrorEma (modelError baselineError : ℝ) :
    (gate.updateBeliefErrorEma cfg modelError baselineError).learnerUpdate = gate.learnerUpdate := by
  unfold updateBeliefErrorEma
  split <;> rfl

@[simp] theorem beliefErrorEmaUpdates_updateBeliefErrorEma (modelError baselineError : ℝ) :
    (gate.updateBeliefErrorEma cfg modelError baselineError).beliefErrorEmaUpdates
      = gate.beliefErrorEmaUpdates + 1 := by
  unfold updateBeliefErrorEma
  split <;> rfl

end FocusGate

end Mate.Rllib
