import Mate.Library.Dict
import Mate.Library.Floats
import Mate.Utils

set_option autoImplicit false

/-! # The buffers of the trust gate

`FocusGate` has the averages of the gate as numbers. The loss keeps them in tensors, and an average
that is not a number reads as `None`, so this is the same state with all the values a tensor can hold,
and with what the arithmetic of Python raises on `None`, on zero and on counts that are too large.
-/

namespace Mate.Rllib

open Floats Dicts

/-- What the gate reads of `focus_config`. -/
structure TrustConfig (F : Format) where
  beliefPerformanceGate : Bool
  beliefProgressiveBlend : Bool
  beliefBlendWarmupUpdates : ℤ
  beliefBlendRampUpdates : ℤ
  eps : FloatValue F
  beliefGateMargin : FloatValue F
  beliefGateFullImprovement : FloatValue F
  beliefErrorEmaDecay : FloatValue F

/-- A count in a tensor of 64-bit integers. -/
abbrev Count : Type := Fin (2 ^ 63)

/-- The buffers of `QPLEXFocusLoss`. -/
structure GateBuffers (F : Format) where
  focusLearnerUpdateState : Count
  beliefModelErrorEmaState : FloatValue F
  beliefBaselineErrorEmaState : FloatValue F
  beliefErrorEmaUpdatesState : Count

/-! ## Tensors and `None` -/

/-- `fill_(max(value, 0))` of a tensor of 64-bit integers. -/
def fillCount (value : ℤ) : Except Error Count :=
  if h : value.toNat < 2 ^ 63 then .ok ⟨value.toNat, h⟩
  else .error (.runtimeError "value cannot be converted to type int64_t without overflow")

section Values

variable {F : Format}

/-- The getters of the averages: what is not a number is `None`. -/
def readEma : FloatValue F → Option (FloatValue F)
  | .nan => none
  | v => some v

/-- The setters of the averages. -/
def writeEma (value : Option (FloatValue F)) : FloatValue F := value.getD .nan

/-- An operand of an arithmetic operation, or the argument of `float`. -/
def orTypeError : Option (FloatValue F) → Except Error (FloatValue F)
  | some v => .ok v
  | none => .error (.typeError "unsupported operand type: 'NoneType'")

open Classical in
/-- `v / w` of floats. -/
noncomputable def pyDiv (v w : FloatValue F) : Except Error (FloatValue F) :=
  if w.IsZero then .error (.zeroDivisionError "float division by zero") else .ok (v.div w)

open Classical in
/-- `float(value)` of an integer. -/
noncomputable def floatOfInt (F : Format) (value : ℤ) : Except Error (FloatValue F) :=
  if |F.round value| ≤ F.largest then .ok (.ofReal F value)
  else .error (.runtimeError "int too large to convert to float")

end Values

namespace GateBuffers

variable {F : Format}

/-- The buffers that the constructor registers. -/
def init (F : Format) : GateBuffers F := ⟨0, .nan, .nan, 0⟩

def beliefModelErrorEma (g : GateBuffers F) : Option (FloatValue F) :=
  readEma g.beliefModelErrorEmaState

def beliefBaselineErrorEma (g : GateBuffers F) : Option (FloatValue F) :=
  readEma g.beliefBaselineErrorEmaState

/-! ## Learner updates -/

/-- `set_focus_learner_update`, where `None` counts as zero. -/
def setFocusLearnerUpdate (g : GateBuffers F) (learnerUpdate : Option ℤ) :
    Except Error (GateBuffers F) := do
  let count ← fillCount (learnerUpdate.getD 0)
  return { g with focusLearnerUpdateState := count }

/-! ## The gate -/

section Gate

variable (cfg : TrustConfig F) (g : GateBuffers F)

/-- `_belief_blend_schedule`. -/
noncomputable def beliefBlendSchedule : Except Error (FloatValue F) :=
  if !cfg.beliefProgressiveBlend then .ok (.one F)
  else
    let warmup := max cfg.beliefBlendWarmupUpdates 0
    let ramp := max cfg.beliefBlendRampUpdates 0
    let learnerUpdate : ℤ := g.focusLearnerUpdateState
    if learnerUpdate ≤ warmup then .ok (.zero F)
    else if ramp = 0 then .ok (.one F)
    else do
      let ramp ← floatOfInt F ramp
      let updates ← floatOfInt F (learnerUpdate - warmup)
      let ratio ← pyDiv updates ramp
      return ratio.clip01

/-- `_belief_performance_gate`. -/
noncomputable def beliefPerformanceGate : Except Error (FloatValue F) :=
  if !cfg.beliefPerformanceGate then .ok (.one F)
  else
    match g.beliefModelErrorEma, g.beliefBaselineErrorEma with
    | some modelError, some baselineError =>
      -- no belief is trusted before it has been compared
      if (g.beliefErrorEmaUpdatesState : ℕ) = 0 then .ok (.zero F)
      else do
        let baseline := FloatValue.pyMax baselineError cfg.eps
        let margin := FloatValue.pyMax cfg.beliefGateMargin (.zero F)
        let fullImprovement := FloatValue.pyMax cfg.beliefGateFullImprovement cfg.eps
        let improvement ←
          pyDiv ((baseline.mul ((FloatValue.one F).sub margin)).sub modelError) baseline
        let ratio ← pyDiv improvement fullImprovement
        return ratio.clip01
    | _, _ => .ok (.zero F)

/-- The decay of the averages. -/
noncomputable def decay (cfg : TrustConfig F) : FloatValue F := cfg.beliefErrorEmaDecay.clip01

/-- `_update_belief_error_ema`. -/
noncomputable def updateBeliefErrorEma (modelError baselineError : FloatValue F) :
    Except Error (GateBuffers F) := do
  let next ←
    if (g.beliefErrorEmaUpdatesState : ℕ) = 0 then
      .ok { g with
        beliefModelErrorEmaState := modelError
        beliefBaselineErrorEmaState := baselineError }
    else do
      -- there is no average to read when the buffer is not a number
      let model ← orTypeError g.beliefModelErrorEma
      let next := { g with
        beliefModelErrorEmaState := FloatValue.average (decay cfg) model modelError }
      let baseline ← orTypeError next.beliefBaselineErrorEma
      .ok { next with
        beliefBaselineErrorEmaState := FloatValue.average (decay cfg) baseline baselineError }
  let count ← fillCount ((next.beliefErrorEmaUpdatesState : ℕ) + 1)
  return { next with beliefErrorEmaUpdatesState := count }

/-- `observe_belief_errors`, with what it returns. -/
noncomputable def observeBeliefErrors (modelError baselineError : FloatValue F)
    (learnerUpdate : Option ℤ) : Except Error (Bool × GateBuffers F) :=
  if !cfg.beliefPerformanceGate then .ok (false, g)
  else do
    let next ← g.updateBeliefErrorEma cfg modelError baselineError
    let update := learnerUpdate.getD ((next.focusLearnerUpdateState : ℕ) + 1)
    let next ← next.setFocusLearnerUpdate (some update)
    return (true, next)

/-- What `_focus_credit_target` does to the gate where it uses a learned belief: `credits` makes the
credits of the batch out of the blend, and `pending` are the errors of the batch. -/
noncomputable def focusCreditTarget {γ : Type} (credits : FloatValue F → γ)
    (pending : Option (FloatValue F × FloatValue F)) (updateBeliefEma : Bool) :
    Except Error (γ × GateBuffers F) := do
  let blendSchedule ← g.beliefBlendSchedule cfg
  let performanceGate ← g.beliefPerformanceGate cfg
  let result := credits (blendSchedule.mul performanceGate)
  match pending with
  | none => return (result, g)
  | some (modelError, baselineError) =>
    if updateBeliefEma && cfg.beliefPerformanceGate then
      let next ← g.updateBeliefErrorEma cfg modelError baselineError
      -- the statistics of the batch convert the averages to floats
      let _ ← orTypeError next.beliefModelErrorEma
      let _ ← orTypeError next.beliefBaselineErrorEma
      return (result, next)
    else return (result, g)

end Gate

/-! ## Runtime state -/

/-- A dictionary for `set_focus_runtime_state`. A key that is missing is `none`, as is an average of
`None`. -/
structure RuntimeState (F : Format) where
  learnerUpdate : Option ℤ
  beliefModelErrorEma : Option (FloatValue F)
  beliefBaselineErrorEma : Option (FloatValue F)
  beliefErrorEmaUpdates : Option ℤ

/-- `get_focus_runtime_state`. -/
def getFocusRuntimeState (g : GateBuffers F) : RuntimeState F where
  learnerUpdate := some (g.focusLearnerUpdateState : ℕ)
  beliefModelErrorEma := g.beliefModelErrorEma
  beliefBaselineErrorEma := g.beliefBaselineErrorEma
  beliefErrorEmaUpdates := some (g.beliefErrorEmaUpdatesState : ℕ)

/-- `set_focus_runtime_state`. It sets all the buffers. -/
def setFocusRuntimeState (state : RuntimeState F) : Except Error (GateBuffers F) := do
  let learnerUpdate ← fillCount (state.learnerUpdate.getD 0)
  let updates ← fillCount (state.beliefErrorEmaUpdates.getD 0)
  return {
    focusLearnerUpdateState := learnerUpdate
    beliefModelErrorEmaState := writeEma state.beliefModelErrorEma
    beliefBaselineErrorEmaState := writeEma state.beliefBaselineErrorEma
    beliefErrorEmaUpdatesState := updates }

/-! ## State dictionaries -/

/-- What a buffer of the gate holds. -/
inductive Tensor (F : Format)
  | count (value : Count)
  | number (value : FloatValue F)

/-- The names of the buffers of the gate. -/
inductive BufferName
  | focusLearnerUpdate
  | beliefModelErrorEma
  | beliefBaselineErrorEma
  | beliefErrorEmaUpdates
  deriving DecidableEq

def BufferName.all : List BufferName :=
  [.focusLearnerUpdate, .beliefModelErrorEma, .beliefBaselineErrorEma, .beliefErrorEmaUpdates]

def BufferName.key : BufferName → String
  | focusLearnerUpdate => "_focus_learner_update_state"
  | beliefModelErrorEma => "_belief_model_error_ema_state"
  | beliefBaselineErrorEma => "_belief_baseline_error_ema_state"
  | beliefErrorEmaUpdates => "_belief_error_ema_updates_state"

/-- `getattr(self, name)`. -/
def buffer (g : GateBuffers F) : BufferName → Tensor F
  | .focusLearnerUpdate => .count g.focusLearnerUpdateState
  | .beliefModelErrorEma => .number g.beliefModelErrorEmaState
  | .beliefBaselineErrorEma => .number g.beliefBaselineErrorEmaState
  | .beliefErrorEmaUpdates => .count g.beliefErrorEmaUpdatesState

/-- `state_dict.setdefault(key, value)`. -/
def setDefault {V : Type} (dict : Dicts.Dict String V) (key : String) (value : V) :
    Dicts.Dict String V :=
  match dict.get? key with
  | some _ => dict
  | none => dict.set key value

/-- The loader of PyTorch's modules. A buffer whose key is in the dictionary, with what such a buffer
can hold, gets a copy of it. -/
structure ModuleLoader (F : Format) where
  load : String → Dicts.Dict String (Tensor F) → GateBuffers F → GateBuffers F
  copies : ∀ (keyPrefix : String) (dict : Dicts.Dict String (Tensor F)) (g stored : GateBuffers F)
    (name : BufferName), dict.get? (keyPrefix ++ name.key) = some (stored.buffer name) →
    (load keyPrefix dict g).buffer name = stored.buffer name

def countOr (count : Count) : Option (Tensor F) → Count
  | some (.count value) => value
  | _ => count

def numberOr (number : FloatValue F) : Option (Tensor F) → FloatValue F
  | some (.number value) => value
  | _ => number

/-- A loader that does nothing else. -/
def ModuleLoader.copying (F : Format) : ModuleLoader F where
  load keyPrefix dict g :=
    let stored := fun name : BufferName => dict.get? (keyPrefix ++ name.key)
    { focusLearnerUpdateState := countOr g.focusLearnerUpdateState (stored .focusLearnerUpdate)
      beliefModelErrorEmaState := numberOr g.beliefModelErrorEmaState (stored .beliefModelErrorEma)
      beliefBaselineErrorEmaState :=
        numberOr g.beliefBaselineErrorEmaState (stored .beliefBaselineErrorEma)
      beliefErrorEmaUpdatesState :=
        countOr g.beliefErrorEmaUpdatesState (stored .beliefErrorEmaUpdates) }
  copies keyPrefix dict g stored name h := by
    cases name <;> simp only [buffer, h, countOr, numberOr]

/-- The dictionary that `_load_from_state_dict` hands on to the loader. -/
def fillMissing (keyPrefix : String) (g : GateBuffers F) (dict : Dicts.Dict String (Tensor F)) :
    Dicts.Dict String (Tensor F) :=
  BufferName.all.foldl
    (fun dict name => setDefault dict (keyPrefix ++ name.key) (g.buffer name)) dict

/-- `QPLEXFocusLoss._load_from_state_dict`. -/
def loadFromStateDict (loader : ModuleLoader F) (keyPrefix : String) (g : GateBuffers F)
    (dict : Dicts.Dict String (Tensor F)) : GateBuffers F :=
  loader.load keyPrefix (g.fillMissing keyPrefix dict) g

end GateBuffers

end Mate.Rllib
