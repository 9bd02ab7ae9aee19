import Mate.Rllib.SubsetActions
import Mathlib.Analysis.SpecialFunctions.Pow.Real
import Mathlib.Data.List.MinMax

set_option autoImplicit false

/-! # The teacher of the distillation

`compute_greedy_actions` reads the targets that a camera sees out of its observation, at offsets that
are constants, and names the nearest one as a discrete action. Where a camera sees none, the action
of the step before is named again.
-/

namespace Mate.Rllib.Distill

/-! ## Rows -/

def OPP_OBS_START : ℕ := 22

def OPP_STATE_STRIDE : ℕ := 5

/-- Among the five columns of a target. -/
def OPP_MASK_OFFSET : Fin 5 := 4

/-- The columns that the targets end with. -/
def requiredSize (nTargets : ℕ) : ℕ := OPP_OBS_START + nTargets * OPP_STATE_STRIDE

section Rows

variable {obsSize nTargets : ℕ} (obs : Fin obsSize → ℝ) (hsize : requiredSize nTargets ≤ obsSize)

/-- A column of target `t`. -/
def column (t : Fin nTargets) (k : Fin 5) : ℝ :=
  obs ⟨OPP_OBS_START + t * OPP_STATE_STRIDE + k, by
    have ht := t.2
    have hk := k.2
    simp only [requiredSize, OPP_STATE_STRIDE] at hsize hk ⊢
    omega⟩

/-- `pos` of target `t`. -/
def position (t : Fin nTargets) : ℂ := ⟨column obs hsize t 0, column obs hsize t 1⟩

open Classical in
/-- `visible` of target `t`. -/
noncomputable def visible (t : Fin nTargets) : Bool :=
  decide (1 / 2 < column obs hsize t OPP_MASK_OFFSET)

/-- `dist` of target `t`. -/
noncomputable def dist (t : Fin nTargets) : WithTop ℝ :=
  if visible obs hsize t then (‖position obs hsize t‖ : ℝ) else ⊤

/-- `bits`. -/
noncomputable def bits (t : Fin nTargets) : ℤ :=
  let nearest := (List.finRange nTargets).argmin (dist obs hsize)
  let hasVisible := ∃ u, visible obs hsize u = true
  if hasVisible ∧ nearest = some t then 1 else 0

/-- `discrete`. -/
noncomputable def discrete (strides : List ℤ) : ℤ :=
  int64 (MixedRadix.value strides (List.ofFn (bits obs hsize)))

end Rows

/-! ## Sequences -/

/-- One pass of the loop over the steps, for one camera: what is zero is overwritten by what is
before it. -/
def carryStep {T : ℕ} (result : Fin T → ℤ) (k : ℕ) : Fin T → ℤ :=
  if h : k + 1 < T then
    Function.update result ⟨k + 1, h⟩
      (if result ⟨k + 1, h⟩ = 0 then result ⟨k, Nat.lt_of_succ_lt h⟩ else result ⟨k + 1, h⟩)
  else result

/-- `for t in range(1, T)`. -/
def carryForward {T : ℕ} (discrete : Fin T → ℤ) : Fin T → ℤ :=
  (List.range (T - 1)).foldl carryStep discrete

/-- `round(math.log2(m))`. There is no tie: two to the power of half an odd number is no integer. -/
def roundLog2 (m : ℕ) : ℕ :=
  let k := Nat.log2 m
  if 2 ^ (2 * k + 1) < m ^ 2 then k + 1 else k

/-- `torch.tensor(values, dtype=torch.long)`. -/
def torchLong (values : List ℤ) : Except Error (List ℤ) :=
  if ∃ x ∈ values, 2 ^ 63 ≤ x then .error (.runtimeError "Overflow when unpacking long")
  else .ok values

/-- The columns of `obs_flat[:, start : start + 2]`. -/
def sliceWidth (obsSize t : ℕ) : ℕ :=
  let start := OPP_OBS_START + t * OPP_STATE_STRIDE
  min (start + 2) obsSize - min start obsSize

/-- `compute_greedy_actions`. -/
noncomputable def computeGreedyActions {B T C obsSize : ℕ}
    (obs : Fin B → Fin T → Fin C → Fin obsSize → ℝ) (nActions : ℤ) :
    Except Error (Fin B → Fin T → Fin C → ℤ) :=
  if nActions ≤ 0 then .error (.valueError "math domain error")
  else do
    let nTargets := roundLog2 nActions.toNat
    let strides ← torchLong ((List.range nTargets).map (fun t : ℕ => 2 ^ (nTargets - 1 - t)))
    if nTargets = 0 then .error (.runtimeError "stack expects a non-empty TensorList")
    else if ∃ t < nTargets, sliceWidth obsSize t ≠ sliceWidth obsSize 0 then
      .error (.runtimeError "stack expects each tensor to be equal size")
    else if hsize : requiredSize nTargets ≤ obsSize then
      .ok (fun b t c => carryForward (fun s => discrete (obs b s c) hsize strides) t)
    else .error (.indexError "index is out of bounds for dimension 1")

end Mate.Rllib.Distill
