import Mate.Library.Nets
import Mathlib.Analysis.Convex.Function

set_option autoImplicit false

/-! # Stacks of layers and long short-term memory

A stack of affine layers with one activation after each may have any depth and any widths, also no
layer at all. An LSTM layer runs along a sequence. What it gives at a step depends on the inputs
up to this step only (`outputAt_congr`).
-/

namespace Nets

/-! ## Stacks -/

/-- Affine layers from columns `ι` to columns `κ`. -/
inductive Layers : Type → Type → Type 1
  | nil {ι : Type} : Layers ι ι
  | cons {ι κ : Type} {width : ℕ} (layer : Linear ι (Fin width)) (rest : Layers (Fin width) κ) :
      Layers ι κ

/-- The activation follows each layer. -/
noncomputable def Layers.apply (activation : ℝ → ℝ) :
    {ι κ : Type} → [Fintype ι] → Layers ι κ → (ι → ℝ) → κ → ℝ
  | _, _, _, .nil, x => x
  | _, _, _, .cons layer rest, x => rest.apply activation (fun k => activation (layer.apply x k))

/-- The layer all of whose outputs are column `i` of its input. -/
def Linear.copyingAll {ι : Type*} [DecidableEq ι] (κ : Type*) (i : ι) : Linear ι κ where
  weight := fun _ i' => if i' = i then 1 else 0
  bias := 0

theorem Linear.copyingAll_apply {ι κ : Type*} [Fintype ι] [DecidableEq ι] (i : ι) (x : ι → ℝ)
    (k : κ) : (Linear.copyingAll κ i).apply x k = x i := by
  simp [Linear.apply, Linear.copyingAll]

/-! ## LSTM -/

/-- The input, forget, cell and output gates, each with a layer for the input and one for the
state. -/
structure LSTMCell (ι κ : Type*) where
  inputInput : Linear ι κ
  inputForget : Linear ι κ
  inputCell : Linear ι κ
  inputOutput : Linear ι κ
  hiddenInput : Linear κ κ
  hiddenForget : Linear κ κ
  hiddenCell : Linear κ κ
  hiddenOutput : Linear κ κ

/-- The hidden and the cell state. -/
abbrev LSTMState (κ : Type*) : Type _ := (κ → ℝ) × (κ → ℝ)

noncomputable def LSTMCell.apply {ι κ : Type*} [Fintype ι] [Fintype κ] (cell : LSTMCell ι κ)
    (x : ι → ℝ) (state : LSTMState κ) : LSTMState κ :=
  let gate := fun input hidden : ℝ => Real.sigmoid (input + hidden)
  let c := fun k =>
    gate (cell.inputForget.apply x k) (cell.hiddenForget.apply state.1 k) * state.2 k
      + gate (cell.inputInput.apply x k) (cell.hiddenInput.apply state.1 k)
        * Real.tanh (cell.inputCell.apply x k + cell.hiddenCell.apply state.1 k)
  let o := fun k => gate (cell.inputOutput.apply x k) (cell.hiddenOutput.apply state.1 k)
  (fun k => o k * Real.tanh (c k), c)

/-! ## Along a sequence -/

section Sequence

variable {ξ σ ο : Type*} (step : ξ → σ → ο × σ)

/-- The output at step `t` of a sequence of inputs. -/
def outputAt (inputs : ℕ → ξ) (s : σ) (t : ℕ) : ο :=
  (step (inputs t) (stateAfter (fun k => step (inputs k)) s t)).1

theorem stateAfter_congr {inputs inputs' : ℕ → ξ} (s : σ) {t : ℕ}
    (h : ∀ k < t, inputs k = inputs' k) :
    stateAfter (fun k => step (inputs k)) s t = stateAfter (fun k => step (inputs' k)) s t := by
  induction t with
  | zero => rfl
  | succ t ih =>
      rw [stateAfter, stateAfter, ih fun k hk => h k (by omega), h t (by omega)]

/-- What comes later does not matter. -/
theorem outputAt_congr {inputs inputs' : ℕ → ξ} (s : σ) {t : ℕ}
    (h : ∀ k ≤ t, inputs k = inputs' k) :
    outputAt step inputs s t = outputAt step inputs' s t := by
  rw [outputAt, outputAt, stateAfter_congr step s fun k hk => h k hk.le, h t le_rfl]

end Sequence

end Nets

/-! # Layers that keep convexity

A column that is a combination of convex columns with weights that are not negative is convex
(`convexOn_combination`), and so is a rectified one (`convexOn_relu`). With negated weights the
combination is concave (`concaveOn_combination`).
-/

namespace Nets

variable {E ι : Type*}

/-- The coordinates of a vector are convex. -/
theorem convexOn_coordinate (i : ι) : ConvexOn ℝ Set.univ (fun x : ι → ℝ => x i) := by
  refine ⟨convex_univ, fun x _ y _ p q _ _ _ => le_of_eq ?_⟩
  simp

variable [Fintype ι] [AddCommGroup E] [Module ℝ E] {s : Set E} {f : ι → E → ℝ} {w : ι → ℝ}

theorem convexOn_relu {g : E → ℝ} (hg : ConvexOn ℝ s g) : ConvexOn ℝ s (fun x => relu (g x)) :=
  hg.sup (convexOn_const 0 hg.1)

theorem convexOn_combination (hs : Convex ℝ s) (hf : ∀ i, ConvexOn ℝ s (f i)) (hw : ∀ i, 0 ≤ w i)
    (b : ℝ) : ConvexOn ℝ s (fun x => ∑ i, f i x * w i + b) := by
  refine ⟨hs, fun x hx y hy p q hp hq hpq => ?_⟩
  have hterm : ∀ i ∈ Finset.univ, f i (p • x + q • y) * w i ≤ p * (f i x * w i) + q * (f i y * w i) := by
    intro i _
    have hmul := mul_le_mul_of_nonneg_right ((hf i).2 hx hy hp hq hpq) (hw i)
    rw [smul_eq_mul, smul_eq_mul] at hmul
    linarith
  calc ∑ i, f i (p • x + q • y) * w i + b
      ≤ ∑ i, (p * (f i x * w i) + q * (f i y * w i)) + (p + q) * b := by
        rw [hpq, one_mul]
        exact add_le_add_left (Finset.sum_le_sum hterm) b
    _ = p • (∑ i, f i x * w i + b) + q • (∑ i, f i y * w i + b) := by
        rw [Finset.sum_add_distrib, ← Finset.mul_sum, ← Finset.mul_sum, smul_eq_mul, smul_eq_mul]
        ring

theorem concaveOn_combination (hs : Convex ℝ s) (hf : ∀ i, ConvexOn ℝ s (f i)) (hw : ∀ i, 0 ≤ w i)
    (b : ℝ) : ConcaveOn ℝ s (fun x => -∑ i, f i x * w i + b) := by
  have hneg := (convexOn_combination hs hf hw (-b)).neg
  refine hneg.congr (fun x _ => ?_)
  show -(∑ i, f i x * w i + -b) = -∑ i, f i x * w i + b
  ring

end Nets
