import Mate.Library.Numerals
import Mathlib.Analysis.SpecialFunctions.Sigmoid
import Mathlib.Analysis.SpecialFunctions.Trigonometric.DerivHyp
import Mathlib.Data.List.MinMax
import Mathlib.Data.Matrix.Mul

set_option autoImplicit false

/-! # Layers of neural networks

Layers over the reals: affine maps (`Linear`), the gated recurrent cell (`GRUCell`), one-hot
rows, and the choice of the first largest score (`argmax`). Columns are indexed by any finite
type, so an input that is put together from several pieces is a function on a sum of types.
`Linear.reading` and `GRUCell.copying` are parameters with a known behaviour: a cell that reads
one column of its input, and a layer that moves between two given values (`reading_copying`).
-/

namespace Nets

variable {ι κ : Type*}

/-! ## Layers -/

structure Linear (ι κ : Type*) where
  weight : Matrix κ ι ℝ
  bias : κ → ℝ

noncomputable def Linear.apply [Fintype ι] (layer : Linear ι κ) (x : ι → ℝ) : κ → ℝ :=
  fun k => ∑ i, layer.weight k i * x i + layer.bias k

noncomputable def relu (x : ℝ) : ℝ := max x 0

/-- The three gates of the cell, each with a layer for the input and one for the state. -/
structure GRUCell (ι κ : Type*) where
  inputReset : Linear ι κ
  inputUpdate : Linear ι κ
  inputNew : Linear ι κ
  hiddenReset : Linear κ κ
  hiddenUpdate : Linear κ κ
  hiddenNew : Linear κ κ

noncomputable def GRUCell.apply [Fintype ι] [Fintype κ] (cell : GRUCell ι κ) (x : ι → ℝ)
    (h : κ → ℝ) : κ → ℝ := fun k =>
  let r := Real.sigmoid (cell.inputReset.apply x k + cell.hiddenReset.apply h k)
  let z := Real.sigmoid (cell.inputUpdate.apply x k + cell.hiddenUpdate.apply h k)
  let n := Real.tanh (cell.inputNew.apply x k + r * cell.hiddenNew.apply h k)
  (1 - z) * n + z * h k

noncomputable def elu (x : ℝ) : ℝ := if 0 < x then x else Real.exp x - 1

noncomputable def softplus (x : ℝ) : ℝ := Real.log (1 + Real.exp x)

noncomputable def logsigmoid (x : ℝ) : ℝ := Real.log (Real.sigmoid x)

theorem relu_zero : relu 0 = 0 := max_self 0

theorem relu_of_pos {x : ℝ} (hx : 0 < x) : relu x = x := max_eq_left hx.le

theorem elu_zero : elu 0 = 0 := by
  rw [elu, if_neg (lt_irrefl 0), Real.exp_zero, sub_self]

theorem elu_of_pos {x : ℝ} (hx : 0 < x) : elu x = x := if_pos hx

theorem elu_monotone : Monotone elu := by
  intro x y hxy
  unfold elu
  by_cases hx : 0 < x
  · rw [if_pos hx, if_pos (hx.trans_le hxy)]
    exact hxy
  · have hexp := Real.exp_le_exp.mpr (not_lt.mp hx)
    rw [Real.exp_zero] at hexp
    rw [if_neg hx]
    split
    · linarith
    · have := Real.exp_le_exp.mpr hxy
      linarith

/-- It rises at most as fast as its argument. -/
theorem elu_sub_le {x y : ℝ} (h : x ≤ y) : elu y - elu x ≤ y - x := by
  unfold elu
  by_cases hx : 0 < x
  · rw [if_pos hx, if_pos (hx.trans_le h)]
  · rw [if_neg hx]
    by_cases hy : 0 < y
    · rw [if_pos hy]
      linarith [Real.add_one_le_exp x]
    · rw [if_neg hy]
      -- the exponential of a difference that is not positive
      have hexp := Real.add_one_le_exp (x - y)
      have hle : Real.exp y ≤ 1 := Real.exp_le_one_iff.mpr (not_lt.mp hy)
      have hsplit : Real.exp x = Real.exp y * Real.exp (x - y) := by
        rw [← Real.exp_add, add_sub_cancel]
      have hpos := Real.exp_pos y
      nlinarith [mul_le_mul_of_nonneg_left hexp hpos.le]

/-- An affine layer with a rectifier, a recurrent cell and an affine layer. -/
structure Recurrent (ι κ ν : Type*) where
  fc1 : Linear ι κ
  rnn : GRUCell κ κ
  fc2 : Linear κ ν

/-- The output and the next hidden state. -/
noncomputable def Recurrent.step {ν : Type*} [Fintype ι] [Fintype κ] (net : Recurrent ι κ ν)
    (x : ι → ℝ) (h : κ → ℝ) : (ν → ℝ) × (κ → ℝ) :=
  let next := net.rnn.apply (fun k => relu (net.fc1.apply x k)) h
  (net.fc2.apply next, next)

/-- Two affine layers with a rectifier in between. -/
structure TwoLayer (ι : Type*) (hidden : ℕ) (κ : Type*) where
  fc1 : Linear ι (Fin hidden)
  fc2 : Linear (Fin hidden) κ

noncomputable def TwoLayer.apply [Fintype ι] {hidden : ℕ} (net : TwoLayer ι hidden κ)
    (x : ι → ℝ) : κ → ℝ :=
  net.fc2.apply (fun k => relu (net.fc1.apply x k))

noncomputable def softmax [Fintype ι] (x : ι → ℝ) : ι → ℝ :=
  fun i => Real.exp (x i) / ∑ j, Real.exp (x j)

theorem softmax_pos [Fintype ι] (x : ι → ℝ) (i : ι) : 0 < softmax x i :=
  div_pos (Real.exp_pos _) (Finset.sum_pos (fun _ _ => Real.exp_pos _) ⟨i, Finset.mem_univ i⟩)

theorem zero_lt_tanh_add_one (x : ℝ) : 0 < Real.tanh x + 1 := by
  have h := Real.neg_one_lt_tanh x
  linarith

/-! ## Attention -/

/-- `nn.LayerNorm`: columns are centred, scaled to variance one and mapped affinely. -/
structure LayerNorm (d : ℕ) where
  weight : Fin d → ℝ
  bias : Fin d → ℝ

noncomputable def mean {d : ℕ} (x : Fin d → ℝ) : ℝ := (∑ k, x k) / d

theorem mean_add {d : ℕ} (x y : Fin d → ℝ) : mean (fun k => x k + y k) = mean x + mean y := by
  rw [mean, Finset.sum_add_distrib, add_div, mean, mean]

theorem mean_sub {d : ℕ} (x y : Fin d → ℝ) : mean (fun k => x k - y k) = mean x - mean y := by
  rw [mean, Finset.sum_sub_distrib, sub_div, mean, mean]

theorem mean_mul_left {d : ℕ} (c : ℝ) (x : Fin d → ℝ) : mean (fun k => c * x k) = c * mean x := by
  rw [mean, ← Finset.mul_sum, mul_div_assoc, mean]

theorem mean_sum {d : ℕ} [Fintype ι] (x : ι → Fin d → ℝ) :
    mean (fun k => ∑ i, x i k) = ∑ i, mean (x i) := by
  simp only [mean]
  rw [Finset.sum_comm, Finset.sum_div]

noncomputable def LayerNorm.apply {d : ℕ} (norm : LayerNorm d) (x : Fin d → ℝ) : Fin d → ℝ :=
  fun k =>
    let variance := mean (fun l => (x l - mean x) ^ 2)
    (x k - mean x) / Real.sqrt (variance + 1e-5) * norm.weight k + norm.bias k

section Peak

variable {d : ℕ} (k₀ : Fin d)

/-- A row with one value at `k₀` and another one elsewhere, the first one not zero. -/
def Peaked (x : Fin d → ℝ) : Prop :=
  ∃ p q, p ≠ 0 ∧ p ≠ q ∧ x = fun k => if k = k₀ then p else q

variable {k₀}

theorem Peaked.apply_ne_zero {x : Fin d → ℝ} (h : Peaked k₀ x) : x k₀ ≠ 0 := by
  obtain ⟨p, q, hp, -, rfl⟩ := h
  show (if k₀ = k₀ then p else q) ≠ 0
  rwa [if_pos rfl]

theorem mean_peaked (p q : ℝ) :
    mean (fun k => if k = k₀ then p else q) = (p + (d - 1) * q) / d := by
  have hterm : ∀ k, (if k = k₀ then p else q) = q + if k = k₀ then p - q else 0 := by
    intro k
    split
    · ring
    · rw [add_zero]
  unfold mean
  simp only [hterm]
  rw [Finset.sum_add_distrib, Finset.sum_const, Finset.card_univ, Fintype.card_fin,
    Finset.sum_ite_eq' Finset.univ k₀ (fun _ => p - q), if_pos (Finset.mem_univ _), nsmul_eq_mul]
  ring

/-- Centring and scaling keep a peak, where there is more than one column. -/
theorem LayerNorm.apply_peaked (hd : 2 ≤ d) {x : Fin d → ℝ} (h : Peaked k₀ x) :
    Peaked k₀ (LayerNorm.apply (⟨1, 0⟩ : LayerNorm d) x) := by
  obtain ⟨p, q, -, hpq, rfl⟩ := h
  let m := mean (fun k => if k = k₀ then p else q)
  let s := Real.sqrt (mean (fun l => ((if l = k₀ then p else q) - m) ^ 2) + 1e-5)
  have hd' : (2 : ℝ) ≤ d := by exact_mod_cast hd
  have hs : 0 < s := by
    apply Real.sqrt_pos.mpr
    have hsum : 0 ≤ mean (fun l : Fin d => ((if l = k₀ then p else q) - m) ^ 2) :=
      div_nonneg (Finset.sum_nonneg fun _ _ => sq_nonneg _) (by linarith)
    linarith
  have hpm : p - m ≠ 0 := by
    have hm : m = (p + (d - 1) * q) / d := mean_peaked p q
    have heq : p - m = (d - 1) * (p - q) / d := by
      rw [hm]
      field_simp
      ring
    rw [heq]
    have hd1 : (d : ℝ) - 1 ≠ 0 := by linarith
    have hd0 : (d : ℝ) ≠ 0 := by linarith
    exact div_ne_zero (mul_ne_zero hd1 (sub_ne_zero.mpr hpq)) hd0
  refine ⟨(p - m) / s, (q - m) / s, div_ne_zero hpm hs.ne', ?_, ?_⟩
  · intro h
    have := (div_left_inj' hs.ne').mp h
    exact hpq (by linarith)
  · funext k
    show ((if k = k₀ then p else q) - m) / s * 1 + 0 = _
    rw [mul_one, add_zero]
    split <;> rfl

theorem LayerNorm.apply_zero :
    LayerNorm.apply (⟨1, 0⟩ : LayerNorm d) (fun _ => 0) = fun _ => 0 := by
  funext k
  unfold LayerNorm.apply mean
  simp

/-- A single column is centred to zero, so only the bias is left. -/
theorem LayerNorm.apply_of_one (hd : d = 1) (norm : LayerNorm d) (x : Fin d → ℝ) :
    norm.apply x = norm.bias := by
  subst hd
  funext k
  have hk : x k - mean x = 0 := by
    unfold mean
    rw [Fin.sum_univ_one, Subsingleton.elim k 0]
    simp
  unfold LayerNorm.apply
  dsimp only
  rw [hk, zero_div, zero_mul, zero_add]

end Peak

/-- Scaled dot-product attention of a query to tokens `τ`. Columns `headDim * h` to
`headDim * (h + 1)` belong to head `h`. -/
noncomputable def attend {τ : Type*} [Fintype τ] {d : ℕ} (headDim : ℕ) (query : Fin d → ℝ)
    (keys values : τ → Fin d → ℝ) : Fin d → ℝ :=
  fun c =>
    let logits := fun j => ∑ c' : Fin d,
      if c'.val / headDim = c.val / headDim then query c' * keys j c' else 0
    let attn := softmax (fun j => logits j / Real.sqrt headDim)
    ∑ j, attn j * values j c

/-! ## Unrolling -/

section Unroll

variable {ξ σ ο : Type*} (step : ξ → σ → ο × σ)

/-- The outputs along a sequence of inputs. -/
def unroll : σ → List ξ → List ο
  | _, [] => []
  | s, x :: rest => (step x s).1 :: unroll (step x s).2 rest

/-- What comes later does not change what was computed before. -/
theorem take_unroll (s : σ) (k : ℕ) (xs : List ξ) :
    (unroll step s xs).take k = unroll step s (xs.take k) := by
  induction xs generalizing s k with
  | nil => rw [unroll, List.take_nil, List.take_nil, unroll]
  | cons x rest ih =>
      cases k with
      | zero => rfl
      | succ k => rw [unroll, List.take_succ_cons, ih, List.take_succ_cons, unroll]

/-- The state after the first `k` of a numbered sequence of steps. -/
def stateAfter (numbered : ℕ → σ → ο × σ) (s : σ) : ℕ → σ
  | 0 => s
  | k + 1 => (numbered k (stateAfter numbered s k)).2

theorem unroll_range (numbered : ℕ → σ → ο × σ) (s : σ) (n : ℕ) :
    unroll numbered s (List.range n)
      = (List.range n).map (fun k => (numbered k (stateAfter numbered s k)).1) := by
  -- the steps from any number on, from the state that is reached there
  have hfrom : ∀ m start, unroll numbered (stateAfter numbered s start) (List.range' start m)
      = (List.range' start m).map (fun k => (numbered k (stateAfter numbered s k)).1) := by
    intro m
    induction m with
    | zero => exact fun _ => rfl
    | succ m ih =>
        intro start
        rw [List.range'_succ, unroll, List.map_cons, ← ih (start + 1)]
        rfl
  rw [List.range_eq_range']
  exact hfrom n 0

/-- With only one state, sequences that agree up to `k` give the same outputs up to `k`, from
wherever they start. -/
theorem getElem?_unroll_of_subsingleton [Subsingleton σ] (s s' : σ) {xs ys : List ξ} {k : ℕ}
    (h : xs.take k = ys.take k) {t : ℕ} (ht : t < k) :
    (unroll step s xs)[t]? = (unroll step s' ys)[t]? := by
  have htake : (unroll step s xs).take k = (unroll step s' ys).take k := by
    rw [take_unroll, take_unroll, h, Subsingleton.elim s s']
  have hget := congrArg (fun l => l[t]?) htake
  rwa [List.getElem?_take_of_lt ht, List.getElem?_take_of_lt ht] at hget

end Unroll

def oneHot {n : ℕ} (k : Fin n) : Fin n → ℝ := fun j => if j = k then 1 else 0

/-! ## Greedy choice -/

section Argmax

variable {β : Type*} [LinearOrder β] {n : ℕ}

/-- The first index of a largest value. -/
def argmax (hn : 0 < n) (f : Fin n → β) : Fin n :=
  ((List.finRange n).argmax f).get (by
    rw [Option.isSome_iff_ne_none, ne_eq, List.argmax_eq_none]
    intro h
    have := congrArg List.length h
    rw [List.length_finRange, List.length_nil] at this
    omega)

theorem argmax_mem (hn : 0 < n) (f : Fin n → β) :
    argmax hn f ∈ (List.finRange n).argmax f :=
  Option.get_mem _

theorem le_argmax (hn : 0 < n) (f : Fin n → β) (k : Fin n) : f k ≤ f (argmax hn f) :=
  List.le_of_mem_argmax (List.mem_finRange k) (argmax_mem hn f)

/-- The choice depends on the order of the values only. -/
theorem argmax_comp_strictMono {γ : Type*} [LinearOrder γ] {g : β → γ} (hg : StrictMono g)
    (hn : 0 < n) (f : Fin n → β) : argmax hn (fun k => g (f k)) = argmax hn f := by
  have hmem : argmax hn f ∈ (List.finRange n).argmax (fun k => g (f k)) := by
    have hf := List.mem_argmax_iff.mp (argmax_mem hn f)
    refine List.mem_argmax_iff.mpr ⟨hf.1, fun k hk => hg.monotone (hf.2.1 k hk), fun k hk h => ?_⟩
    exact hf.2.2 k hk (hg.le_iff_le.mp h)
  exact Option.mem_unique (argmax_mem hn _) hmem

theorem argmax_oneHot (hn : 0 < n) (k : Fin n) : argmax hn (oneHot k) = k := by
  have hle := le_argmax hn (oneHot k) k
  by_contra hne
  rw [oneHot, oneHot, if_neg hne, if_pos rfl] at hle
  exact absurd hle (not_le.mpr one_pos)

end Argmax

/-! ## Parameters with a known behaviour -/

section Probe

variable [Fintype ι]

theorem Linear.apply_bias {layer : Linear ι κ} (h : layer.weight = 0) (x : ι → ℝ) :
    layer.apply x = layer.bias := by
  funext k
  rw [Linear.apply, h]
  simp

variable [DecidableEq ι] [DecidableEq κ]

/-- The layer whose output `k` is column `i` of its input, all others being zero. -/
def Linear.reading (i : ι) (k : κ) : Linear ι κ where
  weight := fun k' i' => if k' = k ∧ i' = i then 1 else 0
  bias := 0

theorem Linear.reading_apply (i : ι) (k : κ) (x : ι → ℝ) :
    (Linear.reading i k).apply x = fun k' => if k' = k then x i else 0 := by
  funext k'
  by_cases hk : k' = k
  · subst hk
    simp [Linear.apply, Linear.reading]
  · simp [Linear.apply, Linear.reading, hk]

theorem Linear.reading_apply_self (i : ι) (k : κ) (x : ι → ℝ) :
    (Linear.reading i k).apply x k = x i := by
  rw [Linear.reading_apply]
  exact if_pos rfl

/-- The cell whose state `k` takes in half of `tanh` of its input `i`. -/
def GRUCell.copying (i : ι) (k : κ) : GRUCell ι κ where
  inputReset := ⟨0, 0⟩
  inputUpdate := ⟨0, 0⟩
  inputNew := Linear.reading i k
  hiddenReset := ⟨0, 0⟩
  hiddenUpdate := ⟨0, 0⟩
  hiddenNew := ⟨0, 0⟩

omit [DecidableEq ι] [DecidableEq κ] in
theorem Linear.zero_apply (x : ι → ℝ) : Linear.apply (⟨0, 0⟩ : Linear ι κ) x = 0 :=
  Linear.apply_bias rfl x

variable [Fintype κ]

theorem GRUCell.copying_apply (i : ι) (k : κ) (x : ι → ℝ) :
    (GRUCell.copying i k).apply x 0 = fun k' => if k' = k then Real.tanh (x i) / 2 else 0 := by
  funext k'
  rw [GRUCell.apply, GRUCell.copying]
  simp only [Linear.zero_apply, Linear.reading_apply, Pi.zero_apply, add_zero, mul_zero,
    Real.sigmoid_zero]
  split
  · ring
  · rw [Real.tanh_zero, mul_zero]

/-- A state of zeros that copies a zero stays as it is. -/
theorem GRUCell.copying_apply_zero {i : ι} (k : κ) {x : ι → ℝ} (hx : x i = 0) :
    (GRUCell.copying i k).apply x 0 = 0 := by
  rw [GRUCell.copying_apply, hx]
  funext k'
  simp

/-- The cell whose states all move half of the way to `tanh 1`, whatever its input. -/
def GRUCell.counting : GRUCell ι κ where
  inputReset := ⟨0, 0⟩
  inputUpdate := ⟨0, 0⟩
  inputNew := ⟨0, 1⟩
  hiddenReset := ⟨0, 0⟩
  hiddenUpdate := ⟨0, 0⟩
  hiddenNew := ⟨0, 0⟩

omit [DecidableEq ι] [DecidableEq κ] in
theorem GRUCell.counting_apply (x : ι → ℝ) (h : κ → ℝ) (k : κ) :
    (GRUCell.counting : GRUCell ι κ).apply x h k = (Real.tanh 1 + h k) / 2 := by
  have hnew : Linear.apply (⟨0, 1⟩ : Linear ι κ) x = 1 := Linear.apply_bias rfl x
  rw [GRUCell.apply, GRUCell.counting]
  simp only [Linear.zero_apply, hnew, Pi.zero_apply, Pi.one_apply, add_zero, mul_zero,
    Real.sigmoid_zero]
  ring

theorem tanh_pos {x : ℝ} (hx : 0 < x) : 0 < Real.tanh x := by
  rw [Real.tanh_eq_sinh_div_cosh]
  exact div_pos (Real.sinh_pos_iff.mpr hx) (Real.cosh_pos x)

theorem tanh_one_ne_zero : Real.tanh 1 ≠ 0 := (tanh_pos one_pos).ne'

/-- The layer that gives `o` on the zero state, and `o'` on the state a cell that copies into `k`
has after the input `1`. -/
noncomputable def Linear.between (k : κ) {ν : Type*} (o o' : ν → ℝ) : Linear κ ν where
  weight := fun j k' => if k' = k then 2 * (o' j - o j) / Real.tanh 1 else 0
  bias := o

theorem Linear.between_apply (k : κ) {ν : Type*} (o o' : ν → ℝ) (x : ℝ) :
    (Linear.between k o o').apply (fun k' => if k' = k then Real.tanh x / 2 else 0)
      = fun j => Real.tanh x / Real.tanh 1 * (o' j - o j) + o j := by
  funext j
  simp only [Linear.apply, Linear.between, ite_mul, zero_mul, mul_ite, mul_zero,
    Finset.sum_ite_eq', Finset.mem_univ, if_true]
  ring

end Probe

end Nets
