import Mate.Library.Chunks
import Mate.Library.Nets

set_option autoImplicit false

/-! # Log-sum-exp

A softmax is a distribution (`sum_softmax`). The logarithm of its normaliser may be computed chunk by
chunk, from minus infinity on (`expBot_logNorm`), and subtracting it from a logit gives the logarithm
of the softmax (`exp_sub_logNorm`). The cross entropy with a distribution is least at the distribution
itself, and nowhere else (`crossEntropy_log_eq_iff`).
-/

namespace Nets

open Finset Chunks

section Softmax

variable {κ : Type*} [Fintype κ]

theorem sum_exp_pos [Nonempty κ] (logits : κ → ℝ) : 0 < ∑ l, Real.exp (logits l) :=
  sum_pos (fun l _ => Real.exp_pos (logits l)) univ_nonempty

theorem sum_softmax [Nonempty κ] (logits : κ → ℝ) : ∑ k, softmax logits k = 1 := by
  simp only [softmax]
  rw [← sum_div, div_self (sum_exp_pos logits).ne']

/-- The mean of an odd function under the softmax of even logits. -/
theorem sum_softmax_mul_odd (e : Equiv.Perm κ) {logits f : κ → ℝ}
    (hlogits : ∀ k, logits (e k) = logits k) (hf : ∀ k, f (e k) = -f k) :
    ∑ k, softmax logits k * f k = 0 := by
  have hsum : ∑ k, softmax logits k * f k = -∑ k, softmax logits k * f k := by
    calc ∑ k, softmax logits k * f k
        = ∑ k, softmax logits (e k) * f (e k) := (Equiv.sum_comp e _).symm
      _ = ∑ k, -(softmax logits k * f k) := by
          refine sum_congr rfl (fun k _ => ?_)
          rw [hf, softmax, softmax, hlogits, mul_neg]
      _ = -∑ k, softmax logits k * f k := sum_neg_distrib _
  linarith

noncomputable def logsumexp (logits : κ → ℝ) : ℝ := Real.log (∑ l, Real.exp (logits l))

noncomputable def logSoftmax (logits : κ → ℝ) (k : κ) : ℝ := logits k - logsumexp logits

/-- The cross entropy of probabilities and the logarithms of others. -/
def crossEntropy (target prediction : κ → ℝ) : ℝ := -∑ k, target k * prediction k

theorem exp_logsumexp [Nonempty κ] (logits : κ → ℝ) :
    Real.exp (logsumexp logits) = ∑ l, Real.exp (logits l) :=
  Real.exp_log (sum_exp_pos logits)

end Softmax

/-! ## Gibbs' inequality -/

section Gibbs

variable {κ : Type*} [Fintype κ]

/-- One term of the inequality. -/
theorem mul_log_sub_log_le {x y : ℝ} (hx : 0 ≤ x) (hy : 0 < y) :
    x * (Real.log y - Real.log x) ≤ y - x := by
  rcases hx.eq_or_lt with rfl | hx
  · rw [zero_mul, sub_zero]
    exact hy.le
  · have hlog := Real.log_le_sub_one_of_pos (div_pos hy hx)
    rw [Real.log_div hy.ne' hx.ne'] at hlog
    have hmul := mul_le_mul_of_nonneg_left hlog hx.le
    rwa [mul_sub x (y / x), mul_div_cancel₀ y hx.ne', mul_one] at hmul

theorem mul_log_sub_log_eq {x y : ℝ} (hx : 0 ≤ x) (hy : 0 < y)
    (h : x * (Real.log y - Real.log x) = y - x) : x = y := by
  rcases hx.eq_or_lt with rfl | hx
  · rw [zero_mul, sub_zero] at h
    exact absurd h.symm hy.ne'
  · by_contra hne
    have hdiv : y / x ≠ 1 := fun heq => hne ((div_eq_one_iff_eq hx.ne').mp heq).symm
    have hlog := Real.log_lt_sub_one_of_pos (div_pos hy hx) hdiv
    rw [Real.log_div hy.ne' hx.ne'] at hlog
    have hmul := mul_lt_mul_of_pos_left hlog hx
    rw [mul_sub x (y / x), mul_div_cancel₀ y hx.ne', mul_one] at hmul
    exact absurd h hmul.ne

variable {p q : κ → ℝ}

theorem crossEntropy_log_sub :
    crossEntropy p (fun k => Real.log (p k)) - crossEntropy p (fun k => Real.log (q k))
      = ∑ k, p k * (Real.log (q k) - Real.log (p k)) := by
  rw [crossEntropy, crossEntropy, neg_sub_neg, ← sum_sub_distrib]
  exact sum_congr rfl (fun k _ => by rw [mul_sub])

/-- **Gibbs' inequality.** -/
theorem crossEntropy_log_le (hp : ∀ k, 0 ≤ p k) (hq : ∀ k, 0 < q k) (hsum : ∑ k, q k = ∑ k, p k) :
    crossEntropy p (fun k => Real.log (p k)) ≤ crossEntropy p (fun k => Real.log (q k)) := by
  have hle : ∑ k, p k * (Real.log (q k) - Real.log (p k)) ≤ ∑ k, (q k - p k) :=
    sum_le_sum (fun k _ => mul_log_sub_log_le (hp k) (hq k))
  rw [sum_sub_distrib, hsum, sub_self, ← crossEntropy_log_sub] at hle
  linarith

/-- The least cross entropy is reached at the distribution only. -/
theorem crossEntropy_log_eq_iff (hp : ∀ k, 0 ≤ p k) (hq : ∀ k, 0 < q k)
    (hsum : ∑ k, q k = ∑ k, p k) :
    crossEntropy p (fun k => Real.log (q k)) = crossEntropy p (fun k => Real.log (p k)) ↔ p = q := by
  constructor
  · intro h
    have hzero : ∑ k, p k * (Real.log (q k) - Real.log (p k)) = ∑ k, (q k - p k) := by
      rw [← crossEntropy_log_sub, h, sum_sub_distrib, hsum, sub_self, sub_self]
    have hterms := (sum_eq_sum_iff_of_le
      (fun k _ => mul_log_sub_log_le (hp k) (hq k))).mp hzero
    exact funext (fun k => mul_log_sub_log_eq (hp k) (hq k) (hterms k (mem_univ k)))
  · rintro rfl
    rfl

/-- Weights that are not a distribution, and their shares. -/
theorem crossEntropy_log_div (hp : ∀ k, 0 ≤ p k) :
    (∑ l, p l) * crossEntropy (fun k => p k / ∑ l, p l) (fun k => Real.log (q k))
      = crossEntropy p (fun k => Real.log (q k)) := by
  rw [crossEntropy, crossEntropy, mul_neg, mul_sum]
  congr 1
  refine sum_congr rfl (fun k _ => ?_)
  rcases (sum_nonneg (fun l _ => hp l)).eq_or_lt with h | h
  · have hk : p k = 0 := (sum_eq_zero_iff_of_nonneg (fun l _ => hp l)).mp h.symm k (mem_univ k)
    rw [hk, zero_div, zero_mul, mul_zero]
  · rw [← mul_assoc, mul_div_cancel₀ _ h.ne']

/-- Their cross entropy is least at the shares. -/
theorem crossEntropy_shares_le (hp : ∀ k, 0 ≤ p k) (hq : ∀ k, 0 < q k) (hsum : ∑ k, q k = 1) :
    crossEntropy p (fun k => Real.log (p k / ∑ l, p l))
      ≤ crossEntropy p (fun k => Real.log (q k)) := by
  have hnonneg : 0 ≤ ∑ l, p l := sum_nonneg (fun l _ => hp l)
  rcases hnonneg.eq_or_lt with h | h
  · have hzero : ∀ k, p k = 0 := fun k =>
      (sum_eq_zero_iff_of_nonneg (fun l _ => hp l)).mp h.symm k (mem_univ k)
    simp only [crossEntropy, hzero, zero_mul, sum_const_zero, neg_zero, le_refl]
  · rw [← crossEntropy_log_div hp, ← crossEntropy_log_div (q := q) hp]
    refine mul_le_mul_of_nonneg_left ?_ hnonneg
    refine crossEntropy_log_le (fun k => div_nonneg (hp k) hnonneg) hq ?_
    rw [hsum, ← sum_div, div_self h.ne']

theorem crossEntropy_shares_eq_iff (hp : ∀ k, 0 ≤ p k) (hq : ∀ k, 0 < q k)
    (hsum : ∑ k, q k = 1) :
    crossEntropy p (fun k => Real.log (q k)) = crossEntropy p (fun k => Real.log (p k / ∑ l, p l))
      ↔ ∀ k, p k = q k * ∑ l, p l := by
  have hnonneg : 0 ≤ ∑ l, p l := sum_nonneg (fun l _ => hp l)
  rcases hnonneg.eq_or_lt with h | h
  · have hzero : ∀ k, p k = 0 := fun k =>
      (sum_eq_zero_iff_of_nonneg (fun l _ => hp l)).mp h.symm k (mem_univ k)
    simp only [crossEntropy, hzero, zero_mul, sum_const_zero, mul_zero, implies_true]
  · have hshares : ∑ k, q k = ∑ k, p k / ∑ l, p l := by
      rw [hsum, ← sum_div, div_self h.ne']
    rw [← crossEntropy_log_div hp, ← crossEntropy_log_div (q := fun k => p k / ∑ l, p l) hp,
      mul_right_inj' h.ne',
      crossEntropy_log_eq_iff (fun k => div_nonneg (hp k) hnonneg) hq hshares]
    constructor
    · intro hfun k
      rw [← congrFun hfun k, div_mul_cancel₀ _ h.ne']
    · intro hall
      exact funext (fun k => by rw [hall k, mul_div_cancel_right₀ _ h.ne'])

/-- The entropy of shares, weighted by them, is not negative. -/
theorem crossEntropy_shares_nonneg (hp : ∀ k, 0 ≤ p k) :
    0 ≤ crossEntropy p (fun k => Real.log (p k / ∑ l, p l)) := by
  have hnonneg : 0 ≤ ∑ l, p l := sum_nonneg (fun l _ => hp l)
  refine neg_nonneg.mpr (sum_nonpos (fun k _ => mul_nonpos_of_nonneg_of_nonpos (hp k) ?_))
  exact Real.log_nonpos (div_nonneg (hp k) hnonneg)
    (div_le_one_of_le₀ (single_le_sum (fun l _ => hp l) (mem_univ k)) hnonneg)

theorem logSoftmax_eq_log (logits : κ → ℝ) (k : κ) :
    logSoftmax logits k = Real.log (softmax logits k) := by
  have : Nonempty κ := ⟨k⟩
  rw [softmax, Real.log_div (Real.exp_pos _).ne' (sum_exp_pos logits).ne', Real.log_exp]
  rfl

end Gibbs

/-! ## Minus infinity -/

/-- `logaddexp` of a number that may be minus infinity and one that is not. -/
noncomputable def logaddexp : WithBot ℝ → ℝ → WithBot ℝ
  | ⊥, y => y
  | (x : ℝ), y => (Real.log (Real.exp x + Real.exp y) : ℝ)

noncomputable def expBot : WithBot ℝ → ℝ
  | ⊥ => 0
  | (x : ℝ) => Real.exp x

theorem expBot_logaddexp (x : WithBot ℝ) (y : ℝ) :
    expBot (logaddexp x y) = expBot x + Real.exp y := by
  induction x using WithBot.recBotCoe with
  | bot => exact (zero_add _).symm
  | coe x => exact Real.exp_log (add_pos (Real.exp_pos x) (Real.exp_pos y))

/-! ## Chunk by chunk -/

variable {n size : ℕ}

/-- The log-sum-exp of a vector, chunk by chunk. -/
noncomputable def logNorm (logits : Fin n → ℝ) (size : ℕ) : WithBot ℝ :=
  (List.range (count n size)).foldl
    (fun acc c => logaddexp acc (logsumexp (slice logits (c * size) (c * size + size)))) ⊥

theorem expBot_logNorm (hsize : 0 < size) (logits : Fin n → ℝ) :
    expBot (logNorm logits size) = ∑ k, Real.exp (logits k) := by
  have key : ∀ c ≤ count n size,
      expBot ((List.range c).foldl
          (fun acc c => logaddexp acc (logsumexp (slice logits (c * size) (c * size + size)))) ⊥)
        = ∑ j ∈ range c, ∑ k, slice (fun k => Real.exp (logits k)) (j * size) (j * size + size) k := by
    intro c
    induction c with
    | zero => exact fun _ => rfl
    | succ c ih =>
        intro hc
        have hne : Nonempty (Fin (min (c * size + size) n - c * size)) :=
          ⟨⟨0, slice_card_pos hsize hc⟩⟩
        rw [List.range_succ, List.foldl_append, List.foldl_cons, List.foldl_nil, expBot_logaddexp,
          ih (Nat.le_of_succ_le hc), exp_logsumexp, sum_range_succ]
        rfl
  rw [logNorm, key _ le_rfl]
  exact sum_slices hsize (fun k => Real.exp (logits k))

/-- **The softmax by the normaliser computed chunk by chunk.** -/
theorem exp_sub_logNorm (hsize : 0 < size) (logits : Fin n → ℝ) (k : Fin n) :
    Real.exp (logits k - (logNorm logits size).unbotD 0) = softmax logits k := by
  have hne : Nonempty (Fin n) := ⟨k⟩
  have hpos := sum_exp_pos logits
  have hexp := expBot_logNorm hsize logits
  cases h : logNorm logits size using WithBot.recBotCoe with
  | bot =>
      -- the normaliser of a vector with an entry is a number
      rw [h] at hexp
      rw [← hexp] at hpos
      exact absurd hpos (lt_irrefl 0)
  | coe x =>
      rw [h] at hexp
      rw [WithBot.unbotD_coe, Real.exp_sub, softmax, ← hexp]
      rfl

end Nets
