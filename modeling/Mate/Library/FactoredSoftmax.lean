import Mate.Library.LogSumExp

set_option autoImplicit false

/-! # Softmax of a sum over coordinates

A choice `a` takes one of finitely many values at each of finitely many coordinates. Weights that are
a product over the coordinates are those of independent choices: the mean of a sum of terms, one for
each coordinate, is the sum of their means (`sum_product_mul_total`), and so is the variance
(`sum_product_mul_total_sq`). The softmax of such a sum is a product (`softmax_total`), hence the
cross entropy of two of them is a sum of cross entropies (`crossEntropy_total`). With two values at a
coordinate the softmax is a sigmoid (`crossEntropy_two`).
-/

namespace Factored

open Finset Nets

variable {ι κ : Type*} [Fintype ι] [DecidableEq ι] [Fintype κ]

/-- The sum over the coordinates of a choice. -/
def total (g : ι → κ → ℝ) (a : ι → κ) : ℝ := ∑ j, g j (a j)

/-- The weight of a choice whose coordinates are independent. -/
def product (w : ι → κ → ℝ) (a : ι → κ) : ℝ := ∏ j, w j (a j)

/-! ## Independent choices -/

theorem sum_product (w : ι → κ → ℝ) : ∑ a, product w a = ∏ j, ∑ b, w j b := by
  rw [prod_univ_sum, Fintype.piFinset_univ]
  rfl

/-- Terms of two coordinates are not correlated. -/
theorem sum_product_mul_mul {w : ι → κ → ℝ} {k l : ι} (hkl : k ≠ l) {f : κ → ℝ}
    (hf : ∑ b, w k b * f b = 0) (g : κ → ℝ) : ∑ a, product w a * (f (a k) * g (a l)) = 0 := by
  have hterm : ∀ a, product w a * (f (a k) * g (a l))
      = product (fun j b => w j b * ((if j = k then f b else 1) * if j = l then g b else 1)) a := by
    intro a
    simp only [product, prod_mul_distrib, prod_ite_eq', mem_univ, if_true]
  rw [sum_congr rfl (fun a _ => hterm a), sum_product]
  refine prod_eq_zero (mem_univ k) ?_
  simp only [if_true, if_neg hkl, mul_one]
  exact hf

section Independent

variable {w : ι → κ → ℝ} (hw : ∀ j, ∑ b, w j b = 1)

include hw

/-- One coordinate has the weights it is given. -/
theorem sum_product_mul (k : ι) (f : κ → ℝ) :
    ∑ a, product w a * f (a k) = ∑ b, w k b * f b := by
  have hterm : ∀ a, product w a * f (a k)
      = product (fun j b => w j b * if j = k then f b else 1) a := by
    intro a
    simp only [product, prod_mul_distrib, prod_ite_eq', mem_univ, if_true]
  have hone : ∀ j ≠ k, ∑ b, w j b * (if j = k then f b else 1) = 1 := by
    intro j hj
    simp only [if_neg hj, mul_one, hw]
  rw [sum_congr rfl (fun a _ => hterm a), sum_product,
    Fintype.prod_eq_single k hone]
  simp only [if_true]

/-- The mean of a sum is the sum of the means. -/
theorem sum_product_mul_total (g : ι → κ → ℝ) :
    ∑ a, product w a * total g a = ∑ j, ∑ b, w j b * g j b := by
  calc ∑ a, product w a * total g a
      = ∑ a, ∑ j, product w a * g j (a j) := sum_congr rfl (fun a _ => mul_sum _ _ _)
    _ = ∑ j, ∑ a, product w a * g j (a j) := sum_comm
    _ = ∑ j, ∑ b, w j b * g j b := sum_congr rfl (fun j _ => sum_product_mul hw j (g j))

/-- The variance of a sum is the sum of the variances. -/
theorem sum_product_mul_total_sq {g : ι → κ → ℝ} (hg : ∀ j, ∑ b, w j b * g j b = 0) :
    ∑ a, product w a * total g a ^ 2 = ∑ j, ∑ b, w j b * g j b ^ 2 := by
  have hsquare : ∀ a, product w a * total g a ^ 2
      = ∑ j, ∑ l, product w a * (g j (a j) * g l (a l)) := by
    intro a
    rw [total, sq, sum_mul_sum, mul_sum]
    exact sum_congr rfl (fun j _ => mul_sum _ _ _)
  rw [sum_congr rfl (fun a _ => hsquare a), sum_comm]
  refine sum_congr rfl (fun j _ => ?_)
  rw [sum_comm, Fintype.sum_eq_single j (fun l hl => sum_product_mul_mul hl.symm (hg j) (g l))]
  simp only [← sq]
  exact sum_product_mul hw j (fun b => g j b ^ 2)

end Independent

/-! ## Softmax -/

section Softmax

theorem sum_exp_total (u : ι → κ → ℝ) :
    ∑ a, Real.exp (total u a) = ∏ j, ∑ b, Real.exp (u j b) := by
  rw [← sum_product]
  exact sum_congr rfl (fun a _ => Real.exp_sum _ _)

/-- The softmax of a sum is a product. -/
theorem softmax_total (u : ι → κ → ℝ) (a : ι → κ) :
    softmax (total u) a = product (fun j => softmax (u j)) a := by
  rw [softmax, sum_exp_total, total, Real.exp_sum, ← prod_div_distrib]
  rfl

variable [Nonempty κ]

/-- The logarithm of the softmax of a sum is a sum. -/
theorem logSoftmax_total (v : ι → κ → ℝ) (a : ι → κ) :
    logSoftmax (total v) a = total (fun j => logSoftmax (v j)) a := by
  have hlog : logsumexp (total v) = ∑ j, logsumexp (v j) := by
    rw [logsumexp, sum_exp_total, Real.log_prod (fun j _ => (sum_exp_pos (v j)).ne')]
    rfl
  rw [logSoftmax, hlog, total, ← sum_sub_distrib]
  rfl

/-- **The cross entropy of two sums** is the sum of the cross entropies of their terms. -/
theorem crossEntropy_total (u v : ι → κ → ℝ) :
    crossEntropy (softmax (total u)) (logSoftmax (total v))
      = ∑ j, crossEntropy (softmax (u j)) (logSoftmax (v j)) := by
  have hterm : ∀ a, softmax (total u) a * logSoftmax (total v) a
      = product (fun j => softmax (u j)) a * total (fun j => logSoftmax (v j)) a := by
    intro a
    rw [softmax_total, logSoftmax_total]
  rw [crossEntropy, sum_congr rfl (fun a _ => hterm a),
    sum_product_mul_total (fun j => sum_softmax (u j)), ← sum_neg_distrib]
  rfl

end Softmax

/-! ## Two values -/

theorem softmax_two (u : Fin 2 → ℝ) : softmax u 1 = Real.sigmoid (u 1 - u 0) := by
  rw [softmax, Fin.sum_univ_two, Real.sigmoid_def, neg_sub, Real.exp_sub]
  have := Real.exp_pos (u 1)
  field_simp
  ring

/-- The cross entropy of two values, by sigmoids. -/
theorem crossEntropy_two (u v : Fin 2 → ℝ) :
    crossEntropy (softmax u) (logSoftmax v)
      = -(Real.sigmoid (u 1 - u 0) * logsigmoid (v 1 - v 0)
          + (1 - Real.sigmoid (u 1 - u 0)) * logsigmoid (-(v 1 - v 0))) := by
  have hzero : ∀ x : Fin 2 → ℝ, softmax x 0 = 1 - Real.sigmoid (x 1 - x 0) := by
    intro x
    have hsum := sum_softmax x
    rw [Fin.sum_univ_two, softmax_two] at hsum
    linarith
  rw [crossEntropy, Fin.sum_univ_two, logSoftmax_eq_log, logSoftmax_eq_log, softmax_two,
    softmax_two, hzero, hzero, ← Real.sigmoid_neg (v 1 - v 0), add_comm]
  rfl

end Factored
