import Mate.Library.FactoredSoftmax
import Mate.Rllib.ActionCredit

set_option autoImplicit false

/-! # The factored action credit is exact

Heads that select every target on its own give a subset the sum of the logits of its targets. Its
mean and deviation over all subsets are known without enumerating them (`standardize_subsetValues`),
and the cross entropy of two such sums is one of sigmoids (`Factored.crossEntropy_total`), so both
losses are the same (`factored_action_credit_loss_exact`).
-/

namespace Mate.Rllib

open Finset Nets Factored

/-! ## Subsets and their numbers -/

/-- The bit of target `j` in a subset. -/
def subsetBit {n : ℕ} (a : Fin (2 ^ n)) (j : Fin n) : ℤ := (a : ℤ) / 2 ^ (n - 1 - (j : ℕ)) % 2

/-- `Q(a) = Σ_j a_j * logit_j`. -/
def subsetValues {n : ℕ} (logits : Fin n → ℝ) (a : Fin (2 ^ n)) : ℝ :=
  ∑ j, (subsetBit a j : ℝ) * logits j

/-- The bits of a number, with the first target in front. -/
def bitsEquiv (n : ℕ) : Fin (2 ^ n) ≃ (Fin n → Fin 2) :=
  finFunctionFinEquiv.symm.trans (Fin.revPerm.arrowCongr (Equiv.refl (Fin 2)))

theorem bitsEquiv_apply {n : ℕ} (a : Fin (2 ^ n)) (j : Fin n) :
    ((bitsEquiv n a j : ℕ) : ℤ) = subsetBit a j := by
  have hexponent : n - (j + 1) = n - 1 - (j : ℕ) := by omega
  show (((a : ℕ) / 2 ^ ((j.rev : Fin n) : ℕ) % 2 : ℕ) : ℤ) = _
  rw [Fin.val_rev, hexponent, subsetBit]
  push_cast
  rfl

section Standardize

variable {n : ℕ}

/-- The value of a bit, relative to its mean. -/
noncomputable def centeredBit (logits : Fin n → ℝ) (j : Fin n) (b : Fin 2) : ℝ :=
  ((b : ℕ) - 1 / 2) * logits j

theorem subsetValues_eq (logits : Fin n → ℝ) (a : Fin (2 ^ n)) :
    subsetValues logits a = total (centeredBit logits) (bitsEquiv n a) + (∑ j, logits j) / 2 := by
  rw [subsetValues, total, sum_div, ← sum_add_distrib]
  refine sum_congr rfl (fun j _ => ?_)
  rw [← bitsEquiv_apply, centeredBit]
  push_cast
  ring

/-- A mean over all numbers is one over independent bits. -/
theorem mean_subsets (f : (Fin n → Fin 2) → ℝ) :
    mean (fun a => f (bitsEquiv n a)) = ∑ a, product (fun _ _ => 1 / 2) a * f a := by
  have hweight : ∀ a : Fin n → Fin 2, product (fun _ _ => (1 / 2 : ℝ)) a = 1 / 2 ^ n := by
    intro a
    rw [product, prod_const, card_univ, Fintype.card_fin, div_pow, one_pow]
  simp only [hweight]
  rw [mean, Equiv.sum_comp (bitsEquiv n) f, ← mul_sum]
  push_cast
  ring

theorem sum_half (n : ℕ) (j : Fin n) : ∑ b : Fin 2, (fun _ _ => 1 / 2 : Fin n → Fin 2 → ℝ) j b = 1 := by
  rw [Fin.sum_univ_two]
  norm_num

theorem sum_half_centeredBit (logits : Fin n → ℝ) (j : Fin n) :
    ∑ b, 1 / 2 * centeredBit logits j b = 0 := by
  rw [Fin.sum_univ_two, centeredBit, centeredBit]
  norm_num

theorem mean_centered (logits : Fin n → ℝ) :
    mean (fun a => total (centeredBit logits) (bitsEquiv n a)) = 0 := by
  rw [mean_subsets, sum_product_mul_total (sum_half n)]
  exact sum_eq_zero (fun j _ => sum_half_centeredBit logits j)

theorem mean_centered_sq (logits : Fin n → ℝ) :
    mean (fun a => total (centeredBit logits) (bitsEquiv n a) ^ 2) = (∑ j, logits j ^ 2) / 4 := by
  rw [mean_subsets (fun a => total (centeredBit logits) a ^ 2),
    sum_product_mul_total_sq (sum_half n) (sum_half_centeredBit logits), sum_div]
  refine sum_congr rfl (fun j _ => ?_)
  rw [Fin.sum_univ_two, centeredBit, centeredBit]
  norm_num
  ring

/-- The mean of a sum with a constant. -/
theorem mean_add_const {d : ℕ} (hd : 0 < d) (x : Fin d → ℝ) (c : ℝ) :
    mean (fun a => x a + c) = mean x + c := by
  have hne : (d : ℝ) ≠ 0 := by positivity
  rw [mean, mean, sum_add_distrib, sum_const, card_univ, Fintype.card_fin, nsmul_eq_mul]
  field_simp

theorem mean_subsetValues (logits : Fin n → ℝ) :
    mean (subsetValues logits) = (∑ j, logits j) / 2 := by
  rw [funext (subsetValues_eq logits), mean_add_const (by positivity), mean_centered, zero_add]

theorem centered_subsetValues (logits : Fin n → ℝ) (a : Fin (2 ^ n)) :
    subsetValues logits a - mean (subsetValues logits)
      = total (centeredBit logits) (bitsEquiv n a) := by
  rw [mean_subsetValues, subsetValues_eq, add_sub_cancel_right]

theorem sqrt_div_four {x : ℝ} (hx : 0 ≤ x) : Real.sqrt (x / 4) = Real.sqrt x / 2 := by
  have hfour : Real.sqrt 4 = 2 := by
    rw [show (4 : ℝ) = 2 ^ 2 by norm_num, Real.sqrt_sq zero_le_two]
  rw [Real.sqrt_div hx, hfour]

/-- The deviation of the values of all subsets. -/
theorem clampedStd_subsetValues (logits : Fin n → ℝ) :
    clampedStd (subsetValues logits) 0 = Real.sqrt (∑ j, logits j ^ 2) / 2 := by
  have hsum : 0 ≤ ∑ j, logits j ^ 2 := sum_nonneg (fun j _ => sq_nonneg (logits j))
  have hstd : populationStd (fun a => total (centeredBit logits) (bitsEquiv n a))
      = Real.sqrt (∑ j, logits j ^ 2) / 2 := by
    rw [populationStd, mean_centered]
    simp only [sub_zero]
    rw [mean_centered_sq, sqrt_div_four hsum]
  rw [clampedStd, funext (centered_subsetValues logits), hstd, max_eq_left (by positivity)]

theorem clampedStd_pos {logits : Fin n → ℝ} (h : ∃ j, logits j ≠ 0) :
    0 < clampedStd (subsetValues logits) 0 := by
  obtain ⟨j, hj⟩ := h
  have hsum : 0 < ∑ j, logits j ^ 2 :=
    sum_pos' (fun j _ => sq_nonneg (logits j)) ⟨j, mem_univ j, by positivity⟩
  rw [clampedStd_subsetValues]
  positivity

/-- **Standardised values of the subsets**, computed from the logits alone. -/
theorem standardize_subsetValues (logits : Fin n → ℝ) (a : Fin (2 ^ n)) :
    standardize (subsetValues logits) 0 a
      = total (centeredBit logits) (bitsEquiv n a) / (Real.sqrt (∑ j, logits j ^ 2) / 2) := by
  rw [standardize, centered_subsetValues, clampedStd_subsetValues]

/-- The term of a target, standardised and divided by the temperature. -/
noncomputable def scaledBit (logits : Fin n → ℝ) (temperature : ℝ) (j : Fin n) (b : Fin 2) : ℝ :=
  centeredBit logits j b / (Real.sqrt (∑ j, logits j ^ 2) / 2 * temperature)

theorem scaledSubsetValues_eq (logits : Fin n → ℝ) (temperature : ℝ) (a : Fin (2 ^ n)) :
    standardize (subsetValues logits) 0 a / temperature
      = total (scaledBit logits temperature) (bitsEquiv n a) := by
  rw [standardize_subsetValues, div_div, total, sum_div]
  rfl

theorem scaledBit_sub (logits : Fin n → ℝ) (temperature : ℝ) (j : Fin n) :
    scaledBit logits temperature j 1 - scaledBit logits temperature j 0
      = logits j / (Real.sqrt (∑ j, logits j ^ 2) / 2 * temperature) := by
  have hterm : centeredBit logits j 1 - centeredBit logits j 0 = logits j := by
    rw [centeredBit, centeredBit]
    norm_num
    ring
  rw [scaledBit, scaledBit, ← sub_div, hterm]

end Standardize

/-! ## The cross entropy of the subsets -/

section CrossEntropy

variable {κ κ' : Type*} [Fintype κ] [Fintype κ']

/-- Numbering the values otherwise changes no cross entropy. -/
theorem crossEntropy_comp (e : κ ≃ κ') (x y : κ' → ℝ) :
    crossEntropy (softmax (fun a => x (e a))) (logSoftmax (fun a => y (e a)))
      = crossEntropy (softmax x) (logSoftmax y) := by
  have hsum : ∀ z : κ' → ℝ, ∑ a, Real.exp (z (e a)) = ∑ a, Real.exp (z a) :=
    fun z => Equiv.sum_comp e (fun a => Real.exp (z a))
  unfold crossEntropy softmax logSoftmax logsumexp
  rw [hsum x, hsum y]
  exact congrArg (- ·) (Equiv.sum_comp e
    (fun a => Real.exp (x a) / (∑ l, Real.exp (x l)) * (y a - Real.log (∑ l, Real.exp (y l)))))

end CrossEntropy

/-- The cross entropy over all subsets is a sum over the targets. -/
theorem crossEntropy_subsets {n : ℕ} (gains logits : Fin n → ℝ) (temperature : ℝ) :
    crossEntropy (softmax (fun a => standardize (subsetValues gains) 0 a / temperature))
        (logSoftmax (fun a => standardize (subsetValues logits) 0 a / temperature))
      = -∑ j, (Real.sigmoid (gains j / (Real.sqrt (∑ j, gains j ^ 2) / 2 * temperature))
            * logsigmoid (logits j / (Real.sqrt (∑ j, logits j ^ 2) / 2 * temperature))
          + (1 - Real.sigmoid (gains j / (Real.sqrt (∑ j, gains j ^ 2) / 2 * temperature)))
            * logsigmoid (-(logits j / (Real.sqrt (∑ j, logits j ^ 2) / 2 * temperature)))) := by
  simp only [scaledSubsetValues_eq]
  rw [crossEntropy_comp (bitsEquiv n), crossEntropy_total, ← sum_neg_distrib]
  refine sum_congr rfl (fun j _ => ?_)
  rw [crossEntropy_two, scaledBit_sub, scaledBit_sub]

/-! ## The losses -/

section Losses

variable {B T C n : ℕ}

/-- The bits that the learner tabulates. -/
theorem entry_table {matrix : List (List ℤ)}
    (hrows : ∀ a : ℤ, 0 ≤ a → a < 2 ^ n → matrix[a.toNat]? = some (targetBits n a))
    (a : Fin (2 ^ n)) (j : Fin n) : entry matrix a j = subsetBit a j := by
  have hlt : ((a : ℕ) : ℤ) < 2 ^ n := by exact_mod_cast a.isLt
  have hrow := hrows a (Int.natCast_nonneg _) hlt
  rw [Int.toNat_natCast] at hrow
  have hbit : (targetBits n a)[(j : ℕ)]? = some (subsetBit a j) := by
    rw [targetBits, List.getElem?_map, List.getElem?_range j.isLt]
    rfl
  simp only [entry, List.getD_eq_getElem?_getD, hrow, Option.getD_some, hbit]

/-- The bits of all subsets, as floats. -/
def subsetBits (n : ℕ) (a : Fin (2 ^ n)) (j : Fin n) : ℝ := subsetBit a j

theorem actionGains_subsetBits (pairGains : Fin B → Fin T → Fin C → Fin n → ℝ) (b : Fin B) (t : Fin T)
    (c : Fin C) : actionGains pairGains (subsetBits n) b t c = subsetValues (pairGains b t c) :=
  funext (fun _ => sum_congr rfl (fun _ _ => mul_comm _ _))

/-- Over all subsets, for any number of targets. -/
theorem actionCreditLossOf_subsets (logits pairGains : Fin B → Fin T → Fin C → Fin n → ℝ)
    (valid : Fin B → Fin T → ℝ) (confidence signalWeights : Option (Fin B → Fin T → ℝ))
    (temperature : ℝ) :
    actionCreditLossOf (subsetBits n) (fun b t c => subsetValues (logits b t c)) pairGains valid
        confidence signalWeights temperature 0 0
      = factoredActionCreditLoss logits pairGains valid confidence signalWeights temperature 0 0 := by
  have hstd : ∀ x : Fin n → ℝ, Real.sqrt ((∑ j, x j ^ 2) / 4 + 0 ^ 2)
      = Real.sqrt (∑ j, x j ^ 2) / 2 := by
    intro x
    rw [zero_pow two_ne_zero, add_zero, sqrt_div_four (sum_nonneg (fun j _ => sq_nonneg (x j)))]
  unfold actionCreditLossOf factoredActionCreditLoss
  simp only [actionGains_subsetBits, crossEntropy_subsets, hstd, add_zero]

/-- **The factored loss is the loss over all subsets**, where nothing is standardised by zero. An
action space of more than 62 targets cannot be numbered. -/
theorem factored_action_credit_loss_exact (logits pairGains : Fin B → Fin T → Fin C → Fin n → ℝ)
    (hlogits : ∀ b t c, ∃ j, logits b t c j ≠ 0) (hgains : ∀ b t c, ∃ j, pairGains b t c j ≠ 0)
    (valid : Fin B → Fin T → ℝ) (confidence signalWeights : Option (Fin B → Fin T → ℝ))
    {temperature : ℝ} (htemperature : 0 < temperature) :
    (∀ b t c, 0 < clampedStd (subsetValues (pairGains b t c)) 0 * temperature ∧
      0 < clampedStd (subsetValues (logits b t c)) 0 * temperature) ∧
    actionCreditLossOf (subsetBits n) (fun b t c => subsetValues (logits b t c)) pairGains valid
        confidence signalWeights temperature 0 0
      = factoredActionCreditLoss logits pairGains valid confidence signalWeights temperature 0 0 ∧
    (n < 63 → actionCreditLoss (fun b t c => subsetValues (logits b t c)) pairGains valid confidence
        signalWeights temperature 0 0
      = .ok (factoredActionCreditLoss logits pairGains valid confidence signalWeights temperature 0 0,
        actionGains pairGains (subsetBits n))) := by
  have hall := actionCreditLossOf_subsets logits pairGains valid confidence signalWeights temperature
  refine ⟨fun b t c => ⟨mul_pos (clampedStd_pos (hgains b t c)) htemperature,
    mul_pos (clampedStd_pos (hlogits b t c)) htemperature⟩, hall, fun hn => ?_⟩
  obtain ⟨matrix, hmatrix, hrows⟩ := subsetActionMatrix_eq hn
  have hbits : (fun (a : Fin (2 ^ n)) (j : Fin n) => entry matrix a j) = subsetBits n :=
    funext₂ (entry_table hrows)
  have hcard : (((2 ^ n : ℕ) : ℤ)) = 2 ^ n := by
    push_cast
    rfl
  rw [actionCreditLoss, hcard, hmatrix]
  show Except.ok (actionCreditLossOf _ (fun b t c => subsetValues (logits b t c)) _ _ _ _ _ _ _, _) = _
  rw [hbits, hall]

/-- One agent and one target. -/
def singleGain : Fin 1 → Fin 1 → Fin 1 → Fin 1 → ℝ := fun _ _ _ _ => 1

theorem factored_action_credit_loss_exact_one :
    actionCreditLossOf (subsetBits 1) (fun b t c => subsetValues (singleGain b t c)) singleGain
        (fun _ _ => 1) none none 1 0 0
      = factoredActionCreditLoss singleGain singleGain (fun _ _ => 1) none none 1 0 0 :=
  (factored_action_credit_loss_exact singleGain singleGain (fun _ _ _ => ⟨0, one_ne_zero⟩)
    (fun _ _ _ => ⟨0, one_ne_zero⟩) (fun _ _ => 1) none none one_pos).2.1

end Losses

end Mate.Rllib
