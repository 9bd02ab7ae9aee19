import Mathlib.Algebra.BigOperators.Group.List.Basic
import Mathlib.Data.List.Forall2
import Mathlib.Tactic.Linarith
import Mathlib.Tactic.Ring

set_option autoImplicit false

/-! # Mixed-radix numerals

The most significant digit comes first. `weights` are the values of the places, `digits` divides by
them one after the other, and `value` multiplies the digits with them. Below the product of the
radices, numbers and digits are in one-to-one correspondence (`value_digits`, `digits_value`).
-/

namespace MixedRadix

/-! ## Weights -/

/-- The weight of a place is the product of the radices behind it. -/
def weights : List ℤ → List ℤ
  | [] => []
  | _ :: radices => radices.prod :: weights radices

/-- Division by one weight after the other, which goes on with the rest. -/
def digits : List ℤ → ℤ → List ℤ
  | [], _ => []
  | weight :: weights, a => a / weight :: digits weights (a % weight)

def value (weights digits : List ℤ) : ℤ := (List.zipWith (· * ·) weights digits).sum

/-- Every digit is below its radix. -/
def Valid (radices digits : List ℤ) : Prop :=
  List.Forall₂ (fun radix digit => 0 ≤ digit ∧ digit < radix) radices digits

section

variable {radices ds : List ℤ}

@[simp] theorem length_weights (radices : List ℤ) : (weights radices).length = radices.length := by
  induction radices with
  | nil => rfl
  | cons radix radices ih => exact congrArg (· + 1) ih

@[simp] theorem length_digits (weights : List ℤ) (a : ℤ) :
    (digits weights a).length = weights.length := by
  induction weights generalizing a with
  | nil => rfl
  | cons weight weights ih => exact congrArg (· + 1) (ih _)

theorem value_cons (weight digit : ℤ) (weights digits : List ℤ) :
    value (weight :: weights) (digit :: digits) = weight * digit + value weights digits := by
  rw [value, List.zipWith_cons_cons, List.sum_cons]
  rfl

theorem prod_pos (h : ∀ radix ∈ radices, (0 : ℤ) < radix) : 0 < radices.prod := by
  induction radices with
  | nil => exact Int.zero_lt_one
  | cons radix radices ih =>
      rw [List.prod_cons]
      exact mul_pos (h radix List.mem_cons_self) (ih (fun r hr => h r (List.mem_cons_of_mem _ hr)))

/-! ## Numbers and digits -/

/-- The digits of a number below the product are valid. -/
theorem valid_digits (h : ∀ radix ∈ radices, (0 : ℤ) < radix) {a : ℤ} (hnonneg : 0 ≤ a)
    (hlt : a < radices.prod) : Valid radices (digits (weights radices) a) := by
  induction radices generalizing a with
  | nil => exact List.Forall₂.nil
  | cons radix radices ih =>
      have hrest : ∀ r ∈ radices, (0 : ℤ) < r := fun r hr => h r (List.mem_cons_of_mem _ hr)
      have hpos := prod_pos hrest
      rw [List.prod_cons] at hlt
      refine List.Forall₂.cons ⟨Int.ediv_nonneg hnonneg hpos.le, ?_⟩ ?_
      · exact Int.ediv_lt_of_lt_mul hpos hlt
      · exact ih hrest (Int.emod_nonneg a hpos.ne') (Int.emod_lt_of_pos a hpos)

/-- **Numbers are recovered** from their digits. -/
theorem value_digits (h : ∀ radix ∈ radices, (0 : ℤ) < radix) {a : ℤ} (hnonneg : 0 ≤ a)
    (hlt : a < radices.prod) : value (weights radices) (digits (weights radices) a) = a := by
  induction radices generalizing a with
  | nil =>
      rw [List.prod_nil] at hlt
      have hzero : a = 0 := by omega
      rw [hzero]
      rfl
  | cons radix radices ih =>
      have hrest : ∀ r ∈ radices, (0 : ℤ) < r := fun r hr => h r (List.mem_cons_of_mem _ hr)
      have hpos := prod_pos hrest
      rw [weights, digits, value_cons,
        ih hrest (Int.emod_nonneg a hpos.ne') (Int.emod_lt_of_pos a hpos)]
      exact Int.mul_ediv_add_emod a radices.prod

/-- The value of valid digits is below the product. -/
theorem value_mem (h : Valid radices ds) :
    0 ≤ value (weights radices) ds ∧ value (weights radices) ds < radices.prod := by
  induction h with
  | nil => exact ⟨le_refl _, Int.zero_lt_one⟩
  | @cons radix digit radices ds hdigit _ ih =>
      rw [weights, value_cons, List.prod_cons]
      have hpos : 0 < radices.prod := lt_of_le_of_lt ih.1 ih.2
      have hmul : radices.prod * digit ≤ radices.prod * (radix - 1) :=
        mul_le_mul_of_nonneg_left (by omega) hpos.le
      refine ⟨add_nonneg (mul_nonneg hpos.le hdigit.1) ih.1, ?_⟩
      calc radices.prod * digit + value (weights radices) ds
          < radices.prod * (radix - 1) + radices.prod := add_lt_add_of_le_of_lt hmul ih.2
        _ = radix * radices.prod := by ring

/-- **Digits are recovered** from their value. -/
theorem digits_value (h : Valid radices ds) :
    digits (weights radices) (value (weights radices) ds) = ds := by
  induction h with
  | nil => rfl
  | @cons radix digit radices ds hdigit hrest ih =>
      obtain ⟨hnonneg, hlt⟩ := value_mem hrest
      have hpos : 0 < radices.prod := lt_of_le_of_lt hnonneg hlt
      rw [weights, value_cons, digits]
      have hdiv : (radices.prod * digit + value (weights radices) ds) / radices.prod = digit := by
        rw [Int.add_comm, Int.add_mul_ediv_left _ _ hpos.ne', Int.ediv_eq_zero_of_lt hnonneg hlt,
          zero_add]
      have hmod : (radices.prod * digit + value (weights radices) ds) % radices.prod
          = value (weights radices) ds := by
        rw [Int.add_comm, Int.add_mul_emod_self_left, Int.emod_eq_of_lt hnonneg hlt]
      rw [hdiv, hmod, ih]

/-! ## Single digits -/

/-- What is a multiple of the product does not change the digits. -/
theorem places_add_mul (h : ∀ radix ∈ radices, (0 : ℤ) < radix) (a q : ℤ) :
    List.zipWith (fun weight radix => (a + radices.prod * q) / weight % radix) (weights radices)
        radices
      = List.zipWith (fun weight radix => a / weight % radix) (weights radices) radices := by
  induction radices generalizing q with
  | nil => rfl
  | cons radix radices ih =>
      have hrest : ∀ r ∈ radices, (0 : ℤ) < r := fun r hr => h r (List.mem_cons_of_mem _ hr)
      have hshift : a + (radix :: radices).prod * q = a + radices.prod * (radix * q) := by
        rw [List.prod_cons]
        ring
      rw [hshift, weights, List.zipWith_cons_cons, List.zipWith_cons_cons, ih hrest,
        Int.add_mul_ediv_left _ _ (prod_pos hrest).ne', Int.add_mul_emod_self_left]

/-- **A digit by itself** is what is left of a quotient. -/
theorem digits_eq_zipWith (h : ∀ radix ∈ radices, (0 : ℤ) < radix) {a : ℤ} (hnonneg : 0 ≤ a)
    (hlt : a < radices.prod) :
    digits (weights radices) a
      = List.zipWith (fun weight radix => a / weight % radix) (weights radices) radices := by
  induction radices generalizing a with
  | nil => rfl
  | cons radix radices ih =>
      have hrest : ∀ r ∈ radices, (0 : ℤ) < r := fun r hr => h r (List.mem_cons_of_mem _ hr)
      have hpos := prod_pos hrest
      rw [List.prod_cons] at hlt
      have hhead : a / radices.prod % radix = a / radices.prod :=
        Int.emod_eq_of_lt (Int.ediv_nonneg hnonneg hpos.le) (Int.ediv_lt_of_lt_mul hpos hlt)
      have htail := places_add_mul hrest (a % radices.prod) (a / radices.prod)
      rw [Int.emod_add_mul_ediv] at htail
      rw [weights, digits, List.zipWith_cons_cons, hhead, htail,
        ih hrest (Int.emod_nonneg a hpos.ne') (Int.emod_lt_of_pos a hpos)]

/-- Places of one radix. -/
theorem digits_replicate {n : ℕ} {radix : ℤ} (h : 0 < radix) {a : ℤ} (hnonneg : 0 ≤ a)
    (hlt : a < radix ^ n) :
    digits (weights (List.replicate n radix)) a
      = (List.range n).map (fun j : ℕ => a / radix ^ (n - 1 - j) % radix) := by
  have hpos : ∀ r ∈ List.replicate n radix, (0 : ℤ) < r :=
    fun r hr => (List.eq_of_mem_replicate hr).symm ▸ h
  rw [digits_eq_zipWith hpos hnonneg (by rw [List.prod_replicate]; exact hlt)]
  clear hlt hpos
  induction n with
  | zero => rfl
  | succ n ih =>
      rw [List.replicate_succ, weights, List.zipWith_cons_cons, List.prod_replicate, ih,
        List.range_succ_eq_map, List.map_cons, List.map_map]
      refine congrArg₂ List.cons rfl (List.map_congr_left (fun j _ => ?_))
      rw [Function.comp, Nat.succ_eq_add_one, Nat.add_sub_cancel, Nat.sub_sub, Nat.add_comm 1 j]

/-- The weights of places of one radix. -/
theorem weights_replicate (n : ℕ) (radix : ℤ) : weights (List.replicate n radix)
    = (List.range n).map (fun j : ℕ => radix ^ (n - 1 - j)) := by
  induction n with
  | zero => rfl
  | succ n ih =>
      rw [List.replicate_succ, weights, List.prod_replicate, ih, List.range_succ_eq_map,
        List.map_cons, List.map_map]
      refine congrArg₂ List.cons rfl (List.map_congr_left (fun j _ => ?_))
      rw [Function.comp, Nat.succ_eq_add_one, Nat.add_sub_cancel, Nat.sub_sub, Nat.add_comm 1 j]

theorem value_zero (ws : List ℤ) (n : ℕ) : value ws (List.replicate n 0) = 0 := by
  induction n generalizing ws with
  | zero => cases ws <;> rfl
  | succ n ih =>
      cases ws with
      | nil => rfl
      | cons w ws => rw [List.replicate_succ, value_cons, ih, mul_zero, zero_add]

end

end MixedRadix
