import Mathlib.Algebra.BigOperators.Fin
import Mathlib.Algebra.BigOperators.Intervals
import Mathlib.Order.Interval.Finset.Nat
import Mathlib.Tactic.Linarith

set_option autoImplicit false

/-! # Vectors processed chunk by chunk

A loop over the chunks of a vector adds up, for every chunk, a sum over its entries. The chunks
partition the vector, so the loop computes the sum over all entries (`sum_slices`), and a list is what
its chunks are put together (`flatten_chunks`).
-/

namespace Chunks

open Finset

variable {α M : Type*} [AddCommMonoid M] {n size : ℕ}

/-- The number of chunks: how many numbers below `n` are multiples of `size`. -/
def count (n size : ℕ) : ℕ := (n + size - 1) / size

/-- The entries from `start` up to `stop`, or up to the end. -/
def slice (x : Fin n → α) (start stop : ℕ) : Fin (min stop n - start) → α :=
  fun k => x ⟨start + k, by omega⟩

theorem le_count_mul (n : ℕ) (hsize : 0 < size) : n ≤ count n size * size := by
  have hlt := Nat.lt_div_mul_add (a := n + size - 1) hsize
  rw [count]
  omega

/-- The sum over a slice as a sum over numbers. -/
theorem sum_slice (f : Fin n → M) (start stop : ℕ) :
    ∑ k, slice f start stop k
      = ∑ m ∈ Ico start (min stop n), if h : m < n then f ⟨m, h⟩ else 0 := by
  rw [sum_Ico_eq_sum_range, ← Fin.sum_univ_eq_sum_range
    (fun k => if h : start + k < n then f ⟨start + k, h⟩ else 0) (min stop n - start)]
  refine sum_congr rfl (fun k _ => ?_)
  rw [dif_pos (show start + (k : ℕ) < n by omega), slice]

theorem sum_eq_sum_range (f : Fin n → M) :
    ∑ s, f s = ∑ m ∈ range n, if h : m < n then f ⟨m, h⟩ else 0 := by
  rw [← Fin.sum_univ_eq_sum_range (fun m => if h : m < n then f ⟨m, h⟩ else 0) n]
  refine sum_congr rfl (fun k _ => ?_)
  rw [dif_pos k.2]

/-- The first `c` chunks add up to the entries below `c * size`. -/
theorem sum_range_slices (f : Fin n → M) (c : ℕ) :
    ∑ j ∈ range c, ∑ k, slice f (j * size) (j * size + size) k
      = ∑ m ∈ range (min (c * size) n), if h : m < n then f ⟨m, h⟩ else 0 := by
  induction c with
  | zero => simp
  | succ c ih =>
      rw [sum_range_succ, ih, sum_slice, range_eq_Ico, range_eq_Ico, Nat.succ_mul]
      by_cases hc : c * size ≤ n
      · rw [min_eq_left hc]
        exact sum_Ico_consecutive _ (Nat.zero_le _) (by omega)
      · have hempty : Ico (c * size) (min (c * size + size) n) = ∅ := Ico_eq_empty (by omega)
        rw [hempty, sum_empty, add_zero, min_eq_right (by omega), min_eq_right (by omega)]

/-- **A sum chunk by chunk.** -/
theorem sum_slices (hsize : 0 < size) (f : Fin n → M) :
    ∑ j ∈ range (count n size), ∑ k, slice f (j * size) (j * size + size) k = ∑ s, f s := by
  rw [sum_range_slices, min_eq_right (le_count_mul n hsize), sum_eq_sum_range]

/-- A sum over several vectors, chunk by chunk. -/
theorem sum_slices_family {ι : Type*} [Fintype ι] (hsize : 0 < size) (f : ι → Fin n → M) :
    ∑ c ∈ range (count n size), ∑ j, ∑ k, slice (f j) (c * size) (c * size + size) k
      = ∑ j, ∑ s, f j s := by
  rw [sum_comm]
  exact sum_congr rfl (fun j _ => sum_slices hsize (f j))

/-- Every chunk has an entry. -/
theorem slice_card_pos {j : ℕ} (hsize : 0 < size) (hj : j < count n size) :
    0 < min (j * size + size) n - j * size := by
  have hle : (j + 1) * size ≤ count n size * size := Nat.mul_le_mul_right size hj
  have hcount : count n size * size ≤ n + size - 1 := Nat.div_mul_le_self _ _
  rw [Nat.succ_mul] at hle
  omega

/-! ## Lists -/

/-- The entries from `start` up to `stop`. -/
def sublist (xs : List α) (start stop : ℕ) : List α := (xs.take stop).drop start

theorem take_append_sublist (xs : List α) (start width : ℕ) :
    xs.take start ++ sublist xs start (start + width) = xs.take (start + width) := by
  unfold sublist
  rw [List.take_add, List.drop_append, List.length_take]
  by_cases hstart : start ≤ xs.length
  · have hdrop : (xs.take start).drop start = [] := by simp
    rw [hdrop, min_eq_left hstart, Nat.sub_self, List.drop_zero, List.nil_append]
  · simp [List.drop_eq_nil_of_le (not_le.mp hstart).le]

/-- The first `c` chunks of a list. -/
theorem flatten_sublists (xs : List α) (size c : ℕ) :
    ((List.range c).map (fun j => sublist xs (j * size) (j * size + size))).flatten
      = xs.take (c * size) := by
  induction c with
  | zero => simp
  | succ c ih =>
      rw [List.range_succ, List.map_append, List.flatten_append, ih, Nat.succ_mul,
        List.map_singleton, List.flatten_singleton, take_append_sublist]

/-- **A list chunk by chunk.** -/
theorem flatten_chunks (xs : List α) (hsize : 0 < size) :
    ((List.range (count xs.length size)).map
      (fun j => sublist xs (j * size) (j * size + size))).flatten = xs := by
  rw [flatten_sublists, List.take_of_length_le (le_count_mul xs.length hsize)]

end Chunks
