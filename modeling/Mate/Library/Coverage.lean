import Mate.Library.Numerals
import Mathlib.Algebra.BigOperators.Ring.Finset
import Mathlib.Algebra.Order.BigOperators.Group.Finset
import Mathlib.Algebra.Order.BigOperators.Ring.Finset
import Mathlib.Data.Real.Basic
import Mathlib.Tactic.Linarith
import Mathlib.Tactic.Ring

set_option autoImplicit false

/-! # Coverage by independent observers

Observer `i` covers a point with probability `v i`, independently of the others. A set of observers
leaves the point uncovered with probability `uncovered v S`. What an observer adds to the coverage of
the others is `gain v i`, the probability that it is the only one to cover the point
(`gain_eq_sub`), so the gains of all observers add up to no more than the coverage
(`sum_gain_le_covered`).

The second part weighs many points: the expected coverage, and the expected gains, which are
marginal (`expectedGain_eq_sub`) and bounded by the weights (`sum_expectedGain_le`).
-/

namespace Coverage

open Finset

variable {ι : Type*} [DecidableEq ι]

/-! ## One point -/

/-- The probability that none of the observers of `S` covers the point. -/
def uncovered (v : ι → ℝ) (S : Finset ι) : ℝ := ∏ i ∈ S, (1 - v i)

def covered (v : ι → ℝ) (S : Finset ι) : ℝ := 1 - uncovered v S

variable {v : ι → ℝ} {S : Finset ι} {i : ι}

omit [DecidableEq ι] in
theorem uncovered_nonneg (hv : ∀ i, v i ≤ 1) (S : Finset ι) : 0 ≤ uncovered v S :=
  prod_nonneg (fun i _ => sub_nonneg.mpr (hv i))

omit [DecidableEq ι] in
theorem uncovered_le_one (h0 : ∀ i, 0 ≤ v i) (h1 : ∀ i, v i ≤ 1) (S : Finset ι) :
    uncovered v S ≤ 1 :=
  prod_le_one (fun i _ => sub_nonneg.mpr (h1 i)) (fun i _ => by linarith [h0 i])

theorem uncovered_insert (hi : i ∉ S) : uncovered v (insert i S) = (1 - v i) * uncovered v S :=
  prod_insert hi

theorem uncovered_erase (hi : i ∈ S) : (1 - v i) * uncovered v (S.erase i) = uncovered v S :=
  mul_prod_erase S (fun k => 1 - v k) hi

omit [DecidableEq ι] in
/-- What `uncovered` says about some observers depends on these only. -/
theorem uncovered_congr {w : ι → ℝ} (h : ∀ k ∈ S, v k = w k) : uncovered v S = uncovered w S :=
  prod_congr rfl (fun k hk => by rw [h k hk])

/-- An observer that sees nothing does not count. -/
theorem uncovered_erase_of_eq_zero (h : v i = 0) : uncovered v (S.erase i) = uncovered v S := by
  by_cases hi : i ∈ S
  · rw [← uncovered_erase hi, h, sub_zero, one_mul]
  · rw [erase_eq_of_notMem hi]

/-- The probability that `i` covers the point, and no other observer of `S` does. -/
def gain (v : ι → ℝ) (S : Finset ι) (i : ι) : ℝ := v i * uncovered v (S.erase i)

/-- A gain is marginal: what the coverage loses without the observer. -/
theorem gain_eq_sub (hi : i ∈ S) : gain v S i = covered v S - covered v (S.erase i) := by
  rw [gain, covered, covered, ← uncovered_erase hi]
  ring

theorem gain_nonneg (h0 : ∀ i, 0 ≤ v i) (h1 : ∀ i, v i ≤ 1) (S : Finset ι) (i : ι) :
    0 ≤ gain v S i :=
  mul_nonneg (h0 i) (uncovered_nonneg h1 _)

/-- **At most one observer is the only one.** -/
theorem sum_gain_le_covered (h0 : ∀ i, 0 ≤ v i) (h1 : ∀ i, v i ≤ 1) (S : Finset ι) :
    ∑ i ∈ S, gain v S i ≤ covered v S := by
  induction S using Finset.induction_on with
  | empty => simp [covered, uncovered]
  | insert a S ha ih =>
      have hself : gain v (insert a S) a = v a * uncovered v S := by
        rw [gain, erase_insert ha]
      -- for the others, the new observer is one more that has to miss the point
      have hothers : ∀ i ∈ S, gain v (insert a S) i = (1 - v a) * gain v S i := by
        intro i hi
        have hne : a ≠ i := fun h => ha (h ▸ hi)
        have hnot : a ∉ S.erase i := fun h => ha (mem_of_mem_erase h)
        rw [gain, erase_insert_of_ne hne, uncovered_insert hnot, gain]
        ring
      rw [sum_insert ha, hself, sum_congr rfl hothers, ← mul_sum]
      have hmul := mul_le_mul_of_nonneg_left ih (sub_nonneg.mpr (h1 a))
      have hrest : 0 ≤ v a * covered v S :=
        mul_nonneg (h0 a) (sub_nonneg.mpr (uncovered_le_one h0 h1 S))
      calc v a * uncovered v S + (1 - v a) * ∑ i ∈ S, gain v S i
          ≤ v a * uncovered v S + (1 - v a) * covered v S := by linarith
        _ ≤ v a * uncovered v S + (1 - v a) * covered v S + v a * covered v S := by linarith
        _ = covered v (insert a S) := by
            rw [covered, covered, uncovered_insert ha]
            ring

theorem sum_gain_le_one (h0 : ∀ i, 0 ≤ v i) (h1 : ∀ i, v i ≤ 1) (S : Finset ι) :
    ∑ i ∈ S, gain v S i ≤ 1 := by
  refine (sum_gain_le_covered h0 h1 S).trans ?_
  have := uncovered_nonneg h1 S
  rw [covered]
  linarith

/-! ## Weighted points -/

variable {σ : Type*} [Fintype σ]

/-- The expected coverage by the observers of `S` of points with the weights `w`. -/
def expected (v : ι → σ → ℝ) (w : σ → ℝ) (S : Finset ι) : ℝ :=
  ∑ s, w s * covered (fun k => v k s) S

def expectedGain (v : ι → σ → ℝ) (w : σ → ℝ) (S : Finset ι) (i : ι) : ℝ :=
  ∑ s, w s * gain (fun k => v k s) S i

variable {v : ι → σ → ℝ} {w : σ → ℝ}

theorem expectedGain_eq_sub (hi : i ∈ S) :
    expectedGain v w S i = expected v w S - expected v w (S.erase i) := by
  rw [expectedGain, expected, expected, ← sum_sub_distrib]
  refine sum_congr rfl (fun s _ => ?_)
  rw [gain_eq_sub hi]
  ring

theorem expectedGain_nonneg (hw : ∀ s, 0 ≤ w s) (h0 : ∀ i s, 0 ≤ v i s) (h1 : ∀ i s, v i s ≤ 1)
    (S : Finset ι) (i : ι) : 0 ≤ expectedGain v w S i :=
  sum_nonneg (fun s _ => mul_nonneg (hw s)
    (gain_nonneg (fun k => h0 k s) (fun k => h1 k s) S i))

/-- **The expected gains add up to no more than the weights.** -/
theorem sum_expectedGain_le (hw : ∀ s, 0 ≤ w s) (h0 : ∀ i s, 0 ≤ v i s) (h1 : ∀ i s, v i s ≤ 1)
    (S : Finset ι) : ∑ i ∈ S, expectedGain v w S i ≤ ∑ s, w s := by
  calc ∑ i ∈ S, expectedGain v w S i
      = ∑ s, w s * ∑ i ∈ S, gain (fun k => v k s) S i := by
        simp only [expectedGain, mul_sum]
        exact sum_comm
    _ ≤ ∑ s, w s * 1 :=
        sum_le_sum (fun s _ => mul_le_mul_of_nonneg_left
          (sum_gain_le_one (fun k => h0 k s) (fun k => h1 k s) S) (hw s))
    _ = ∑ s, w s := sum_congr rfl (fun s _ => mul_one _)

end Coverage
