import Mate.Responsibilities

set_option autoImplicit false

/-! # Both beliefs are blended alike

The Gaussian path of `_focus_credit_target` moves the mean of the forecast towards the position, the
categorical path moves the probabilities of the cells towards those of the persistence prior. The
moments of a distribution are linear in it, and the prior is symmetric on a grid that is, so the mean
of the blend is the blend of the means (`credit_mean_blend`).
-/

namespace Mate.Rllib.Focus

open Finset Nets

namespace CategoricalGrid

variable (grid : CategoricalGrid)

/-! ## The symmetry of the grid -/

/-- Coordinate `m` of the axis, `torch.linspace(-max_delta, max_delta, grid_size)`. -/
def axis (m : ℕ) : ℚ := -grid.maxDelta + m * (2 * grid.maxDelta / (grid.gridSize - 1))

theorem axis_rev {m : ℕ} (h : m < grid.gridSize) : grid.axis (grid.gridSize - 1 - m) = -grid.axis m := by
  have hthree := grid.three_le
  have hne : (grid.gridSize : ℚ) - 1 ≠ 0 := by
    have hcast : (3 : ℚ) ≤ grid.gridSize := by exact_mod_cast hthree
    linarith
  unfold axis
  rw [Nat.cast_sub (by omega), Nat.cast_sub (by omega), Nat.cast_one]
  field_simp
  ring

/-- The opposite cell is in the opposite row and column. -/
theorem rev_row_column {g k : ℕ} (h : k < g * g) :
    (g * g - (k + 1)) % g = g - 1 - k % g ∧ (g * g - (k + 1)) / g = g - 1 - k / g := by
  have hg : 0 < g := Nat.pos_of_ne_zero (fun hzero => by simp [hzero] at h)
  have hcolumn : k % g < g := Nat.mod_lt k hg
  have hrow : k / g < g := Nat.div_lt_of_lt_mul h
  obtain ⟨a, ha⟩ := Nat.exists_eq_add_of_lt hrow
  have hsquare : g * g = g * (k / g) + g * a + g := by
    calc g * g = g * (k / g + a + 1) := congrArg (g * ·) ha
      _ = g * (k / g) + g * a + g := by ring
  have hk := Nat.div_add_mod k g
  have hrev : g * g - (k + 1) = (g - 1 - k % g) + g * a := by omega
  have hlt : g - 1 - k % g < g := by omega
  rw [hrev, Nat.add_mul_mod_self_left, Nat.add_mul_div_left _ _ hg, Nat.mod_eq_of_lt hlt,
    Nat.div_eq_of_lt hlt]
  omega

theorem displacementGrid_rev (k : Fin grid.numCells) :
    grid.displacementGrid k.rev = -grid.displacementGrid k := by
  have hg : 0 < grid.gridSize := by
    have := grid.three_le
    omega
  obtain ⟨hcolumn, hrow⟩ := rev_row_column (g := grid.gridSize) k.isLt
  have hx := grid.axis_rev (Nat.mod_lt k hg)
  have hy := grid.axis_rev (Nat.div_lt_of_lt_mul k.isLt)
  show (⟨(grid.axis (k.rev % grid.gridSize) : ℚ), (grid.axis (k.rev / grid.gridSize) : ℚ)⟩ : ℂ)
    = -⟨(grid.axis (k % grid.gridSize) : ℚ), (grid.axis (k / grid.gridSize) : ℚ)⟩
  rw [Fin.val_rev]
  apply Complex.ext
  · show ((grid.axis ((grid.gridSize * grid.gridSize - (k + 1)) % grid.gridSize) : ℚ) : ℝ) = _
    rw [hcolumn, hx, Rat.cast_neg]
    rfl
  · show ((grid.axis ((grid.gridSize * grid.gridSize - (k + 1)) / grid.gridSize) : ℚ) : ℝ) = _
    rw [hrow, hy, Rat.cast_neg]
    rfl

theorem persistencePriorLogits_rev (k : Fin grid.numCells) :
    grid.persistencePriorLogits k.rev = grid.persistencePriorLogits k := by
  unfold persistencePriorLogits
  dsimp only
  rw [displacementGrid_rev, Complex.neg_re, Complex.neg_im, neg_div, neg_div, neg_sq, neg_sq]

/-- The persistence forecast does not move the target. -/
theorem expectedDelta_persistence :
    grid.expectedDelta (softmax grid.persistencePriorLogits) = 0 := by
  have hneg := grid.displacementGrid_rev
  refine Complex.ext ?_ ?_
  · refine sum_softmax_mul_odd Fin.revPerm grid.persistencePriorLogits_rev (fun k => ?_)
    rw [Fin.revPerm_apply, hneg, Complex.neg_re]
  · refine sum_softmax_mul_odd Fin.revPerm grid.persistencePriorLogits_rev (fun k => ?_)
    rw [Fin.revPerm_apply, hneg, Complex.neg_im]

/-! ## The moments of a blend -/

/-- The expected displacement is linear in the distribution. -/
theorem expectedDelta_blend (blend : ℝ) (p q : Fin grid.numCells → ℝ) :
    grid.expectedDelta (fun k => q k + blend * (p k - q k))
      = grid.expectedDelta q + blend * (grid.expectedDelta p - grid.expectedDelta q) := by
  have hcoordinate : ∀ x : Fin grid.numCells → ℝ, ∑ k, (q k + blend * (p k - q k)) * x k
      = ∑ k, q k * x k + blend * (∑ k, p k * x k - ∑ k, q k * x k) := by
    intro x
    rw [← sum_sub_distrib, mul_sum, ← sum_add_distrib]
    exact sum_congr rfl (fun k _ => by ring)
  refine Complex.ext ?_ ?_
  · rw [Complex.add_re, Complex.re_ofReal_mul, Complex.sub_re]
    exact hcoordinate _
  · rw [Complex.add_im, Complex.im_ofReal_mul, Complex.sub_im]
    exact hcoordinate _

end CategoricalGrid

section Blend

variable {D H J B T : ℕ}

/-- **Both beliefs are blended alike**: the probabilities that the categorical path uses are a
distribution, and its mean is what the Gaussian path computes of the mean of the model. With no blend
it is the position, at every horizon. -/
theorem credit_mean_blend (model : CategoricalOccupancyModel D H J) (nAgents : ℕ)
    (state : Fin B → Fin T → Fin D → ℝ) (blend : Set.Icc (0 : ℝ) 1) :
    ∃ probabilities : Fin B × Fin T → Fin H → Fin J → Fin model.grid.numCells → ℝ,
      (OccupancyModel.categorical model).forecast nAgents state
          = .categorical model.grid probabilities ∧
        ∀ step : Fin B × Fin T,
          let currentPosition := fun j : Fin J => targetPosition (state step.1 step.2) nAgents j
          let creditMean := fun (b : ℝ) h => model.grid.mean
            (blendProbabilities b model.grid (probabilities step) h) currentPosition
          let mean := fun h => model.grid.mean (probabilities step h) currentPosition
          (∀ h j k, 0 ≤ blendProbabilities blend model.grid (probabilities step) h j k) ∧
          (∀ h j, ∑ k, blendProbabilities blend model.grid (probabilities step) h j k = 1) ∧
          (∀ h j, creditMean blend h j = blendMean blend mean currentPosition h j) ∧
          ∀ h j, creditMean 0 h j = currentPosition j := by
  have hproper := forecast_proper (OccupancyModel.categorical model) nAgents state
  refine ⟨_, rfl, fun step => ?_⟩
  intro currentPosition creditMean mean
  obtain ⟨hnonneg, hsum⟩ := blendProbabilities_mem blend.2.1 blend.2.2 (hproper.1 step)
    (hproper.2 step)
  have hmean : ∀ (b : ℝ) h j, creditMean b h j = blendMean b mean currentPosition h j := by
    intro b h j
    show currentPosition j + model.grid.expectedDelta (fun k => _ + b * (_ - _))
      = currentPosition j + b * (currentPosition j + model.grid.expectedDelta _ - currentPosition j)
    rw [CategoricalGrid.expectedDelta_blend, CategoricalGrid.expectedDelta_persistence,
      zero_add, sub_zero, add_sub_cancel_left]
  refine ⟨hnonneg, hsum, hmean blend, fun h j => ?_⟩
  rw [hmean, blendMean, Complex.ofReal_zero, zero_mul, add_zero]

end Blend

end Mate.Rllib.Focus
