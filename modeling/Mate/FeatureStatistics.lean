import Mate.Library.Batches
import Mate.Rllib.Occupancy

set_option autoImplicit false

/-! # What the feature normalizer keeps

The normalizer merges the mean and the variance of every batch into what it has, and clamps the
variance from below. The counts and the means are those of all rows together. The variance is too
large by what the clamp adds, but a merge scales this down by the share of the rows before it, so it
never becomes more than `eps` (`Tracks.update`).
-/

namespace Mate.Rllib.Focus

open Batches

/-! ## Batches of features -/

/-- A batch of sequences of features. -/
structure FeatureBatch (D : ℕ) where
  B : ℕ
  T : ℕ
  value : Fin B → Fin T → Fin D → ℝ

namespace FeatureBatch

variable {D : ℕ} (batch : FeatureBatch D)

/-- `value.reshape(-1, size)`. -/
def rows : List (Fin D → ℝ) :=
  (List.finRange batch.B).flatMap (fun b => (List.finRange batch.T).map (batch.value b))

@[simp] theorem length_rows : batch.rows.length = batch.B * batch.T := by
  simp [rows, List.length_flatMap]

theorem sum_rows (f : (Fin D → ℝ) → ℝ) :
    (batch.rows.map f).sum = ∑ b, ∑ t, f (batch.value b t) := by
  rw [rows, List.flatMap_def, List.map_flatten, List.sum_flatten]
  simp only [List.map_map, Function.comp_def, Fin.sum_univ_def]

end FeatureBatch

/-- The column of a feature. -/
def feature {D : ℕ} (rows : List (Fin D → ℝ)) (d : Fin D) : List ℝ := rows.map (fun row => row d)

@[simp] theorem length_feature {D : ℕ} (rows : List (Fin D → ℝ)) (d : Fin D) :
    (feature rows d).length = rows.length := List.length_map _

theorem feature_append {D : ℕ} (rows rows' : List (Fin D → ℝ)) (d : Fin D) :
    feature (rows ++ rows') d = feature rows d ++ feature rows' d := List.map_append

section Statistics

variable {D : ℕ} (batch : FeatureBatch D) (d : Fin D)

theorem mean_feature_rows : mean (feature batch.rows d)
    = (∑ b, ∑ t, batch.value b t d) / ((batch.B * batch.T : ℕ) : ℝ) := by
  rw [mean, length_feature, batch.length_rows, feature, batch.sum_rows]

theorem variance_feature_rows : variance (feature batch.rows d)
    = (∑ b, ∑ t, (batch.value b t d - mean (feature batch.rows d)) ^ 2)
      / ((batch.B * batch.T : ℕ) : ℝ) := by
  have hmap : deviation (feature batch.rows d)
      = (batch.rows.map (fun row => (row d - mean (feature batch.rows d)) ^ 2)).sum := by
    rw [deviation, feature, List.map_map]
    rfl
  rw [variance, length_feature, batch.length_rows, hmap, batch.sum_rows]

end Statistics

/-! ## One batch -/

section Update

variable {D : ℕ} (normalizer : RunningFeatureNormalizer D) (batch : FeatureBatch D) (d : Fin D)

theorem rows_eq_nil_iff : batch.rows = [] ↔ batch.B * batch.T = 0 := by
  rw [← List.length_eq_zero_iff, batch.length_rows]

/-- An empty batch changes nothing. -/
theorem update_empty (h : batch.rows = []) : normalizer.update batch.value = normalizer :=
  if_pos (by rw [(rows_eq_nil_iff batch).mp h, Nat.zero_mul])

/-- Where there are features, a batch that has rows has entries. -/
theorem entries_ne_zero (hpos : 0 < D) (h : batch.rows ≠ []) : ¬ batch.B * batch.T * D = 0 :=
  Nat.mul_ne_zero (mt (rows_eq_nil_iff batch).mpr h) hpos.ne'

/-- The first batch is taken as it is, up to the clamp. -/
theorem update_first (h : batch.rows ≠ []) (hcount : normalizer.count = 0) :
    (normalizer.update batch.value).count = batch.rows.length ∧
      (normalizer.update batch.value).mean d = mean (feature batch.rows d) ∧
      (normalizer.update batch.value).variance d
        = max (variance (feature batch.rows d)) normalizer.eps := by
  unfold RunningFeatureNormalizer.update
  rw [if_neg (entries_ne_zero batch d.pos h)]
  dsimp only
  rw [if_pos hcount, variance_feature_rows, mean_feature_rows, batch.length_rows]
  exact ⟨rfl, rfl, rfl⟩

/-- The others are merged into what there is. -/
theorem update_next (h : batch.rows ≠ []) (hcount : normalizer.count ≠ 0) :
    (normalizer.update batch.value).count = normalizer.count + batch.rows.length ∧
      (normalizer.update batch.value).mean d = normalizer.mean d
        + (mean (feature batch.rows d) - normalizer.mean d)
          * (batch.rows.length / (normalizer.count + batch.rows.length)) ∧
      (normalizer.update batch.value).variance d =
        max ((normalizer.variance d * normalizer.count
          + variance (feature batch.rows d) * batch.rows.length
          + (mean (feature batch.rows d) - normalizer.mean d) ^ 2 * normalizer.count
            * batch.rows.length / (normalizer.count + batch.rows.length))
              / (normalizer.count + batch.rows.length)) normalizer.eps := by
  unfold RunningFeatureNormalizer.update
  rw [if_neg (entries_ne_zero batch d.pos h)]
  dsimp only
  rw [if_neg hcount, variance_feature_rows, mean_feature_rows, batch.length_rows]
  exact ⟨rfl, rfl, rfl⟩

end Update

/-! ## All batches -/

section Invariant

variable {D : ℕ}

/-- What the normalizer has of feature `d` once it has seen the rows. -/
structure Tracks (normalizer : RunningFeatureNormalizer D) (rows : List (Fin D → ℝ)) (d : Fin D) :
    Prop where
  count_eq : normalizer.count = rows.length
  mean_eq : normalizer.mean d = mean (feature rows d)
  variance_mem : rows ≠ [] → variance (feature rows d) ≤ normalizer.variance d ∧
    normalizer.variance d ≤ variance (feature rows d) + max (normalizer.eps : ℝ) 0
  unseen : rows = [] → normalizer.variance d = 1

theorem tracks_init (clip eps : ℚ) (d : Fin D) :
    Tracks { RunningFeatureNormalizer.init D clip with eps := eps } [] d where
  count_eq := Nat.cast_zero.symm
  mean_eq := by simp [RunningFeatureNormalizer.init, feature, mean]
  variance_mem h := absurd rfl h
  unseen _ := rfl

/-- The clamp adds `eps` at most. -/
theorem clamped_mem {v w eps : ℝ} (hpos : 0 ≤ v) (hlow : v ≤ w) (hhigh : w ≤ v + max eps 0) :
    v ≤ max w eps ∧ max w eps ≤ v + max eps 0 := by
  have heps := le_max_left eps 0
  exact ⟨hlow.trans (le_max_left _ _), max_le hhigh (by linarith)⟩

/-- **One batch.** -/
theorem Tracks.update {normalizer : RunningFeatureNormalizer D} {rows : List (Fin D → ℝ)}
    {d : Fin D} (h : Tracks normalizer rows d) (batch : FeatureBatch D) :
    Tracks (normalizer.update batch.value) (rows ++ batch.rows) d := by
  have heps : (normalizer.update batch.value).eps = normalizer.eps :=
    congrArg Prod.snd (normalizer.constants_update batch.value)
  by_cases hempty : batch.rows = []
  · rw [update_empty normalizer batch hempty, hempty, List.append_nil]
    exact h
  by_cases hseen : rows = []
  · -- the first rows
    have hcount : normalizer.count = 0 := by rw [h.count_eq, hseen, List.length_nil, Nat.cast_zero]
    obtain ⟨hcount', hmean, hvariance⟩ := update_first normalizer batch d hempty hcount
    rw [hseen, List.nil_append]
    refine ⟨hcount', hmean, fun _ => ?_, fun hnil => absurd hnil hempty⟩
    rw [hvariance, heps]
    exact clamped_mem (variance_nonneg _) le_rfl (by linarith [le_max_right (normalizer.eps : ℝ) 0])
  · -- the merge of two samples: pooled mean, and the variance clamped from below
    have hcount : normalizer.count ≠ 0 := by
      rw [h.count_eq, Nat.cast_ne_zero, Ne, List.length_eq_zero_iff]
      exact hseen
    obtain ⟨hcount', hmean, hvariance⟩ := update_next normalizer batch d hempty hcount
    obtain ⟨hlow, hhigh⟩ := h.variance_mem hseen
    have hlengths : 0 < (feature rows d).length + (feature batch.rows d).length := by
      rw [length_feature]
      exact Nat.add_pos_left (List.length_pos_iff.mpr hseen) _
    have htotal : (rows.length + batch.rows.length : ℝ) ≠ 0 := by
      rw [length_feature, length_feature] at hlengths
      exact_mod_cast hlengths.ne'
    refine ⟨?_, ?_, fun _ => ?_, fun hnil => absurd (List.append_eq_nil_iff.mp hnil).1 hseen⟩
    · rw [hcount', h.count_eq, List.length_append, Nat.cast_add]
    · rw [hmean, h.mean_eq, h.count_eq, feature_append, mean_append, length_feature, length_feature]
      field_simp
      ring
    · have hmerged := mergedVariance_mem hlengths hlow hhigh
      rw [← feature_append] at hmerged
      have hsame : (normalizer.update batch.value).variance d
          = max (mergedVariance (normalizer.variance d) (feature rows d) (feature batch.rows d))
            normalizer.eps := by
        rw [hvariance, h.mean_eq, h.count_eq, mergedVariance, length_feature, length_feature]
      rw [hsame, heps]
      exact clamped_mem (variance_nonneg _) hmerged.1 hmerged.2

/-- The rows of all batches. -/
def pooledRows (batches : List (FeatureBatch D)) : List (Fin D → ℝ) :=
  batches.flatMap FeatureBatch.rows

/-- A new normalizer, after the batches. -/
noncomputable def afterBatches (clip eps : ℚ) (batches : List (FeatureBatch D)) :
    RunningFeatureNormalizer D :=
  batches.foldl (fun normalizer batch => normalizer.update batch.value)
    { RunningFeatureNormalizer.init D clip with eps := eps }

theorem Tracks.foldl {normalizer : RunningFeatureNormalizer D} {rows : List (Fin D → ℝ)} {d : Fin D}
    (h : Tracks normalizer rows d) (batches : List (FeatureBatch D)) :
    Tracks (batches.foldl (fun normalizer batch => normalizer.update batch.value) normalizer)
      (rows ++ pooledRows batches) d := by
  induction batches generalizing normalizer rows with
  | nil =>
      rw [pooledRows, List.flatMap_nil, List.append_nil]
      exact h
  | cons batch batches ih =>
      have hrest := ih (h.update batch)
      rw [List.append_assoc] at hrest
      exact hrest

theorem eps_foldl (normalizer : RunningFeatureNormalizer D) (batches : List (FeatureBatch D)) :
    (batches.foldl (fun normalizer batch => normalizer.update batch.value) normalizer).eps
      = normalizer.eps := by
  induction batches generalizing normalizer with
  | nil => rfl
  | cons batch batches ih =>
      exact (ih _).trans (congrArg Prod.snd (normalizer.constants_update batch.value))

/-- **The statistics are pooled.** The clamp leaves the variance too large, by `eps` at most. -/
theorem afterBatches_pooled (clip eps : ℚ) (batches : List (FeatureBatch D)) (d : Fin D) :
    (afterBatches clip eps batches).count = (pooledRows batches).length ∧
      (afterBatches clip eps batches).mean d = mean (feature (pooledRows batches) d) ∧
      (pooledRows batches ≠ [] →
        variance (feature (pooledRows batches) d) ≤ (afterBatches clip eps batches).variance d ∧
        (afterBatches clip eps batches).variance d
          ≤ variance (feature (pooledRows batches) d) + max (eps : ℝ) 0) ∧
      (pooledRows batches = [] → (afterBatches clip eps batches).variance d = 1) := by
  have htracks := (tracks_init clip eps d).foldl batches
  have hvariance := htracks.variance_mem
  rw [eps_foldl] at hvariance
  exact ⟨htracks.count_eq, htracks.mean_eq, hvariance, htracks.unseen⟩

/-- Before there are rows, the variance is one. -/
theorem afterBatches_empty : ¬ ∀ (batches : List (FeatureBatch 1)) (d : Fin 1),
    variance (feature (pooledRows batches) d) ≤ (afterBatches 5 (1 / 10 ^ 5) batches).variance d ∧
      (afterBatches 5 (1 / 10 ^ 5) batches).variance d
        ≤ variance (feature (pooledRows batches) d) + ((1 / 10 ^ 5 : ℚ) : ℝ) := by
  intro h
  have hlast := (h [⟨0, 0, fun b => b.elim0⟩] 0).2
  have hone :
      (afterBatches 5 (1 / 10 ^ 5) [⟨0, 0, fun b => b.elim0⟩]).variance (0 : Fin 1) = 1 := by
    simp [afterBatches, RunningFeatureNormalizer.update, RunningFeatureNormalizer.init]
  have hzero : variance (feature (pooledRows [⟨0, 0, fun b => b.elim0⟩]) (0 : Fin 1)) = 0 := by
    simp [variance, feature, pooledRows, FeatureBatch.rows]
  rw [hone, hzero] at hlast
  norm_num at hlast

end Invariant

end Mate.Rllib.Focus
