import Mate.Rllib.FocusTarget
import Mate.TargetSelections

set_option autoImplicit false

/-! # Credit is a difference of coverage, and responsibilities are a distribution

`_credit_chunk_sum` multiplies what a camera sees by what the others leave uncovered. That is the
gain of the camera in the sense of `Coverage`, so it is the difference that the camera makes to the
expected coverage of the targets (`creditChunkSum_difference`).

Every integral of FOCUS weighs these gains: it takes the mean of them over a distribution for every
target, up to the small constants in the denominators. The gains are not negative, therefore, and add
up to no more than the number of targets (`Credits`), whatever the belief, and the responsibilities
are a distribution, up to the constant in their denominator (`focusCreditTarget_responsible`).
-/

namespace Mate.Rllib.Focus

open Coverage Chunks Fallible Nets Finset

/-! ## The product over the others -/

/-- Leaving one entry out of a list is setting it to one in the product. -/
theorem prod_take_append_drop {n : ℕ} (f : Fin n → ℝ) (i : Fin n) :
    ((List.ofFn f).take i ++ (List.ofFn f).drop (i + 1)).prod = ∏ k ∈ univ.erase i, f k := by
  have hi : (i : ℕ) < (List.ofFn (Function.update f i 1)).length := by
    rw [List.length_ofFn]
    exact i.2
  have htake : (List.ofFn f).take i = (List.ofFn (Function.update f i 1)).take i := by
    refine List.ext_getElem (by simp) (fun k hk hk' => ?_)
    have hki : k < i := by
      rw [List.length_take] at hk
      omega
    rw [List.getElem_take, List.getElem_take, List.getElem_ofFn, List.getElem_ofFn,
      Function.update_of_ne (fun h => absurd (congrArg Fin.val h) (by simp; omega))]
  have hdrop : (List.ofFn f).drop (i + 1) = (List.ofFn (Function.update f i 1)).drop (i + 1) := by
    refine List.ext_getElem (by simp) (fun k hk hk' => ?_)
    rw [List.getElem_drop, List.getElem_drop, List.getElem_ofFn, List.getElem_ofFn,
      Function.update_of_ne (fun h => absurd (congrArg Fin.val h) (by simp; omega))]
  have hone : (List.ofFn (Function.update f i 1))[(i : ℕ)] = 1 := by
    rw [List.getElem_ofFn]
    exact Function.update_self i 1 f
  calc ((List.ofFn f).take i ++ (List.ofFn f).drop (i + 1)).prod
      = ((List.ofFn (Function.update f i 1)).take i).prod
          * ((List.ofFn (Function.update f i 1)).drop i).prod := by
        rw [htake, hdrop, List.prod_append, List.drop_eq_getElem_cons hi, List.prod_cons, hone,
          one_mul]
    _ = ∏ k, Function.update f i 1 k := by
        rw [← List.prod_append, List.take_append_drop, List.prod_ofFn]
    _ = ∏ k ∈ univ.erase i, f k := by
        rw [← mul_prod_erase univ _ (mem_univ i), Function.update_self, one_mul]
        refine prod_congr rfl (fun k hk => ?_)
        rw [Function.update_of_ne (ne_of_mem_erase hk)]

/-- What the others leave uncovered, also when there are no others. -/
theorem uncoveredByOthers_eq {n : ℕ} (visible : Fin n → ℝ) (i : Fin n) :
    uncoveredByOthers visible i = uncovered visible (univ.erase i) := by
  unfold uncoveredByOthers
  by_cases hn : n = 1
  · subst hn
    have hempty : univ.erase i = ∅ := by
      rw [Subsingleton.elim i 0]
      rfl
    rw [if_pos rfl, hempty, uncovered, prod_empty]
  · rw [if_neg hn]
    exact prod_take_append_drop (fun k => 1 - visible k) i

theorem uniqueVisibility_eq {n : ℕ} (visible : Fin n → ℝ) (i : Fin n) :
    uniqueVisibility visible i = gain visible univ i := by
  rw [uniqueVisibility, uncoveredByOthers_eq, gain]

/-! ## One chunk of samples -/

section Chunk

variable (cfg : FocusConfig) {n J S : ℕ} (geometry : Geometry n) (selection : Selection n J)
  (samples : Fin J → Fin S → ℂ) (sampleWeights : Option (Fin S → ℝ))

/-- The weight of a sample. -/
def sampleWeight (sampleWeights : Option (Fin S → ℝ)) (s : Fin S) : ℝ :=
  match sampleWeights with
  | some weights => weights s
  | none => 1

/-- The bit of target `j` in the action of camera `i`; all bits are on where actions are no
selections. -/
def bit (selection : Selection n J) (i : Fin n) (j : Fin J) : ℝ :=
  match selection with
  | some bits => bits i j
  | none => 1

theorem apply_eq (raw : ℝ) (i : Fin n) (j : Fin J) : selection.apply raw i j = raw * bit selection i j := by
  cases selection with
  | none => exact (mul_one raw).symm
  | some bits => rfl

/-- The expected coverage of target `j` by the cameras of a set. -/
noncomputable def coverage (j : Fin J) (cameras : Finset (Fin n)) : ℝ :=
  expected (fun i s => visible cfg geometry selection samples i j s) (sampleWeight sampleWeights)
    cameras

/-- The gain of the camera is the expected gain of an observer. -/
theorem camera_creditChunkSum (i : Fin n) :
    (creditChunkSum cfg geometry selection samples sampleWeights).camera i
      = ∑ j, expectedGain (fun i s => visible cfg geometry selection samples i j s)
          (sampleWeight sampleWeights) univ i := by
  dsimp only [creditChunkSum, expectedGain]
  refine sum_congr rfl (fun j _ => sum_congr rfl (fun s _ => ?_))
  rw [uncoveredByOthers_eq, mul_comm (sampleWeight sampleWeights s), gain]
  rfl

theorem pair_creditChunkSum (i : Fin n) (j : Fin J) :
    (creditChunkSum cfg geometry selection samples sampleWeights).pair i j
      = ∑ s, rawVisible cfg geometry samples i j s
          * uncovered (fun k => visible cfg geometry selection samples k j s) (univ.erase i)
          * sampleWeight sampleWeights s := by
  dsimp only [creditChunkSum]
  refine sum_congr rfl (fun s _ => ?_)
  rw [uncoveredByOthers_eq]
  rfl

/-- The selection with one bit of one camera set. -/
noncomputable def force (selection : Selection n J) (i : Fin n) (j : Fin J) (value : ℝ) :
    Selection n J :=
  some (Function.update (bit selection) i (Function.update (bit selection i) j value))

theorem bit_force_self (i : Fin n) (j : Fin J) (value : ℝ) :
    bit (force selection i j value) i j = value := by
  show Function.update (bit selection) i _ i j = value
  rw [Function.update_self, Function.update_self]

theorem bit_force_of_ne {i k : Fin n} (h : k ≠ i) (j l : Fin J) (value : ℝ) :
    bit (force selection i j value) k l = bit selection k l := by
  show Function.update (bit selection) i _ k l = _
  rw [Function.update_of_ne h]

theorem visible_eq (i : Fin n) (j : Fin J) (s : Fin S) :
    visible cfg geometry selection samples i j s
      = rawVisible cfg geometry samples i j s * bit selection i j :=
  apply_eq selection _ i j

/-- What the others see does not depend on the forced bit. -/
theorem coverage_force_erase (i : Fin n) (j : Fin J) (value : ℝ) :
    coverage cfg geometry (force selection i j value) samples sampleWeights j (univ.erase i)
      = coverage cfg geometry selection samples sampleWeights j (univ.erase i) := by
  unfold coverage expected
  refine sum_congr rfl (fun s _ => ?_)
  rw [covered, covered]
  congr 2
  refine uncovered_congr (fun k hk => ?_)
  dsimp only
  rw [visible_eq, visible_eq, bit_force_of_ne selection (ne_of_mem_erase hk)]

/-- A pair gain is the expected gain with the bit of the pair forced on. -/
theorem pair_eq_expectedGain (i : Fin n) (j : Fin J) :
    (creditChunkSum cfg geometry selection samples sampleWeights).pair i j
      = expectedGain (fun k s => visible cfg geometry (force selection i j 1) samples k j s)
          (sampleWeight sampleWeights) univ i := by
  rw [pair_creditChunkSum]
  refine sum_congr rfl (fun s _ => ?_)
  have hself : visible cfg geometry (force selection i j 1) samples i j s
      = rawVisible cfg geometry samples i j s := by
    rw [visible_eq, bit_force_self, mul_one]
  have hothers : uncovered (fun k => visible cfg geometry (force selection i j 1) samples k j s)
        (univ.erase i)
      = uncovered (fun k => visible cfg geometry selection samples k j s) (univ.erase i) := by
    refine uncovered_congr (fun k hk => ?_)
    rw [visible_eq, visible_eq, bit_force_of_ne selection (ne_of_mem_erase hk)]
  show _ = _ * (visible cfg geometry (force selection i j 1) samples i j s * uncovered _ _)
  rw [hself, hothers]
  ring

/-- With the bit forced off, the camera does not count for the target. -/
theorem coverage_force_zero (i : Fin n) (j : Fin J) :
    coverage cfg geometry (force selection i j 0) samples sampleWeights j univ
      = coverage cfg geometry selection samples sampleWeights j (univ.erase i) := by
  rw [← coverage_force_erase cfg geometry selection samples sampleWeights i j 0]
  unfold coverage expected
  refine sum_congr rfl (fun s _ => ?_)
  rw [covered, covered]
  congr 2
  refine (uncovered_erase_of_eq_zero ?_).symm
  dsimp only
  rw [visible_eq, bit_force_self, mul_zero]

theorem visible_mem {raw : ℝ} (hraw : raw ∈ Set.Icc (0 : ℝ) 1)
    (hbits : ∀ i j, bit selection i j = 0 ∨ bit selection i j = 1) (i : Fin n) (j : Fin J) :
    selection.apply raw i j ∈ Set.Icc (0 : ℝ) 1 := by
  rw [apply_eq]
  rcases hbits i j with h | h
  · rw [h, mul_zero]
    exact ⟨le_rfl, zero_le_one⟩
  · rwa [h, mul_one]

/-- **Credit is the difference that a camera makes to the expected coverage**: of all targets for
the gain of a camera, and of one target, with its bit forced on, for the gain of a pair. -/
theorem creditChunkSum_difference
    (hraw : ∀ i j s, rawVisible cfg geometry samples i j s ∈ Set.Icc (0 : ℝ) 1)
    (hbits : ∀ i j, bit selection i j = 0 ∨ bit selection i j = 1)
    (hweights : ∀ s, 0 ≤ sampleWeight sampleWeights s) :
    let gains := creditChunkSum cfg geometry selection samples sampleWeights
    let coverage := coverage cfg geometry
    (∀ i, gains.camera i = ∑ j, coverage selection samples sampleWeights j univ
        - ∑ j, coverage selection samples sampleWeights j (univ.erase i)) ∧
      (∀ i j, gains.pair i j = coverage (force selection i j 1) samples sampleWeights j univ
        - coverage (force selection i j 0) samples sampleWeights j univ) ∧
      (∀ i, ∑ j, bit selection i j * gains.pair i j = gains.camera i) ∧
      (∀ i, 0 ≤ gains.camera i) ∧ (∀ i j, 0 ≤ gains.pair i j) ∧
      ∀ j s, ∑ i, uniqueVisibility (fun k => visible cfg geometry selection samples k j s) i ≤ 1 := by
  intro gains coverage'
  -- what a selecting camera sees of a sample is a probability
  have hvisible : ∀ j i s, visible cfg geometry selection samples i j s ∈ Set.Icc (0 : ℝ) 1 :=
    fun j i s => visible_mem selection (hraw i j s) hbits i j
  refine ⟨fun i => ?_, fun i j => ?_, fun i => ?_, fun i => ?_, fun i j => ?_, fun j s => ?_⟩
  · rw [camera_creditChunkSum, ← sum_sub_distrib]
    exact sum_congr rfl (fun j _ => expectedGain_eq_sub (mem_univ i))
  · rw [pair_eq_expectedGain, expectedGain_eq_sub (mem_univ i)]
    show _ - coverage cfg geometry (force selection i j 1) samples sampleWeights j (univ.erase i) = _
    rw [coverage_force_erase, ← coverage_force_zero]
    rfl
  · rw [camera_creditChunkSum]
    refine sum_congr rfl (fun j _ => ?_)
    rw [pair_creditChunkSum, mul_sum, expectedGain]
    refine sum_congr rfl (fun s _ => ?_)
    rw [gain, visible_eq]
    ring
  · rw [camera_creditChunkSum]
    exact sum_nonneg (fun j _ => expectedGain_nonneg hweights (fun i s => (hvisible j i s).1)
      (fun i s => (hvisible j i s).2) univ i)
  · rw [pair_creditChunkSum]
    refine sum_nonneg (fun s _ => mul_nonneg (mul_nonneg (hraw i j s).1 ?_) (hweights s))
    exact uncovered_nonneg (fun k => (hvisible j k s).2) _
  · simp only [uniqueVisibility_eq]
    exact sum_gain_le_one (fun k => (hvisible j k s).1) (fun k => (hvisible j k s).2) univ

end Chunk

/-- Two cameras, of which only the first one selects the target. -/
theorem creditChunkSum_difference_two :
    let camera : CameraFov := ⟨0, 0, 10, 1⟩
    let geometry : Geometry 2 := ⟨fun _ => camera, []⟩
    let selection : Selection 2 1 := some (fun i _ => if i = 0 then 1 else 0)
    let samples : Fin 1 → Fin 1 → ℂ := fun _ _ => 5
    let coverage := coverage {} geometry selection samples (some fun _ => 1 / 5) 0
    (creditChunkSum {} geometry selection samples (some fun _ => 1 / 5)).camera 1
      = coverage univ - coverage (univ.erase 1) := by
  intro camera geometry selection samples coverage'
  have hdiff := (creditChunkSum_difference {} geometry selection samples (some fun _ => 1 / 5)
    (fun i j s => pointVisibility_mem {} le_rfl zero_le_one geometry i _)
    (fun i j => ?_) (fun s => ?_)).1 1
  · rw [hdiff, Fin.sum_univ_one, Fin.sum_univ_one]
  · show (if i = 0 then (1 : ℝ) else 0) = 0 ∨ (if i = 0 then (1 : ℝ) else 0) = 1
    split
    · exact Or.inr rfl
    · exact Or.inl rfl
  · show (0 : ℝ) ≤ 1 / 5
    norm_num

/-! ## Credits -/

/-- Gains that are not negative and add up to no more than the number of targets. -/
structure Credits {n : ℕ} (J : ℕ) (g : Fin n → ℝ) : Prop where
  nonneg : ∀ i, 0 ≤ g i
  sum_le : ∑ i, g i ≤ J

/-- The bits of a selection are bits. -/
def Selection.Binary {n J : ℕ} (selection : Selection n J) : Prop :=
  ∀ i j, bit selection i j = 0 ∨ bit selection i j = 1

/-- Gains of observers under a weight of at most one for every target. -/
theorem Credits.of_expectedGain {n J : ℕ} {σ : Type} [Fintype σ] {v : Fin J → Fin n → σ → ℝ}
    {w : Fin J → σ → ℝ} (hv : ∀ j i s, v j i s ∈ Set.Icc (0 : ℝ) 1) (hw : ∀ j s, 0 ≤ w j s)
    (hsum : ∀ j, ∑ s, w j s ≤ 1) {g : Fin n → ℝ}
    (hg : ∀ i, g i = ∑ j, expectedGain (v j) (w j) univ i) : Credits J g where
  nonneg i := by
    rw [hg]
    exact sum_nonneg (fun j _ => expectedGain_nonneg (hw j) (fun i s => (hv j i s).1)
      (fun i s => (hv j i s).2) univ i)
  sum_le := by
    calc ∑ i, g i = ∑ j, ∑ i, expectedGain (v j) (w j) univ i := by
          simp only [hg]
          exact sum_comm
      _ ≤ ∑ j : Fin J, (1 : ℝ) := by
          refine sum_le_sum (fun j _ => le_trans ?_ (hsum j))
          exact sum_expectedGain_le (hw j) (fun i s => (hv j i s).1) (fun i s => (hv j i s).2) univ
      _ = J := by simp

section Weights

variable (cfg : FocusConfig) (H : ℕ)

theorem eps_pos : (0 : ℝ) < cfg.eps := by exact_mod_cast cfg.eps_pos

theorem discount_pow_nonneg (k : ℕ) : (0 : ℝ) ≤ (cfg.horizonDiscount : ℝ) ^ k :=
  pow_nonneg (by exact_mod_cast cfg.horizonDiscount_nonneg) k

theorem horizonWeights_nonneg (h : Fin H) : 0 ≤ horizonWeights cfg H h := by
  have hsum : 0 ≤ ∑ k : Fin H, (cfg.horizonDiscount : ℝ) ^ (k : ℕ) :=
    sum_nonneg (fun k _ => discount_pow_nonneg cfg k)
  exact div_nonneg (discount_pow_nonneg cfg h) (add_nonneg hsum (eps_pos cfg).le)

/-- Weights divided by their sum and a small constant add up to at most one. -/
theorem sum_div_le_one {κ : Type} [Fintype κ] {x : κ → ℝ} (hx : ∀ k, 0 ≤ x k) :
    ∑ k, x k / (∑ l, x l + cfg.eps) ≤ 1 := by
  have hsum : 0 ≤ ∑ l, x l := sum_nonneg (fun l _ => hx l)
  have heps := eps_pos cfg
  rw [← sum_div, div_le_one (by linarith)]
  linarith

theorem sum_horizonWeights_le : ∑ h, horizonWeights cfg H h ≤ 1 :=
  sum_div_le_one cfg (fun k : Fin H => discount_pow_nonneg cfg k)

variable {cfg H}

/-- Credits averaged over the horizons. -/
theorem Credits.horizons {n J : ℕ} {g : Fin H → Fin n → ℝ} (hg : ∀ h, Credits J (g h)) :
    Credits J (fun i => ∑ h, horizonWeights cfg H h * g h i) where
  nonneg i := sum_nonneg (fun h _ =>
    mul_nonneg (horizonWeights_nonneg cfg H h) ((hg h).nonneg i))
  sum_le := by
    have hJ : (0 : ℝ) ≤ J := Nat.cast_nonneg J
    calc ∑ i, ∑ h, horizonWeights cfg H h * g h i
        = ∑ h, horizonWeights cfg H h * ∑ i, g h i := by
          rw [sum_comm]
          simp only [mul_sum]
      _ ≤ ∑ h, horizonWeights cfg H h * J := sum_le_sum (fun h _ =>
          mul_le_mul_of_nonneg_left (hg h).sum_le (horizonWeights_nonneg cfg H h))
      _ = (∑ h, horizonWeights cfg H h) * J := (sum_mul _ _ _).symm
      _ ≤ 1 * J := mul_le_mul_of_nonneg_right (sum_horizonWeights_le cfg H) hJ
      _ = J := one_mul _

end Weights

/-! ## The integrals -/

section Integrals

variable (cfg : FocusConfig) {n J H : ℕ} {geometry : Geometry n} {selection : Selection n J}

/-- The chunks of the samples add up to the samples. -/
theorem sum_creditChunkSum {S size : ℕ} (hsize : 0 < size) (samples : Fin J → Fin S → ℂ)
    (weights : Option (Fin S → ℝ)) (i : Fin n) :
    let chunkSum := fun c => creditChunkSum cfg geometry selection
      (fun j => slice (samples j) (c * size) (c * size + size))
      (weights.map (fun w => slice w (c * size) (c * size + size)))
    let whole := creditChunkSum cfg geometry selection samples weights
    ∑ c ∈ range (count S size), (chunkSum c).camera i = whole.camera i ∧
      ∀ j, ∑ c ∈ range (count S size), (chunkSum c).pair i j = whole.pair i j := by
  intro chunkSum whole
  -- what is summed up in a chunk is what is summed up over all samples, sliced
  have hcamera : ∀ c, (chunkSum c).camera i
      = ∑ j, ∑ k, slice (fun s => visible cfg geometry selection samples i j s
          * uncoveredByOthers (fun k => visible cfg geometry selection samples k j s) i
          * sampleWeight weights s) (c * size) (c * size + size) k := by
    intro c
    cases weights <;> rfl
  have hpair : ∀ j c, (chunkSum c).pair i j
      = ∑ k, slice (fun s => rawVisible cfg geometry samples i j s
          * uncoveredByOthers (fun k => visible cfg geometry selection samples k j s) i
          * sampleWeight weights s) (c * size) (c * size + size) k := by
    intro j c
    cases weights <;> rfl
  refine ⟨?_, fun j => ?_⟩
  · rw [sum_congr rfl (fun c _ => hcamera c)]
    exact sum_slices_family hsize _
  · rw [sum_congr rfl (fun c _ => hpair j c)]
    exact sum_slices hsize _

/-- The gain of all samples at once, by their weights or as a mean. -/
noncomputable def sampleGain {S : ℕ} (geometry : Geometry n) (selection : Selection n J)
    (samples : Fin J → Fin S → ℂ) (weights : Option (Fin S → ℝ)) (i : Fin n) : ℝ :=
  match weights with
  | some w => (creditChunkSum cfg geometry selection samples (some w)).camera i
  | none => (creditChunkSum cfg geometry selection samples none).camera i / (S : ℝ)

/-- `_credit_from_sigma_points` without chunks. -/
theorem creditFromSigmaPoints_eq {S : ℕ} (samples : Fin H → Fin J → Fin S → ℂ)
    (weights : Option (Fin S → ℝ)) :
    creditFromSigmaPoints cfg geometry selection samples weights = fun i =>
      ∑ h, horizonWeights cfg H h * sampleGain cfg geometry selection (samples h) weights i := by
  have hsize := chunkSize_pos (cfg.sampleChunkSize.getD (cfg.mcChunkSize.getD 32)) S
  funext i
  refine sum_congr rfl (fun h _ => ?_)
  cases weights with
  | some w =>
      show _ = _ * (creditChunkSum cfg geometry selection (samples h) (some w)).camera i
      rw [← (sum_creditChunkSum cfg hsize (samples h) (some w) i).1, mul_sum]
  | none =>
      show _ = _ * ((creditChunkSum cfg geometry selection (samples h) none).camera i / (S : ℝ))
      rw [← (sum_creditChunkSum cfg hsize (samples h) none i).1, sum_div, mul_sum]

/-- `_credit_from_mc_points` without chunks. -/
theorem creditFromMcPoints_eq [Quadrature] (mean std : Fin H → Fin J → ℂ) :
    let samples := fun h j k => spread (mean h j) (std h j) (mcNormals cfg k)
    let whole := fun h => creditChunkSum cfg geometry selection (samples h) none
    creditFromMcPoints cfg geometry selection mean std =
      { camera := fun i => ∑ h, horizonWeights cfg H h * ((whole h).camera i / (cfg.mcNumPoints : ℝ))
        pair := fun i j =>
          ∑ h, horizonWeights cfg H h * ((whole h).pair i j / (cfg.mcNumPoints : ℝ)) } := by
  intro samples whole
  have hsize := chunkSize_pos (cfg.mcChunkSize.getD (cfg.sampleChunkSize.getD 32)) cfg.mcNumPoints
  refine congrArg₂ CreditGains.mk (funext (fun i => ?_)) (funext (fun i => funext (fun j => ?_)))
  · refine sum_congr rfl (fun h _ => ?_)
    rw [← (sum_creditChunkSum cfg hsize (samples h) none i).1, sum_div, mul_sum]
    exact sum_congr rfl (fun c _ => mul_div_assoc _ _ _)
  · refine sum_congr rfl (fun h _ => ?_)
    rw [← (sum_creditChunkSum cfg hsize (samples h) none i).2 j, sum_div, mul_sum]
    exact sum_congr rfl (fun c _ => mul_div_assoc _ _ _)

/-- What a camera alone sees of cells with a mass. -/
noncomputable def cellGain {K : ℕ} (selection : Selection n J) (raw : Fin n → Fin J → Fin K → ℝ)
    (mass : Fin J → Fin K → ℝ) (i : Fin n) : ℝ :=
  ∑ j, ∑ k, uniqueVisibility (fun l => selection.apply (raw l j k) l j) i * mass j k

/-- `_credit_from_grid` without chunks: the mass of a cell is that of the softmax, over all
horizons. -/
theorem gridGains_eq (mean std : Fin H → Fin J → ℂ) :
    gridGains cfg geometry selection mean std = cellGain selection
      (fun i _ k => gridCellVisibility cfg geometry i (gridPoints cfg k))
      (fun j k => ∑ h, horizonWeights cfg H h * gaussianGridMass cfg (mean h j) (std h j) k) := by
  have hsize := chunkSize_pos (cfg.gridChunkSize.getD 512) (cfg.gridSize * cfg.gridSize)
  funext i
  refine (sum_slices_family hsize _).trans (sum_congr rfl (fun j _ => sum_congr rfl (fun k _ => ?_)))
  refine congrArg (fun mass => _ * mass) (sum_congr rfl (fun h _ => ?_))
  exact congrArg (fun mass => horizonWeights cfg H h * mass) (exp_sub_logNorm hsize
    (fun k => gaussianGridLogits cfg (mean h j) (std h j) (gridPoints cfg k)) k)

/-- `_credit_from_categorical_grid` without chunks. -/
theorem creditFromCategoricalGrid_eq {K : ℕ} (probabilities : Fin H → Fin J → Fin K → ℝ)
    (displacementGrid : Fin K → ℂ) (currentPosition : Fin J → ℂ) :
    creditFromCategoricalGrid cfg geometry selection probabilities displacementGrid currentPosition
      = cellGain selection
        (fun i j k => pointVisibility cfg geometry i (currentPosition j + displacementGrid k))
        (fun j k => ∑ h, probabilities h j k * horizonWeights cfg H h) := by
  have hsize := chunkSize_pos (cfg.beliefGridChunkSize.getD (cfg.gridChunkSize.getD 128)) K
  funext i
  exact sum_slices_family hsize _

/-- The gains of cells with a mass of at most one for every target. -/
theorem credits_cellGain (hbits : selection.Binary) {K : ℕ} {raw : Fin n → Fin J → Fin K → ℝ}
    (hraw : ∀ i j k, raw i j k ∈ Set.Icc (0 : ℝ) 1) {mass : Fin J → Fin K → ℝ}
    (hmass : ∀ j k, 0 ≤ mass j k) (hsum : ∀ j, ∑ k, mass j k ≤ 1) :
    Credits J (cellGain selection raw mass) := by
  refine Credits.of_expectedGain (v := fun j i k => selection.apply (raw i j k) i j)
    (fun j i k => visible_mem selection (hraw i j k) hbits i j) hmass hsum (fun i => ?_)
  refine sum_congr rfl (fun j _ => ?_)
  rw [expectedGain]
  refine sum_congr rfl (fun k _ => ?_)
  rw [uniqueVisibility_eq, mul_comm]

variable (h0 : 0 ≤ cfg.obstacleTransmittance) (h1 : cfg.obstacleTransmittance ≤ 1)
  (hbits : selection.Binary)

include h0 h1 hbits

theorem credits_creditChunkSum {S : ℕ} (samples : Fin J → Fin S → ℂ) {w : Fin S → ℝ}
    (hw : ∀ s, 0 ≤ w s) (hsum : ∑ s, w s ≤ 1) :
    Credits J (creditChunkSum cfg geometry selection samples (some w)).camera :=
  Credits.of_expectedGain
    (fun j i _ => visible_mem selection (pointVisibility_mem cfg h0 h1 geometry i _) hbits i j)
    (fun _ => hw) (fun _ => hsum)
    (camera_creditChunkSum cfg geometry selection samples (some w))

/-- The samples without weights, each of which counts as much as any other. -/
theorem credits_creditChunkSum_div {S : ℕ} (samples : Fin J → Fin S → ℂ) :
    Credits J (fun i => (creditChunkSum cfg geometry selection samples none).camera i / (S : ℝ)) := by
  have hS : (0 : ℝ) ≤ S := Nat.cast_nonneg S
  refine Credits.of_expectedGain (σ := Fin S) (w := fun _ _ => 1 / (S : ℝ))
    (fun j i s => visible_mem selection
      (pointVisibility_mem cfg h0 h1 geometry i (samples j s)) hbits i j)
    (fun _ _ => div_nonneg zero_le_one hS) (fun _ => ?_) (fun i => ?_)
  · rw [sum_const, card_univ, Fintype.card_fin, nsmul_eq_mul, mul_one_div]
    exact div_self_le_one _
  · rw [camera_creditChunkSum, sum_div]
    refine sum_congr rfl (fun j _ => ?_)
    rw [expectedGain, expectedGain, sum_div]
    refine sum_congr rfl (fun s _ => ?_)
    show 1 * _ / _ = 1 / _ * _
    rw [one_mul, one_div_mul_eq_div]
    rfl

theorem credits_creditFromSigmaPoints {S : ℕ} (samples : Fin H → Fin J → Fin S → ℂ)
    (weights : Option (Fin S → ℝ))
    (hw : ∀ w, weights = some w → (∀ s, 0 ≤ w s) ∧ ∑ s, w s ≤ 1) :
    Credits J (creditFromSigmaPoints cfg geometry selection samples weights) := by
  rw [creditFromSigmaPoints_eq]
  cases weights with
  | some w =>
      exact Credits.horizons (fun h => credits_creditChunkSum cfg h0 h1 hbits (samples h)
        (hw w rfl).1 (hw w rfl).2)
  | none =>
      exact Credits.horizons (fun h => credits_creditChunkSum_div cfg h0 h1 hbits (samples h))

theorem credits_creditFromMcPoints [Quadrature] (mean std : Fin H → Fin J → ℂ) :
    Credits J (creditFromMcPoints cfg geometry selection mean std).camera := by
  rw [creditFromMcPoints_eq]
  exact Credits.horizons (fun h => credits_creditChunkSum_div cfg h0 h1 hbits _)

theorem credits_gridGains (hgrid : cfg.gridSize ≠ 0) (mean std : Fin H → Fin J → ℂ) :
    Credits J (gridGains cfg geometry selection mean std) := by
  have hcells : 0 < cfg.gridSize * cfg.gridSize :=
    Nat.mul_pos (Nat.pos_of_ne_zero hgrid) (Nat.pos_of_ne_zero hgrid)
  have hne : Nonempty (Fin (cfg.gridSize * cfg.gridSize)) := ⟨⟨0, hcells⟩⟩
  rw [gridGains_eq]
  refine credits_cellGain hbits
    (fun i j k => pointVisibility_mem cfg h0 h1 geometry i (gridPoints cfg k)) (fun j k => ?_)
    (fun j => ?_)
  · exact sum_nonneg (fun h _ =>
      mul_nonneg (horizonWeights_nonneg cfg H h) (softmax_pos _ k).le)
  · rw [sum_comm]
    refine (sum_le_sum (fun h _ => ?_)).trans (sum_horizonWeights_le cfg H)
    rw [← mul_sum, gaussianGridMass, sum_softmax, mul_one]

theorem credits_creditFromCategoricalGrid {K : ℕ} {probabilities : Fin H → Fin J → Fin K → ℝ}
    (hp : ∀ h j k, 0 ≤ probabilities h j k) (hsum : ∀ h j, ∑ k, probabilities h j k = 1)
    (displacementGrid : Fin K → ℂ) (currentPosition : Fin J → ℂ) :
    Credits J (creditFromCategoricalGrid cfg geometry selection probabilities displacementGrid
      currentPosition) := by
  rw [creditFromCategoricalGrid_eq]
  refine credits_cellGain hbits
    (fun i j k => pointVisibility_mem cfg h0 h1 geometry i _) (fun j k => ?_) (fun j => ?_)
  · exact sum_nonneg (fun h _ => mul_nonneg (hp h j k) (horizonWeights_nonneg cfg H h))
  · rw [sum_comm]
    refine (sum_le_sum (fun h _ => ?_)).trans (sum_horizonWeights_le cfg H)
    rw [← sum_mul, hsum, one_mul]

end Integrals

/-! ## Beliefs -/

section Beliefs

variable (cfg : FocusConfig) {ι : Type} {n H : ℕ}

/-- The decoded actions are bits, whatever the actions. -/
theorem targetSelections_binary (nActions : ℤ) (actions : ι → Fin n → ℤ) :
    Ensures (targetSelections cfg nActions actions) (fun selection => ∀ step,
      (selection step).Binary) := by
  have hbits : Ensures (decodeTargetSelection cfg.useActionSelection nActions
        (fun k : ι × Fin n => actions k.1 k.2) cfg.nTargets)
      (fun selection => ∀ bits, selection = some bits → ∀ k, ∀ x ∈ bits k, x = 0 ∨ x = 1) := by
    unfold decodeTargetSelection
    split
    · exact Ensures.pure (fun bits h => by cases h)
    · split
      · exact Ensures.pure (fun bits h => by cases h)
      · refine (Ensures.mapM (P := fun x : ι × Fin n → ℤ => ∀ k, x k = 0 ∨ x k = 1)
          (fun j _ => ?_)).bind (fun bits hbits => ?_)
        · refine Ensures.andThen (fun quotient => ?_)
          refine Ensures.pure (fun k => ?_)
          rw [Int.fmod_eq_emod_of_nonneg _ (by decide)]
          omega
        · unfold torchStack
          split
          · exact fun b hb => by cases hb
          · refine Ensures.pure (fun stacked hstacked k x hx => ?_)
            cases hstacked
            obtain ⟨y, hy, rfl⟩ := List.mem_map.mp hx
            exact hbits y hy k
  refine hbits.bind (fun selection hselection => Ensures.pure (fun step i j => ?_))
  cases selection with
  | none => exact Or.inr rfl
  | some bits =>
      -- a bit that is read is one of the list, or the default
      show (((bits (step, i)).getD j 0 : ℤ) : ℝ) = 0 ∨ (((bits (step, i)).getD j 0 : ℤ) : ℝ) = 1
      have hread : (bits (step, i)).getD j 0 = 0 ∨ (bits (step, i)).getD j 0 = 1 := by
        rw [List.getD_eq_getElem?_getD]
        cases hget : (bits (step, i))[(j : ℕ)]? with
        | none => exact Or.inl rfl
        | some x => exact hselection bits rfl _ x (List.mem_of_getElem? hget)
      exact_mod_cast hread

theorem sigmaPoints_weights [Quadrature] {J : ℕ} (mean std : ι → Fin H → Fin J → ℂ) :
    Ensures (sigmaPoints cfg mean std) (fun sigma => ∀ step,
      (∀ s, 0 ≤ (sigma step).weights s) ∧ ∑ s, (sigma step).weights s ≤ 1) := by
  unfold sigmaPoints
  dsimp only
  split
  · refine Ensures.pure (fun step => ⟨fun s => ?_, ?_⟩)
    · show (0 : ℝ) ≤ 1 / 5
      norm_num
    · show ∑ s : Fin 5, (1 / 5 : ℝ) ≤ 1
      norm_num
  · split
    · split
      · exact fun sigma h => by cases h
      · refine Ensures.pure (fun step => ?_)
        have hweight : ∀ k, 0 ≤ (Quadrature.hermgauss cfg.sigmaOrder.toNat).2 k / √Real.pi :=
          fun k => div_nonneg (Quadrature.weights_nonneg _ k) (Real.sqrt_nonneg _)
        have hprod := fun m : Fin (cfg.sigmaOrder.toNat * cfg.sigmaOrder.toNat) =>
          mul_nonneg (hweight m.modNat) (hweight m.divNat)
        refine ⟨fun s => ?_, sum_div_le_one cfg hprod⟩
        have hsum := sum_nonneg (fun k (_ : k ∈ univ) => hprod k)
        exact div_nonneg (hprod s) (add_nonneg hsum (eps_pos cfg).le)
    · exact fun sigma h => by cases h

/-- The distributions over the cells are distributions. -/
def Belief.Proper {J : ℕ} : Belief ι H J → Prop
  | .gaussian _ _ => True
  | .categorical _ probabilities =>
    (∀ step h j k, 0 ≤ probabilities step h j k) ∧ ∀ step h j, ∑ k, probabilities step h j k = 1

theorem forecast_proper {D J B T : ℕ} (model : OccupancyModel D H J) (nAgents : ℕ)
    (state : Fin B → Fin T → Fin D → ℝ) : (model.forecast nAgents state).Proper := by
  cases model with
  | gaussian model => trivial
  | categorical model =>
      exact ⟨fun step h j k => (softmax_pos _ k).le, fun step h j => sum_softmax _⟩

/-- A blend of two distributions is a distribution. -/
theorem blendProbabilities_mem {J : ℕ} {blend : ℝ} (hb0 : 0 ≤ blend) (hb1 : blend ≤ 1)
    {grid : CategoricalGrid} {probabilities : Fin H → Fin J → Fin grid.numCells → ℝ}
    (hp : ∀ h j k, 0 ≤ probabilities h j k) (hsum : ∀ h j, ∑ k, probabilities h j k = 1) :
    (∀ h j k, 0 ≤ blendProbabilities blend grid probabilities h j k) ∧
      ∀ h j, ∑ k, blendProbabilities blend grid probabilities h j k = 1 := by
  refine ⟨fun h j k => ?_, fun h j => ?_⟩
  · have hold := (softmax_pos grid.persistencePriorLogits k).le
    have hleft := mul_nonneg (sub_nonneg.mpr hb1) hold
    have hright := mul_nonneg hb0 (hp h j k)
    unfold blendProbabilities
    linarith
  · have heq : ∀ k, blendProbabilities blend grid probabilities h j k
        = (1 - blend) * softmax grid.persistencePriorLogits k + blend * probabilities h j k := by
      intro k
      unfold blendProbabilities
      ring
    rw [sum_congr rfl (fun k _ => heq k), sum_add_distrib, ← mul_sum, ← mul_sum, sum_softmax, hsum]
    ring

variable {D : ℕ} [Quadrature] (h0 : 0 ≤ cfg.obstacleTransmittance)
  (h1 : cfg.obstacleTransmittance ≤ 1)

include h0 h1

theorem learnedGains_credits {blend : ℝ} (hb0 : 0 ≤ blend) (hb1 : blend ≤ 1)
    {belief : Belief ι H cfg.nTargets} (hbelief : belief.Proper) (state : ι → Fin D → ℝ)
    {selection : ι → Selection n cfg.nTargets} (hselection : ∀ step, (selection step).Binary) :
    Ensures (learnedGains cfg blend belief state selection) (fun g => ∀ step,
      Credits cfg.nTargets (g step).1) := by
  cases belief with
  | categorical grid probabilities =>
      refine Ensures.pure (fun step => ?_)
      -- a blend of two distributions is one
      obtain ⟨hp, hsum⟩ := blendProbabilities_mem hb0 hb1 (hbelief.1 step) (hbelief.2 step)
      exact credits_creditFromCategoricalGrid cfg h0 h1 (hselection step) hp hsum _ _
  | gaussian mean std =>
      unfold learnedGains
      dsimp only
      split
      · refine Ensures.bind (P := fun g => ∀ step, Credits cfg.nTargets (g step)) ?_
          (fun g hg => Ensures.pure hg)
        unfold creditFromGrid
        split
        · exact fun g h => by cases h
        · rename_i hgrid
          exact Ensures.pure
            (fun step => credits_gridGains cfg h0 h1 (hselection step) hgrid _ _)
      · split
        · refine (sigmaPoints_weights cfg _ _).bind (fun sigma hsigma => Ensures.pure (fun step => ?_))
          refine credits_creditFromSigmaPoints cfg h0 h1 (hselection step) (sigma step).points
            (some (sigma step).weights) (fun w hw => ?_)
          cases hw
          exact hsigma step
        · split
          · exact Ensures.pure
              (fun step => credits_creditFromMcPoints cfg h0 h1 (hselection step) _ _)
          · exact fun g h => by cases h

omit [Quadrature] in
theorem oracleGains_credits (state nextState : Fin D → ℝ) {selection : Selection n cfg.nTargets}
    (hselection : selection.Binary) :
    Credits cfg.nTargets (oracleGains cfg state nextState selection) := by
  unfold oracleGains
  refine credits_creditFromSigmaPoints cfg h0 h1 hselection _ none (fun w hw => ?_)
  cases hw

end Beliefs

/-! ## Responsibilities -/

section Responsibilities

variable (cfg : FocusConfig) {D H n J : ℕ}

/-- What the constant in the denominator may take away from a distribution. -/
noncomputable def slack : ℝ := cfg.eps / (cfg.minCreditSignal + cfg.eps)

/-- The responsibilities of a step are not negative; they are a distribution up to the slack where
the step is valid, and uniform elsewhere. -/
structure CreditStep.Responsible (step : CreditStep n J) : Prop where
  rho_nonneg : ∀ i, 0 ≤ step.rho i
  totalG_nonneg : 0 ≤ step.totalG
  totalG_le : step.totalG ≤ J
  sum_ge : step.valid = true → 1 - slack cfg ≤ ∑ i, step.rho i
  sum_le : step.valid = true → ∑ i, step.rho i ≤ 1
  uniform : step.valid = false → ∀ i, step.rho i = 1 / (n : ℝ)

theorem minCreditSignal_nonneg : (0 : ℝ) ≤ cfg.minCreditSignal := by
  exact_mod_cast cfg.minCreditSignal_nonneg

theorem slack_nonneg : 0 ≤ slack cfg :=
  div_nonneg (eps_pos cfg).le (add_nonneg (minCreditSignal_nonneg cfg) (eps_pos cfg).le)

/-- Gains divided by their sum and a small constant. -/
theorem creditStep_responsible {g : Fin n → ℝ} (hg : Credits J g) (mask : ℝ)
    (pairGains : Option (Fin n → Fin J → ℝ)) :
    (creditStep cfg mask g pairGains).Responsible cfg := by
  have heps := eps_pos cfg
  have hmin := minCreditSignal_nonneg cfg
  have htotal : 0 ≤ ∑ i, g i := sum_nonneg (fun i _ => hg.nonneg i)
  by_cases hvalid : (cfg.minCreditSignal : ℝ) < ∑ i, g i ∧ 0 < mask
  · -- no signal, or a padded step: the uniform weights
    have hrho : ∀ i, (creditStep cfg mask g pairGains).rho i = g i / (∑ i, g i + cfg.eps) := by
      intro i
      simp only [creditStep, decide_eq_true hvalid, if_true]
    have hsum : ∑ i, (creditStep cfg mask g pairGains).rho i
        = (∑ i, g i) / (∑ i, g i + cfg.eps) := by
      rw [sum_congr rfl (fun i _ => hrho i), sum_div]
    have hpos : 0 < ∑ i, g i + (cfg.eps : ℝ) := by linarith
    refine ⟨fun i => ?_, htotal, hg.sum_le, fun _ => ?_, fun _ => ?_, fun h => ?_⟩
    · rw [hrho]
      exact div_nonneg (hg.nonneg i) hpos.le
    · -- what is missing to one is the share of `eps`
      have hle : (cfg.eps : ℝ) / (∑ i, g i + cfg.eps) ≤ slack cfg :=
        div_le_div_of_nonneg_left heps.le (by linarith) (by linarith [hvalid.1])
      have heq : (∑ i, g i) / (∑ i, g i + cfg.eps) = 1 - cfg.eps / (∑ i, g i + cfg.eps) := by
        field_simp
        ring
      rw [hsum, heq]
      linarith
    · rw [hsum, div_le_one hpos]
      linarith
    · simp only [creditStep, decide_eq_true hvalid] at h
      cases h
  · have hrho : ∀ i, (creditStep cfg mask g pairGains).rho i = 1 / (n : ℝ) := by
      intro i
      simp only [creditStep, decide_eq_false hvalid]
      rfl
    have hfalse : (creditStep cfg mask g pairGains).valid = false := decide_eq_false hvalid
    refine ⟨fun i => ?_, htotal, hg.sum_le, fun h => ?_, fun h => ?_, fun _ => hrho⟩
    · rw [hrho]
      exact div_nonneg zero_le_one (Nat.cast_nonneg n)
    · rw [hfalse] at h
      cases h
    · rw [hfalse] at h
      cases h

theorem uniform_responsible : (⟨fun _ => 1 / (n : ℝ), false, 0, none⟩ : CreditStep n J).Responsible cfg where
  rho_nonneg _ := div_nonneg zero_le_one (Nat.cast_nonneg n)
  totalG_nonneg := le_rfl
  totalG_le := Nat.cast_nonneg J
  sum_ge h := by cases h
  sum_le h := by cases h
  uniform _ _ := rfl

variable {cfg}

/-- In every case the responsibilities add up to one, up to the slack. -/
theorem CreditStep.Responsible.sum_mem {step : CreditStep n J} (h : step.Responsible cfg)
    (hn : 0 < n) : 1 - slack cfg ≤ ∑ i, step.rho i ∧ ∑ i, step.rho i ≤ 1 := by
  cases hvalid : step.valid with
  | true => exact ⟨h.sum_ge hvalid, h.sum_le hvalid⟩
  | false =>
      have hone : ∑ i, step.rho i = 1 := by
        rw [sum_congr rfl (fun i _ => h.uniform hvalid i), sum_const, card_univ, Fintype.card_fin,
          nsmul_eq_mul, mul_one_div_cancel (Nat.cast_ne_zero.mpr hn.ne')]
      have hslack := slack_nonneg cfg
      rw [hone]
      exact ⟨by linarith, le_rfl⟩

/-- The weights of the agents are not negative, and their mean is one up to the slack. -/
theorem CreditStep.Responsible.focusAgentWeights_mem {step : CreditStep n J}
    (h : step.Responsible cfg) (hn : 0 < n) {eta confidence : ℝ} (heta : eta ∈ Set.Icc (0 : ℝ) 1)
    (hconfidence : confidence ∈ Set.Icc (0 : ℝ) 1) :
    (∀ i, 0 ≤ focusAgentWeights step.rho eta (some confidence) i) ∧
      1 - eta * slack cfg ≤ (∑ i, focusAgentWeights step.rho eta (some confidence) i) / n ∧
      (∑ i, focusAgentWeights step.rho eta (some confidence) i) / n ≤ 1 := by
  have hetaT0 : 0 ≤ eta * confidence := mul_nonneg heta.1 hconfidence.1
  have hetaT : eta * confidence ≤ eta := mul_le_of_le_one_right heta.1 hconfidence.2
  have hn' : (n : ℝ) ≠ 0 := Nat.cast_ne_zero.mpr hn.ne'
  obtain ⟨hge, hle⟩ := h.sum_mem hn
  have hmean : (∑ i, focusAgentWeights step.rho eta (some confidence) i) / n
      = 1 - eta * confidence + eta * confidence * ∑ i, step.rho i := by
    show (∑ i, (1 - eta * confidence + eta * confidence * n * step.rho i)) / n = _
    rw [sum_add_distrib, sum_const, card_univ, Fintype.card_fin, nsmul_eq_mul, ← mul_sum]
    field_simp
  refine ⟨fun i => ?_, ?_, ?_⟩
  · have hrho := mul_nonneg (mul_nonneg hetaT0 n.cast_nonneg) (h.rho_nonneg i)
    have hone : eta * confidence ≤ 1 := hetaT.trans heta.2
    show 0 ≤ 1 - eta * confidence + eta * confidence * n * step.rho i
    linarith
  · have hstep := mul_le_mul_of_nonneg_left hge hetaT0
    have hslack := mul_le_mul_of_nonneg_right hetaT (slack_nonneg cfg)
    rw [hmean]
    linarith
  · have hstep := mul_le_mul_of_nonneg_left hle hetaT0
    rw [hmean]
    linarith

end Responsibilities

/-! ## The credit target -/

section Target

variable (cfg : FocusConfig) {D H n : ℕ} [Quadrature]

omit [Quadrature] in
theorem uniformTarget_responsible (B T : ℕ) :
    Ensures (uniformTarget B T n cfg.nTargets) (fun target =>
      0 < n ∧ ∀ b t, (target.steps b t).Responsible cfg) := by
  unfold uniformTarget
  split
  · exact fun target h => by cases h
  · rename_i hn
    exact Ensures.pure ⟨Nat.pos_of_ne_zero hn, fun b t => uniform_responsible cfg⟩

omit [Quadrature] in
theorem checkStacks_pos (n J : ℕ) : Ensures (checkStacks n J) (fun _ => 0 < n ∧ 0 < J) := by
  unfold checkStacks
  split
  · exact fun _ h => by cases h
  · rename_i h
    exact Ensures.pure (by omega)

/-- Every path of `_focus_credit_target` returns responsibilities. -/
theorem focusCreditTarget_ensures (h0 : 0 ≤ cfg.obstacleTransmittance)
    (h1 : cfg.obstacleTransmittance ≤ 1) (nActions : ℤ) (loss : FocusLoss D H cfg.nTargets)
    (batch : FocusBatch D n) (updateBeliefEma : Bool) :
    Ensures (focusCreditTarget cfg nActions loss batch updateBeliefEma) (fun r =>
      0 < n ∧ ∀ b t, (r.1.steps b t).Responsible cfg) := by
  have huniform := (uniformTarget_responsible cfg (n := n) batch.B batch.T).bind
    (Q := fun r : CreditTarget batch.B batch.T n cfg.nTargets × FocusLoss D H cfg.nTargets =>
      0 < n ∧ ∀ b t, (r.1.steps b t).Responsible cfg)
    (f := fun target => Pure.pure (target, loss)) (fun target h => Ensures.pure h)
  unfold focusCreditTarget
  split
  · exact huniform
  · split
    · exact huniform
    · split
      · split
        · refine (checkStacks_pos n cfg.nTargets).bind (fun _ hpos => ?_)
          refine (targetSelections_binary cfg nActions _).bind (fun selection hselection => ?_)
          -- the learned belief
          obtain ⟨hb0, hb1⟩ := loss.gate.effectiveBlend_mem cfg
          refine (learnedGains_credits cfg h0 h1 hb0 hb1 (forecast_proper _ n _) _
            hselection).bind (fun g hg => Ensures.pure ⟨hpos.1, fun b t => ?_⟩)
          exact creditStep_responsible cfg (hg (b, t)) _ _
        · exact huniform
      · split
        · split
          · exact fun r h => by cases h
          · refine (checkStacks_pos n cfg.nTargets).bind (fun _ hpos => ?_)
            refine (targetSelections_binary cfg nActions _).bind (fun selection hselection => ?_)
            refine Ensures.pure ⟨hpos.1, fun b t => ?_⟩
            exact creditStep_responsible cfg
              (oracleGains_credits cfg h0 h1 _ _ (hselection (b, t))) _ _
        · exact fun r h => by cases h

/-- The configuration names an integral that the source knows, with what it needs. -/
inductive KnownIntegral : Prop
  | mc : cfg.integralMode = "MC" → KnownIntegral
  | grid : cfg.integralMode = "grid" → cfg.gridSize ≠ 0 → KnownIntegral
  | legacy : cfg.integralMode = "sigma" →
      cfg.sigmaMethod.toLower ∈ ["legacy5", "legacy_5", "legacy"] → KnownIntegral
  | gaussHermite : cfg.integralMode = "sigma" → cfg.sigmaMethod.toLower ∈ ["gauss_hermite", "gh"] →
      1 ≤ cfg.sigmaOrder → KnownIntegral

theorem sigmaPoints_returns {ι : Type} {J : ℕ} (mean std : ι → Fin H → Fin J → ℂ)
    (h : cfg.sigmaMethod.toLower ∈ ["legacy5", "legacy_5", "legacy"] ∨
      cfg.sigmaMethod.toLower ∈ ["gauss_hermite", "gh"] ∧ 1 ≤ cfg.sigmaOrder) :
    Returns (sigmaPoints cfg mean std) (fun _ => True) := by
  simp only [List.mem_cons, List.not_mem_nil, or_false] at h
  unfold sigmaPoints
  dsimp only
  rcases h with h | ⟨h, horder⟩
  · rw [if_pos h]
    exact Returns.pure trivial
  · split
    · exact Returns.pure trivial
    · rw [if_neg (not_lt.mpr horder)]
      exact Returns.pure trivial

theorem learnedGains_returns {ι : Type} (blend : ℝ) (belief : Belief ι H cfg.nTargets)
    (state : ι → Fin D → ℝ) (selection : ι → Selection n cfg.nTargets)
    (h : KnownIntegral cfg ∨ ∃ grid probabilities, belief = .categorical grid probabilities) :
    Returns (learnedGains cfg blend belief state selection) (fun _ => True) := by
  cases belief with
  | categorical grid probabilities => exact Returns.pure trivial
  | gaussian mean std =>
      have hmode : KnownIntegral cfg := by
        rcases h with h | ⟨grid, probabilities, h⟩
        · exact h
        · cases h
      unfold learnedGains
      dsimp only
      cases hmode with
      | mc hmode =>
          rw [hmode, if_neg (by decide), if_neg (by decide), if_pos rfl]
          exact Returns.pure trivial
      | grid hmode hgrid =>
          rw [hmode, if_pos rfl]
          unfold creditFromGrid
          rw [if_neg hgrid]
          exact Returns.pure trivial
      | legacy hmode hmethod =>
          rw [hmode, if_neg (by decide), if_pos rfl]
          exact (sigmaPoints_returns cfg _ _ (Or.inl hmethod)).bind (fun _ _ => Returns.pure trivial)
      | gaussHermite hmode hmethod horder =>
          rw [hmode, if_neg (by decide), if_pos rfl]
          exact (sigmaPoints_returns cfg _ _ (Or.inr ⟨hmethod, horder⟩)).bind
            (fun _ _ => Returns.pure trivial)

omit [Quadrature] in
theorem targetSelections_returns {ι : Type} (nActions : ℤ) (actions : ι → Fin n → ℤ)
    (hpos : 0 < cfg.nTargets)
    (hle : cfg.useActionSelection = true → nActions = 2 ^ cfg.nTargets → cfg.nTargets ≤ 63) :
    Returns (targetSelections cfg nActions actions) (fun _ => True) := by
  have hdecode : Returns (decodeTargetSelection cfg.useActionSelection nActions
      (fun k : ι × Fin n => actions k.1 k.2) cfg.nTargets) (fun _ => True) := by
    cases huse : cfg.useActionSelection with
    | false => exact Returns.pure trivial
    | true =>
        by_cases hactions : nActions = 2 ^ cfg.nTargets
        · have hbits := hle huse hactions
          rw [hactions, decodeTargetSelection_eq hpos hbits]
          exact ⟨_, rfl, trivial⟩
        · unfold decodeTargetSelection
          rw [if_neg (by decide), if_pos hactions]
          exact Returns.pure trivial
  exact hdecode.bind (fun _ _ => Returns.pure trivial)

/-- The modes that the source knows. -/
def KnownModes (loss : FocusLoss D H cfg.nTargets) : Prop :=
  cfg.beliefMode = "oracle_next_ablation" ∨ cfg.beliefMode = "learned" ∧
    (KnownIntegral cfg ∨ ∃ model, loss.occupancyModel = some (.categorical model))

theorem focusCreditTarget_returns {loss : FocusLoss D H cfg.nTargets} (hmodes : KnownModes cfg loss)
    (nActions : ℤ) (batch : FocusBatch D n) (updateBeliefEma : Bool) (hn : 0 < n)
    (hpos : 0 < cfg.nTargets)
    (hle : cfg.useActionSelection = true → nActions = 2 ^ cfg.nTargets → cfg.nTargets ≤ 63)
    (hnext : batch.nextState ≠ none) :
    Returns (focusCreditTarget cfg nActions loss batch updateBeliefEma) (fun _ => True) := by
  have huniform : Returns (uniformTarget batch.B batch.T n cfg.nTargets) (fun _ => True) := by
    unfold uniformTarget
    rw [if_neg hn.ne']
    exact Returns.pure trivial
  have hstacks : checkStacks n cfg.nTargets = .ok () := if_neg (by omega)
  unfold focusCreditTarget
  split
  · exact huniform.bind (fun _ _ => Returns.pure trivial)
  · split
    · exact huniform.bind (fun _ _ => Returns.pure trivial)
    · -- an oracle needs the next state, a learned belief its particles
      rcases hmodes with hmode | ⟨hmode, hintegral⟩
      · rw [hmode, if_neg (by decide), if_pos rfl]
        split
        · rename_i hnone
          exact absurd hnone hnext
        · rw [hstacks]
          exact (targetSelections_returns cfg nActions _ hpos hle).bind
            (fun _ _ => Returns.pure trivial)
      · rw [hmode, if_pos rfl]
        split
        · rename_i model nextState hmodel _
          rw [hstacks]
          refine (targetSelections_returns cfg nActions _ hpos hle).bind (fun selection _ => ?_)
          refine (learnedGains_returns cfg _ _ _ selection ?_).bind
            (fun _ _ => Returns.pure trivial)
          refine hintegral.imp_right (fun ⟨categorical, hcategorical⟩ => ?_)
          cases hmodel.symm.trans hcategorical
          exact ⟨_, _, rfl⟩
        · exact huniform.bind (fun _ _ => Returns.pure trivial)

/-- **Responsibilities are a distribution, up to the constant in their denominator**, at every step
of every batch, whatever the belief and the integral; so the weights of the agents are not negative
and have a mean of one, up to the same constant. -/
theorem focusCreditTarget_responsible (h0 : 0 ≤ cfg.obstacleTransmittance)
    (h1 : cfg.obstacleTransmittance ≤ 1) (nActions : ℤ) (loss : FocusLoss D H cfg.nTargets)
    (batch : FocusBatch D n) (updateBeliefEma : Bool) :
    (KnownModes cfg loss → 0 < n → 0 < cfg.nTargets → cfg.nTargets < 63 → batch.nextState ≠ none →
        ∃ r, focusCreditTarget cfg nActions loss batch updateBeliefEma = .ok r) ∧
      ∀ target loss', focusCreditTarget cfg nActions loss batch updateBeliefEma = .ok (target, loss') →
        ∀ b t, let step := target.steps b t
          (∀ i, 0 ≤ step.rho i) ∧ 0 ≤ step.totalG ∧ step.totalG ≤ cfg.nTargets ∧
            (step.valid = true →
              1 - (cfg.eps : ℝ) / (cfg.minCreditSignal + cfg.eps) ≤ ∑ i, step.rho i ∧
                ∑ i, step.rho i ≤ 1) ∧
            (step.valid = false → ∀ i, step.rho i = 1 / (n : ℝ)) ∧
            ∀ eta ∈ Set.Icc (0 : ℝ) 1, ∀ confidence ∈ Set.Icc (0 : ℝ) 1,
              (∀ i, 0 ≤ focusAgentWeights step.rho eta (some confidence) i) ∧
                1 - eta * ((cfg.eps : ℝ) / (cfg.minCreditSignal + cfg.eps))
                  ≤ (∑ i, focusAgentWeights step.rho eta (some confidence) i) / n ∧
                (∑ i, focusAgentWeights step.rho eta (some confidence) i) / n ≤ 1 := by
  refine ⟨fun hmodes hn hpos hlt hnext => ?_, fun target loss' hok b t => ?_⟩
  · obtain ⟨r, hr, -⟩ :=
      focusCreditTarget_returns cfg hmodes nActions batch updateBeliefEma hn hpos
        (fun _ _ => hlt.le) hnext
    exact ⟨r, hr⟩
  · obtain ⟨hn, hsteps⟩ :=
      focusCreditTarget_ensures cfg h0 h1 nActions loss batch updateBeliefEma _ hok
    have hstep := hsteps b t
    exact ⟨hstep.rho_nonneg, hstep.totalG_nonneg, hstep.totalG_le,
      fun hvalid => ⟨hstep.sum_ge hvalid, hstep.sum_le hvalid⟩, hstep.uniform,
      fun eta heta confidence hconfidence => hstep.focusAgentWeights_mem hn heta hconfidence⟩

end Target

/-- The rule of Gauss and Hermite with one node, and the middle of every other rule. -/
@[reducible] noncomputable def oneNode : Quadrature where
  hermgauss := fun _ => (fun _ => 0, fun _ => √Real.pi)
  weights_nonneg := fun _ _ => Real.sqrt_nonneg _
  sobol := fun _ _ _ => (1 / 2, 1 / 2)
  erfinv := fun _ => 0

/-- A camera and a target, and a belief with the rule of one node. -/
theorem focusCreditTarget_responsible_oneNode :
    let cfg : FocusConfig :=
      { nTargets := 1, integralMode := "sigma", sigmaMethod := "gauss_hermite", sigmaOrder := 1 }
    let loss : FocusLoss (requiredDim 1 1) 1 1 :=
      ⟨some (.gaussian ⟨⟨none, true, fun _ _ _ _ => 0⟩, 1, 1⟩), FocusGate.init⟩
    let batch : FocusBatch (requiredDim 1 1) 1 :=
      ⟨1, 1, some (fun _ _ _ => 0), some (fun _ _ _ => 0), fun _ _ _ => 0, fun _ _ => 1⟩
    ∃ target loss', @focusCreditTarget cfg _ _ _ oneNode 2 loss batch true = .ok (target, loss') ∧
      ∀ b t, (∀ i, 0 ≤ (target.steps b t).rho i) ∧ (target.steps b t).totalG ≤ 1 := by
  intro cfg loss batch
  obtain ⟨hreturns, hsteps⟩ := @focusCreditTarget_responsible cfg _ _ _ oneNode le_rfl zero_le_one 2
    loss batch true
  obtain ⟨⟨target, loss'⟩, hok⟩ := hreturns
    (Or.inr ⟨rfl, Or.inl (.gaussHermite rfl (by decide +kernel) (by decide))⟩) (by decide) (by decide)
    (by decide) (by simp [batch])
  refine ⟨target, loss', hok, fun b t => ?_⟩
  obtain ⟨hrho, -, htotal, -⟩ := hsteps target loss' hok b t
  exact ⟨hrho, htotal.trans_eq (by norm_num [cfg])⟩

end Mate.Rllib.Focus
