import Mate.Responsibilities

set_option autoImplicit false

/-! # The chunk sizes do not change the credit

The integrals of FOCUS run over their points in chunks, to save memory. All of them compute what one
chunk with all points would give (`credit_withChunks`), and the integral over the grid is that of the
softmax of its logits.
-/

namespace Mate.Rllib.Focus

open Chunks Finset

/-! ## Chunk sizes -/

/-- The four keys of the chunk sizes. A key that is missing is another key or a constant. -/
structure ChunkSizes where
  gridChunkSize : Option ℤ
  beliefGridChunkSize : Option ℤ
  sampleChunkSize : Option ℤ
  mcChunkSize : Option ℤ

namespace ChunkSizes

/-- One chunk for `total` points. -/
def single (total : ℕ) : ChunkSizes := ⟨some total, some total, some total, some total⟩

end ChunkSizes

/-- The configuration with other chunk sizes. -/
def withChunks (cfg : FocusConfig) (sizes : ChunkSizes) : FocusConfig :=
  { cfg with
    gridChunkSize := sizes.gridChunkSize
    beliefGridChunkSize := sizes.beliefGridChunkSize
    sampleChunkSize := sizes.sampleChunkSize
    mcChunkSize := sizes.mcChunkSize }

/-! ## The credit -/

section Credit

variable (cfg : FocusConfig) (sizes : ChunkSizes) {n J H : ℕ}

/-- The gains of the grid are those of the mass of the softmax, at every step. -/
theorem creditFromGrid_withChunks {ι : Type} (geometry : ι → Geometry n)
    (selection : ι → Selection n J) (mean std : ι → Fin H → Fin J → ℂ) :
    creditFromGrid (withChunks cfg sizes) geometry selection mean std
      = if cfg.gridSize = 0 then .error (.zeroDivisionError "float division by zero")
        else .ok (fun step => cellGain (selection step)
          (fun i _ k => gridCellVisibility cfg (geometry step) i (gridPoints cfg k))
          (fun j k => ∑ h, horizonWeights cfg H h
            * gaussianGridMass cfg (mean step h j) (std step h j) k)) := by
  unfold creditFromGrid
  refine if_congr Iff.rfl rfl (congrArg Except.ok (funext (fun step => ?_)))
  exact gridGains_eq (withChunks cfg sizes) (mean step) (std step)

/-- The masses of the horizons may be integrated one by one. -/
theorem cellGain_horizons {K : ℕ} (selection : Selection n J) (raw : Fin n → Fin J → Fin K → ℝ)
    (w : Fin H → ℝ) (mass : Fin H → Fin J → Fin K → ℝ) (i : Fin n) :
    cellGain selection raw (fun j k => ∑ h, w h * mass h j k) i
      = ∑ h, w h * cellGain selection raw (mass h) i := by
  simp only [cellGain, mul_sum]
  calc ∑ j, ∑ k, ∑ h, uniqueVisibility (fun l => selection.apply (raw l j k) l j) i
        * (w h * mass h j k)
      = ∑ j, ∑ h, ∑ k, uniqueVisibility (fun l => selection.apply (raw l j k) l j) i
        * (w h * mass h j k) := sum_congr rfl (fun j _ => sum_comm)
    _ = ∑ h, ∑ j, ∑ k, uniqueVisibility (fun l => selection.apply (raw l j k) l j) i
        * (w h * mass h j k) := sum_comm
    _ = ∑ h, ∑ j, ∑ k, w h * (uniqueVisibility (fun l => selection.apply (raw l j k) l j) i
        * mass h j k) := by
        refine sum_congr rfl (fun h _ => sum_congr rfl (fun j _ => sum_congr rfl (fun k _ => ?_)))
        exact mul_left_comm _ _ _

variable {geometry : Geometry n} {selection : Selection n J}

/-- **The chunk sizes do not change the credit**: with any of them, every integral returns what it
returns with a single chunk. The one over the grid integrates the mass of the softmax over all
horizons. -/
theorem credit_withChunks [Quadrature] :
    (∀ {ι : Type} (geometry : ι → Geometry n) (selection : ι → Selection n J)
      (mean std : ι → Fin H → Fin J → ℂ),
      creditFromGrid (withChunks cfg sizes) geometry selection mean std
          = creditFromGrid (withChunks cfg (.single (cfg.gridSize * cfg.gridSize))) geometry selection
            mean std ∧
        creditFromGrid (withChunks cfg sizes) geometry selection mean std
          = if cfg.gridSize = 0 then .error (.zeroDivisionError "float division by zero")
            else .ok (fun step i => ∑ h, horizonWeights cfg H h * ∑ j, ∑ k,
              uniqueVisibility (fun l => (selection step).apply
                (gridCellVisibility cfg (geometry step) l (gridPoints cfg k)) l j) i
                * gaussianGridMass cfg (mean step h j) (std step h j) k)) ∧
    (∀ {K : ℕ} (probabilities : Fin H → Fin J → Fin K → ℝ) (displacementGrid : Fin K → ℂ)
      (currentPosition : Fin J → ℂ),
      creditFromCategoricalGrid (withChunks cfg sizes) geometry selection probabilities
          displacementGrid currentPosition
        = creditFromCategoricalGrid (withChunks cfg (.single K)) geometry selection probabilities
          displacementGrid currentPosition) ∧
    (∀ {S : ℕ} (samples : Fin H → Fin J → Fin S → ℂ) (weights : Option (Fin S → ℝ)),
      creditFromSigmaPoints (withChunks cfg sizes) geometry selection samples weights
        = creditFromSigmaPoints (withChunks cfg (.single S)) geometry selection samples weights) ∧
    ∀ mean std : Fin H → Fin J → ℂ,
      creditFromMcPoints (withChunks cfg sizes) geometry selection mean std
        = creditFromMcPoints (withChunks cfg (.single cfg.mcNumPoints)) geometry selection mean std := by
  refine ⟨fun geometry selection mean std => ⟨?_, ?_⟩, fun probabilities displacementGrid position => ?_,
    fun samples weights => ?_, fun mean std => ?_⟩
  · rw [creditFromGrid_withChunks, creditFromGrid_withChunks]
  · rw [creditFromGrid_withChunks]
    refine if_congr Iff.rfl rfl (congrArg Except.ok (funext (fun step => funext (fun i => ?_))))
    -- the code adds the horizons up before it integrates
    exact cellGain_horizons (selection step) _ _ _ i
  · rw [creditFromCategoricalGrid_eq, creditFromCategoricalGrid_eq]
    rfl
  · rw [creditFromSigmaPoints_eq, creditFromSigmaPoints_eq]
    rfl
  · rw [creditFromMcPoints_eq, creditFromMcPoints_eq]
    rfl

end Credit

end Mate.Rllib.Focus
