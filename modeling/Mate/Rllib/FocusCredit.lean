import Mate.Library.Coverage
import Mate.Library.LogSumExp
import Mate.Rllib.FocusGate
import Mate.Rllib.FocusState
import Mate.Rllib.SubsetActions

set_option autoImplicit false

/-! # Credit of the cameras

The geometry of `QPLEXFocusLoss`: what a camera sees of a point, what it alone sees of a sampled
target, and the ways in which these gains are integrated over a belief about the targets. The source
is written for batches of sequences; what follows is for one step of one sequence.
-/

namespace Mate.Rllib.Focus

open Chunks Nets

/-! ## What is read of a state

A state that is too short is turned away before, and there are cameras and targets, so every read
succeeds (`cameraFovAt_eq`, `locationAt_eq`). -/

section Reads

variable {D : ℕ}

/-- `state[:, :, k]`. -/
def column (state : Fin D → ℝ) (k : ℕ) : ℝ := if h : k < D then state ⟨k, h⟩ else 0

noncomputable def cameraFov (state : Fin D → ℝ) (start : ℕ) : CameraFov :=
  let vx := denormCamera (column state (start + 3)) 3
  let vy := denormCamera (column state (start + 4)) 4
  { position := ⟨denormCamera (column state start) 0, denormCamera (column state (start + 1)) 1⟩
    orientation := Complex.arg ⟨vx, vy⟩
    sightRange := √(vx ^ 2 + vy ^ 2 + 1 / 10 ^ 8)
    halfAngle := denormCamera (column state (start + 5)) 5 * (Real.pi / 180) / 2 }

noncomputable def location (state : Fin D → ℝ) (start : ℕ) : ℂ :=
  ⟨toWorld (column state start), toWorld (column state (start + 1))⟩

theorem entry_ofFn (state : Fin D → ℝ) {k : ℕ} (h : k < D) :
    entry (List.ofFn state) k = .ok (column state k) := by
  rw [entry, List.getElem?_eq_getElem (by rwa [List.length_ofFn]), List.getElem_ofFn, column,
    dif_pos h]

theorem cameraFovAt_eq (state : Fin D → ℝ) {start : ℕ} (h : start + 5 < D) :
    cameraFovAt (List.ofFn state) start = .ok (cameraFov state start) := by
  unfold cameraFovAt
  rw [entry_ofFn state (by omega), entry_ofFn state (by omega), entry_ofFn state (by omega),
    entry_ofFn state (by omega), entry_ofFn state (by omega)]
  rfl

theorem locationAt_eq (state : Fin D → ℝ) {start : ℕ} (h : start + 1 < D) :
    locationAt (List.ofFn state) start = .ok (location state start) := by
  unfold locationAt
  rw [entry_ofFn state (by omega), entry_ofFn state (by omega)]
  rfl

/-- `_extract_target_positions`. -/
noncomputable def targetPosition (state : Fin D → ℝ) (nAgents j : ℕ) : ℂ :=
  location state (PRESERVED_DIM + nAgents * CAMERA_STATE_DIM_PRIVATE + j * TARGET_STATE_DIM_PRIVATE)

/-- The columns that the targets end with. -/
def requiredDim (nAgents nTargets : ℕ) : ℕ :=
  PRESERVED_DIM + nAgents * CAMERA_STATE_DIM_PRIVATE + nTargets * TARGET_STATE_DIM_PRIVATE

/-- What `_credit_geometry` returns. -/
structure Geometry (n : ℕ) where
  cameras : Fin n → CameraFov
  /-- positions and radii -/
  obstacles : List (ℂ × ℝ)

/-- `_credit_geometry`. -/
noncomputable def creditGeometry (cfg : FocusConfig) (n : ℕ) (state : Fin D → ℝ) : Geometry n :=
  let obstacleStart := requiredDim n cfg.nTargets
  { cameras := fun i => cameraFov state (PRESERVED_DIM + i * CAMERA_STATE_DIM_PRIVATE)
    obstacles :=
      if 0 < cfg.nObstacles ∧ obstacleStart + cfg.nObstacles * OBSTACLE_STATE_DIM ≤ D then
        (List.range cfg.nObstacles).map (fun o : ℕ =>
          let start := obstacleStart + o * OBSTACLE_STATE_DIM
          (location state start, (column state (start + 2) + 1) / 2 * 1000))
      else [] }

end Reads

/-! ## Visibility -/

section Visibility

variable (cfg : FocusConfig) {n : ℕ}

/-- The obstacle is between the camera and the point. -/
def Blocks (camera : CameraFov) (point : ℂ) (obstacle : ℂ × ℝ) : Prop :=
  let ray := point - camera.position
  let obsRel := obstacle.1 - camera.position
  let rayLenSq := ray.re ^ 2 + ray.im ^ 2 + cfg.eps
  let proj := (obsRel.re * ray.re + obsRel.im * ray.im) / rayLenSq
  let offset := obsRel - proj * ray
  0 < proj ∧ proj < 1 ∧ √(offset.re ^ 2 + offset.im ^ 2 + cfg.eps) ≤ obstacle.2

open Classical in
/-- `_point_visibility` of one point for one camera. -/
noncomputable def pointVisibility (geometry : Geometry n) (i : Fin n) (point : ℂ) : ℝ :=
  let camera := geometry.cameras i
  let rel := point - camera.position
  let dist := √(rel.re ^ 2 + rel.im ^ 2 + cfg.eps)
  let bearing := Complex.arg rel
  let angle := Complex.arg
    ⟨Real.cos (bearing - camera.orientation), Real.sin (bearing - camera.orientation)⟩
  let visible := if dist ≤ camera.sightRange ∧ |angle| ≤ camera.halfAngle then 1 else 0
  if ∃ obstacle ∈ geometry.obstacles, Blocks cfg camera point obstacle then
    visible * cfg.obstacleTransmittance
  else visible

/-- `_grid_cell_visibility` of one cell. -/
noncomputable def gridCellVisibility (geometry : Geometry n) (i : Fin n) (cell : ℂ) : ℝ :=
  pointVisibility cfg geometry i cell

/-- With a transmittance in `[0, 1]` so are the visibilities. -/
theorem pointVisibility_mem (h0 : 0 ≤ cfg.obstacleTransmittance) (h1 : cfg.obstacleTransmittance ≤ 1)
    (geometry : Geometry n) (i : Fin n) (point : ℂ) :
    pointVisibility cfg geometry i point ∈ Set.Icc (0 : ℝ) 1 := by
  have h0' : (0 : ℝ) ≤ cfg.obstacleTransmittance := by exact_mod_cast h0
  have h1' : (cfg.obstacleTransmittance : ℝ) ≤ 1 := by exact_mod_cast h1
  simp only [pointVisibility]
  split_ifs
  · rw [one_mul]
    exact ⟨h0', h1'⟩
  · rw [zero_mul]
    exact ⟨le_rfl, zero_le_one⟩
  · exact ⟨zero_le_one, le_rfl⟩
  · exact ⟨le_rfl, zero_le_one⟩

end Visibility

/-! ## Selections -/

/-- The decoded actions, if the actions are selections. -/
abbrev Selection (n J : ℕ) : Type := Option (Fin n → Fin J → ℝ)

/-- `_decode_target_selection` for the actions of all steps. -/
def targetSelections (cfg : FocusConfig) {ι : Type} {n : ℕ} (nActions : ℤ)
    (actions : ι → Fin n → ℤ) : Except Error (ι → Selection n cfg.nTargets) := do
  let selection ← decodeTargetSelection cfg.useActionSelection nActions
    (fun k : ι × Fin n => actions k.1 k.2) cfg.nTargets
  return fun step => selection.map (fun bits => fun i j => ((bits (step, i)).getD j 0 : ℤ))

/-- The visibility of target `j` where it is selected. -/
def Selection.apply {n J : ℕ} (selection : Selection n J) (raw : ℝ) (i : Fin n) (j : Fin J) : ℝ :=
  match selection with
  | some bits => raw * bits i j
  | none => raw

/-! ## Gains -/

section Gains

variable {n J : ℕ}

/-- The product of `1 - visible` over the other cameras. -/
noncomputable def uncoveredByOthers (visible : Fin n → ℝ) (i : Fin n) : ℝ :=
  if n = 1 then 1
  else
    let oneMinus := List.ofFn (fun k => 1 - visible k)
    (oneMinus.take i ++ oneMinus.drop (i + 1)).prod

/-- What camera `i` alone sees. -/
noncomputable def uniqueVisibility (visible : Fin n → ℝ) (i : Fin n) : ℝ :=
  visible i * uncoveredByOthers visible i

/-- `camera_gains` and `pair_unique_gain.sum(dim=-1)`. -/
structure CreditGains (n J : ℕ) where
  camera : Fin n → ℝ
  pair : Fin n → Fin J → ℝ

variable (cfg : FocusConfig) (geometry : Geometry n) (selection : Selection n J) {S : ℕ}

/-- `raw_visible` of `_credit_chunk_sum`. -/
noncomputable def rawVisible (samples : Fin J → Fin S → ℂ) (i : Fin n) (j : Fin J) (s : Fin S) : ℝ :=
  pointVisibility cfg geometry i (samples j s)

/-- `visible` of `_credit_chunk_sum`. -/
noncomputable def visible (samples : Fin J → Fin S → ℂ) (i : Fin n) (j : Fin J) (s : Fin S) : ℝ :=
  selection.apply (rawVisible cfg geometry samples i j s) i j

/-- `_credit_chunk_sum` for one horizon. -/
noncomputable def creditChunkSum (samples : Fin J → Fin S → ℂ) (sampleWeights : Option (Fin S → ℝ)) :
    CreditGains n J :=
  let weight := fun s => match sampleWeights with
    | some weights => weights s
    | none => 1
  let others := fun i j s => uncoveredByOthers (fun k => visible cfg geometry selection samples k j s) i
  let uniqueGain := fun i j s => visible cfg geometry selection samples i j s * others i j s * weight s
  let pairUniqueGain := fun i j s => rawVisible cfg geometry samples i j s * others i j s * weight s
  { camera := fun i => ∑ j, ∑ s, uniqueGain i j s
    pair := fun i j => ∑ s, pairUniqueGain i j s }

end Gains

/-! ## Integration -/

/-- `_horizon_weights`. -/
noncomputable def horizonWeights (cfg : FocusConfig) (H : ℕ) (h : Fin H) : ℝ :=
  (cfg.horizonDiscount : ℝ) ^ (h : ℕ)
    / (∑ k : Fin H, (cfg.horizonDiscount : ℝ) ^ (k : ℕ) + cfg.eps)

/-- `max(1, min(chunk_size, total))`. -/
def chunkSize (requested : ℤ) (total : ℕ) : ℕ := (max 1 (min requested total)).toNat

theorem chunkSize_pos (requested : ℤ) (total : ℕ) : 0 < chunkSize requested total := by
  unfold chunkSize
  omega

/-- What `numpy` and `torch` provide: the nodes and the weights of Gauss and Hermite, which are
positive, the draws of a scrambled Sobol sequence, and the inverse of the error function. -/
class Quadrature where
  hermgauss : (order : ℕ) → (Fin order → ℝ) × (Fin order → ℝ)
  weights_nonneg : ∀ order k, 0 ≤ (hermgauss order).2 k
  sobol : (numPoints : ℕ) → (seed : ℤ) → Fin numPoints → ℝ × ℝ
  erfinv : ℝ → ℝ

/-- `mean + std * normal`, coordinate by coordinate. -/
def spread (mean std normal : ℂ) : ℂ :=
  ⟨mean.re + std.re * normal.re, mean.im + std.im * normal.im⟩

section Integrals

variable (cfg : FocusConfig) {n J H : ℕ} (geometry : Geometry n) (selection : Selection n J)

/-- The points of `_sigma_points` and their weights. -/
structure SigmaPoints (H J : ℕ) where
  size : ℕ
  points : Fin H → Fin J → Fin size → ℂ
  weights : Fin size → ℝ

/-- `_legacy_sigma_points`. -/
noncomputable def legacySigmaPoints (mean std : Fin H → Fin J → ℂ) : SigmaPoints H J where
  size := 5
  points := fun h j =>
    let x : ℂ := ⟨(std h j).re, 0⟩
    let y : ℂ := ⟨0, (std h j).im⟩
    ![mean h j, mean h j + x, mean h j - x, mean h j + y, mean h j - y]
  weights := fun _ => 1 / 5

/-- `_gauss_hermite_sigma_points`. -/
noncomputable def gaussHermiteSigmaPoints [Quadrature] (mean std : Fin H → Fin J → ℂ) (order : ℕ) :
    SigmaPoints H J :=
  let nodes := fun k => √2 * (Quadrature.hermgauss order).1 k
  let weights1d := fun k => (Quadrature.hermgauss order).2 k / √Real.pi
  let weights := fun m : Fin (order * order) => weights1d m.modNat * weights1d m.divNat
  { size := order * order
    points := fun h j m => spread (mean h j) (std h j) ⟨nodes m.modNat, nodes m.divNat⟩
    weights := fun m => weights m / (∑ k, weights k + cfg.eps) }

/-- `_sigma_points` for all steps. -/
noncomputable def sigmaPoints [Quadrature] {ι : Type} (mean std : ι → Fin H → Fin J → ℂ) :
    Except Error (ι → SigmaPoints H J) :=
  let method := cfg.sigmaMethod.toLower
  if method = "legacy5" ∨ method = "legacy_5" ∨ method = "legacy" then
    .ok (fun step => legacySigmaPoints (mean step) (std step))
  else if method = "gauss_hermite" ∨ method = "gh" then
    if cfg.sigmaOrder < 1 then
      .error (.valueError ("sigma_order must be >= 1, got " ++ toString cfg.sigmaOrder))
    else .ok (fun step =>
      gaussHermiteSigmaPoints cfg (mean step) (std step) cfg.sigmaOrder.toNat)
  else .error (.valueError ("Unknown sigma_method: " ++ method))

/-- `_mc_normals`. -/
noncomputable def mcNormals [Quadrature] (k : Fin cfg.mcNumPoints) : ℂ :=
  let uniforms := Quadrature.sobol cfg.mcNumPoints cfg.mcSeed k
  let normal := fun u : ℝ =>
    √2 * Quadrature.erfinv (2 * min (max u cfg.eps) (1 - cfg.eps) - 1)
  ⟨normal uniforms.1, normal uniforms.2⟩

/-- `_credit_from_sigma_points`. -/
noncomputable def creditFromSigmaPoints {S : ℕ} (samples : Fin H → Fin J → Fin S → ℂ)
    (sampleWeights : Option (Fin S → ℝ)) : Fin n → ℝ :=
  let size := chunkSize (cfg.sampleChunkSize.getD (cfg.mcChunkSize.getD 32)) S
  fun i => ∑ h, ∑ c ∈ Finset.range (count S size),
    let start := c * size
    let chunkSum := creditChunkSum cfg geometry selection
      (fun j => slice (samples h j) start (start + size))
      (sampleWeights.map (fun weights => slice weights start (start + size)))
    let chunkSum := match sampleWeights with
      | some _ => chunkSum.camera i
      | none => chunkSum.camera i / (S : ℝ)
    horizonWeights cfg H h * chunkSum

/-- `_credit_from_mc_points`, with the gains of pairs. -/
noncomputable def creditFromMcPoints [Quadrature] (mean std : Fin H → Fin J → ℂ) :
    CreditGains n J :=
  let numPoints := cfg.mcNumPoints
  let size := chunkSize (cfg.mcChunkSize.getD (cfg.sampleChunkSize.getD 32)) numPoints
  let chunkSum := fun (h : Fin H) (c : ℕ) =>
    let normalChunk := slice (mcNormals cfg) (c * size) (c * size + size)
    creditChunkSum cfg geometry selection
      (fun j k => spread (mean h j) (std h j) (normalChunk k)) none
  { camera := fun i => ∑ h, ∑ c ∈ Finset.range (count numPoints size),
      horizonWeights cfg H h * (chunkSum h c).camera i / (numPoints : ℝ)
    pair := fun i j => ∑ h, ∑ c ∈ Finset.range (count numPoints size),
      horizonWeights cfg H h * (chunkSum h c).pair i j / (numPoints : ℝ) }

/-- `_grid_points`. -/
noncomputable def gridPoints (k : Fin (cfg.gridSize * cfg.gridSize)) : ℂ :=
  let (xMin, xMax) := cfg.gridXRange
  let (yMin, yMax) := cfg.gridYRange
  let cellW := (xMax - xMin) / cfg.gridSize
  let cellH := (yMax - yMin) / cfg.gridSize
  -- `torch.linspace` between the centres of the first and the last cell
  let linspace := fun (low high : ℚ) (m : ℕ) => low + m * ((high - low) / (cfg.gridSize - 1))
  ⟨(linspace (xMin + 1 / 2 * cellW) (xMax - 1 / 2 * cellW) k.modNat : ℚ),
    (linspace (yMin + 1 / 2 * cellH) (yMax - 1 / 2 * cellH) k.divNat : ℚ)⟩

/-- `_gaussian_grid_logits` of one cell. -/
noncomputable def gaussianGridLogits (mean std cell : ℂ) : ℝ :=
  let z : ℂ := ⟨(cell.re - mean.re) / (std.re + cfg.eps), (cell.im - mean.im) / (std.im + cfg.eps)⟩
  (z.re ^ 2 + z.im ^ 2) * (-1 / 2) - (Real.log (std.re + cfg.eps) + Real.log (std.im + cfg.eps))

/-- `_gaussian_grid_mass` on the cells of `_grid_points`. -/
noncomputable def gaussianGridMass (mean std : ℂ) : Fin (cfg.gridSize * cfg.gridSize) → ℝ :=
  softmax (fun k => gaussianGridLogits cfg mean std (gridPoints cfg k))

/-- `_credit_from_grid` at one step, for a grid that has cells. -/
noncomputable def gridGains (mean std : Fin H → Fin J → ℂ) : Fin n → ℝ :=
  let size := chunkSize (cfg.gridChunkSize.getD 512) (cfg.gridSize * cfg.gridSize)
  let logits := fun h j k => gaussianGridLogits cfg (mean h j) (std h j) (gridPoints cfg k)
  let occ := fun j k => ∑ h, horizonWeights cfg H h
    * Real.exp (logits h j k - (logNorm (logits h j) size).unbotD 0)
  let visibility := fun i j k =>
    selection.apply (gridCellVisibility cfg geometry i (gridPoints cfg k)) i j
  fun i => ∑ c ∈ Finset.range (count (cfg.gridSize * cfg.gridSize) size),
    ∑ j, ∑ k, slice (fun k => uniqueVisibility (fun l => visibility l j k) i * occ j k)
      (c * size) (c * size + size) k

/-- `_credit_from_grid` for all steps. -/
noncomputable def creditFromGrid {ι : Type} (geometry : ι → Geometry n)
    (selection : ι → Selection n J) (mean std : ι → Fin H → Fin J → ℂ) :
    Except Error (ι → Fin n → ℝ) :=
  if cfg.gridSize = 0 then .error (.zeroDivisionError "float division by zero")
  else .ok (fun step => gridGains cfg (geometry step) (selection step) (mean step) (std step))

/-- `_credit_from_categorical_grid`. -/
noncomputable def creditFromCategoricalGrid {K : ℕ} (probabilities : Fin H → Fin J → Fin K → ℝ)
    (displacementGrid : Fin K → ℂ) (currentPosition : Fin J → ℂ) : Fin n → ℝ :=
  let size := chunkSize (cfg.beliefGridChunkSize.getD (cfg.gridChunkSize.getD 128)) K
  let cellMass := fun j k => ∑ h, probabilities h j k * horizonWeights cfg H h
  let visibility := fun i j k =>
    selection.apply (pointVisibility cfg geometry i (currentPosition j + displacementGrid k)) i j
  fun i => ∑ c ∈ Finset.range (count K size),
    ∑ j, ∑ k, slice (fun k => uniqueVisibility (fun l => visibility l j k) i * cellMass j k)
      (c * size) (c * size + size) k

end Integrals

end Mate.Rllib.Focus
