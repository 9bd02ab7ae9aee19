import Mate.Utils
import Mate.Library.Layout
import Mathlib.Algebra.Order.Monoid.Unbundled.WithTop

set_option autoImplicit false

/-! # Spaces and layouts of the observations

A `spaces.Box` of the source is the list of its lower and of its upper bounds, which may be
infinite. The same order of fields is written down twice: in the bounds of
`observation_space_of`, and in the widths that `observation_indices_of` sums up.
-/

namespace Mate

/-- A `spaces.Box` of vectors, whose constructor asserts that the shapes agree. -/
structure Space where
  low : List ℚ
  high : List (WithTop ℚ)
  length_high : high.length = low.length

namespace Space

/-- `shape[0]`. -/
def dim (s : Space) : ℕ := s.low.length

/-- `contains`. -/
def Contains (s : Space) (x : List ℝ) : Prop :=
  x.length = s.dim ∧ List.Forall₂ (fun (entry : ℝ) (bound : ℚ) => (bound : ℝ) ≤ entry) x s.low
    ∧ List.Forall₂ (fun (entry : ℝ) (bound : WithTop ℚ) => ∀ b : ℚ, bound = b → entry ≤ b)
        x s.high

/-- `np.tile(bounds, reps=reps)`. -/
def tile {α : Type} (bounds : List α) (reps : ℕ) : List α := (List.replicate reps bounds).flatten

end Space

/-! ## Spaces -/

def TERRAIN_SPACE : Space where
  low := [-TERRAIN_SIZE, -TERRAIN_SIZE]
  high := [TERRAIN_SIZE, TERRAIN_SIZE]
  length_high := rfl

/-- `2.0 * space.low`. -/
def Space.doubleLow (s : Space) : List ℚ := s.low.map (2 * ·)

/-- `2.0 * space.high`. -/
def Space.doubleHigh (s : Space) : List (WithTop ℚ) := s.high.map (WithTop.map (2 * ·))

def PRESERVED_SPACE : Space where
  low := [0, 0, 0, 0] ++ Space.tile TERRAIN_SPACE.doubleLow NUM_WAREHOUSES ++ [0]
  high := [⊤, ⊤, ⊤, ⊤] ++ Space.tile TERRAIN_SPACE.doubleHigh NUM_WAREHOUSES ++ [↑TERRAIN_SIZE]
  length_high := rfl

def CAMERA_STATE_SPACE_PUBLIC : Space where
  low := TERRAIN_SPACE.doubleLow ++ [0, -TERRAIN_WIDTH, -TERRAIN_WIDTH, 0]
  high := TERRAIN_SPACE.doubleHigh
    ++ [↑TERRAIN_SIZE, ↑TERRAIN_WIDTH, ↑TERRAIN_WIDTH, ↑MAX_CAMERA_VIEWING_ANGLE]
  length_high := rfl

def CAMERA_STATE_SPACE_PRIVATE : Space where
  low := CAMERA_STATE_SPACE_PUBLIC.low ++ [0, 0, 0]
  high := CAMERA_STATE_SPACE_PUBLIC.high
    ++ [↑TERRAIN_WIDTH, ↑MAX_CAMERA_VIEWING_ANGLE, ↑MAX_CAMERA_VIEWING_ANGLE]
  length_high := rfl

def TARGET_STATE_SPACE_PUBLIC : Space where
  low := TERRAIN_SPACE.doubleLow ++ [0, -1]
  high := TERRAIN_SPACE.doubleHigh ++ [↑TERRAIN_WIDTH, 1]
  length_high := rfl

def TARGET_STATE_SPACE_PRIVATE : Space where
  low := TARGET_STATE_SPACE_PUBLIC.low ++ [0, 1] ++ List.replicate NUM_WAREHOUSES 0
    ++ List.replicate NUM_WAREHOUSES (-1)
  high := TARGET_STATE_SPACE_PUBLIC.high ++ [↑TERRAIN_WIDTH, 2] ++ List.replicate NUM_WAREHOUSES ⊤
    ++ List.replicate NUM_WAREHOUSES 1
  length_high := rfl

def OBSTACLE_STATE_SPACE : Space where
  low := TERRAIN_SPACE.doubleLow ++ [0]
  high := TERRAIN_SPACE.doubleHigh ++ [↑TERRAIN_SIZE]
  length_high := rfl

/-- `camera_observation_space_of`. -/
def cameraObservationSpaceOf (numCameras numTargets numObstacles : ℕ) : Space where
  low := PRESERVED_SPACE.low ++ CAMERA_STATE_SPACE_PRIVATE.low
    ++ Space.tile (TARGET_STATE_SPACE_PUBLIC.low ++ [-1]) numTargets
    ++ Space.tile (OBSTACLE_STATE_SPACE.low ++ [-1]) numObstacles
    ++ Space.tile (CAMERA_STATE_SPACE_PUBLIC.low ++ [-1]) numCameras
  high := PRESERVED_SPACE.high ++ CAMERA_STATE_SPACE_PRIVATE.high
    ++ Space.tile (TARGET_STATE_SPACE_PUBLIC.high ++ [1]) numTargets
    ++ Space.tile (OBSTACLE_STATE_SPACE.high ++ [1]) numObstacles
    ++ Space.tile (CAMERA_STATE_SPACE_PUBLIC.high ++ [1]) numCameras
  length_high := by simp [Space.tile, Space.length_high]

/-- `target_observation_space_of`. -/
def targetObservationSpaceOf (numCameras numTargets numObstacles : ℕ) : Space where
  low := PRESERVED_SPACE.low ++ TARGET_STATE_SPACE_PRIVATE.low
    ++ Space.tile (CAMERA_STATE_SPACE_PUBLIC.low ++ [-1]) numCameras
    ++ Space.tile (OBSTACLE_STATE_SPACE.low ++ [-1]) numObstacles
    ++ Space.tile (TARGET_STATE_SPACE_PUBLIC.low ++ [-1]) numTargets
  high := PRESERVED_SPACE.high ++ TARGET_STATE_SPACE_PRIVATE.high
    ++ Space.tile (CAMERA_STATE_SPACE_PUBLIC.high ++ [1]) numCameras
    ++ Space.tile (OBSTACLE_STATE_SPACE.high ++ [1]) numObstacles
    ++ Space.tile (TARGET_STATE_SPACE_PUBLIC.high ++ [1]) numTargets
  length_high := by simp [Space.tile, Space.length_high]

/-- `observation_space_of`. -/
def observationSpaceOf : Team → ℕ → ℕ → ℕ → Space
  | .camera => cameraObservationSpaceOf
  | .target => targetObservationSpaceOf

/-! ## Indices and slices -/

/-- `np.cumsum`. -/
def cumsum {n : ℕ} (widths : Fin n → ℕ) (k : Fin n) : ℕ := ((List.ofFn widths).take (k + 1)).sum

/-- `camera_observation_indices_of`. -/
def cameraObservationIndicesOf (numCameras numTargets numObstacles : ℕ) : Fin 6 → ℕ :=
  cumsum ![0, PRESERVED_DIM, CAMERA_STATE_DIM_PRIVATE,
    numTargets * (TARGET_STATE_DIM_PUBLIC + 1),
    numObstacles * (OBSTACLE_STATE_DIM + 1),
    numCameras * (CAMERA_STATE_DIM_PUBLIC + 1)]

/-- `target_observation_indices_of`. -/
def targetObservationIndicesOf (numCameras numTargets numObstacles : ℕ) : Fin 6 → ℕ :=
  cumsum ![0, PRESERVED_DIM, TARGET_STATE_DIM_PRIVATE,
    numCameras * (CAMERA_STATE_DIM_PUBLIC + 1),
    numObstacles * (OBSTACLE_STATE_DIM + 1),
    numTargets * (TARGET_STATE_DIM_PUBLIC + 1)]

/-- `observation_indices_of`. -/
def observationIndicesOf : Team → ℕ → ℕ → ℕ → Fin 6 → ℕ
  | .camera => cameraObservationIndicesOf
  | .target => targetObservationIndicesOf

/-- `slice(start, stop, step)`. -/
structure Slice where
  start : ℕ
  stop : ℕ
  step : ℕ := 1

/-- `l[slice]`. -/
def Slice.read {α : Type} (s : Slice) (l : List α) : List α :=
  Layout.everyNth s.step (Layout.slice s.start s.stop l)

/-- The keys of the dictionaries of slices. -/
structure ObservationSlices where
  preservedData : Slice
  selfState : Slice
  opponentStatesWithMask : Slice
  opponentMask : Slice
  obstacleStatesWithMask : Slice
  obstacleMask : Slice
  teammateStatesWithMask : Slice
  teammateMask : Slice

/-- `camera_observation_slices_of`. -/
def cameraObservationSlicesOf (numCameras numTargets numObstacles : ℕ) : ObservationSlices :=
  let indices := cameraObservationIndicesOf numCameras numTargets numObstacles
  { preservedData := { start := indices 0, stop := indices 1 }
    selfState := { start := indices 1, stop := indices 2 }
    opponentStatesWithMask := { start := indices 2, stop := indices 3 }
    opponentMask :=
      ⟨indices 2 + TARGET_STATE_DIM_PUBLIC, indices 3, TARGET_STATE_DIM_PUBLIC + 1⟩
    obstacleStatesWithMask := { start := indices 3, stop := indices 4 }
    obstacleMask := ⟨indices 3 + OBSTACLE_STATE_DIM, indices 4, OBSTACLE_STATE_DIM + 1⟩
    teammateStatesWithMask := { start := indices 4, stop := indices 5 }
    teammateMask :=
      ⟨indices 4 + CAMERA_STATE_DIM_PUBLIC, indices 5, CAMERA_STATE_DIM_PUBLIC + 1⟩ }

/-- `target_observation_slices_of`. -/
def targetObservationSlicesOf (numCameras numTargets numObstacles : ℕ) : ObservationSlices :=
  let indices := targetObservationIndicesOf numCameras numTargets numObstacles
  { preservedData := { start := indices 0, stop := indices 1 }
    selfState := { start := indices 1, stop := indices 2 }
    opponentStatesWithMask := { start := indices 2, stop := indices 3 }
    opponentMask :=
      ⟨indices 2 + CAMERA_STATE_DIM_PUBLIC, indices 3, CAMERA_STATE_DIM_PUBLIC + 1⟩
    obstacleStatesWithMask := { start := indices 3, stop := indices 4 }
    obstacleMask := ⟨indices 3 + OBSTACLE_STATE_DIM, indices 4, OBSTACLE_STATE_DIM + 1⟩
    teammateStatesWithMask := { start := indices 4, stop := indices 5 }
    teammateMask :=
      ⟨indices 4 + TARGET_STATE_DIM_PUBLIC, indices 5, TARGET_STATE_DIM_PUBLIC + 1⟩ }

/-- `observation_slices_of`. -/
def observationSlicesOf : Team → ℕ → ℕ → ℕ → ObservationSlices
  | .camera => cameraObservationSlicesOf
  | .target => targetObservationSlicesOf

end Mate
