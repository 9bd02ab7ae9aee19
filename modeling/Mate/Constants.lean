import Mate.Library.Numerals
import Mathlib.Analysis.CStarAlgebra.Classes
import Mathlib.Analysis.SpecialFunctions.Trigonometric.Basic

set_option autoImplicit false

/-! # Constants of the environment

The terrain is the square `[-TERRAIN_SIZE, TERRAIN_SIZE]²`, with one square warehouse in each
corner. The plane is `ℂ`: the first coordinate of an array `[x, y]` of the source is the real
part, the second the imaginary part.
-/

namespace Mate

def TERRAIN_SIZE : ℚ := 1000

def TERRAIN_WIDTH : ℚ := 2 * TERRAIN_SIZE

/-- Half width of the squared warehouses. -/
def WAREHOUSE_RADIUS : ℚ := 75 / 1000 * TERRAIN_SIZE

abbrev NUM_WAREHOUSES : ℕ := 4

abbrev Warehouse := Fin NUM_WAREHOUSES

/-- Center locations of the warehouses. -/
def WAREHOUSES (w : Warehouse) : ℚ × ℚ :=
  let d := TERRAIN_SIZE - WAREHOUSE_RADIUS
  ![(d, d), (-d, d), (-d, -d), (d, -d)] w

/-- `WAREHOUSES[w]` as a point of the plane. -/
noncomputable def warehouseLocation (w : Warehouse) : ℂ := ⟨(WAREHOUSES w).1, (WAREHOUSES w).2⟩

def MAX_CAMERA_VIEWING_ANGLE : ℚ := 180

def TARGET_RADIUS : ℚ := 0

/-! ## Dimensions of the vectors -/

/-- Three counts, the index of the agent, the locations of the warehouses and their radius. -/
def PRESERVED_DIM : ℕ := 3 + 1 + 2 * NUM_WAREHOUSES + 1

def CAMERA_STATE_DIM_PUBLIC : ℕ := 6

def CAMERA_STATE_DIM_PRIVATE : ℕ := 9

def TARGET_STATE_DIM_PUBLIC : ℕ := 4

def TARGET_STATE_DIM_PRIVATE : ℕ := 6 + NUM_WAREHOUSES * 2

def OBSTACLE_STATE_DIM : ℕ := 3

/-- `location.clip(min=TERRAIN_SPACE.low + margin, max=TERRAIN_SPACE.high - margin)`. -/
noncomputable def clipTerrain (margin : ℝ) (z : ℂ) : ℂ :=
  ⟨min (max z.re (-TERRAIN_SIZE + margin)) (TERRAIN_SIZE - margin),
    min (max z.im (-TERRAIN_SIZE + margin)) (TERRAIN_SIZE - margin)⟩

end Mate
