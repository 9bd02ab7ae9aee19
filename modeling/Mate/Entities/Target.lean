import Mate.Entities.Camera
import Mate.Library.Ball

set_option autoImplicit false

/-! # Targets and the obstacles they bump into

`Target.OBSTACLES` and `Target.SPATIAL_HASHMAP` are attributes of the class: one `Registry` is
shared by every target of the process. `Target.simulate` deflects a step by the registered
discs whose cells it may touch.
-/

namespace Mate

/-! ## The registry -/

/-- `consts.TERRAIN_WIDTH / SPATIAL_GRID_RESOLUTION`. -/
noncomputable def SPATIAL_GRID_STEP : ℝ := (TERRAIN_WIDTH / 80 : ℚ)

/-- The registered discs, numbered in the order of their registration, the step of the grid, and
the numbers found in each cell of it. -/
structure Registry where
  step : ℝ
  obstacles : List Disc
  hashmap : ℤ × ℤ → Finset ℕ

/-- `name + margin` for an array `name` and a number `margin`. -/
noncomputable def shift (name : ℂ) (margin : ℝ) : ℂ := ⟨name.re + margin, name.im + margin⟩

/-- The cells between the keys of two corners. -/
noncomputable def cells (step : ℝ) (low high : ℂ) : Finset (ℤ × ℤ) :=
  let (ixLow, iyLow) := hashKey step low
  let (ixHigh, iyHigh) := hashKey step high
  Finset.Icc ixLow ixHigh ×ˢ Finset.Icc iyLow iyHigh

/-- The cells in which `Target.add_obstacles` puts a disc. -/
noncomputable def Disc.cells (step : ℝ) (d : Disc) : Finset (ℤ × ℤ) :=
  let margin := d.radius + 1 / 100000
  Mate.cells step (shift d.location (-margin)) (shift d.location margin)

namespace Registry

/-- `set()` and `SpatialHashmap(step)`. -/
def ofStep (step : ℝ) : Registry := ⟨step, [], fun _ => ∅⟩

/-- `Target.clear_obstacles`. -/
noncomputable def empty : Registry := ofStep SPATIAL_GRID_STEP

/-- One iteration of `Target.add_obstacles`. The obstacles it is called with are different
objects, none of them registered yet. -/
noncomputable def add (reg : Registry) (disc : Disc) : Registry :=
  { reg with
    obstacles := reg.obstacles ++ [disc]
    hashmap := fun key =>
      if key ∈ disc.cells reg.step then insert reg.obstacles.length (reg.hashmap key)
      else reg.hashmap key }

noncomputable def addObstacles (reg : Registry) (discs : List Disc) : Registry :=
  discs.foldl add reg

/-- The numbers of the discs in the cells that a step of length at most `stepSize` may touch. -/
noncomputable def found (reg : Registry) (location : ℂ) (stepSize : ℝ) : Finset ℕ :=
  let keys := cells reg.step (shift location (-stepSize)) (shift location stepSize)
  keys.biUnion reg.hashmap

/-- The discs in the cells that a step of length at most `stepSize` may touch, in the order in
which the set of them is iterated. -/
noncomputable def candidates [SetOrder] (reg : Registry) (location : ℂ) (stepSize : ℝ) :
    List Disc :=
  (SetOrder.toList (reg.found location stepSize)).filterMap (fun i => reg.obstacles[i]?)

end Registry

/-! ## The state of a target -/

/-- A target with the constants `params`. Its `goal_bits` and `empty_bits` are kept with the
cargoes. The setter of `step_size` asserts what `stepSize_pos` says. -/
structure Target (params : TargetConfig) (G : Type) where
  location : ℂ
  locationRandomRange : Box
  rng : G
  capacity : ℤ
  stepSize : ℝ
  stepSize_pos : 0 < stepSize
  isColliding : Bool

namespace Target

variable {params : TargetConfig} {G : Type} [RandomState G]

def body (self : Target params G) : Body := ⟨self.location, TARGET_RADIUS, none⟩

/-- The setter of `capacity`: the more a target carries, the slower it is. -/
noncomputable def setCapacity (self : Target params G) (value : ℤ) (hvalue : 0 < value) :
    Target params G :=
  { self with
    capacity := value
    stepSize := (params.stepSize : ℚ) / value
    stepSize_pos := div_pos (by exact_mod_cast params.stepSize.2) (by exact_mod_cast hvalue) }

/-- `Target.reset`. -/
noncomputable def reset (self : Target params G) : Target params G :=
  let (location, rng) := resetLocation self.locationRandomRange TARGET_RADIUS self.rng
  { self with location, rng, isColliding := false }

/-- The step `Target.simulate` starts from: the action, cut to the step size. -/
noncomputable def desiredStep (self : Target params G) (action : ℂ) : Vector2D :=
  let step := Vector2D.ofVector self.location action
  if self.stepSize < step.norm then step.setNorm self.stepSize else step

/-- `Target.simulate`. -/
noncomputable def simulate [SetOrder] (reg : Registry) (self : Target params G) (action : ℂ) :
    Target params G :=
  let step := self.desiredStep action
  let desiredLocation := step.endpoint
  let step :=
    if 0 < reg.obstacles.length then
      -- the obstacles nearby, in the order in which the set yields them
      (reg.candidates self.location self.stepSize).foldl
        (fun step obstacle => obstacle.obstruct step true false) step
    else step
  let location := clipTerrain 0 step.endpoint
  { self with
    location
    isColliding :=
      ! (decide (|location.re - desiredLocation.re| ≤ 1 / 1000000)
        && decide (|location.im - desiredLocation.im| ≤ 1 / 1000000)) }

/-- `Sensor.perceive` of an entity of the given radius. -/
noncomputable def perceive (self : Target params G) (location : ℂ) (radius : ℝ) : Bool :=
  decide (‖self.location - location‖ ≤ (params.sightRange : ℚ) + radius)

/-- `Target.state(private=False)`, for a target carrying `goalBits`. -/
noncomputable def statePublic (self : Target params G) (goalBits : Warehouse → ℤ) : List ℝ :=
  [self.location.re, self.location.im, (params.sightRange : ℚ),
    if ∃ w, goalBits w ≠ 0 then 1 else 0]

/-- `Target.state(private=True)`. -/
noncomputable def statePrivate (self : Target params G) (goalBits : Warehouse → ℤ)
    (emptyBits : Warehouse → Bool) : List ℝ :=
  self.statePublic goalBits ++ [self.stepSize, (self.capacity : ℝ)]
    ++ (List.finRange NUM_WAREHOUSES).map (fun w => (goalBits w : ℝ))
    ++ (List.finRange NUM_WAREHOUSES).map (fun w => if emptyBits w then 1 else 0)

end Target

end Mate
