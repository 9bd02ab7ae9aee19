import Mate.Random
import Mate.Config

set_option autoImplicit false

/-! # Entities and obstacles

`Disc.obstruct` clips a ray at a disc. Obstacles and cameras are discs for it; the mutable
fields of an obstacle are drawn again at every reset.
-/

namespace Mate

/-! ## Entities -/

variable {G : Type} [RandomState G]

/-- `location_random_range.sample()`, coordinate by coordinate. -/
noncomputable def Box.sample (b : Box) (g : G) : ℂ × G :=
  let (x, g) := RandomState.uniform b.low.1 b.high.1 g
  let (y, g) := RandomState.uniform b.low.2 b.high.2 g
  (⟨x, y⟩, g)

/-- `Entity.reset`: the new location of an entity of the given radius. -/
noncomputable def resetLocation (range : Box) (radius : ℝ) (g : G) : ℂ × G :=
  let (location, g) := range.sample g
  (clipTerrain (12 / 10 * radius) location, g)

/-- What `overlap` reads of an entity: a camera also has its sight range compared. -/
structure Body where
  location : ℂ
  radius : ℝ
  cameraSightRange : Option ℝ

/-- `self.overlap(other, min_distance)`, for a camera with the override of `Camera`. -/
noncomputable def Body.overlap (self other : Body) (minDistance : ℝ) : Bool :=
  let distance := ‖self.location - other.location‖
  let discs := decide (distance * (1 + 1 / 1000000) < self.radius + other.radius + minDistance)
  match self.cameraSightRange, other.cameraSightRange with
  | some s, some s' => discs || decide (distance < 1 / 10 * min s s')
  | _, _ => discs

/-! ## Clipping a ray at a disc -/

structure Disc where
  location : ℂ
  radius : ℝ

/-- `np.inner` of two plane vectors. -/
def dot (z w : ℂ) : ℝ := z.re * w.re + z.im * w.im

open Classical in
noncomputable def Disc.obstruct (self : Disc) (ray : Vector2D) (keepTangential outer : Bool) :
    Vector2D :=
  let relative := self.location - ray.origin
  let norm := ray.norm
  -- a ray that starts inside turns back
  if norm = 0 ∨ ‖relative‖ < self.radius then ray.neg
  else if norm + self.radius ≤ ‖relative‖ then ray
  else
    let inner := dot relative ray.vector
    -- a disc behind the origin is no obstacle
    if 0 ≤ inner then
      let cos := min 1 (inner / (‖relative‖ * norm))
      let perpendicular := ‖relative‖ * √(1 - cos ^ 2)
      if perpendicular < self.radius then
        let halfChord := √(self.radius ^ 2 - perpendicular ^ 2)
        let newNorm :=
          if outer then max 0 (‖relative‖ * cos + halfChord)
          else max 0 (‖relative‖ * cos - halfChord)
        if newNorm < norm then
          let oldRay := ray.vector
          let ray := ray.setNorm newNorm
          if keepTangential then
            -- the rest of the step goes along the tangent
            let radius := ray.endpoint - self.location
            ray.setVector
              (oldRay + ((norm - newNorm) * halfChord / self.radius ^ 2 : ℝ) * radius)
          else ray
        else ray
      else ray
    else ray

/-! ## Obstacles -/

structure Obstacle (G : Type) where
  location : ℂ
  radius : ℝ
  locationRandomRange : Box
  radiusRandomRange : ℚ × ℚ
  transmittance : ℚ
  rng : G

namespace Obstacle

def disc (self : Obstacle G) : Disc := ⟨self.location, self.radius⟩

def body (self : Obstacle G) : Body := ⟨self.location, self.radius, none⟩

/-- `Obstacle.state`. -/
def state (self : Obstacle G) : List ℝ := [self.location.re, self.location.im, self.radius]

/-- `Obstacle.reset`. The generator of the radius is the one of the box that all obstacles
share. -/
noncomputable def reset (self : Obstacle G) (radiusRng : G) : Obstacle G × G :=
  let (radius, radiusRng) :=
    RandomState.uniform self.radiusRandomRange.1 self.radiusRandomRange.2 radiusRng
  let (location, rng) := resetLocation self.locationRandomRange radius self.rng
  ({ self with location, radius, rng }, radiusRng)

end Obstacle

end Mate
