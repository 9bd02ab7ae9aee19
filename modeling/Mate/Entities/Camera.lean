import Mate.Entities.Obstacle

set_option autoImplicit false

/-! # Cameras

A camera sees a target when it is inside the sector of the camera and no farther than the
sight range in its direction, which `add_obstacles` tabulates at reset: rays in many
directions are clipped at every opaque obstacle, sorted by angle, and interpolated linearly.
-/

namespace Mate

/-! ## Tables -/

/-- `np.linspace(start, stop, num=num, endpoint=False)`. -/
noncomputable def linspaceOpen (start stop : ℝ) (num : ℕ) : List ℝ :=
  (List.range num).map (fun i => start + (stop - start) * i / num)

/-- `np.linspace(start, stop, num=num + 1, endpoint=True)`. -/
noncomputable def linspace (start stop : ℝ) (num : ℕ) : List ℝ :=
  (List.range (num + 1)).map (fun i => start + (stop - start) * i / num)

/-- `scipy.interpolate.interp1d(phis, rhos)`, by its breakpoints in order of `phis`. -/
structure Interp1d where
  points : List (ℝ × ℝ)

/-- The value on the first segment that ends at `x` or after it. -/
noncomputable def interpolateFrom (x : ℝ) : List (ℝ × ℝ) → Option ℝ
  | p :: q :: rest =>
      if x ≤ q.1 then some (p.2 + (q.2 - p.2) / (q.1 - p.1) * (x - p.1))
      else interpolateFrom x (q :: rest)
  | _ => none

/-- Outside of the table `interp1d` raises. -/
noncomputable def Interp1d.eval (table : Interp1d) (x : ℝ) : Except Error ℝ :=
  match table.points with
  | [] => .error (.valueError "A value in x_new is below the interpolation range.")
  | p :: _ =>
      if x < p.1 then .error (.valueError "A value in x_new is below the interpolation range.")
      else
        match interpolateFrom x table.points with
        | some y => .ok y
        | none => .error (.valueError "A value in x_new is above the interpolation range.")

/-! ## The state of a camera -/

/-- A camera with the constants `params`. `obstacles` are the indices of the obstacles in its
reach; `sightRangeOuterFunc` is `None` until the first `add_obstacles`. -/
structure Camera (params : CameraConfig) (G : Type) where
  location : ℂ
  locationRandomRange : Box
  rng : G
  orientation : ℝ
  viewingAngle : ℝ
  sightRange : ℝ
  boundary : List Vector2D
  boundaryOuter : List Vector2D
  sightRangeFunc : Interp1d
  sightRangeOuterFunc : Option Interp1d
  obstacles : Finset ℕ

namespace Camera

variable {params : CameraConfig} {G : Type} [RandomState G]

def disc (self : Camera params G) : Disc := ⟨self.location, (params.radius : ℚ)⟩

def body (self : Camera params G) : Body :=
  ⟨self.location, (params.radius : ℚ), some self.sightRange⟩

/-- `Camera.state(private=False)`. -/
noncomputable def statePublic (self : Camera params G) : List ℝ :=
  let sight := polar2cartesian self.sightRange self.orientation
  [self.location.re, self.location.im, (params.radius : ℚ), sight.re, sight.im,
    self.viewingAngle]

/-- `Camera.state(private=True)`. -/
noncomputable def statePrivate (self : Camera params G) : List ℝ :=
  self.statePublic ++
    [((params.maxSightRange : ℚ) : ℝ), ((params.rotationStep : ℚ) : ℝ),
      ((params.zoomingStep : ℚ) : ℝ)]

/-- `self.area_product = min_viewing_angle * np.square(max_sight_range)`. -/
def areaProduct (params : CameraConfig) : ℚ :=
  params.minViewingAngle * (params.maxSightRange : ℚ) ^ 2

noncomputable def sightRangeOf (params : CameraConfig) (viewingAngle : ℝ) : ℝ :=
  √(areaProduct params / viewingAngle)

/-- `Camera.reset`. The orientation is a multiple of the rotation step; there is none to draw
when the step is above 360 degrees. -/
noncomputable def reset (self : Camera params G) : Except Error (Camera params G) :=
  let (location, g) := resetLocation self.locationRandomRange (params.radius : ℚ) self.rng
  let high := ⌊360 / (params.rotationStep : ℚ)⌋₊
  if h : 0 < high then
    -- the draws come in this order: location, orientation, viewing angle
    let (k, g) := RandomState.randint high h g
    let (viewingAngle, g) :=
      RandomState.uniform (params.minViewingAngle : ℚ) MAX_CAMERA_VIEWING_ANGLE g
    let boundary := (linspaceOpen (-180) 180 360).map
      (fun angle => Vector2D.ofPolar location (params.maxSightRange : ℚ) angle)
    .ok
      { self with
        location
        rng := g
        orientation := normalizeAngle ((params.rotationStep : ℚ) * (k : ℕ))
        viewingAngle
        sightRange := sightRangeOf params viewingAngle
        boundary
        boundaryOuter := boundary
        sightRangeFunc :=
          ⟨(linspace (-180) 180 360).map (fun phi => (phi, ((params.maxSightRange : ℚ) : ℝ)))⟩ }
  else .error (.valueError "low >= high")

/-- `np.clip` between two bounds. -/
noncomputable def clip (low high x : ℝ) : ℝ := min (max x low) high

/-- `Camera.simulate`, for an action of a turn and a zoom. -/
noncomputable def simulate (self : Camera params G) (action : ℝ × ℝ) : Camera params G :=
  let rotationStep : ℝ := (params.rotationStep : ℚ)
  let zoomingStep : ℝ := (params.zoomingStep : ℚ)
  let deltaAngle := clip (-rotationStep) rotationStep action.1
  let deltaViewingAngle := clip (-zoomingStep) zoomingStep action.2
  let viewingAngle :=
    clip (params.minViewingAngle : ℚ) MAX_CAMERA_VIEWING_ANGLE
      (self.viewingAngle + deltaViewingAngle)
  { self with
    orientation := normalizeAngle (self.orientation + deltaAngle)
    viewingAngle
    sightRange := sightRangeOf params viewingAngle }

/-! ## The sight range by direction -/

/-- The rays towards one opaque obstacle that `add_obstacles` adds to the boundary and to the
outer boundary. -/
noncomputable def tangentRays (self : Camera params G) (obstacle : Obstacle G) :
    List Vector2D × List Vector2D :=
  let maxSightRange : ℝ := (params.maxSightRange : ℚ)
  let ray := Vector2D.ofPolar self.location
  let relative := obstacle.location - self.location
  let halfOpeningAngle := arcsinDeg (obstacle.radius / ‖relative‖)
  let maxRho := min maxSightRange (‖relative‖ + obstacle.radius)
  let angleLeft := arctan2Deg relative - halfOpeningAngle
  let angleRight := arctan2Deg relative + halfOpeningAngle
  let across := (linspace angleLeft angleRight (max 16 ⌊2 * halfOpeningAngle⌋₊)).map (ray maxRho)
  let beside := [angleLeft - 1 / 100, angleLeft + 1 / 100, angleRight - 1 / 100,
    angleRight + 1 / 100].map (ray maxSightRange)
  let nearRho := min maxSightRange √(‖relative‖ ^ 2 + obstacle.radius ^ 2)
  -- the segment from the tangent point to the full range just beside the obstacle
  let segment := fun nearAngle farAngle =>
    let near := (ray nearRho nearAngle).vector
    let far := (ray maxSightRange farAngle).vector
    (linspace 0 1 20).map
      (fun t => Vector2D.ofVector self.location ((1 - t : ℝ) * near + (t : ℝ) * far))
  (beside ++ across,
    across ++ segment angleLeft (angleLeft - 1 / 100)
      ++ segment angleRight (angleRight + 1 / 100))

/-- The first loop of `add_obstacles`. Inside of an obstacle the camera sees nothing, and the
loop stops. -/
noncomputable def extendBoundaries (self : Camera params G) :
    List (Obstacle G) → List Vector2D × List Vector2D → List Vector2D × List Vector2D
  | [], boundaries => boundaries
  | obstacle :: rest, boundaries =>
      if obstacle.transmittance = 1 then self.extendBoundaries rest boundaries
      else if ‖obstacle.location - self.location‖ < obstacle.radius then
        let blind := [-180, -90, 0, 90].map (fun angle => Vector2D.ofPolar self.location 0 angle)
        (blind, blind)
      else
        let rays := self.tangentRays obstacle
        self.extendBoundaries rest (boundaries.1 ++ rays.1, boundaries.2 ++ rays.2)

/-- The second loop of `add_obstacles`: every ray is clipped at every opaque obstacle. -/
noncomputable def clipBoundary (obstacles : List (Obstacle G)) (outer : Bool)
    (boundary : List Vector2D) : List Vector2D :=
  obstacles.foldl
    (fun boundary obstacle =>
      if obstacle.transmittance = 1 then boundary
      else boundary.map (fun b => obstacle.disc.obstruct b false outer))
    boundary

/-- Of neighbours at the same angle, the shorter ray is kept. -/
noncomputable def mergeAngles : List Vector2D → List Vector2D → List Vector2D
  | merged, [] => merged
  | merged, ray :: rest =>
      match merged.getLast? with
      | some last =>
          if last.angle = ray.angle then
            if ray.norm < last.norm then mergeAngles (merged.dropLast ++ [ray]) rest
            else mergeAngles merged rest
          else mergeAngles (merged ++ [ray]) rest
      | none => mergeAngles [ray] rest

/-- The local function `interpolate` of `add_obstacles`. -/
noncomputable def interpolate (boundary : List Vector2D) : Interp1d × List Vector2D :=
  let boundary := mergeAngles [] (boundary.mergeSort (fun a b => decide (a.angle ≤ b.angle)))
  let points := boundary.map (fun ray => (ray.angle, ray.norm))
  let closing := (points.head?.map (fun p => (p.1 + 360, p.2))).toList
  (⟨points ++ closing⟩, boundary)

/-- `Camera.add_obstacles`. The obstacles within reach are a set; its elements are numbered as
in the list given. -/
noncomputable def addObstacles [SetOrder] (self : Camera params G) (all : List (Obstacle G)) :
    Camera params G :=
  let reach := (Finset.range all.length).filter (fun i =>
    ∃ o, all[i]? = some o ∧
      ‖self.location - o.location‖ < (params.maxSightRange : ℚ) + o.radius)
  let obstacles := (SetOrder.toList reach).filterMap (fun i => all[i]?)
  let boundaries := self.extendBoundaries obstacles (self.boundary, self.boundaryOuter)
  let (sightRangeFunc, boundary) := interpolate (clipBoundary obstacles false boundaries.1)
  let (outerFunc, boundaryOuter) := interpolate (clipBoundary obstacles true boundaries.2)
  { self with
    obstacles := self.obstacles ∪ reach
    boundary, sightRangeFunc, boundaryOuter
    sightRangeOuterFunc := some outerFunc }

def clearObstacles (self : Camera params G) : Camera params G := { self with obstacles := ∅ }

/-- `Camera.perceive` of an entity at `location`; the draw for a transparent obstacle is made
only inside of the sector. -/
noncomputable def perceive (self : Camera params G) (location : ℂ) (transmittance : ℝ) :
    Except Error (Bool × Camera params G) :=
  let relative := location - self.location
  if self.sightRange < ‖relative‖ then .ok (false, self)
  else
    let angle := arctan2Deg relative
    let relativeAngle := |self.orientation - angle|
    let relativeAngle := min relativeAngle (360 - relativeAngle)
    if self.viewingAngle < relativeAngle * 2 then .ok (false, self)
    else
      -- inside of the sector: by chance through everything, else as far as the table says
      let (through, rng) := RandomState.binomial transmittance self.rng
      let self := { self with rng }
      if through then .ok (true, self)
      else do
        let rho ← self.sightRangeFunc.eval (normalizeAngle angle)
        return (decide (‖relative‖ ≤ rho * (1 + 1 / 1000000)), self)

/-- `self.sight_range_func`, or `self.sight_range_outer_func`. -/
def sightTable (self : Camera params G) (outer : Bool) : Option Interp1d :=
  if outer then self.sightRangeOuterFunc else some self.sightRangeFunc

/-- `Camera.sight_range_at`. -/
noncomputable def sightRangeAt (self : Camera params G) (angle : ℝ) (outer : Bool) :
    Except Error ℝ :=
  match self.sightTable outer with
  | some table => table.eval (normalizeAngle angle)
  | none => .error (.typeError "'NoneType' object is not callable")

/-- `Camera.boundary_between`: the angles of `phis` with the radii of `rhos`. -/
noncomputable def boundaryBetween (self : Camera params G) (angleLeft angleRight : ℝ)
    (outer : Bool) : Except Error (List (ℝ × ℝ)) :=
  if 0 < angleRight - angleLeft ∧ angleRight - angleLeft ≤ 360 then
    let normalizedAngleLeft := normalizeAngle angleLeft
    let angleRight := normalizedAngleLeft + (angleRight - angleLeft)
    let angleLeft := normalizedAngleLeft
    match self.sightTable outer with
    | some table => do
        let samples :=
          if angleRight ≤ 180 then
            table.points.filter (fun p => angleLeft < p.1 ∧ p.1 < angleRight)
          else
            -- the sector crosses the seam of the table
            table.points.filter (fun p => angleLeft < p.1 ∧ p.1 ≤ 180)
              ++ table.points.filter (fun p => -180 < p.1 ∧ p.1 < angleRight - 360)
        let left ← self.sightRangeAt angleLeft false
        let right ← self.sightRangeAt angleRight false
        return (angleLeft, left) :: samples ++ [(angleRight, right)]
    | none => .error (.attributeError "'NoneType' object has no attribute 'x'")
  else .error (.assertionError "")

end Camera

end Mate
