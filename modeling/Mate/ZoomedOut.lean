import Mate.SoftCoverage

set_option autoImplicit false

/-! # Targets that are too deep

The outline of a camera is drawn for its maximal sight range, and only its edges are those of the
field of view. So a camera whose sight range is not the maximal one has a location straight ahead
that is farther from the outline than the radius of the incircle (`Camera.ZoomedOut.exists_deep`).
An episode can start with a target there (`softCoverage_outOfRange`).
-/

namespace Mate

open Fallible Runs

/-! ## Distances to rays and circles -/

/-- No point of a line is nearer than the foot of the perpendicular. -/
theorem le_norm_polar2cartesian_sub {d : ℝ} (hd : 0 ≤ d) (t phi psi : ℝ) :
    d * |sinDeg (psi - phi)| ≤ ‖polar2cartesian d phi - polar2cartesian t psi‖ := by
  set angle := deg2rad (psi - phi) with hangle
  have hsq : ‖polar2cartesian d phi - polar2cartesian t psi‖ ^ 2
      = d ^ 2 - 2 * (d * t * Real.cos angle) + t ^ 2 := by
    rw [norm_sub_sq_real, norm_polar2cartesian, norm_polar2cartesian, sq_abs, sq_abs,
      inner_polar2cartesian_polar2cartesian]
  have hone := Real.sin_sq_add_cos_sq angle
  refine (sq_le_sq₀ (mul_nonneg hd (abs_nonneg _)) (norm_nonneg _)).mp ?_
  calc (d * |sinDeg (psi - phi)|) ^ 2 = d ^ 2 * Real.sin angle ^ 2 := by
        rw [mul_pow, sq_abs, sinDeg]
    _ = d ^ 2 - (d * Real.cos angle) ^ 2 := by
        rw [mul_pow, eq_sub_of_add_eq hone]
        ring
    _ ≤ d ^ 2 - (d * Real.cos angle) ^ 2 + (t - d * Real.cos angle) ^ 2 := by
        linarith [sq_nonneg (t - d * Real.cos angle)]
    _ = ‖polar2cartesian d phi - polar2cartesian t psi‖ ^ 2 := by
        rw [hsq]
        ring

theorem sub_le_norm_polar2cartesian_sub {d : ℝ} (hd : 0 ≤ d) (t phi psi : ℝ) :
    |t| - d ≤ ‖polar2cartesian d phi - polar2cartesian t psi‖ := by
  have htriangle := norm_sub_norm_le (polar2cartesian t psi) (polar2cartesian d phi)
  rwa [norm_polar2cartesian, norm_polar2cartesian, abs_of_nonneg hd, norm_sub_rev] at htriangle

theorem sinDeg_neg (x : ℝ) : sinDeg (-x) = -sinDeg x := by
  unfold sinDeg deg2rad
  rw [neg_mul, Real.sin_neg]

/-! ## Deep and shallow locations -/

namespace Camera

variable {params : CameraConfig} {G : Type} {self : Camera params G}

/-- A location near the camera is shallow: the outline starts at the camera. -/
theorem shallow_of_near {rho : ℝ}
    (hrho : self.sightRangeAt (self.orientation - self.viewingAngle / 2) false = .ok rho)
    {location : ℂ} (hnear : ‖location - self.location‖ ≤ self.pose.incircle) :
    self.Shallow location := by
  refine ⟨0, .inl ⟨_, List.mem_cons_self, rho, hrho, 0, Nat.zero_le _, ?_⟩, ?_⟩
  · rw [Nat.cast_zero, mul_zero, zero_div]
    apply Complex.ext <;> simp [polar2cartesian]
  · rwa [sub_zero]

/-- A location straight ahead is not shallow when the edges and the breakpoints are farther away
than the radius of the incircle. -/
theorem not_shallow_of_deep (hproper : self.pose.Proper) {bound d : ℝ} (hd : 0 ≤ d)
    (hbound : ∀ table ∈ self.sightRangeOuterFunc, ∀ p ∈ table.points, bound ≤ |p.2|)
    (hedges : self.pose.incircle < d * sinDeg (self.viewingAngle / 2))
    (hcurve : self.pose.incircle < bound - d) :
    ¬ self.Shallow (self.location + polar2cartesian d self.orientation) := by
  rintro ⟨z, hz, hle⟩
  rw [add_sub_cancel_left] at hle
  rcases hz with ⟨edge, hedge, rho, -, k, -, rfl⟩ | ⟨table, htable, p, hp, -, rfl⟩
  · have hpos : 0 < sinDeg (self.viewingAngle / 2) := hproper.sin_pos
    have habs : |sinDeg (edge - self.orientation)| = sinDeg (self.viewingAngle / 2) := by
      rcases List.mem_cons.mp hedge with rfl | hedge
      · rw [sub_sub_cancel_left, sinDeg_neg, abs_neg, abs_of_pos hpos]
      · rw [List.mem_singleton.mp hedge, add_sub_cancel_left, abs_of_pos hpos]
    have hfar := le_norm_polar2cartesian_sub hd (rho * k / 16) self.orientation edge
    rw [habs] at hfar
    exact absurd (hfar.trans hle) (not_le.mpr hedges)
  · have hfar := sub_le_norm_polar2cartesian_sub hd p.2 self.orientation p.1
    have hp := hbound table htable p hp
    linarith

/-- The sight range is not the maximal one, and the outer curve is the circle of the maximal one. -/
structure ZoomedOut (camera : Camera params G) : Prop where
  sightRange_lt : camera.sightRange < (params.maxSightRange : ℚ)
  table : ∀ table ∈ camera.sightRangeOuterFunc, ∀ p ∈ table.points,
    p.2 = ((params.maxSightRange : ℚ) : ℝ)

/-- **A camera that is zoomed out** has a location straight ahead, within its sight range, that is
not shallow. -/
theorem ZoomedOut.exists_deep (h : self.ZoomedOut) (hproper : self.pose.Proper) :
    ∃ d, 0 ≤ d ∧ d ≤ self.sightRange
      ∧ ¬ self.Shallow (self.location + polar2cartesian d self.orientation) := by
  have hsin : 0 < sinDeg (self.viewingAngle / 2) := hproper.sin_pos
  have hrange : 0 < self.sightRange := hproper.sightRange_pos
  have hlt := h.sightRange_lt
  set s := sinDeg (self.viewingAngle / 2) with hs
  have hincircle : self.pose.incircle = self.sightRange * s / (1 + s) := rfl
  -- the location lies beyond the center of the incircle
  have hcenter : self.sightRange / (1 + s) * s = self.pose.incircle := by
    rw [hincircle]
    ring
  have hsum : self.sightRange / (1 + s) + self.pose.incircle = self.sightRange := by
    rw [hincircle]
    field_simp
  have hpos := hproper.incircle_pos
  obtain ⟨d, hbeyond, hwithin⟩ := exists_between (show self.sightRange / (1 + s)
    < min self.sightRange ((params.maxSightRange : ℚ) - self.pose.incircle) from
    lt_min (by linarith) (by linarith))
  have hd : 0 ≤ d := (div_pos hrange (by linarith)).le.trans hbeyond.le
  obtain ⟨hnear, hfar⟩ := lt_min_iff.mp hwithin
  refine ⟨d, hd, hnear.le, not_shallow_of_deep hproper hd (fun table htable p hp => ?_) ?_
    (lt_sub_comm.mp hfar)⟩
  · rw [h.table table htable p hp]
    exact le_abs_self _
  · rw [← hcenter]
    exact mul_lt_mul_of_pos_right hbeyond hsin

/-! ## Without opaque obstacles -/

theorem extendBoundaries_transparent {obstacles : List (Obstacle G)}
    (h : ∀ o ∈ obstacles, o.transmittance = 1) (boundaries : List Vector2D × List Vector2D) :
    self.extendBoundaries obstacles boundaries = boundaries := by
  induction obstacles with
  | nil => rfl
  | cons o obstacles ih =>
      rw [extendBoundaries, if_pos (h o List.mem_cons_self)]
      exact ih (fun o' ho' => h o' (List.mem_cons_of_mem o ho'))

theorem clipBoundary_transparent {obstacles : List (Obstacle G)}
    (h : ∀ o ∈ obstacles, o.transmittance = 1) (outer : Bool) (boundary : List Vector2D) :
    clipBoundary obstacles outer boundary = boundary := by
  induction obstacles with
  | nil => rfl
  | cons o obstacles ih =>
      rw [clipBoundary, List.foldl_cons, if_pos (h o List.mem_cons_self)]
      exact ih (fun o' ho' => h o' (List.mem_cons_of_mem o ho'))

/-- The outer curve of a camera with no opaque obstacle in reach is a circle. -/
theorem FreshBoundary.addObstacles_circle [SetOrder] (h : self.FreshBoundary)
    {all : List (Obstacle G)} (hclear : ∀ o ∈ all,
      ‖o.location - self.location‖ < (params.maxSightRange : ℚ) + o.radius → o.transmittance = 1) :
    ∃ table, (self.addObstacles all).sightRangeOuterFunc = some table
      ∧ ∀ p ∈ table.points, p.2 = ((params.maxSightRange : ℚ) : ℝ) := by
  have hpos := maxSightRange_pos params
  have htransparent : ∀ o ∈ self.inReach all, o.transmittance = 1 :=
    fun o ho => hclear o (mem_inReach.mp ho).1 (mem_inReach.mp ho).2
  -- transparent obstacles add no rays and clip none
  have hclipped : clipBoundary (self.inReach all) true
      (self.extendBoundaries (self.inReach all) (self.boundary, self.boundaryOuter)).2
      = self.boundaryOuter := by
    rw [extendBoundaries_transparent htransparent, clipBoundary_transparent htransparent]
  refine ⟨(interpolate (clipBoundary (self.inReach all) true
    (self.extendBoundaries (self.inReach all) (self.boundary, self.boundaryOuter)).2)).1, rfl, ?_⟩
  rw [hclipped, h.2, h.1]
  set rays := (linspaceOpen (-180) 180 360).map
    (fun angle => Vector2D.ofPolar self.location (params.maxSightRange : ℚ) angle)
  obtain ⟨-, hpoints⟩ := interpolate_spec rays
  have hsamples : ∀ p ∈ (interpolate rays).2.map Vector2D.sample,
      p.2 = ((params.maxSightRange : ℚ) : ℝ) := by
    intro p hp
    obtain ⟨ray, hray, rfl⟩ := List.mem_map.mp hp
    obtain ⟨angle, -, rfl⟩ := List.mem_map.mp (mem_of_mem_interpolate hray)
    exact ofPolar_norm self.location hpos.le angle
  rw [hpoints]
  intro p hp
  rcases List.mem_append.mp hp with hp | hp
  · exact hsamples p hp
  · -- the curve closes up where it starts
    rw [Option.mem_toList, Option.map_eq_some_iff] at hp
    obtain ⟨first, hfirst, rfl⟩ := hp
    exact hsamples first (List.mem_of_mem_head? hfirst)

/-! ## Scores that are computed -/

theorem boundaryPoints_returns [RandomState G] (h : self.Tabulated) {table : Interp1d}
    (htable : self.sightRangeOuterFunc = some table) (hproper : self.pose.Proper) :
    ∃ points, AuxiliaryCameraRewards.boundaryPoints self = .ok points := by
  have hpos : 0 < self.viewingAngle := hproper.viewingAngle_pos
  have hle : self.viewingAngle ≤ 180 := hproper.viewingAngle_le
  have hsome : self.sightTable true = some table := htable
  obtain ⟨left, right, -, -, hsamples⟩ := boundaryBetween_eq h
    (show self.orientation - self.viewingAngle / 2 < self.orientation + self.viewingAngle / 2 by
      linarith)
    (show self.orientation + self.viewingAngle / 2
        ≤ self.orientation - self.viewingAngle / 2 + 360 by linarith) hsome
  set l := self.orientation - self.viewingAngle / 2 with hl
  set r := self.orientation + self.viewingAngle / 2 with hr
  set first := (normalizeAngle l, left) with hfirst
  set last := (normalizeAngle l + (r - l), right) with hlast
  set samples := first :: samplesBetween table (normalizeAngle l) (normalizeAngle l + (r - l))
    ++ [last] with hlist
  have hend : samples.getLast? = some last := List.getLast?_concat
  refine ⟨AuxiliaryCameraRewards.edgePoints first ++ samples
    ++ AuxiliaryCameraRewards.edgePoints last, bind_eq_ok.mpr ⟨samples, hsamples, ?_⟩⟩
  rw [hend]
  rfl

end Camera

section

variable {cfg : Config} {G V : Type} [RandomState G] [SetOrder]

omit [SetOrder] in
open Camera in
/-- The scores are computed when every camera has an outer curve. -/
theorem MultiAgentTracking.Scored.scores_return {e : MultiAgentTracking cfg G V} (h : e.Scored)
    (htables : ∀ c, (e.cameras c).Tabulated)
    (houter : ∀ c, (e.cameras c).sightRangeOuterFunc ≠ none) :
    ∃ matrix, AuxiliaryCameraRewards.computeSoftCoverageScores e.toEnv = .ok matrix := by
  have hcamera : ∀ c, ∃ scores, AuxiliaryCameraRewards.computeSoftCoverageScore (e.cameras c)
      e.targets (e.cameraTargetViewMask c) = .ok scores := by
    intro c
    obtain ⟨table, htable⟩ := Option.ne_none_iff_exists'.mp (houter c)
    obtain ⟨points, hpoints⟩ := boundaryPoints_returns (htables c) htable (h.proper c)
    have hne := ((h.outlined.cameras c).boundaryPoints_iff hpoints).1
    choose least hleast using fun t => reduceArray_returns "minimum" min
      (show points.map (fun p => ‖(e.targets t).location - (e.cameras c).location
        - polar2cartesian p.2 p.1‖) ≠ [] from fun hnil => hne (List.map_eq_nil_iff.mp hnil))
    refine ⟨fun t => (if e.cameraTargetViewMask c t then least t else -least t)
        / AuxiliaryCameraRewards.distMax (e.cameras c),
      bind_eq_ok.mpr ⟨points, hpoints, collectEntries_eq_ok.mpr (fun t => ?_)⟩⟩
    exact bind_eq_ok.mpr ⟨least t, hleast t, rfl⟩
  choose matrix hmatrix using hcamera
  exact ⟨matrix, collectEntries_eq_ok.mpr hmatrix⟩

namespace Env

/-- **After a reset without obstacles** every camera has a circle for its outer curve. -/
theorem reset_circles (hno : cfg.numObstacles = 0) {fuel : ℕ} {seed : Option ℕ}
    {self start : Env cfg G V} {observations : Observations cfg} {reg : Registry}
    (hself : ∀ c, ∀ table ∈ (self.cameras c).sightRangeOuterFunc, table.FullTurn)
    (hreset : self.reset fuel seed = .ok (observations, reg, start)) (c : Fin cfg.numCameras) :
    (start.cameras c).Tabulated ∧ ∃ table, (start.cameras c).sightRangeOuterFunc = some table
      ∧ ∀ p ∈ table.points, p.2 = ((cfg.cameraParams.maxSightRange : ℚ) : ℝ) := by
  have hplaces : PlacesCameras
      (fun camera : Camera cfg.cameraParams G =>
        ∀ table ∈ camera.sightRangeOuterFunc, table.FullTurn)
      (fun camera => camera.Sighted ∧ camera.FreshBoundary) := by
    refine ⟨fun camera rng h => h, fun camera h camera' hplaced => ?_⟩
    have hsighted := Camera.sighted_reset h hplaced
    exact ⟨hsighted.tables.outer, hsighted, Camera.reset_freshBoundary hplaced⟩
  obtain ⟨camera, rng, ⟨hsighted, hfresh⟩, heq⟩ := reset_cameras hplaces hself hreset c
  have hnone : ∀ o ∈ List.ofFn start.obstacles, False := by
    intro o ho
    obtain ⟨i, -⟩ := List.mem_ofFn.mp ho
    exact absurd i.isLt (by omega)
  have hcleared : camera.clearObstacles.Sighted := { hsighted with
    tables := { hsighted.tables with } }
  have hfresh' : camera.clearObstacles.FreshBoundary := hfresh
  have hadded : (camera.clearObstacles.addObstacles (List.ofFn start.obstacles)).Tabulated :=
    (hcleared.addObstacles (fun o ho => (hnone o ho).elim)).tables
  obtain ⟨table, htable, hcircle⟩ : ∃ table,
      (camera.clearObstacles.addObstacles (List.ofFn start.obstacles)).sightRangeOuterFunc
        = some table ∧ ∀ p ∈ table.points, p.2 = ((cfg.cameraParams.maxSightRange : ℚ) : ℝ) :=
    hfresh'.addObstacles_circle (fun o ho => (hnone o ho).elim)
  rw [heq]
  exact ⟨{ hadded with }, table, htable, hcircle⟩

/-- So a camera that starts with less than the maximal sight range is zoomed out. -/
theorem reset_zoomedOut (hno : cfg.numObstacles = 0) {fuel : ℕ} {seed : Option ℕ}
    {self start : Env cfg G V} {observations : Observations cfg} {reg : Registry}
    (hself : ∀ c, ∀ table ∈ (self.cameras c).sightRangeOuterFunc, table.FullTurn)
    (hreset : self.reset fuel seed = .ok (observations, reg, start)) (c : Fin cfg.numCameras)
    (hlt : (start.cameras c).sightRange < (cfg.cameraParams.maxSightRange : ℚ)) :
    (start.cameras c).ZoomedOut := by
  obtain ⟨-, table, htable, hcircle⟩ := reset_circles hno hself hreset c
  refine ⟨hlt, fun table' htable' => ?_⟩
  obtain rfl : table = table' := Option.some.inj (htable.symm.trans htable')
  exact hcircle

end Env

end

/-! ## A camera that is zoomed out -/

namespace Env

/-- A generator whose random numbers are one third. -/
noncomputable abbrev oneThird : RandomState (Fin 4) :=
  { rotating with random := fun g => (⟨1 / 3, by norm_num, by norm_num⟩, g) }

/-- The camera at the left border sees through everything, and the target starts at `(x, 0)`. -/
def wideConfig (x : ℚ) : Config :=
  { leakyConfig with
    target :=
      { placement := ⟨[(x, 0)], []⟩
        sightRange := ⟨500, Positive.fiveHundred_pos⟩
        stepSize := ⟨4000, Positive.fourThousand_pos⟩ }
    camera := some
      { placement := ⟨[(-990, 0)], []⟩
        radius := ⟨1, Positive.one_pos⟩
        minViewingAngle := ⟨90, Positive.ninety_pos⟩
        maxSightRange := ⟨1980, by norm_num⟩
        rotationStep := ⟨360, Positive.threeSixty_pos⟩
        zoomingStep := ⟨5 / 2, Positive.five_halves_pos⟩ }
    numTargets_pos := Nat.one_pos }

section

variable {G : Type} [RandomState G] {x : ℚ}

/-- The camera looks to the right, a third of the way from the smallest to the largest viewing
angle. -/
structure Wide (c : Camera (wideConfig x).cameraParams G) : Prop where
  location : c.location = ⟨-990, 0⟩
  orientation : c.orientation = 0
  viewingAngle : c.viewingAngle = 120
  sightRange : c.sightRange = 990 * √3

theorem reset_wide (hrandom : ∀ g : G, ((RandomState.random g).1 : ℝ) = 1 / 3)
    {c : Camera (wideConfig x).cameraParams G}
    (h : c.locationRandomRange = ⟨(-990, 0), (-990, 0)⟩) :
    Ensures c.reset (fun c' => c'.locationRandomRange = ⟨(-990, 0), (-990, 0)⟩ ∧ Wide c') := by
  refine (Camera.reset_still (rfl : ((wideConfig x).cameraParams.rotationStep : ℚ) = 360) h).mono
    (fun c' hc' => ?_)
  have hangle : c'.viewingAngle = 120 := by
    obtain ⟨g, hangle⟩ := hc'.viewingAngle
    rw [hangle]
    show ((90 : ℚ) : ℝ) + (((MAX_CAMERA_VIEWING_ANGLE : ℚ) : ℝ) - ((90 : ℚ) : ℝ))
      * ((RandomState.random g).1 : ℝ) = 120
    rw [hrandom]
    norm_num [MAX_CAMERA_VIEWING_ANGLE]
  refine ⟨hc'.range, ?_, hc'.orientation, hangle, ?_⟩
  · rw [hc'.location]
    show clipTerrain (12 / 10 * ((1 : ℚ) : ℝ)) ⟨((-990 : ℚ) : ℝ), ((0 : ℚ) : ℝ)⟩ = _
    norm_num [clipTerrain, TERRAIN_SIZE]
  · rw [hc'.sightRange, hangle]
    show √(((90 * 1980 ^ 2 : ℚ) : ℝ) / 120) = 990 * √3
    rw [show ((90 * 1980 ^ 2 : ℚ) : ℝ) / 120 = 990 ^ 2 * 3 by norm_num,
      Real.sqrt_mul (by norm_num), Real.sqrt_sq (by norm_num)]

omit [RandomState G] in
/-- The field of view of the camera, and the radius of its incircle. -/
theorem Wide.pose_eq {c : Camera (wideConfig x).cameraParams G} (h : Wide c) :
    c.pose = ⟨0, 120, 990 * √3⟩ ∧ sinDeg (c.viewingAngle / 2) = √3 / 2
      ∧ c.pose.incircle = 1485 / (1 + √3 / 2) := by
  have hsin : sinDeg (120 / 2) = √3 / 2 := by
    unfold sinDeg deg2rad
    rw [show (120 / 2 : ℝ) * (Real.pi / 180) = Real.pi / 3 by ring, Real.sin_pi_div_three]
  have hpose : c.pose = ⟨0, 120, 990 * √3⟩ := by
    unfold Camera.pose
    rw [h.orientation, h.viewingAngle, h.sightRange]
  have hthree : √3 * √3 = (3 : ℝ) := Real.mul_self_sqrt (by norm_num)
  refine ⟨hpose, ?_, ?_⟩
  · rw [h.viewingAngle, hsin]
  · rw [hpose]
    show 990 * √3 * sinDeg (120 / 2) / (1 + sinDeg (120 / 2)) = _
    rw [hsin]
    congr 1
    linear_combination 495 * hthree

omit [RandomState G] in
theorem Wide.proper {c : Camera (wideConfig x).cameraParams G} (h : Wide c) : c.pose.Proper := by
  rw [h.pose_eq.1]
  have hthree : 0 < √(3 : ℝ) := Real.sqrt_pos.mpr (by norm_num)
  exact ⟨by norm_num, by norm_num, by positivity⟩

omit [RandomState G] in
/-- A location at a distance of 990 straight ahead is too deep. -/
theorem Wide.not_shallow {c : Camera (wideConfig x).cameraParams G} (h : Wide c)
    (hcircle : ∀ table ∈ c.sightRangeOuterFunc, ∀ p ∈ table.points, p.2 = (1980 : ℝ)) :
    ¬ c.Shallow 0 := by
  obtain ⟨-, hsin, hincircle⟩ := h.pose_eq
  have hthree : √3 * √3 = (3 : ℝ) := Real.mul_self_sqrt (by norm_num)
  have hnonneg := Real.sqrt_nonneg 3
  have hlow : (1.7 : ℝ) < √3 := Real.lt_sqrt_of_sq_lt (by norm_num)
  have hpos : 0 < 1 + √3 / 2 := by linarith
  have hzero : c.location + polar2cartesian 990 c.orientation = 0 := by
    rw [h.location, h.orientation]
    apply Complex.ext <;> simp [polar2cartesian, deg2rad]
  have hfar : ∀ table ∈ c.sightRangeOuterFunc, ∀ p ∈ table.points, (1980 : ℝ) ≤ |p.2| := by
    intro table htable p hp
    rw [hcircle table htable p hp]
    exact le_abs_self _
  rw [← hzero]
  refine Camera.not_shallow_of_deep h.proper (by norm_num) hfar ?_ ?_
  · rw [hsin, hincircle, div_lt_iff₀ hpos]
    nlinarith
  · rw [hincircle, div_lt_iff₀ hpos]
    linarith

omit [RandomState G] in
/-- What is to the right of the camera and within its sight range is in its sector. -/
theorem Wide.inSector {c : Camera (wideConfig x).cameraParams G} (h : Wide c) {y : ℝ}
    (hright : -990 ≤ y) (hnear : y ≤ 600) : c.InSector ⟨y, 0⟩ := by
  have hlow : (1.7 : ℝ) < √3 := Real.lt_sqrt_of_sq_lt (by norm_num)
  refine Camera.inSector_ahead h.location h.orientation ?_ hright ?_
  · rw [h.viewingAngle]
    norm_num
  · rw [h.sightRange]
    linarith

/-! ### From a new environment -/

theorem placesCameras_wide (hrandom : ∀ g : G, ((RandomState.random g).1 : ℝ) = 1 / 3) :
    PlacesCameras
      (fun c : Camera (wideConfig x).cameraParams G =>
        c.locationRandomRange = ⟨(-990, 0), (-990, 0)⟩) Wide where
  seed _ _ h := h
  place _ h := reset_wide hrandom h

end

/-- The environment can be made. -/
theorem exists_wide (x : ℚ) :
    letI := oneThird
    ∃ self : Env (wideConfig x) (Fin 4) Unit, Env.init (wideConfig x) ⟨0, fun _ => ()⟩ = .ok self
      ∧ ∀ c, (self.cameras c).locationRandomRange = ⟨(-990, 0), (-990, 0)⟩
        ∧ (self.cameras c).sightRangeOuterFunc = none := by
  let _ := oneThird
  have hnew : ∀ i < (wideConfig x).numCameras,
      Returns (Camera.init (wideConfig x).cameraParams ((wideConfig x).cameraParams.placement.box i)
        : Except Error (Camera (wideConfig x).cameraParams (Fin 4)))
        (fun c => c.locationRandomRange = ⟨(-990, 0), (-990, 0)⟩
          ∧ c.sightRangeOuterFunc = none) := by
    intro i hi
    obtain rfl : i = 0 := Nat.lt_one_iff.mp hi
    have hangle : ((wideConfig x).cameraParams.minViewingAngle : ℚ) ≤ MAX_CAMERA_VIEWING_ANGLE := by
      show (90 : ℚ) ≤ 180
      norm_num
    have hstep : ((wideConfig x).cameraParams.rotationStep : ℚ) ≤ 360 := le_refl (360 : ℚ)
    exact Camera.init_returns hangle hstep _
  obtain ⟨cameras, hok, hcameras⟩ := initAll_returns (wideConfig x).numCameras hnew
  exact ⟨_, bind_eq_ok.mpr ⟨cameras, hok, rfl⟩, hcameras⟩

/-- The episode has started: the camera is zoomed out, and the target stands where its box is. -/
structure Started {G V : Type} [RandomState G] {x : ℚ} (e : Env (wideConfig x) G V) : Prop where
  wide : ∀ c, Wide (e.cameras c)
  tabulated : ∀ c, (e.cameras c).Tabulated
  circle : ∀ c, ∃ table, (e.cameras c).sightRangeOuterFunc = some table
    ∧ ∀ p ∈ table.points, p.2 = (1980 : ℝ)
  location : ∀ t, (e.targets t).location = ⟨x, 0⟩
  mask : ∀ c t, e.cameraTargetViewMask c t = true ↔ (e.cameras c).InSector (e.targets t).location

open MultiAgentTracking in
/-- The environment can be reset, and then the scores can be computed. -/
theorem exists_started (x : ℚ) (hx : InTerrain ⟨x, 0⟩) :
    letI := oneThird
    letI := SetOrder.increasing
    ∃ (start e : MultiAgentTracking (wideConfig x) (Fin 4) Unit)
      (history : List (Method (wideConfig x) Unit))
      (matrix : Fin (wideConfig x).numCameras → Fin (wideConfig x).numTargets → ℝ),
      MultiAgentTracking.init (wideConfig x) ⟨0, fun _ => ()⟩ = .ok start
        ∧ Run Does start history e ∧ e.toEnv.Started
        ∧ AuxiliaryCameraRewards.computeSoftCoverageScores e.toEnv = .ok matrix := by
  let _ := oneThird
  let _ := SetOrder.increasing
  have hpass : ∀ g : Fin 4, Cargo.allSend (Cargo.fillPass 4 0 g).1 = true := by decide
  have hone : (wideConfig x).obstacleTransmittance = 1 := leakyConfig_scales.2.2
  obtain ⟨self, hinit, hself⟩ := exists_wide x
  obtain ⟨⟨observations, reg, e⟩, hreset, -⟩ := reset_transparent rfl hone
    (le_refl (360 : ℚ))
    (fun awaiting g => Cargo.fillCargoes_ne_outOfFuel 1 0 awaiting g (hpass g)) none self
  -- nothing is in the way, so that the tables are circles
  have hcircles := reset_circles rfl
    (fun c table htable => by rw [(hself c).2] at htable; cases htable) hreset
  have hstarted : e.Started := by
    refine ⟨fun c => ?_, fun c => (hcircles c).1, fun c => ?_, fun t => ?_,
      reset_mask rfl hone hreset⟩
    · obtain ⟨camera, rng, hwide, heq⟩ :=
        reset_cameras (placesCameras_wide (fun _ => rfl)) (fun c => (hself c).1) hreset c
      rw [heq]
      exact { hwide with }
    · obtain ⟨-, table, htable, hcircle⟩ := hcircles c
      refine ⟨table, htable, fun p hp => (hcircle p hp).trans ?_⟩
      show (((1980 : ℚ) : ℝ)) = 1980
      norm_num
    · have htarget := (reset_targets_at (z := (x, 0)) hinit (fun t => ?_) ?_ hreset t).1
      · rw [htarget, Rat.cast_zero]
      · have ht : (t : ℕ) = 0 := Nat.lt_one_iff.mp t.isLt
        rw [ht]
        rfl
      · rwa [Rat.cast_zero]
  have hstart : MultiAgentTracking.init (wideConfig x) ⟨0, fun _ => ()⟩
      = .ok (⟨self, none⟩ : MultiAgentTracking (wideConfig x) (Fin 4) Unit) :=
    bind_eq_ok.mpr ⟨_, hinit, rfl⟩
  have hdoes : Does (⟨self, none⟩ : MultiAgentTracking (wideConfig x) (Fin 4) Unit)
      (.reset 2 none observations) ⟨e, none⟩ := .reset (bind_eq_ok.mpr ⟨_, hreset, rfl⟩)
  -- one reset is a run, and its state has tables to score with
  have hrun := Run.single hdoes
  obtain ⟨matrix, hmatrix⟩ := (run_scored hstart hrun).scores_return hstarted.tabulated
    (fun c => by
      obtain ⟨table, htable, -⟩ := hstarted.circle c
      rw [htable]
      exact Option.some_ne_none table)
  exact ⟨_, _, _, matrix, hstart, hrun, hstarted, hmatrix⟩

/-- What a camera is paid for a single target that it tracks is the score of the target. -/
theorem component_eq {n : ℕ} (hn : n = 1) {mask : Fin n → Bool} {scores : Fin n → ℝ} {t : Fin n}
    (ht : mask t = true) :
    AuxiliaryCameraRewards.softCoverageScore mask scores = .ok (scores t) := by
  subst hn
  unfold AuxiliaryCameraRewards.softCoverageScore
  rw [if_pos ⟨t, ht⟩, Fintype.sum_subsingleton _ t, if_pos ht]

open MultiAgentTracking in
/-- **The score is out of range.** The target in the middle is 990 away from the camera, which sees
120 degrees as far as 1715: both edges, and the circle of the maximal sight range, are farther
from the target than the radius of the incircle. -/
theorem softCoverage_outOfRange :
    letI := oneThird
    letI := SetOrder.increasing
    ∃ (start e : MultiAgentTracking (wideConfig 0) (Fin 4) Unit)
      (history : List (Method (wideConfig 0) Unit))
      (matrix : Fin (wideConfig 0).numCameras → Fin (wideConfig 0).numTargets → ℝ)
      (scores : Fin (wideConfig 0).numCameras → ℝ),
      MultiAgentTracking.init (wideConfig 0) ⟨0, fun _ => ()⟩ = .ok start
        ∧ Run Does start history e
        ∧ AuxiliaryCameraRewards.computeSoftCoverageScores e.toEnv = .ok matrix
        ∧ AuxiliaryCameraRewards.softCoverageScores true e.toEnv = .ok scores
        ∧ ∃ c t, e.cameraTargetViewMask c t = true ∧ 1 < matrix c t
          ∧ (wideConfig 0).numTargets < scores c := by
  let _ := oneThird
  let _ := SetOrder.increasing
  obtain ⟨start, e, history, matrix, hstart, hrun, hstarted, hmatrix⟩ :=
    exists_started 0 (by constructor <;> norm_num [TERRAIN_SIZE])
  set c : Fin (wideConfig 0).numCameras := (0 : Fin 1)
  set t : Fin (wideConfig 0).numTargets := (0 : Fin 1)
  have hlocation : (e.targets t).location = ⟨0, 0⟩ := by
    rw [hstarted.location t, Rat.cast_zero]
  have htracked : e.cameraTargetViewMask c t = true := by
    rw [hstarted.mask c t, hlocation]
    exact (hstarted.wide c).inSector (by norm_num) (by norm_num)
  -- the target is nowhere near an edge of the sector
  have hdeep : ¬ (e.cameras c).Shallow (e.targets t).location := by
    obtain ⟨table, htable, hcircle⟩ := hstarted.circle c
    rw [hlocation]
    refine (hstarted.wide c).not_shallow (fun table' htable' => ?_)
    obtain rfl : table = table' := Option.some.inj (htable.symm.trans htable')
    exact hcircle
  have hentry : 1 < matrix c t := by
    refine not_le.mp (fun hle => hdeep ?_)
    exact ((((run_scored hstart hrun).entry hmatrix c t).1 htracked).2).mp hle
  have hscores : AuxiliaryCameraRewards.softCoverageScores true e.toEnv
      = .ok (fun c => matrix c t) := by
    refine bind_eq_ok.mpr ⟨matrix, hmatrix, collectEntries_eq_ok.mpr (fun c' => ?_)⟩
    obtain rfl : c' = c := Fin.ext (Nat.lt_one_iff.mp c'.isLt)
    exact component_eq rfl htracked
  refine ⟨start, e, history, matrix, _, hstart, hrun, hmatrix, hscores, c, t, htracked, hentry, ?_⟩
  show ((1 : ℕ) : ℝ) < matrix c t
  rwa [Nat.cast_one]

open MultiAgentTracking in
/-- A target that is 690 away from the same camera is shallow, and its score is in range. -/
theorem softCoverage_inRange_nearby :
    letI := oneThird
    letI := SetOrder.increasing
    ∃ (start e : MultiAgentTracking (wideConfig (-300)) (Fin 4) Unit)
      (history : List (Method (wideConfig (-300)) Unit))
      (matrix : Fin (wideConfig (-300)).numCameras → Fin (wideConfig (-300)).numTargets → ℝ),
      MultiAgentTracking.init (wideConfig (-300)) ⟨0, fun _ => ()⟩ = .ok start
        ∧ Run Does start history e
        ∧ AuxiliaryCameraRewards.computeSoftCoverageScores e.toEnv = .ok matrix
        ∧ (∀ c t, e.cameraTargetViewMask c t = true) ∧ e.toEnv.SoftCoverageInRange matrix := by
  let _ := oneThird
  let _ := SetOrder.increasing
  obtain ⟨start, e, history, matrix, hstart, hrun, hstarted, hmatrix⟩ :=
    exists_started (-300) (by constructor <;> norm_num [TERRAIN_SIZE])
  have hlocation : ∀ t, (e.targets t).location = ⟨-300, 0⟩ := by
    intro t
    rw [hstarted.location t]
    norm_num
  have htracked : ∀ c t, e.cameraTargetViewMask c t = true := by
    intro c t
    rw [hstarted.mask c t, hlocation]
    exact (hstarted.wide c).inSector (by norm_num) (by norm_num)
  refine ⟨start, e, history, matrix, hstart, hrun, hmatrix, htracked,
    (softCoverage_inRange_iff hstart hrun hmatrix).mpr (fun c t _ => ?_)⟩
  obtain ⟨rho, hrho⟩ := (hstarted.tabulated c).inner.spans.eval_returns
    (le_normalizeAngle _) (normalizeAngle_lt _).le
  refine Camera.shallow_of_near hrho ?_
  have hhigh : √(3 : ℝ) < 1.8 := (Real.sqrt_lt' (by norm_num)).mpr (by norm_num)
  have hpos : 0 < 1 + √(3 : ℝ) / 2 := by positivity
  -- nearer than the radius of the incircle
  have hnear : (⟨-300, 0⟩ : ℂ) - ⟨-990, 0⟩ = ((690 : ℝ) : ℂ) := by
    apply Complex.ext <;> norm_num
  rw [hlocation, (hstarted.wide c).location, hnear, Complex.norm_real,
    (hstarted.wide c).pose_eq.2.2, le_div_iff₀ hpos, Real.norm_of_nonneg (by norm_num)]
  linarith

end Env

end Mate
