import Mate.Advertised
import Mate.Environment.Transparent
import Mate.FocusCodec
import Mate.PoseScores
import Mate.SightBoundary
import Mate.Transport
import Mate.Wrappers.AuxiliaryRewards
import Mathlib.Analysis.SpecialFunctions.Trigonometric.DerivHyp

set_option autoImplicit false

/-! # The range of the soft coverage score

The score divides the depth of a target inside of the outline of a camera by the radius of the
incircle of its field of view. The outline is drawn for the maximal sight range, and the incircle
is that of the current field of view. So the score of a tracked target is at most one just when
the target is no deeper than that (`softCoverage_inRange_iff`), and a camera that is zoomed out has
targets that are deeper.
-/

namespace Mate

open Fallible Runs

/-! ## Curves that close up -/

/-- The first breakpoint stands at the end again, a full turn later. -/
def Interp1d.Wraps (table : Interp1d) : Prop :=
  ∃ first rest, table.points = first :: rest ++ [(first.1 + 360, first.2)]
    ∧ (∀ p ∈ first :: rest, -180 ≤ p.1 ∧ p.1 ≤ 180) ∧ ∀ p ∈ rest, first.1 < p.1

/-- The angle of the vector is one of the full turn. -/
def Vector2D.InTurn (ray : Vector2D) : Prop := -180 ≤ ray.angle ∧ ray.angle ≤ 180

theorem inTurn_normalizeAngle (angle : ℝ) :
    -180 ≤ normalizeAngle angle ∧ normalizeAngle angle ≤ 180 :=
  ⟨le_normalizeAngle angle, (normalizeAngle_lt angle).le⟩

namespace Vector2D

theorem inTurn_ofPolar (origin : ℂ) (norm angle : ℝ) : (ofPolar origin norm angle).InTurn := by
  show -180 ≤ ite _ _ _ ∧ ite _ _ _ ≤ (180 : ℝ)
  split
  · exact inTurn_normalizeAngle _
  · exact inTurn_normalizeAngle _

theorem inTurn_ofVector (origin z : ℂ) : (ofVector origin z).InTurn :=
  ⟨(arctan2Deg_mem z).1.le, (arctan2Deg_mem z).2⟩

theorem InTurn.setNorm {ray : Vector2D} (h : ray.InTurn) (value : ℝ) :
    (ray.setNorm value).InTurn := by
  show -180 ≤ ite _ _ _ ∧ ite _ _ _ ≤ (180 : ℝ)
  split
  · exact inTurn_normalizeAngle _
  · exact h

theorem InTurn.obstruct {ray : Vector2D} (h : ray.InTurn) (d : Disc) (outer : Bool) :
    (d.obstruct ray false outer).InTurn := by
  simp only [Disc.obstruct, Bool.false_eq_true, if_false]
  split_ifs
  all_goals first
    | exact h
    | exact h.setNorm _
    | exact inTurn_ofVector _ _

theorem InTurn.clipRay {ray : Vector2D} (h : ray.InTurn) (discs : List Disc) (outer : Bool) :
    (Mate.clipRay discs outer ray).InTurn := by
  induction discs generalizing ray with
  | nil => exact h
  | cons d discs ih => exact ih (h.obstruct d outer)

end Vector2D

namespace Camera

/-- Rays of an outer boundary. -/
def Encircled (boundary : List Vector2D) : Prop :=
  boundary ≠ [] ∧ ∀ ray ∈ boundary, ray.InTurn

theorem Encircled.interpolate {boundary : List Vector2D} (h : Encircled boundary) :
    (Camera.interpolate boundary).1.Wraps ∧ Encircled (Camera.interpolate boundary).2 := by
  obtain ⟨htable, hpoints⟩ := interpolate_spec boundary
  have hkept : ∀ ray ∈ (Camera.interpolate boundary).2, ray.InTurn :=
    fun ray hray => h.2 ray (mem_of_mem_interpolate hray)
  obtain ⟨ray, hray⟩ := List.exists_mem_of_ne_nil boundary h.1
  obtain ⟨p, hp, -⟩ := htable.covers ray.sample (List.mem_map_of_mem hray)
  have hnonempty : (Camera.interpolate boundary).2 ≠ [] := by
    intro hnil
    rw [hnil] at hp
    cases hp
  refine ⟨?_, hnonempty, hkept⟩
  obtain ⟨first, rest, hcons⟩ := List.exists_cons_of_ne_nil hnonempty
  rw [hcons] at htable hpoints hkept
  refine ⟨first.sample, rest.map Vector2D.sample, hpoints, ?_, ?_⟩
  · intro p hp
    rw [← List.map_cons] at hp
    obtain ⟨ray, hray, rfl⟩ := List.mem_map.mp hp
    exact hkept ray hray
  · have hincreasing := htable.increasing
    rw [List.map_cons, List.pairwise_cons] at hincreasing
    exact hincreasing.1

variable {params : CameraConfig} {G : Type}

theorem inTurn_tangentRays (self : Camera params G) (o : Obstacle G) :
    ∀ ray ∈ (self.tangentRays o).2, ray.InTurn := by
  intro ray hray
  rcases List.mem_append.mp hray with hray | hright
  · rcases List.mem_append.mp hray with hacross | hleft
    · obtain ⟨angle, -, rfl⟩ := List.mem_map.mp hacross
      exact Vector2D.inTurn_ofPolar _ _ _
    · obtain ⟨t, -, rfl⟩ := List.mem_map.mp hleft
      exact Vector2D.inTurn_ofVector _ _
  · obtain ⟨t, -, rfl⟩ := List.mem_map.mp hright
    exact Vector2D.inTurn_ofVector _ _

theorem encircled_extendBoundaries (self : Camera params G) (obstacles : List (Obstacle G))
    (boundaries : List Vector2D × List Vector2D) (h : Encircled boundaries.2) :
    Encircled (self.extendBoundaries obstacles boundaries).2 := by
  induction obstacles generalizing boundaries with
  | nil => exact h
  | cons o obstacles ih =>
      rw [extendBoundaries]
      split_ifs
      · exact ih boundaries h
      · refine ⟨by simp, fun ray hray => ?_⟩
        obtain ⟨angle, -, rfl⟩ := List.mem_map.mp hray
        exact Vector2D.inTurn_ofPolar _ _ _
      · refine ih _ ⟨List.append_ne_nil_of_left_ne_nil h.1 _, fun ray hray => ?_⟩
        rcases List.mem_append.mp hray with hray | hray
        · exact h.2 ray hray
        · exact self.inTurn_tangentRays o ray hray

theorem encircled_clipBoundary (obstacles : List (Obstacle G)) (outer : Bool)
    {boundary : List Vector2D} (h : Encircled boundary) :
    Encircled (clipBoundary obstacles outer boundary) := by
  rw [clipBoundary_eq]
  refine ⟨fun hnil => h.1 (List.map_eq_nil_iff.mp hnil), fun ray hray => ?_⟩
  obtain ⟨b, hb, rfl⟩ := List.mem_map.mp hray
  exact (h.2 b hb).clipRay _ outer

/-- What every camera of an environment keeps: rays of an outer boundary, an outer curve that closes
up, if there is one, and a field of view of at most half a turn. -/
structure Outlined (camera : Camera params G) : Prop where
  boundaryOuter : Encircled camera.boundaryOuter
  table : ∀ table ∈ camera.sightRangeOuterFunc, table.Wraps
  viewingAngle_pos : 0 < camera.viewingAngle
  viewingAngle_le : (params.minViewingAngle : ℚ) ≤ MAX_CAMERA_VIEWING_ANGLE →
    camera.viewingAngle ≤ (MAX_CAMERA_VIEWING_ANGLE : ℚ)
  sightRange_pos : 0 < camera.sightRange

variable {self : Camera params G}

theorem Outlined.simulate (h : self.Outlined) (action : ℝ × ℝ) :
    (self.simulate action).Outlined := by
  have hmin : (0 : ℝ) < (params.minViewingAngle : ℚ) := by exact_mod_cast params.minViewingAngle.2
  have hpos : 0 < (self.simulate action).viewingAngle := by
    refine lt_min (hmin.trans_le (le_max_right _ _)) ?_
    norm_num [MAX_CAMERA_VIEWING_ANGLE]
  exact
    { boundaryOuter := h.boundaryOuter
      table := h.table
      viewingAngle_pos := hpos
      viewingAngle_le := fun _ => min_le_right _ _
      sightRange_pos := sightRangeOf_pos hpos }

theorem Outlined.addObstacles [SetOrder] (h : self.Outlined) (all : List (Obstacle G)) :
    (self.addObstacles all).Outlined := by
  have hclipped := encircled_clipBoundary (self.inReach all) true
    (self.encircled_extendBoundaries (self.inReach all) (self.boundary, self.boundaryOuter)
      h.boundaryOuter)
  obtain ⟨hwraps, hkept⟩ := hclipped.interpolate
  refine ⟨hkept, ?_, h.viewingAngle_pos, h.viewingAngle_le, h.sightRange_pos⟩
  rintro table ⟨⟩
  exact hwraps

theorem reset_outlined [RandomState G] {start : Camera params G}
    (hold : ∀ table ∈ start.sightRangeOuterFunc, table.Wraps) : Ensures start.reset Outlined := by
  intro camera h
  have hfresh := reset_freshBoundary h
  have hsight := reset_sighted start camera h
  have hmin : (0 : ℝ) < (params.minViewingAngle : ℚ) := by exact_mod_cast params.minViewingAngle.2
  have hmax : (0 : ℝ) < (MAX_CAMERA_VIEWING_ANGLE : ℚ) := by norm_num [MAX_CAMERA_VIEWING_ANGLE]
  have hencircled : Encircled camera.boundaryOuter := by
    rw [hfresh.2]
    refine ⟨List.ne_nil_of_mem hfresh.first_mem, fun ray hray => ?_⟩
    rw [hfresh.1] at hray
    obtain ⟨angle, -, rfl⟩ := List.mem_map.mp hray
    exact Vector2D.inTurn_ofPolar _ _ _
  unfold reset at h
  dsimp only at h
  split at h
  · cases h
    refine ⟨hencircled, hold, ?_, fun hle => ?_, hsight⟩
    · exact uniform_pos hmin hmax _
    · have hle' : ((params.minViewingAngle : ℚ) : ℝ) ≤ ((MAX_CAMERA_VIEWING_ANGLE : ℚ) : ℝ) := by
        exact_mod_cast hle
      exact (uniform_mem hle' _).2
  · cases h

end Camera

/-- Every camera is outlined. -/
def outlined (cfg : Config) (G : Type) : EntityInvariant cfg G where
  camera c := c.Outlined
  target _ := True
  obstacle _ := True

theorem outlined_kept {cfg : Config} {G : Type} [RandomState G] [SetOrder] :
    (outlined cfg G).Kept where
  cameraRng _ _ he := { he with }
  cameraReset _ he := Camera.reset_outlined he.table
  cameraObstacles e all he := by
    have hcleared : e.clearObstacles.Outlined := { he with }
    exact hcleared.addObstacles all
  cameraSimulate _ action he := he.simulate action
  targetRng _ _ _ := trivial
  targetCapacity _ _ _ := trivial
  targetReset _ _ := trivial
  targetSimulate _ _ _ _ := trivial
  obstacleRng _ _ _ := trivial
  obstacleReset _ _ _ := trivial
  obstacleZero _ _ := trivial

/-! ## The outline -/

namespace Camera

section

variable {table : Interp1d} {l r : ℝ}

/-- The angle of a sample that is taken lies between the ends, in some turn. -/
theorem between_of_mem_samplesBetween {p : ℝ × ℝ}
    (hp : p ∈ samplesBetween table (normalizeAngle l) (normalizeAngle l + (r - l))) :
    ∃ k : ℤ, l < p.1 + 360 * k ∧ p.1 + 360 * k < r := by
  have hl := normalizeAngle_eq l
  unfold samplesBetween at hp
  split at hp
  · rw [List.mem_filter, decide_eq_true_eq] at hp
    exact ⟨turns l, by linarith [hp.2.1], by linarith [hp.2.2]⟩
  · rename_i hpast
    rcases List.mem_append.mp hp with hp | hp
    · rw [List.mem_filter, decide_eq_true_eq] at hp
      exact ⟨turns l, by linarith [hp.2.1], by linarith [hp.2.2, not_le.mp hpast]⟩
    · -- the part after 180 degrees is of the next turn
      rw [List.mem_filter, decide_eq_true_eq] at hp
      have hlt := normalizeAngle_lt l
      refine ⟨turns l + 1, ?_, ?_⟩
      · push_cast
        linarith [hp.2.1]
      · push_cast
        linarith [hp.2.2]

/-- A breakpoint between the ends is taken in the turn in which it lies between them. -/
theorem mem_samplesBetween_of_lt {p : ℝ × ℝ} (hp : p ∈ table.points) (hle : p.1 ≤ 180)
    (hleft : normalizeAngle l < p.1) (hright : p.1 < normalizeAngle l + (r - l)) :
    p ∈ samplesBetween table (normalizeAngle l) (normalizeAngle l + (r - l)) := by
  unfold samplesBetween
  split
  · exact List.mem_filter.mpr ⟨hp, decide_eq_true ⟨hleft, hright⟩⟩
  · exact List.mem_append_left _ (List.mem_filter.mpr ⟨hp, decide_eq_true ⟨hleft, hle⟩⟩)

theorem mem_samplesBetween_of_next {p : ℝ × ℝ} (hp : p ∈ table.points) (hgt : -180 < p.1)
    (hright : p.1 + 360 < normalizeAngle l + (r - l)) :
    p ∈ samplesBetween table (normalizeAngle l) (normalizeAngle l + (r - l)) := by
  unfold samplesBetween
  rw [if_neg (by linarith)]
  exact List.mem_append_right _
    (List.mem_filter.mpr ⟨hp, decide_eq_true ⟨hgt, by linarith⟩⟩)

/-- **The breakpoints between two ends**: as points, the samples are the breakpoints whose
directions lie strictly between the ends. A breakpoint at -180 degrees is there as the one at 180
degrees. -/
theorem exists_samplesBetween_iff (htable : table.Wraps) (hle : r ≤ l + 360) (z : ℂ) :
    (∃ p ∈ samplesBetween table (normalizeAngle l) (normalizeAngle l + (r - l)),
        z = polar2cartesian p.2 p.1)
      ↔ ∃ p ∈ table.points, (∃ k : ℤ, l < p.1 + 360 * k ∧ p.1 + 360 * k < r)
        ∧ z = polar2cartesian p.2 p.1 := by
  constructor
  · rintro ⟨p, hp, rfl⟩
    exact ⟨p, mem_samplesBetween hp, between_of_mem_samplesBetween hp, rfl⟩
  · rintro ⟨p, hp, ⟨k, hleft, hright⟩, rfl⟩
    obtain ⟨first, rest, hpoints, hbounds, hfirst⟩ := htable
    -- the last breakpoint is the first one, a turn later
    obtain ⟨q, hq, j, hleft, hright, hsame⟩ : ∃ q ∈ first :: rest, ∃ j : ℤ,
        l < q.1 + 360 * j ∧ q.1 + 360 * j < r
          ∧ polar2cartesian p.2 p.1 = polar2cartesian q.2 q.1 := by
      rw [hpoints] at hp
      rcases List.mem_append.mp hp with hp | hp
      · exact ⟨p, hp, k, hleft, hright, rfl⟩
      · obtain rfl := List.mem_singleton.mp hp
        refine ⟨first, List.mem_cons_self, k + 1, ?_, ?_, ?_⟩
        · push_cast
          linarith
        · push_cast
          linarith
        · have hturn := polar2cartesian_add_turns first.2 first.1 1
          rwa [Int.cast_one, mul_one] at hturn
    rw [hsame]
    have hqmem : q ∈ table.points := by
      rw [hpoints]
      exact List.mem_append_left _ hq
    obtain ⟨hq180, hq180'⟩ := hbounds q hq
    have hl := normalizeAngle_eq l
    have hlow := le_normalizeAngle l
    have hhigh := normalizeAngle_lt l
    have hturns : j - turns l = 0 ∨ j - turns l = 1 := by
      have h1 : (-1 : ℝ) < ((j - turns l : ℤ) : ℝ) := by
        push_cast
        linarith
      have h2 : ((j - turns l : ℤ) : ℝ) < 2 := by
        push_cast
        linarith
      have h1' : (-1 : ℤ) < j - turns l := by exact_mod_cast h1
      have h2' : j - turns l < (2 : ℤ) := by exact_mod_cast h2
      omega
    rcases hturns with hzero | hone
    · have hj : (j : ℝ) = turns l := by exact_mod_cast sub_eq_zero.mp hzero
      rw [hj] at hleft hright
      exact ⟨q, mem_samplesBetween_of_lt hqmem hq180' (by linarith) (by linarith), rfl⟩
    · have hj : (j : ℝ) = turns l + 1 := by
        have : j = turns l + 1 := by omega
        rw [this]
        push_cast
        rfl
      rw [hj] at hleft hright
      rcases hq180.lt_or_eq with hgt | heq
      · exact ⟨q, mem_samplesBetween_of_next hqmem hgt (by linarith), rfl⟩
      · -- only the first breakpoint can be at -180 degrees
        have hqfirst : q = first := by
          rcases List.mem_cons.mp hq with rfl | hrest
          · rfl
          · have hlt := hfirst q hrest
            have hge := (hbounds first List.mem_cons_self).1
            linarith
        have hlast : (first.1 + 360, first.2) ∈ table.points := by
          rw [hpoints]
          simp
        refine ⟨_, mem_samplesBetween_of_lt hlast ?_ ?_ ?_, ?_⟩
        · show first.1 + 360 ≤ 180
          rw [← hqfirst, ← heq]
          norm_num
        · show normalizeAngle l < first.1 + 360
          rw [← hqfirst, ← heq]
          linarith
        · show first.1 + 360 < _
          rw [← hqfirst]
          linarith
        · have hturn := polar2cartesian_add_turns first.2 first.1 1
          rw [Int.cast_one, mul_one] at hturn
          rw [hqfirst]
          exact hturn.symm

end

section

variable {params : CameraConfig} {G : Type}

/-- The field of view of a camera. -/
def pose (self : Camera params G) : Pose := ⟨self.orientation, self.viewingAngle, self.sightRange⟩

/-- The points that the distances are measured to, around the camera: every sixteenth of the two
edges of the field of view, up to the sight range in their directions, and the breakpoints of the
outer curve strictly between the edges. -/
def outline (self : Camera params G) : Set ℂ :=
  {z | ∃ edge ∈ [self.orientation - self.viewingAngle / 2,
        self.orientation + self.viewingAngle / 2],
      ∃ rho, self.sightRangeAt edge false = .ok rho
        ∧ ∃ k : ℕ, k ≤ 16 ∧ z = polar2cartesian (rho * k / 16) edge} ∪
  {z | ∃ table ∈ self.sightRangeOuterFunc, ∃ p ∈ table.points,
      (∃ k : ℤ, self.orientation - self.viewingAngle / 2 < p.1 + 360 * k
        ∧ p.1 + 360 * k < self.orientation + self.viewingAngle / 2)
        ∧ z = polar2cartesian p.2 p.1}

/-- The location is no deeper inside of the outline than the center of the incircle is inside of
the field of view. -/
def Shallow (self : Camera params G) (location : ℂ) : Prop :=
  ∃ z ∈ self.outline, ‖location - self.location - z‖ ≤ self.pose.incircle

variable {self : Camera params G}

/-- What `boundary_between` has read when it returns. -/
theorem boundaryBetween_eq_ok {l r : ℝ} {outer : Bool} {samples : List (ℝ × ℝ)}
    (h : self.boundaryBetween l r outer = .ok samples) :
    ∃ table left right, self.sightTable outer = some table ∧ r ≤ l + 360
      ∧ self.sightRangeAt l false = .ok left ∧ self.sightRangeAt r false = .ok right
      ∧ samples = (normalizeAngle l, left)
        :: samplesBetween table (normalizeAngle l) (normalizeAngle l + (r - l))
          ++ [(normalizeAngle l + (r - l), right)] := by
  unfold boundaryBetween at h
  split at h
  · rename_i hangles
    dsimp only at h
    split at h
    · rename_i table htable
      obtain ⟨left, hleft, h⟩ := bind_eq_ok.mp h
      obtain ⟨right, hright, h⟩ := bind_eq_ok.mp h
      cases h
      rw [sightRangeAt_turn (normalizeAngle_normalizeAngle l)] at hleft
      rw [sightRangeAt_turn (normalizeAngle_right l r)] at hright
      exact ⟨table, left, right, htable, by linarith [hangles.2], hleft, hright, rfl⟩
    · cases h
  · cases h

theorem linspaceOpen_eq (start stop : ℝ) (num : ℕ) :
    linspaceOpen start stop num
      = (List.range num).map (fun i : ℕ => start + (stop - start) * i / num) := by
  simp [linspaceOpen, List.map_eq_flatMap, List.flatMap_assoc]

theorem mem_edgePoints {edge p : ℝ × ℝ} :
    p ∈ AuxiliaryCameraRewards.edgePoints edge
      ↔ ∃ k : ℕ, k < 16 ∧ p = (edge.1, edge.2 * k / 16) := by
  simp [AuxiliaryCameraRewards.edgePoints, linspaceOpen_eq, eq_comm]

/-- The points along an edge, together with its end, are its sixteenths. -/
theorem exists_edge_iff (edge : ℝ × ℝ) {angle : ℝ}
    (hangle : normalizeAngle edge.1 = normalizeAngle angle) (z : ℂ) :
    ((∃ p ∈ AuxiliaryCameraRewards.edgePoints edge, z = polar2cartesian p.2 p.1)
        ∨ z = polar2cartesian edge.2 edge.1)
      ↔ ∃ k : ℕ, k ≤ 16 ∧ z = polar2cartesian (edge.2 * k / 16) angle := by
  have hturn : ∀ rho, polar2cartesian rho edge.1 = polar2cartesian rho angle := by
    intro rho
    rw [← polar2cartesian_normalizeAngle rho edge.1, hangle, polar2cartesian_normalizeAngle]
  have hend : edge.2 * (16 : ℕ) / 16 = edge.2 := by
    push_cast
    ring
  constructor
  · rintro (⟨p, hp, rfl⟩ | rfl)
    · obtain ⟨k, hk, rfl⟩ := mem_edgePoints.mp hp
      exact ⟨k, hk.le, hturn _⟩
    · exact ⟨16, le_rfl, by rw [hend, hturn]⟩
  · rintro ⟨k, hk, rfl⟩
    rcases hk.lt_or_eq with hlt | rfl
    · exact .inl ⟨_, mem_edgePoints.mpr ⟨k, hlt, rfl⟩, (hturn _).symm⟩
    · right
      rw [hend, hturn]

/-- The points of two edges and those between them, whose first and last ones are the ends of the
edges. -/
theorem exists_mem_edges_iff {α : Type} {P : α → Prop} {before between after : List α} {a b : α} :
    (∃ p ∈ before ++ (a :: between ++ [b]) ++ after, P p)
      ↔ ((∃ p ∈ before, P p) ∨ P a) ∨ (∃ p ∈ between, P p) ∨ (∃ p ∈ after, P p) ∨ P b := by
  constructor
  · rintro ⟨p, hp, h⟩
    simp only [List.mem_append, List.mem_cons, List.not_mem_nil, or_false] at hp
    rcases hp with (hp | (rfl | hp) | rfl) | hp
    · exact .inl (.inl ⟨p, hp, h⟩)
    · exact .inl (.inr h)
    · exact .inr (.inl ⟨p, hp, h⟩)
    · exact .inr (.inr (.inr h))
    · exact .inr (.inr (.inl ⟨p, hp, h⟩))
  · rintro ((⟨p, hp, h⟩ | h) | ⟨p, hp, h⟩ | ⟨p, hp, h⟩ | h)
    · exact ⟨p, by simp [hp], h⟩
    · exact ⟨a, by simp, h⟩
    · exact ⟨p, by simp [hp], h⟩
    · exact ⟨p, by simp [hp], h⟩
    · exact ⟨b, by simp, h⟩

/-- The outline of a camera, given its table and the sight ranges at its edges. -/
theorem mem_outline_iff {table : Interp1d} {left right : ℝ}
    (htable : self.sightRangeOuterFunc = some table)
    (hleft : self.sightRangeAt (self.orientation - self.viewingAngle / 2) false = .ok left)
    (hright : self.sightRangeAt (self.orientation + self.viewingAngle / 2) false = .ok right)
    (z : ℂ) : z ∈ self.outline ↔
      (∃ k : ℕ, k ≤ 16
          ∧ z = polar2cartesian (left * k / 16) (self.orientation - self.viewingAngle / 2))
        ∨ (∃ p ∈ table.points,
          (∃ k : ℤ, self.orientation - self.viewingAngle / 2 < p.1 + 360 * k
            ∧ p.1 + 360 * k < self.orientation + self.viewingAngle / 2)
          ∧ z = polar2cartesian p.2 p.1)
        ∨ ∃ k : ℕ, k ≤ 16
          ∧ z = polar2cartesian (right * k / 16) (self.orientation + self.viewingAngle / 2) := by
  constructor
  · rintro (⟨edge, hedge, rho, hrho, hk⟩ | ⟨table', htable', hp⟩)
    · rcases List.mem_cons.mp hedge with rfl | hedge
      · rw [hleft] at hrho
        cases hrho
        exact .inl hk
      · rw [List.mem_singleton.mp hedge] at hrho hk
        rw [hright] at hrho
        cases hrho
        exact .inr (.inr hk)
    · obtain rfl : table = table' := Option.some.inj (htable.symm.trans htable')
      exact .inr (.inl hp)
  · rintro (hk | hp | hk)
    · exact .inl ⟨_, List.mem_cons_self, left, hleft, hk⟩
    · exact .inr ⟨table, htable, hp⟩
    · exact .inl ⟨_, List.mem_cons_of_mem _ List.mem_cons_self, right, hright, hk⟩

/-- **The points are the outline.** -/
theorem Outlined.boundaryPoints_iff (h : self.Outlined) {points : List (ℝ × ℝ)}
    (hpoints : AuxiliaryCameraRewards.boundaryPoints self = .ok points) :
    points ≠ [] ∧ ∀ z, (∃ p ∈ points, z = polar2cartesian p.2 p.1) ↔ z ∈ self.outline := by
  obtain ⟨samples, hsamples, hpoints⟩ := bind_eq_ok.mp hpoints
  obtain ⟨table, left, right, htable, hle, hleft, hright, rfl⟩ := boundaryBetween_eq_ok hsamples
  rw [List.getLast?_concat] at hpoints
  cases hpoints
  refine ⟨by simp, fun z => ?_⟩
  rw [mem_outline_iff htable hleft hright, exists_mem_edges_iff]
  refine or_congr ?_ (or_congr ?_ ?_)
  · exact exists_edge_iff (_, left) (normalizeAngle_normalizeAngle _) z
  · exact exists_samplesBetween_iff (h.table table htable) hle z
  · exact exists_edge_iff (_, right) (normalizeAngle_right _ _) z

end

end Camera

/-! ## The scores of one camera -/

theorem foldl_min_le_iff (x : ℝ) (xs : List ℝ) (r : ℝ) :
    xs.foldl min x ≤ r ↔ ∃ y ∈ x :: xs, y ≤ r := by
  induction xs generalizing x with
  | nil => simp
  | cons y xs ih =>
      rw [List.foldl_cons, ih]
      simp [or_assoc]

theorem foldl_max_le_iff (x : ℝ) (xs : List ℝ) (r : ℝ) :
    xs.foldl max x ≤ r ↔ ∀ y ∈ x :: xs, y ≤ r := by
  induction xs generalizing x with
  | nil => simp
  | cons y xs ih =>
      rw [List.foldl_cons, ih]
      simp [and_assoc]

theorem reduceArray_returns (name : String) (op : ℝ → ℝ → ℝ) {xs : List ℝ} (h : xs ≠ []) :
    ∃ y, reduceArray name op xs = .ok y := by
  obtain ⟨x, xs, rfl⟩ := List.exists_cons_of_ne_nil h
  exact ⟨_, rfl⟩

theorem reduceArray_min_le_iff {name : String} {xs : List ℝ} {m : ℝ}
    (h : reduceArray name min xs = .ok m) (r : ℝ) : m ≤ r ↔ ∃ y ∈ xs, y ≤ r := by
  cases xs with
  | nil => cases h
  | cons x xs =>
      cases h
      exact foldl_min_le_iff x xs r

theorem reduceArray_max_le_iff {name : String} {xs : List ℝ} {m : ℝ}
    (h : reduceArray name max xs = .ok m) (r : ℝ) : m ≤ r ↔ ∀ y ∈ xs, y ≤ r := by
  cases xs with
  | nil => cases h
  | cons x xs =>
      cases h
      exact foldl_max_le_iff x xs r

namespace AuxiliaryCameraRewards

section

variable {params : CameraConfig} {targetParams : TargetConfig} {G : Type}
variable {camera : Camera params G} {n : ℕ} {targets : Fin n → Target targetParams G}
variable {trackedBits : Fin n → Bool} {scores : Fin n → ℝ}

/-- **The score of a target** is at most one just when it is shallow; the sign tells whether it is
tracked. -/
theorem computeSoftCoverageScore_eq_ok (h : camera.Outlined) (hproper : camera.pose.Proper)
    (hscores : computeSoftCoverageScore camera targets trackedBits = .ok scores) (t : Fin n) :
    (trackedBits t = true → 0 ≤ scores t
        ∧ (scores t ≤ 1 ↔ camera.Shallow (targets t).location))
      ∧ (trackedBits t = false → scores t ≤ 0) := by
  obtain ⟨points, hpoints, hscores⟩ := bind_eq_ok.mp hscores
  obtain ⟨dist, hdist, hscore⟩ := bind_eq_ok.mp (collectEntries_eq_ok.mp hscores t)
  have hmax : distMax camera = camera.pose.incircle := hproper.distMax_eq
  have hpos := hproper.incircle_pos
  have hleast := reduceArray_min_le_iff hdist
  have hnonneg : 0 ≤ dist := by
    by_contra hneg
    obtain ⟨y, hy, hle⟩ := (hleast dist).mp le_rfl
    obtain ⟨p, -, rfl⟩ := List.mem_map.mp hy
    exact hneg ((norm_nonneg _).trans hle)
  -- the boundary points are samples of the boundary, of which the nearest one counts
  have hshallow : dist ≤ camera.pose.incircle ↔ camera.Shallow (targets t).location := by
    rw [hleast]
    constructor
    · rintro ⟨y, hy, hle⟩
      obtain ⟨p, hp, rfl⟩ := List.mem_map.mp hy
      exact ⟨_, ((h.boundaryPoints_iff hpoints).2 _).mp ⟨p, hp, rfl⟩, hle⟩
    · rintro ⟨z, hz, hle⟩
      obtain ⟨p, hp, rfl⟩ := ((h.boundaryPoints_iff hpoints).2 z).mpr hz
      exact ⟨_, List.mem_map_of_mem hp, hle⟩
  have hvalue : scores t = (if trackedBits t then dist else -dist) / distMax camera :=
    (Except.ok.inj hscore).symm
  rw [hmax] at hvalue
  constructor
  · intro htracked
    rw [htracked, if_pos rfl] at hvalue
    rw [hvalue, div_le_one hpos]
    exact ⟨div_nonneg hnonneg hpos.le, hshallow⟩
  · intro huntracked
    rw [huntracked, if_neg Bool.false_ne_true] at hvalue
    rw [hvalue]
    exact div_nonpos_of_nonpos_of_nonneg (by linarith) hpos.le

end

/-! ## The components -/

section

variable {n : ℕ} {mask : Fin n → Bool} {scores : Fin n → ℝ}

theorem softCoverageScore_returns (hn : 0 < n) (mask : Fin n → Bool) (scores : Fin n → ℝ) :
    ∃ x, softCoverageScore mask scores = .ok x := by
  unfold softCoverageScore
  split
  · exact ⟨_, rfl⟩
  · have hne : List.ofFn scores ≠ [] := by
      intro hnil
      rw [List.ofFn_eq_nil_iff] at hnil
      omega
    obtain ⟨best, hbest⟩ := reduceArray_returns "maximum" max hne
    exact ⟨_, bind_eq_ok.mpr ⟨best, hbest, rfl⟩⟩

/-- Scores in range make a component in range. -/
theorem softCoverageScore_mem (htracked : ∀ i, mask i = true → 0 ≤ scores i ∧ scores i ≤ 1)
    (huntracked : ∀ i, mask i = false → scores i ≤ 0) {x : ℝ}
    (h : softCoverageScore mask scores = .ok x) : -1 ≤ x ∧ x ≤ n := by
  unfold softCoverageScore at h
  split at h
  · -- a tracked target: the positive scores are summed
    cases h
    constructor
    · have hsum : 0 ≤ ∑ i, if mask i = true then scores i else 0 := by
        refine Finset.sum_nonneg (fun i _ => ?_)
        by_cases hi : mask i = true
        · rw [if_pos hi]
          exact (htracked i hi).1
        · rw [if_neg hi]
      linarith
    · calc ∑ i, (if mask i = true then scores i else 0) ≤ ∑ _i : Fin n, (1 : ℝ) := by
            refine Finset.sum_le_sum (fun i _ => ?_)
            by_cases hi : mask i = true
            · rw [if_pos hi]
              exact (htracked i hi).2
            · rw [if_neg hi]
              exact zero_le_one
        _ = n := by simp
  · rename_i hnone
    obtain ⟨best, hbest, hx⟩ := bind_eq_ok.mp h
    cases hx
    -- no target is tracked: the best of the negative scores, through `tanh`
    have hle : best ≤ 0 := by
      refine (reduceArray_max_le_iff hbest 0).mpr (fun y hy => ?_)
      obtain ⟨i, rfl⟩ := List.mem_ofFn.mp hy
      refine huntracked i (Bool.eq_false_iff.mpr (fun hi => hnone ⟨i, hi⟩))
    have htanh : Real.tanh best ≤ 0 := by
      rw [Real.tanh_eq_sinh_div_cosh]
      exact div_nonpos_of_nonpos_of_nonneg (Real.sinh_nonpos_iff.mpr hle) (Real.cosh_pos best).le
    exact ⟨(Real.neg_one_lt_tanh best).le, htanh.trans (Nat.cast_nonneg n)⟩

end

end AuxiliaryCameraRewards

/-! ## Runs -/

section

variable {cfg : Config} {G V : Type}

/-- The documented range of the scores, and of the components of both teams. Without cameras the
component of the targets is not computed: there is no maximum of no scores. -/
structure Env.SoftCoverageInRange (e : Env cfg G V)
    (matrix : Fin cfg.numCameras → Fin cfg.numTargets → ℝ) : Prop where
  tracked : ∀ c t, e.cameraTargetViewMask c t = true → 0 ≤ matrix c t ∧ matrix c t ≤ 1
  untracked : ∀ c t, e.cameraTargetViewMask c t = false → matrix c t ≤ 0
  cameras : ∀ requested, ∃ scores,
    AuxiliaryCameraRewards.softCoverageScores requested e = .ok scores
      ∧ ∀ c, -1 ≤ scores c ∧ scores c ≤ cfg.numTargets
  targets : 0 < cfg.numCameras → ∀ requested, ∃ scores,
    AuxiliaryTargetRewards.softCoverageScores requested e = .ok scores
      ∧ ∀ t, -1 ≤ scores t ∧ scores t ≤ cfg.numCameras

/-- The components are in range when the scores are. -/
theorem Env.softCoverageInRange_of_scores {e : Env cfg G V}
    {matrix : Fin cfg.numCameras → Fin cfg.numTargets → ℝ}
    (hmatrix : AuxiliaryCameraRewards.computeSoftCoverageScores e = .ok matrix)
    (htracked : ∀ c t, e.cameraTargetViewMask c t = true → 0 ≤ matrix c t ∧ matrix c t ≤ 1)
    (huntracked : ∀ c t, e.cameraTargetViewMask c t = false → matrix c t ≤ 0) :
    e.SoftCoverageInRange matrix where
  tracked := htracked
  untracked := huntracked
  cameras := by
    intro requested
    cases requested with
    | false => exact ⟨_, rfl, fun c => ⟨by norm_num, Nat.cast_nonneg _⟩⟩
    | true =>
        choose scores hscores using fun c => AuxiliaryCameraRewards.softCoverageScore_returns
          cfg.numTargets_pos (e.cameraTargetViewMask c) (matrix c)
        refine ⟨scores, bind_eq_ok.mpr ⟨matrix, hmatrix, collectEntries_eq_ok.mpr hscores⟩,
          fun c => ?_⟩
        exact AuxiliaryCameraRewards.softCoverageScore_mem (htracked c) (huntracked c) (hscores c)
  targets := by
    intro hcameras requested
    have hpos : (0 : ℝ) ≤ cfg.numCameras := Nat.cast_nonneg _
    cases requested with
    | false => exact ⟨_, rfl, fun t => ⟨by norm_num, hpos⟩⟩
    | true =>
        choose scores hscores using fun t => AuxiliaryCameraRewards.softCoverageScore_returns
          hcameras (fun c => e.cameraTargetViewMask c t) (fun c => matrix c t)
        refine ⟨scores, bind_eq_ok.mpr ⟨matrix, hmatrix, collectEntries_eq_ok.mpr hscores⟩,
          fun t => ?_⟩
        exact AuxiliaryCameraRewards.softCoverageScore_mem (fun c => htracked c t)
          (fun c => huntracked c t) (hscores t)

variable [RandomState G] [SetOrder]

namespace MultiAgentTracking

/-- What the scores rely on. With cameras, the smallest viewing angle has been checked. -/
structure Scored (e : MultiAgentTracking cfg G V) : Prop where
  outlined : (outlined cfg G).Holds e.toEnv
  minViewingAngle : ∀ _c : Fin cfg.numCameras,
    (cfg.cameraParams.minViewingAngle : ℚ) ≤ MAX_CAMERA_VIEWING_ANGLE

omit [SetOrder] in
theorem init_scored {memory : Memory V} {start : MultiAgentTracking cfg G V}
    (h : init cfg memory = .ok start) : start.Scored := by
  obtain ⟨env, henv, heq⟩ := bind_eq_ok.mp h
  cases heq
  obtain ⟨cameras, hcameras, henv⟩ := bind_eq_ok.mp henv
  obtain ⟨r, -, henv⟩ := bind_eq_ok.mp henv
  cases henv
  have hnew : ∀ i < cfg.numCameras, Ensures (Camera.init cfg.cameraParams
      (cfg.cameraParams.placement.box i) : Except Error (Camera cfg.cameraParams G))
      (fun c => c.Outlined
        ∧ (cfg.cameraParams.minViewingAngle : ℚ) ≤ MAX_CAMERA_VIEWING_ANGLE) := by
    intro i _
    unfold Camera.init
    split
    · rename_i hle
      exact (Camera.reset_outlined (fun table htable => by cases htable)).mono
        (fun c hc => ⟨hc, hle⟩)
    · exact fun _ hinit => by cases hinit
  have hall := initAll_ensures cfg.numCameras hnew cameras hcameras
  exact ⟨⟨fun c => { (hall c).1 with }, fun _ => trivial, fun _ => trivial⟩, fun c => (hall c).2⟩

theorem Does.scored {e e' : MultiAgentTracking cfg G V} {method : Method cfg V} (h : e.Scored)
    (hdoes : Does e method e') : e'.Scored := by
  refine ⟨?_, h.minViewingAngle⟩
  cases hdoes with
  | reset hreset =>
      obtain ⟨⟨observations, reg, env⟩, henv, heq⟩ := bind_eq_ok.mp hreset
      cases heq
      exact outlined_kept.toKeptByReset.reset h.outlined henv
  | call hnext => exact outlined_kept.next h.outlined hnext
  | state =>
      unfold MultiAgentTracking.state
      split
      · exact h.outlined
      · exact h.outlined

omit [RandomState G] [SetOrder] in
theorem Scored.proper {e : MultiAgentTracking cfg G V} (h : e.Scored) (c : Fin cfg.numCameras) :
    (e.cameras c).pose.Proper where
  viewingAngle_pos := (h.outlined.cameras c).viewingAngle_pos
  viewingAngle_le := by
    have hle := (h.outlined.cameras c).viewingAngle_le (h.minViewingAngle c)
    norm_num [MAX_CAMERA_VIEWING_ANGLE] at hle
    exact hle
  sightRange_pos := (h.outlined.cameras c).sightRange_pos

theorem run_scored {memory : Memory V} {start e : MultiAgentTracking cfg G V}
    {history : List (Method cfg V)} (hstart : init cfg memory = .ok start)
    (hrun : Run Does start history e) : e.Scored :=
  hrun.invariant Scored (init_scored hstart) (fun _ _ _ h hdoes => hdoes.scored h)

omit [RandomState G] [SetOrder] in
/-- The scores of all cameras. -/
theorem Scored.entry {e : MultiAgentTracking cfg G V} (h : e.Scored)
    {matrix : Fin cfg.numCameras → Fin cfg.numTargets → ℝ}
    (hmatrix : AuxiliaryCameraRewards.computeSoftCoverageScores e.toEnv = .ok matrix)
    (c : Fin cfg.numCameras) (t : Fin cfg.numTargets) :
    (e.cameraTargetViewMask c t = true → 0 ≤ matrix c t
        ∧ (matrix c t ≤ 1 ↔ (e.cameras c).Shallow (e.targets t).location))
      ∧ (e.cameraTargetViewMask c t = false → matrix c t ≤ 0) :=
  AuxiliaryCameraRewards.computeSoftCoverageScore_eq_ok (h.outlined.cameras c) (h.proper c)
    (collectEntries_eq_ok.mp hmatrix c) t

/-- **The range of the soft coverage score.** After any history, the scores and the components are
in range just when every tracked target is shallow. -/
theorem softCoverage_inRange_iff {memory : Memory V} {start e : MultiAgentTracking cfg G V}
    {history : List (Method cfg V)} (hstart : init cfg memory = .ok start)
    (hrun : Run Does start history e) {matrix : Fin cfg.numCameras → Fin cfg.numTargets → ℝ}
    (hmatrix : AuxiliaryCameraRewards.computeSoftCoverageScores e.toEnv = .ok matrix) :
    e.toEnv.SoftCoverageInRange matrix ↔ ∀ c t, e.cameraTargetViewMask c t = true →
      (e.cameras c).Shallow (e.targets t).location := by
  have hentry := (run_scored hstart hrun).entry hmatrix
  constructor
  · intro h c t htracked
    exact ((hentry c t).1 htracked).2.mp (h.tracked c t htracked).2
  · intro hshallow
    refine Env.softCoverageInRange_of_scores hmatrix (fun c t htracked => ?_)
      (fun c t huntracked => (hentry c t).2 huntracked)
    have hscore := (hentry c t).1 htracked
    exact ⟨hscore.1, hscore.2.mpr (hshallow c t htracked)⟩

end MultiAgentTracking

end

end Mate
