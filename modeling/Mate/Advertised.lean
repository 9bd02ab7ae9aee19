import Mate.Accounts
import Mate.Codec
import Mate.Environment.EntityInvariants
import Mate.Environment.GlobalState
import Mate.Motion

set_option autoImplicit false

/-! # What is emitted lies in the spaces

`state` and `joint_observation` concatenate the vectors of the entities, the spaces concatenate
their bounds. Every vector of an entity keeps to its bounds because the entity keeps to its own
(`bounded`), whatever the actions are, and rows that are masked are zero.
-/

namespace Mate

open Fallible Runs

/-! ## Vectors between bounds -/

/-- `low <= x <= high`, entry by entry. -/
structure Between (low : List ℚ) (high : List (WithTop ℚ)) (x : List ℝ) : Prop where
  lower : List.Forall₂ (fun (entry : ℝ) (bound : ℚ) => (bound : ℝ) ≤ entry) x low
  upper : List.Forall₂ (fun (entry : ℝ) (bound : WithTop ℚ) => ∀ b : ℚ, bound = b → entry ≤ b) x high

namespace Between

variable {low low' : List ℚ} {high high' : List (WithTop ℚ)} {x x' : List ℝ}

theorem contains {s : Space} (h : Between s.low s.high x) : s.Contains x :=
  ⟨h.lower.length_eq, h.lower, h.upper⟩

theorem nil : Between [] [] [] := ⟨List.Forall₂.nil, List.Forall₂.nil⟩

theorem cons {entry : ℝ} {b : ℚ} {b' : WithTop ℚ} (hlow : (b : ℝ) ≤ entry)
    (hhigh : ∀ q : ℚ, b' = q → entry ≤ q) (h : Between low high x) :
    Between (b :: low) (b' :: high) (entry :: x) :=
  ⟨List.Forall₂.cons hlow h.lower, List.Forall₂.cons hhigh h.upper⟩

theorem append (h : Between low high x) (h' : Between low' high' x') :
    Between (low ++ low') (high ++ high') (x ++ x') :=
  ⟨List.rel_append h.lower h'.lower, List.rel_append h.upper h'.upper⟩

theorem rows {n : ℕ} {rows : Fin n → List ℝ} (h : ∀ i, Between low high (rows i)) :
    Between (Space.tile low n) (Space.tile high n) (Env.ravel rows) :=
  ⟨Layout.forall₂_rows (fun i => (h i).lower), Layout.forall₂_rows (fun i => (h i).upper)⟩

theorem set (h : Between low high x) {k : ℕ} {entry : ℝ}
    (hlow : ∀ b, low[k]? = some b → (b : ℝ) ≤ entry)
    (hhigh : ∀ b, high[k]? = some b → ∀ q : ℚ, b = q → entry ≤ q) :
    Between low high (x.set k entry) :=
  ⟨Layout.forall₂_set h.lower hlow, Layout.forall₂_set h.upper hhigh⟩

/-- An entry that is only bounded from below. -/
theorem le_top {entry : ℝ} : ∀ q : ℚ, (⊤ : WithTop ℚ) = q → entry ≤ q :=
  fun _ h => absurd h (WithTop.top_ne_coe)

theorem le_coe {entry : ℝ} {b : ℚ} (h : entry ≤ b) : ∀ q : ℚ, (b : WithTop ℚ) = q → entry ≤ q := by
  intro q hq
  rw [← WithTop.coe_inj.mp hq]
  exact h

/-- Rows of numbers that are not negative, and not bounded from above. -/
theorem replicate {n : ℕ} (h : ∀ entry ∈ x, 0 ≤ entry) (hlength : x.length = n) :
    Between (List.replicate n 0) (List.replicate n ⊤) x := by
  induction x generalizing n with
  | nil =>
      rw [← hlength]
      exact nil
  | cons entry rest ih =>
      rw [← hlength, List.length_cons, List.replicate_succ, List.replicate_succ]
      refine cons ?_ le_top (ih (fun e he => h e (List.mem_cons_of_mem _ he)) rfl)
      rw [Rat.cast_zero]
      exact h entry List.mem_cons_self

end Between

/-! ## Accepted configurations within the constants -/

/-- The sight ranges, radii, steps and angles of a configuration keep to the constants. -/
structure Config.WithinConstants (cfg : Config) : Prop where
  cameraRadius : 12 / 10 * (cfg.cameraParams.radius : ℚ) ≤ TERRAIN_SIZE
  minViewingAngle : (cfg.cameraParams.minViewingAngle : ℚ) ≤ MAX_CAMERA_VIEWING_ANGLE
  maxSightRange : (cfg.cameraParams.maxSightRange : ℚ) ≤ TERRAIN_WIDTH
  rotationStep : (cfg.cameraParams.rotationStep : ℚ) ≤ MAX_CAMERA_VIEWING_ANGLE
  zoomingStep : (cfg.cameraParams.zoomingStep : ℚ) ≤ MAX_CAMERA_VIEWING_ANGLE
  targetSightRange : (cfg.target.sightRange : ℚ) ≤ TERRAIN_WIDTH
  stepSize : (cfg.target.stepSize : ℚ) ≤ TERRAIN_WIDTH
  obstacleRadius : ∀ r, cfg.obstacleParams.radius = some r → 0 ≤ r ∧ 12 / 10 * r ≤ TERRAIN_SIZE
  radiusRandomRange : ∀ low high, cfg.obstacleParams.radiusRandomRange = some (low, high) →
    0 ≤ low ∧ low ≤ high ∧ 12 / 10 * high ≤ TERRAIN_SIZE

/-! ## Entities within their bounds -/

theorem margin_le {radius : ℚ} (h : 12 / 10 * radius ≤ TERRAIN_SIZE) :
    12 / 10 * (radius : ℝ) ≤ (TERRAIN_SIZE : ℚ) := by
  have hcast := (Rat.cast_le (K := ℝ)).mpr h
  push_cast at hcast
  exact hcast

theorem inTerrain_clipTerrain_margin {margin : ℝ} (h : 0 ≤ margin) (h' : margin ≤ (TERRAIN_SIZE : ℚ))
    (z : ℂ) : InTerrain (clipTerrain margin z) := by
  have hclip : ∀ x : ℝ, |min (max x (-(TERRAIN_SIZE : ℚ) + margin)) ((TERRAIN_SIZE : ℚ) - margin)|
      ≤ (TERRAIN_SIZE : ℚ) := by
    intro x
    refine abs_le.mpr ⟨le_min ?_ ?_, (min_le_right _ _).trans (by linarith)⟩
    · exact le_trans (by linarith) (le_max_right _ _)
    · linarith
  exact ⟨hclip z.re, hclip z.im⟩

theorem uniform_mem {G : Type} [RandomState G] {low high : ℝ} (h : low ≤ high) (g : G) :
    low ≤ (RandomState.uniform low high g).1 ∧ (RandomState.uniform low high g).1 ≤ high := by
  have hu := (RandomState.random g).1.2
  show low ≤ low + (high - low) * ((RandomState.random g).1 : ℝ)
    ∧ low + (high - low) * ((RandomState.random g).1 : ℝ) ≤ high
  have hnonneg : 0 ≤ (high - low) * ((RandomState.random g).1 : ℝ) :=
    mul_nonneg (by linarith) hu.1
  have hle : (high - low) * ((RandomState.random g).1 : ℝ) ≤ (high - low) * 1 :=
    mul_le_mul_of_nonneg_left hu.2.le (by linarith)
  constructor <;> linarith

section

variable {cfg : Config} {G : Type}

structure Camera.Bounded {params : CameraConfig} (c : Camera params G) : Prop where
  location : InTerrain c.location
  viewingAngle_ge : ((params.minViewingAngle : ℚ) : ℝ) ≤ c.viewingAngle
  viewingAngle_le : c.viewingAngle ≤ (MAX_CAMERA_VIEWING_ANGLE : ℚ)
  sightRange : c.sightRange = Camera.sightRangeOf params c.viewingAngle

structure Target.Bounded {params : TargetConfig} (t : Target params G) : Prop where
  location : InTerrain t.location
  capacity : 1 ≤ t.capacity ∧ t.capacity ≤ 2
  stepSize : t.stepSize ≤ (params.stepSize : ℚ)

structure Obstacle.Bounded (o : Obstacle G) : Prop where
  location : InTerrain o.location
  radius : 0 ≤ o.radius ∧ o.radius ≤ (TERRAIN_SIZE : ℚ)
  range : 0 ≤ o.radiusRandomRange.1 ∧ o.radiusRandomRange.1 ≤ o.radiusRandomRange.2
    ∧ 12 / 10 * o.radiusRandomRange.2 ≤ TERRAIN_SIZE

/-- The wider a camera sees, the less far; at the smallest angle it is the maximal range. -/
theorem Camera.sightRangeOf_le {params : CameraConfig} {viewingAngle : ℝ}
    (h : ((params.minViewingAngle : ℚ) : ℝ) ≤ viewingAngle) :
    Camera.sightRangeOf params viewingAngle ≤ (params.maxSightRange : ℚ) := by
  have hmin : (0 : ℝ) < (params.minViewingAngle : ℚ) := by exact_mod_cast params.minViewingAngle.2
  have hmax : (0 : ℝ) < (params.maxSightRange : ℚ) := by exact_mod_cast params.maxSightRange.2
  refine Real.sqrt_le_iff.mpr ⟨hmax.le, ?_⟩
  rw [div_le_iff₀ (hmin.trans_le h), areaProduct]
  push_cast
  rw [mul_comm]
  exact mul_le_mul_of_nonneg_left h (sq_nonneg _)

variable [RandomState G]

theorem Camera.reset_bounded {params : CameraConfig}
    (hradius : 12 / 10 * (params.radius : ℚ) ≤ TERRAIN_SIZE)
    (hangle : (params.minViewingAngle : ℚ) ≤ MAX_CAMERA_VIEWING_ANGLE) (c : Camera params G) :
    Ensures c.reset Camera.Bounded := by
  intro c' h
  unfold Camera.reset at h
  dsimp only at h
  split at h
  · cases h
    have hmargin : (0 : ℝ) ≤ 12 / 10 * ((params.radius : ℚ) : ℝ) := by
      have : (0 : ℝ) ≤ (params.radius : ℚ) := by exact_mod_cast params.radius.2.le
      positivity
    have hle : ((params.minViewingAngle : ℚ) : ℝ) ≤ ((MAX_CAMERA_VIEWING_ANGLE : ℚ) : ℝ) := by
      exact_mod_cast hangle
    have hview := uniform_mem (G := G) hle
    exact
      { location := inTerrain_clipTerrain_margin hmargin (margin_le hradius) _
        viewingAngle_ge := (hview _).1
        viewingAngle_le := (hview _).2
        sightRange := rfl }
  · cases h

omit [RandomState G] in
theorem Camera.Bounded.simulate {params : CameraConfig} {c : Camera params G}
    (hangle : (params.minViewingAngle : ℚ) ≤ MAX_CAMERA_VIEWING_ANGLE) (h : c.Bounded)
    (action : ℝ × ℝ) : (c.simulate action).Bounded where
  location := h.location
  viewingAngle_ge := le_min (le_max_right _ _) (by exact_mod_cast hangle)
  viewingAngle_le := min_le_right _ _
  sightRange := rfl

omit [RandomState G] in
theorem Target.setCapacity_bounded {params : TargetConfig} {t : Target params G} (h : t.Bounded)
    (high : Bool) : (t.setCapacity (Env.capacityOf high) (Env.capacityOf_pos high)).Bounded where
  location := h.location
  capacity := by
    show 1 ≤ Env.capacityOf high ∧ Env.capacityOf high ≤ 2
    cases high <;> decide
  stepSize := by
    have hpos : (0 : ℝ) ≤ (params.stepSize : ℚ) := by exact_mod_cast params.stepSize.2.le
    show ((params.stepSize : ℚ) : ℝ) / (Env.capacityOf high : ℤ) ≤ (params.stepSize : ℚ)
    refine div_le_self hpos ?_
    cases high <;> norm_num [Env.capacityOf]

theorem Target.reset_location {params : TargetConfig} (t : Target params G) :
    InTerrain t.reset.location :=
  inTerrain_clipTerrain_margin (by norm_num [TARGET_RADIUS]) (by norm_num [TARGET_RADIUS, TERRAIN_SIZE]) _

theorem Obstacle.reset_bounded {o : Obstacle G} (h : 0 ≤ o.radiusRandomRange.1
      ∧ o.radiusRandomRange.1 ≤ o.radiusRandomRange.2
      ∧ 12 / 10 * o.radiusRandomRange.2 ≤ TERRAIN_SIZE) (rng : G) : (o.reset rng).1.Bounded := by
  obtain ⟨hlow, hle, hhigh⟩ := h
  have hhigh' := margin_le hhigh
  have hle' : (o.radiusRandomRange.1 : ℝ) ≤ o.radiusRandomRange.2 := by exact_mod_cast hle
  have hradius := uniform_mem hle' rng
  have hlow' : (0 : ℝ) ≤ o.radiusRandomRange.1 := by exact_mod_cast hlow
  have hnonneg := hlow'.trans hradius.1
  have hmargin : 12 / 10 * (RandomState.uniform (o.radiusRandomRange.1 : ℝ)
      (o.radiusRandomRange.2 : ℝ) rng).1 ≤ (TERRAIN_SIZE : ℚ) := by
    linarith [hradius.2]
  exact
    { location := inTerrain_clipTerrain_margin (by positivity) hmargin _
      radius := by
        refine ⟨hnonneg, ?_⟩
        show (RandomState.uniform (o.radiusRandomRange.1 : ℝ) (o.radiusRandomRange.2 : ℝ) rng).1
          ≤ (TERRAIN_SIZE : ℚ)
        linarith
      range := ⟨hlow, hle, hhigh⟩ }

/-- The bounds of the entities. -/
def bounds (cfg : Config) (G : Type) : EntityInvariant cfg G where
  camera := Camera.Bounded
  target := Target.Bounded
  obstacle := Obstacle.Bounded

variable [SetOrder]

theorem bounds_kept (h : cfg.WithinConstants) : (bounds cfg G).Kept where
  cameraRng _ _ he := ⟨he.location, he.viewingAngle_ge, he.viewingAngle_le, he.sightRange⟩
  cameraReset e _ := e.reset_bounded h.cameraRadius h.minViewingAngle
  cameraObstacles _ _ he :=
    ⟨he.location, he.viewingAngle_ge, he.viewingAngle_le, he.sightRange⟩
  cameraSimulate _ action he := he.simulate h.minViewingAngle action
  targetRng _ _ he := ⟨he.location, he.capacity, he.stepSize⟩
  targetCapacity _ high he := Target.setCapacity_bounded he high
  targetReset e he := ⟨e.reset_location, he.capacity, he.stepSize⟩
  targetSimulate _ _ _ he := ⟨inTerrain_clipTerrain _, he.capacity, he.stepSize⟩
  obstacleRng _ _ he := ⟨he.location, he.radius, he.range⟩
  obstacleReset _ rng he := Obstacle.reset_bounded he.range rng
  obstacleZero _ he := ⟨he.location, ⟨le_refl _, terrainSize_nonneg⟩, he.range⟩

end

/-! ## New entities -/

section

variable {cfg : Config} {G V : Type} [RandomState G]

theorem Obstacle.init_bounded (h : cfg.WithinConstants) (range : Box) (rng : G) :
    Ensures (Obstacle.init cfg.obstacleParams range rng) (fun r => r.1.Bounded) := by
  intro r hr
  unfold Obstacle.init at hr
  dsimp only at hr
  split at hr
  · cases hr
  · rename_i radiusRange hrange
    split at hr
    · cases hr
      refine Obstacle.reset_bounded ?_ rng
      show 0 ≤ radiusRange.1 ∧ radiusRange.1 ≤ radiusRange.2 ∧ 12 / 10 * radiusRange.2 ≤ TERRAIN_SIZE
      split at hrange
      · rename_i radius hradius _
        cases hrange
        obtain ⟨hnonneg, hle⟩ := h.obstacleRadius radius hradius
        exact ⟨hnonneg, le_refl _, hle⟩
      · rename_i range _ hrandom
        cases hrange
        exact h.radiusRandomRange _ _ hrandom
      · cases hrange
    · cases hr

theorem initObstacles_bounded (h : cfg.WithinConstants) (rng : G) :
    ∀ n, Ensures (initObstacles cfg.obstacleParams rng n) (fun r => ∀ o, (r.1 o).Bounded)
  | 0 => Ensures.pure (fun o => o.elim0)
  | n + 1 => by
      refine (initObstacles_bounded h rng n).bind (fun r hr => ?_)
      refine (Obstacle.init_bounded h _ _).bind (fun q hq => Ensures.pure (fun o => ?_))
      refine Fin.lastCases ?_ (fun j => ?_) o
      · simpa using hq
      · simpa using hr j

/-- The entities of a new environment keep to their bounds. -/
theorem init_bounded (h : cfg.WithinConstants) (memory : Memory V) :
    Ensures (Env.init cfg memory : Except Error (Env cfg G V)) (bounds cfg G).Holds := by
  have hcameras : ∀ i, Ensures (Camera.init cfg.cameraParams (cfg.cameraParams.placement.box i) :
      Except Error (Camera cfg.cameraParams G)) Camera.Bounded := by
    intro i
    unfold Camera.init
    split
    · exact Camera.reset_bounded h.cameraRadius h.minViewingAngle _
    · exact fun _ hinit => by cases hinit
  refine (initAll_ensures cfg.numCameras (fun i _ => hcameras i)).bind (fun cameras hcameras => ?_)
  refine (initObstacles_bounded h _ cfg.numObstacles).bind (fun r hr => Ensures.pure ?_)
  have hcamera : ∀ c, (cameras c).Bounded := hcameras
  have hobstacle : ∀ o, (r.1 o).Bounded := hr
  exact
    { cameras := fun c => ⟨(hcamera c).location, (hcamera c).viewingAngle_ge,
        (hcamera c).viewingAngle_le, (hcamera c).sightRange⟩
      targets := fun t => ⟨Target.reset_location _, ⟨le_refl _, (by decide : (1 : ℤ) ≤ 2)⟩, le_refl _⟩
      obstacles := fun o => ⟨(hobstacle o).location, (hobstacle o).radius, (hobstacle o).range⟩ }

end

/-! ## The vectors of the entities -/

section

variable {cfg : Config} {G V : Type}

theorem between_preservedData (cfg : Config) :
    Between PRESERVED_SPACE.low PRESERVED_SPACE.high (Env.preservedData cfg) := by
  have hwarehouse : ∀ w : Warehouse, Between TERRAIN_SPACE.doubleLow TERRAIN_SPACE.doubleHigh
      [((WAREHOUSES w).1 : ℝ), ((WAREHOUSES w).2 : ℝ)] := by
    intro w
    refine .cons ?_ (Between.le_coe ?_) (.cons ?_ (Between.le_coe ?_) .nil) <;>
      fin_cases w <;> norm_num [WAREHOUSES, WAREHOUSE_RADIUS, TERRAIN_SIZE]
  have hzero : ∀ n : ℕ, ((0 : ℚ) : ℝ) ≤ (n : ℝ) := fun n => by
    rw [Rat.cast_zero]
    exact n.cast_nonneg
  have hcounts : Between [0, 0, 0, 0] [⊤, ⊤, ⊤, ⊤]
      [(cfg.numCameras : ℝ), (cfg.numTargets : ℝ), (cfg.numObstacles : ℝ), 0] :=
    .cons (hzero _) Between.le_top (.cons (hzero _) Between.le_top (.cons (hzero _) Between.le_top
      (.cons (by rw [Rat.cast_zero]) Between.le_top .nil)))
  have hradius : Between [0] [↑TERRAIN_SIZE] [((WAREHOUSE_RADIUS : ℚ) : ℝ)] :=
    .cons (by norm_num [WAREHOUSE_RADIUS, TERRAIN_SIZE])
      (Between.le_coe (by norm_num [WAREHOUSE_RADIUS, TERRAIN_SIZE])) .nil
  exact (hcounts.append (Between.rows hwarehouse)).append hradius

/-- A location in the terrain is well within the doubled bounds. -/
theorem between_location {z : ℂ} (h : InTerrain z) :
    Between TERRAIN_SPACE.doubleLow TERRAIN_SPACE.doubleHigh [z.re, z.im] := by
  obtain ⟨hre, him⟩ := h
  rw [abs_le] at hre him
  have hsize : ((TERRAIN_SIZE : ℚ) : ℝ) = 1000 := by norm_num [TERRAIN_SIZE]
  rw [hsize] at hre him
  refine .cons ?_ (Between.le_coe ?_) (.cons ?_ (Between.le_coe ?_) .nil) <;>
    · push_cast
      rw [hsize]
      linarith

theorem Camera.Bounded.public {c : Camera cfg.cameraParams G} (h : c.Bounded)
    (hcfg : cfg.WithinConstants) :
    Between CAMERA_STATE_SPACE_PUBLIC.low CAMERA_STATE_SPACE_PUBLIC.high c.statePublic := by
  have hangle : (0 : ℝ) < (cfg.cameraParams.minViewingAngle : ℚ) := by
    exact_mod_cast cfg.cameraParams.minViewingAngle.2
  have hradius : (0 : ℝ) < (cfg.cameraParams.radius : ℚ) := by
    exact_mod_cast cfg.cameraParams.radius.2
  have hmargin := margin_le hcfg.cameraRadius
  have hrange : |c.sightRange| ≤ (TERRAIN_WIDTH : ℚ) := by
    have hnonneg : 0 ≤ Camera.sightRangeOf cfg.cameraParams c.viewingAngle := Real.sqrt_nonneg _
    rw [h.sightRange, abs_of_nonneg hnonneg]
    refine (Camera.sightRangeOf_le h.viewingAngle_ge).trans ?_
    exact_mod_cast hcfg.maxSightRange
  have hsight : ‖polar2cartesian c.sightRange c.orientation‖ ≤ (TERRAIN_WIDTH : ℚ) := by
    rw [norm_polar2cartesian]
    exact hrange
  have hre := abs_le.mp ((Complex.abs_re_le_norm _).trans hsight)
  have him := abs_le.mp ((Complex.abs_im_le_norm _).trans hsight)
  refine (between_location h.location).append ?_
  refine .cons ?_ (Between.le_coe ?_) (.cons ?_ (Between.le_coe hre.2)
    (.cons ?_ (Between.le_coe him.2) (.cons ?_ (Between.le_coe h.viewingAngle_le) .nil)))
  · rw [Rat.cast_zero]
    exact hradius.le
  · linarith
  · push_cast
    exact hre.1
  · push_cast
    exact him.1
  · rw [Rat.cast_zero]
    exact hangle.le.trans h.viewingAngle_ge

theorem Camera.Bounded.private {c : Camera cfg.cameraParams G} (h : c.Bounded)
    (hcfg : cfg.WithinConstants) :
    Between CAMERA_STATE_SPACE_PRIVATE.low CAMERA_STATE_SPACE_PRIVATE.high c.statePrivate := by
  have hpositive : ∀ q : Positive, ((0 : ℚ) : ℝ) ≤ ((q : ℚ) : ℝ) := fun q => by
    exact_mod_cast q.2.le
  refine (h.public hcfg).append ?_
  refine .cons (hpositive _) (Between.le_coe ?_) (.cons (hpositive _) (Between.le_coe ?_)
    (.cons (hpositive _) (Between.le_coe ?_) .nil))
  · exact_mod_cast hcfg.maxSightRange
  · exact_mod_cast hcfg.rotationStep
  · exact_mod_cast hcfg.zoomingStep

theorem Target.Bounded.public {t : Target cfg.target G} (h : t.Bounded)
    (hcfg : cfg.WithinConstants) (goalBits : Warehouse → ℤ) :
    Between TARGET_STATE_SPACE_PUBLIC.low TARGET_STATE_SPACE_PUBLIC.high
      (t.statePublic goalBits) := by
  refine (between_location h.location).append ?_
  refine .cons ?_ (Between.le_coe ?_) (.cons ?_ ?_ .nil)
  · exact_mod_cast cfg.target.sightRange.2.le
  · exact_mod_cast hcfg.targetSightRange
  · split <;> norm_num
  · refine Between.le_coe (b := 1) ?_
    split <;> norm_num

theorem Target.Bounded.private {t : Target cfg.target G} (h : t.Bounded)
    (hcfg : cfg.WithinConstants) {goalBits : Warehouse → ℤ} (hgoal : ∀ w, 0 ≤ goalBits w)
    (emptyBits : Warehouse → Bool) :
    Between TARGET_STATE_SPACE_PRIVATE.low TARGET_STATE_SPACE_PRIVATE.high
      (t.statePrivate goalBits emptyBits) := by
  have hstep : t.stepSize ≤ (TERRAIN_WIDTH : ℚ) := by
    refine h.stepSize.trans ?_
    exact_mod_cast hcfg.stepSize
  have hnumbers : Between [0, 1] [↑TERRAIN_WIDTH, 2] [t.stepSize, (t.capacity : ℝ)] := by
    refine .cons ?_ (Between.le_coe hstep) (.cons ?_ (Between.le_coe (b := 2) ?_) .nil)
    · rw [Rat.cast_zero]
      exact t.stepSize_pos.le
    · exact_mod_cast h.capacity.1
    · exact_mod_cast h.capacity.2
  have hgoals : Between (List.replicate NUM_WAREHOUSES 0) (List.replicate NUM_WAREHOUSES ⊤)
      ((List.finRange NUM_WAREHOUSES).map (fun w => (goalBits w : ℝ))) := by
    refine Between.replicate ?_ rfl
    intro entry hentry
    obtain ⟨w, -, rfl⟩ := List.mem_map.mp hentry
    exact_mod_cast hgoal w
  have hbit : ∀ w, ((-1 : ℚ) : ℝ) ≤ (if emptyBits w then 1 else 0 : ℝ)
      ∧ (if emptyBits w then 1 else 0 : ℝ) ≤ ((1 : ℚ) : ℝ) := by
    intro w
    cases emptyBits w <;> norm_num
  -- the four bits for the empty warehouses
  have hempty : Between (List.replicate NUM_WAREHOUSES (-1)) (List.replicate NUM_WAREHOUSES 1)
      ((List.finRange NUM_WAREHOUSES).map (fun w => (if emptyBits w then 1 else 0 : ℝ))) :=
    .cons (hbit 0).1 (Between.le_coe (b := 1) (hbit 0).2)
      (.cons (hbit 1).1 (Between.le_coe (b := 1) (hbit 1).2)
        (.cons (hbit 2).1 (Between.le_coe (b := 1) (hbit 2).2)
          (.cons (hbit 3).1 (Between.le_coe (b := 1) (hbit 3).2) .nil)))
  exact (((h.public hcfg goalBits).append hnumbers).append hgoals).append hempty

theorem Obstacle.Bounded.state {o : Obstacle G} (h : o.Bounded) :
    Between OBSTACLE_STATE_SPACE.low OBSTACLE_STATE_SPACE.high o.state := by
  refine (between_location h.location).append (.cons ?_ (Between.le_coe h.radius.2) .nil)
  rw [Rat.cast_zero]
  exact h.radius.1

/-! ## Flags and masks -/

theorem Between.flagged {low : List ℚ} {high : List (WithTop ℚ)} {x : List ℝ}
    (h : Between low high x) : Between (low ++ [-1]) (high ++ [1]) (Env.flagged x) :=
  h.append (.cons (by norm_num) (Between.le_coe (b := 1) (by norm_num)) .nil)

/-- Zero lies within the bounds. -/
structure ZeroWithin (low : List ℚ) (high : List (WithTop ℚ)) : Prop where
  lower : ∀ b ∈ low, b ≤ 0
  upper : ∀ b ∈ high, 0 ≤ b

theorem forall₂_zeros {β : Type} {R : ℝ → β → Prop} :
    ∀ {bs : List β}, (∀ b ∈ bs, R 0 b) → List.Forall₂ R (List.replicate bs.length 0) bs
  | [], _ => List.Forall₂.nil
  | b :: _, h =>
      List.Forall₂.cons (h b List.mem_cons_self)
        (forall₂_zeros (fun b' hb' => h b' (List.mem_cons_of_mem _ hb')))

theorem ZeroWithin.zeros {low : List ℚ} {high : List (WithTop ℚ)} (h : ZeroWithin low high)
    {n : ℕ} (hlow : low.length = n) (hhigh : high.length = n) :
    Between low high (List.replicate n 0) := by
  constructor
  · rw [← hlow]
    exact forall₂_zeros (fun b hb => by exact_mod_cast h.lower b hb)
  · rw [← hhigh]
    refine forall₂_zeros (fun b hb q hq => ?_)
    have hnonneg := h.upper b hb
    rw [hq] at hnonneg
    exact_mod_cast hnonneg

/-- A row that is masked is zero. -/
theorem Between.whereMask {low : List ℚ} {high : List (WithTop ℚ)} {x : List ℝ}
    (h : Between low high x) (hzero : ZeroWithin low high) (mask : Bool) :
    Between low high (Env.whereMask mask x) := by
  cases mask with
  | true => exact h
  | false => exact hzero.zeros h.lower.length_eq.symm h.upper.length_eq.symm

theorem zeroWithin_camera : ZeroWithin (CAMERA_STATE_SPACE_PUBLIC.low ++ [-1])
    (CAMERA_STATE_SPACE_PUBLIC.high ++ [1]) :=
  ⟨by decide +kernel, by decide +kernel⟩

theorem zeroWithin_target : ZeroWithin (TARGET_STATE_SPACE_PUBLIC.low ++ [-1])
    (TARGET_STATE_SPACE_PUBLIC.high ++ [1]) :=
  ⟨by decide +kernel, by decide +kernel⟩

theorem zeroWithin_obstacle : ZeroWithin (OBSTACLE_STATE_SPACE.low ++ [-1])
    (OBSTACLE_STATE_SPACE.high ++ [1]) :=
  ⟨by decide +kernel, by decide +kernel⟩

end

/-! ## What the environment emits -/

namespace Env

variable {cfg : Config} {G V : Type}

/-- Entities, cargoes and the stored rows of the obstacles keep to the bounds. -/
structure InBounds (e : Env cfg G V) : Prop where
  entities : (bounds cfg G).Holds e
  consistent : ∃ total, e.Consistent total
  flagged : ∀ o, Between (OBSTACLE_STATE_SPACE.low ++ [-1]) (OBSTACLE_STATE_SPACE.high ++ [1])
    (e.obstacleStatesFlagged o)
  cameraObstacles : ∀ c o, Between (OBSTACLE_STATE_SPACE.low ++ [-1])
    (OBSTACLE_STATE_SPACE.high ++ [1]) (e.cameraObstacleObservations c o)

variable {e : Env cfg G V}

theorem InBounds.goalBits_nonneg (h : e.InBounds) (t : Fin cfg.numTargets) (w : Warehouse) :
    0 ≤ e.cargo.goalBits t w := by
  obtain ⟨total, hconsistent⟩ := h.consistent
  rw [(hconsistent.valid.load t).1]
  exact hconsistent.valid.bits_nonneg t w

theorem InBounds.camera (h : e.InBounds) (c : Fin cfg.numCameras) : (e.cameras c).Bounded :=
  h.entities.cameras c

theorem InBounds.target (h : e.InBounds) (t : Fin cfg.numTargets) : (e.targets t).Bounded :=
  h.entities.targets t

theorem InBounds.obstacle (h : e.InBounds) (o : Fin cfg.numObstacles) : (e.obstacles o).Bounded :=
  h.entities.obstacles o

/-- The entry of the index of the agent is not bounded from above. -/
theorem between_set_index {low : List ℚ} {high : List (WithTop ℚ)} {x : List ℝ}
    (h : Between low high x) (hlow : low[3]? = some 0) (hhigh : high[3]? = some ⊤) (i : ℕ) :
    Between low high (x.set 3 i) := by
  refine h.set (fun b hb => ?_) (fun b hb => ?_)
  · rw [hlow] at hb
    cases hb
    rw [Rat.cast_zero]
    exact i.cast_nonneg
  · rw [hhigh] at hb
    cases hb
    exact Between.le_top

theorem InBounds.cameraObservation (h : e.InBounds) (hcfg : cfg.WithinConstants)
    (c : Fin cfg.numCameras) :
    (cameraObservationSpaceOf cfg.numCameras cfg.numTargets cfg.numObstacles).Contains
      (e.jointObservation.1.camera c) := by
  have htargets := Between.rows (fun t =>
    ((h.target t).public hcfg (e.cargo.goalBits t)).flagged.whereMask zeroWithin_target
      (e.cameraTargetViewMask c t))
  have hcameras := Between.rows (fun other =>
    ((h.camera other).public hcfg).flagged.whereMask zeroWithin_camera
      (e.cameraCameraViewMask c other))
  have hrow := ((((between_preservedData cfg).append ((h.camera c).private hcfg)).append
    htargets).append (Between.rows (h.cameraObstacles c))).append hcameras
  exact Between.contains (s := cameraObservationSpaceOf _ _ _) (between_set_index hrow rfl rfl c)

theorem InBounds.targetObservation (h : e.InBounds) (hcfg : cfg.WithinConstants)
    (t : Fin cfg.numTargets) :
    (targetObservationSpaceOf cfg.numCameras cfg.numTargets cfg.numObstacles).Contains
      (e.jointObservation.1.target t) := by
  have hprivate := (h.target t).private hcfg (h.goalBits_nonneg t) (e.cargo.emptyBits t)
  have hcameras := Between.rows (fun c =>
    ((h.camera c).public hcfg).flagged.whereMask zeroWithin_camera (e.targetCameraViewMask t c))
  have hobstacles := Between.rows (fun o =>
    (h.flagged o).whereMask zeroWithin_obstacle (e.targetObstacleViewMask t o))
  have htargets := Between.rows (fun other =>
    ((h.target other).public hcfg (e.cargo.goalBits other)).flagged.whereMask zeroWithin_target
      (e.targetTargetViewMask t other))
  have hrow := ((((between_preservedData cfg).append hprivate).append hcameras).append
    hobstacles).append htargets
  exact Between.contains (s := targetObservationSpaceOf _ _ _) (between_set_index hrow rfl rfl t)

theorem length_ravel {n d : ℕ} {rows : Fin n → List ℝ} (h : ∀ i, (rows i).length = d) :
    (ravel rows).length = n * d := Layout.length_rows h

theorem InBounds.globalState (h : e.InBounds) (hcfg : cfg.WithinConstants) :
    (stateSpace cfg).Contains e.globalState := by
  obtain ⟨total, hconsistent⟩ := h.consistent
  have hvalid := hconsistent.valid
  have hfreight : ∀ t, 0 ≤ e.cargo.freights t := by
    intro t
    rw [(loadCoherent_of_valid hvalid t).freight]
    exact mul_nonneg (hvalid.weight_nonneg t) cfg.freightScale_pos.le
  have hfloats : ∀ {n : ℕ} {row : Fin n → ℤ}, (∀ i, 0 ≤ row i) → ∀ x ∈ floats row, 0 ≤ x := by
    intro n row hrow x hx
    obtain ⟨i, -, rfl⟩ := List.mem_map.mp hx
    exact_mod_cast hrow i
  have hlength : ∀ {n : ℕ} (row : Fin n → ℤ), (floats row).length = n := by
    intro n row
    rw [floats, List.length_map, List.length_finRange]
  -- freights, bounties and cargoes are counts, without a bound from above
  have hcounts : Between
      (List.replicate (2 * cfg.numTargets + NUM_WAREHOUSES * NUM_WAREHOUSES) 0)
      (List.replicate (2 * cfg.numTargets + NUM_WAREHOUSES * NUM_WAREHOUSES) ⊤)
      (floats e.cargo.freights ++ floats e.cargo.bounties
        ++ ravel (fun w => floats (e.cargo.remainingCargoes w))) := by
    refine Between.replicate ?_ ?_
    · intro x hx
      rcases List.mem_append.mp hx with hx | hx
      · rcases List.mem_append.mp hx with hx | hx
        · exact hfloats hfreight x hx
        · exact hfloats hvalid.bounty_nonneg x hx
      · obtain ⟨w, -, hx⟩ := List.mem_flatMap.mp hx
        exact hfloats (hvalid.remaining_nonneg w) x hx
    · rw [List.length_append, List.length_append, hlength, hlength,
        length_ravel (fun w => hlength (e.cargo.remainingCargoes w))]
      omega
  have hcameras := Between.rows (fun c => (h.camera c).private hcfg)
  have htargets := Between.rows (fun t =>
    (h.target t).private hcfg (h.goalBits_nonneg t) (e.cargo.emptyBits t))
  have hobstacles := Between.rows (fun o => (h.obstacle o).state)
  exact Between.contains (s := stateSpace cfg)
    (((((between_preservedData cfg).append hcameras).append htargets).append hobstacles).append
      hcounts)

/-! ## Runs -/

variable {e' : Env cfg G V} [RandomState G]

theorem init_inBounds (hcfg : cfg.WithinConstants) (memory : Memory V) :
    Ensures (Env.init cfg memory : Except Error (Env cfg G V)) InBounds := by
  intro e hinit
  have hentities := init_bounded hcfg memory e hinit
  have hconsistent := init_consistent memory e hinit
  obtain ⟨cameras, -, hinit⟩ := bind_eq_ok.mp hinit
  obtain ⟨r, -, hinit⟩ := bind_eq_ok.mp hinit
  cases hinit
  exact ⟨hentities, ⟨0, hconsistent⟩, fun o => zeroWithin_obstacle.zeros rfl rfl,
    fun c o => zeroWithin_obstacle.zeros rfl rfl⟩

variable [SetOrder]

theorem InBounds.reset (h : e.InBounds) (hcfg : cfg.WithinConstants) {fuel : ℕ}
    {seed : Option ℕ} {observations : Observations cfg} {reg : Registry}
    (hreset : e.reset fuel seed = .ok (observations, reg, e')) : e'.InBounds := by
  have hentities := (bounds_kept hcfg).toKeptByReset.reset h.entities hreset
  have hknows := reset_knowsObstacles hreset
  have hflagged : ∀ o, Between (OBSTACLE_STATE_SPACE.low ++ [-1])
      (OBSTACLE_STATE_SPACE.high ++ [1]) (e'.obstacleStatesFlagged o) := by
    intro o
    rw [hknows.flagged]
    exact (Obstacle.Bounded.state (hentities.obstacles o)).flagged
  refine ⟨hentities, ⟨_, reset_consistent hreset⟩, hflagged, fun c o => ?_⟩
  rw [hknows.camera]
  exact (hflagged o).whereMask zeroWithin_obstacle _

theorem InBounds.next (h : e.InBounds) (hcfg : cfg.WithinConstants) {call : Call cfg V}
    (hnext : Next e call e') : e'.InBounds := by
  obtain ⟨total, hconsistent⟩ := h.consistent
  have hentities := (bounds_kept hcfg).next h.entities hnext
  have hstored : e'.obstacleStatesFlagged = e.obstacleStatesFlagged
      ∧ e'.cameraObstacleObservations = e.cameraObstacleObservations := by
    rcases hnext.cases_step with ⟨reg, a, b, result, -, hstep⟩ | ⟨mail, rfl⟩
    · obtain ⟨seen, s, hmoved, -, hfinish⟩ := step_eq_ok hstep
      cases hfinish
      exact ⟨hmoved.obstacleStatesFlagged, hmoved.cameraObstacleObservations⟩
    · exact ⟨rfl, rfl⟩
  refine ⟨hentities, ⟨total, hnext.consistent hconsistent⟩, ?_, ?_⟩
  · rw [hstored.1]
    exact h.flagged
  · rw [hstored.2]
    exact h.cameraObstacles

end Env

namespace MultiAgentTracking

variable {cfg : Config} {G V : Type} [RandomState G] [SetOrder]

/-- What `state` keeps is what it would compute. -/
structure Emits (e : MultiAgentTracking cfg G V) : Prop where
  inBounds : e.toEnv.InBounds
  cached : ∀ state, e.cachedState = some state → state = e.toEnv.globalState

theorem Does.emits {e e' : MultiAgentTracking cfg G V} {method : Method cfg V}
    (hcfg : cfg.WithinConstants) (h : e.Emits) (hdoes : Does e method e') : e'.Emits := by
  refine ⟨?_, hdoes.cached h.cached⟩
  cases hdoes with
  | reset hreset =>
      obtain ⟨⟨observations, reg, env⟩, henv, heq⟩ := bind_eq_ok.mp hreset
      cases heq
      exact h.inBounds.reset hcfg henv
  | call hnext => exact h.inBounds.next hcfg hnext
  | state =>
      unfold MultiAgentTracking.state
      split
      · exact h.inBounds
      · exact h.inBounds

end MultiAgentTracking

/-- The small environment is within the constants. -/
theorem Env.soloConfig_withinConstants (location : ℚ × ℚ) (maxEpisodeSteps : ℕ)
    (h : 0 < maxEpisodeSteps) : (soloConfig location maxEpisodeSteps h).WithinConstants where
  cameraRadius := show (12 / 10 * 40 : ℚ) ≤ TERRAIN_SIZE by decide +kernel
  minViewingAngle := show (90 : ℚ) ≤ MAX_CAMERA_VIEWING_ANGLE by decide +kernel
  maxSightRange := show (500 : ℚ) ≤ TERRAIN_WIDTH by decide +kernel
  rotationStep := show (5 : ℚ) ≤ MAX_CAMERA_VIEWING_ANGLE by decide +kernel
  zoomingStep := show (5 / 2 : ℚ) ≤ MAX_CAMERA_VIEWING_ANGLE by decide +kernel
  targetSightRange := show (500 : ℚ) ≤ TERRAIN_WIDTH by decide +kernel
  stepSize := show (10 : ℚ) ≤ TERRAIN_WIDTH by decide +kernel
  obstacleRadius r hr := by cases hr
  radiusRandomRange low high hrange := by cases hrange

end Mate
