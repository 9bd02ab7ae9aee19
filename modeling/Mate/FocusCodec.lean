import Mate.Environment.EntityInvariants
import Mate.Environment.GlobalState
import Mate.RelativeRows
import Mate.Rllib.FocusState
import Mathlib.Analysis.SpecialFunctions.Complex.Arg

set_option autoImplicit false

/-! # The FOCUS learner decodes the environment

`normalize_observation` scales every entry of the global state by the bounds that the environment
advertises for it, and the learner scales it back by bounds of its own. A camera's observation has
passed through `RelativeCoordinates` before, which has subtracted the location of the camera.
-/

namespace Mate

open Fallible Runs Rllib Rllib.Focus

/-! ## Scaling back -/

theorem rescaleEntry_of_lt {low high : ℚ} (h : low < high) (x : ℝ) :
    rescaleEntry low (high : WithTop ℚ) x = 2 * (x - low) / ((high : ℝ) - low) - 1 := by
  show (if low < high then 2 * (x - low) / ((high - low : ℚ) : ℝ) - 1 else x - low) = _
  rw [if_pos h, Rat.cast_sub]

theorem CAM_LOW_lt_CAM_HIGH (idx : Fin 9) : CAM_LOW idx < CAM_HIGH idx := by
  fin_cases idx <;> norm_num [CAM_LOW, CAM_HIGH]

/-- The learner has the bounds of the environment. -/
theorem CAMERA_STATE_SPACE_PRIVATE_eq :
    CAMERA_STATE_SPACE_PRIVATE.low = List.ofFn CAM_LOW ∧
      CAMERA_STATE_SPACE_PRIVATE.high = List.ofFn (fun idx => (CAM_HIGH idx : WithTop ℚ)) := by
  constructor
  · decide +kernel
  · decide +kernel

/-- Every location is bounded in the same way. -/
theorem doubled_terrain : TERRAIN_SPACE.doubleLow = [-2000, -2000] ∧
    TERRAIN_SPACE.doubleHigh = [((2000 : ℚ) : WithTop ℚ), ((2000 : ℚ) : WithTop ℚ)] := by
  constructor
  · decide +kernel
  · decide +kernel

theorem denormCamera_rescaleEntry (idx : Fin 9) (x : ℝ) :
    denormCamera (rescaleEntry (CAM_LOW idx) (CAM_HIGH idx : ℚ) x) idx = x := by
  have hlt := CAM_LOW_lt_CAM_HIGH idx
  have hne : (CAM_HIGH idx : ℝ) - CAM_LOW idx ≠ 0 := by
    have : (CAM_LOW idx : ℝ) < CAM_HIGH idx := by exact_mod_cast hlt
    linarith
  rw [denormCamera, rescaleEntry_of_lt hlt]
  field_simp
  ring

theorem toWorld_rescaleEntry (x : ℝ) :
    toWorld (rescaleEntry (-2000) ((2000 : ℚ) : WithTop ℚ) x) = x := by
  rw [toWorld, rescaleEntry_of_lt (by norm_num)]
  push_cast
  ring

/-! ## Fields -/

theorem entry_eq_ok {state : List ℝ} {k : ℕ} {x : ℝ} (h : state[k]? = some x) :
    entry state k = .ok x := by
  rw [entry, h]

theorem entry_rescaledRow {space : Space} {l : List ℝ} {k : ℕ} {low : ℚ} {high : WithTop ℚ} {x : ℝ}
    (hlow : space.low[k]? = some low) (hhigh : space.high[k]? = some high) (hx : l[k]? = some x) :
    entry (rescaledRow space l) k = .ok (rescaleEntry low high x) := by
  refine entry_eq_ok ?_
  rw [getElem?_rescaledRow hlow hhigh, hx]
  rfl

/-- A space repeats the bounds of an entity from `start` on. -/
structure BoundsAt (space : Space) (start width : ℕ) (bounds : Space) (n : ℕ) : Prop where
  low : ∃ first rest, first.length = start ∧ space.low = first ++ (Space.tile bounds.low n ++ rest)
  high : ∃ first rest, first.length = start ∧ space.high = first ++ (Space.tile bounds.high n ++ rest)
  dim_eq : bounds.dim = width

/-- A scaled entry. -/
theorem BoundsAt.entry {space : Space} {start width : ℕ} {bounds : Space} {n : ℕ}
    (h : BoundsAt space start width bounds n) (i : Fin n) {k : ℕ} (hk : k < width) {low : ℚ}
    {high : WithTop ℚ} {x : ℝ} (hlow : bounds.low[k]? = some low) (hhigh : bounds.high[k]? = some high)
    {l : List ℝ} (hx : l[start + (i : ℕ) * width + k]? = some x) :
    Focus.entry (rescaledRow space l) (start + (i : ℕ) * width + k) = .ok (rescaleEntry low high x) := by
  obtain ⟨first, rest, hfirst, heq⟩ := h.low
  obtain ⟨first', rest', hfirst', heq'⟩ := h.high
  refine entry_rescaledRow ?_ ?_ hx
  · rw [heq, getElem?_tile hfirst h.dim_eq i hk, hlow]
  · rw [heq', getElem?_tile hfirst' (bounds.length_high.trans h.dim_eq) i hk, hhigh]

/-- A vector has rows where its space has their bounds. -/
structure FieldAt (space : Space) (state : List ℝ) (start width : ℕ) (bounds : Space) {n : ℕ}
    (rows : Fin n → List ℝ) : Prop extends BoundsAt space start width bounds n where
  state : ∃ first rest, first.length = start ∧ state = first ++ (Env.ravel rows ++ rest)
  length_rows : ∀ i, (rows i).length = width

theorem FieldAt.getElem? {space : Space} {state : List ℝ} {start width : ℕ} {bounds : Space} {n : ℕ}
    {rows : Fin n → List ℝ} (h : FieldAt space state start width bounds rows) (i : Fin n) {k : ℕ}
    (hk : k < width) : state[start + (i : ℕ) * width + k]? = (rows i)[k]? := by
  obtain ⟨first, rest, hfirst, heq⟩ := h.state
  rw [heq]
  exact getElem?_field hfirst h.length_rows i hk

/-! ## Cameras -/

/-- What the learner is to find out about a camera. The orientation is the angle of the same
direction in radians, above `-π` and up to `π`. -/
noncomputable def Camera.fov {params : CameraConfig} {G : Type} (self : Camera params G) :
    CameraFov where
  position := self.location
  orientation := ((deg2rad self.orientation : ℝ) : Real.Angle).toReal
  sightRange := √(self.sightRange ^ 2 + 1 / 10 ^ 8)
  halfAngle := self.viewingAngle * (Real.pi / 180) / 2

theorem arg_polar2cartesian {rho : ℝ} (h : 0 < rho) (phi : ℝ) :
    Complex.arg (polar2cartesian rho phi) = ((deg2rad phi : ℝ) : Real.Angle).toReal := by
  rw [Real.Angle.toReal_coe, ← Complex.arg_mul_cos_add_sin_mul_I_eq_toIocMod h]
  refine congrArg Complex.arg ?_
  rw [← Complex.ofReal_cos, ← Complex.ofReal_sin]
  apply Complex.ext
  · simp only [polar2cartesian, Complex.mul_re, Complex.add_re, Complex.ofReal_re, Complex.ofReal_im,
      Complex.I_re, Complex.I_im, Complex.add_im, Complex.mul_im]
    ring
  · simp only [polar2cartesian, Complex.mul_re, Complex.add_re, Complex.ofReal_re, Complex.ofReal_im,
      Complex.I_re, Complex.I_im, Complex.add_im, Complex.mul_im]
    ring

/-- The entries of a private state, wherever they are found. -/
theorem cameraFovAt_eq {params : CameraConfig} {G : Type} {c : Camera params G}
    (hsight : 0 < c.sightRange) {state : List ℝ} {start : ℕ}
    (h : ∀ (idx : Fin 9) x, c.statePrivate[(idx : ℕ)]? = some x →
      entry state (start + (idx : ℕ))
        = .ok (rescaleEntry (CAM_LOW idx) (CAM_HIGH idx : ℚ) x)) :
    cameraFovAt state start = .ok c.fov := by
  have hx := h 0 _ rfl
  have hy := h 1 _ rfl
  have hvx := h 3 _ rfl
  have hvy := h 4 _ rfl
  have hva := h 5 _ rfl
  have hnorm : (polar2cartesian c.sightRange c.orientation).re ^ 2
      + (polar2cartesian c.sightRange c.orientation).im ^ 2 = c.sightRange ^ 2 := by
    have hcircle := Real.cos_sq_add_sin_sq (deg2rad c.orientation)
    show (c.sightRange * Real.cos (deg2rad c.orientation)) ^ 2
      + (c.sightRange * Real.sin (deg2rad c.orientation)) ^ 2 = _
    rw [mul_pow, mul_pow, ← mul_add, hcircle, mul_one]
  unfold cameraFovAt
  rw [show start = start + ((0 : Fin 9) : ℕ) from rfl, hx]
  refine bind_eq_ok.mpr ⟨_, rfl, bind_eq_ok.mpr ⟨_, hy, bind_eq_ok.mpr ⟨_, hvx,
    bind_eq_ok.mpr ⟨_, hvy, bind_eq_ok.mpr ⟨_, hva, ?_⟩⟩⟩⟩⟩
  rw [denormCamera_rescaleEntry 0, denormCamera_rescaleEntry 1, denormCamera_rescaleEntry 3,
    denormCamera_rescaleEntry 4, denormCamera_rescaleEntry 5]
  dsimp only
  rw [hnorm, Camera.fov, ← arg_polar2cartesian hsight]
  rfl

theorem locationAt_eq {state : List ℝ} {start : ℕ} {z : ℂ}
    (hx : entry state start = .ok (rescaleEntry (-2000) ((2000 : ℚ) : WithTop ℚ) z.re))
    (hy : entry state (start + 1) = .ok (rescaleEntry (-2000) ((2000 : ℚ) : WithTop ℚ) z.im)) :
    locationAt state start = .ok z := by
  unfold locationAt
  refine bind_eq_ok.mpr ⟨_, hx, bind_eq_ok.mpr ⟨_, hy, ?_⟩⟩
  rw [toWorld_rescaleEntry, toWorld_rescaleEntry]
  rfl

/-- A location at the beginning of the bounds of an entity. -/
theorem BoundsAt.locationAt {space : Space} {start width : ℕ} {bounds : Space} {n : ℕ}
    (h : BoundsAt space start width bounds n) (i : Fin n) (hwidth : 2 ≤ width) {low : List ℚ}
    {high : List (WithTop ℚ)} (hlow : bounds.low = TERRAIN_SPACE.doubleLow ++ low)
    (hhigh : bounds.high = TERRAIN_SPACE.doubleHigh ++ high) {l : List ℝ} {z : ℂ}
    (hx : l[start + (i : ℕ) * width + 0]? = some z.re)
    (hy : l[start + (i : ℕ) * width + 1]? = some z.im) :
    Focus.locationAt (rescaledRow space l) (start + (i : ℕ) * width) = .ok z := by
  obtain ⟨hdoubleLow, hdoubleHigh⟩ := doubled_terrain
  rw [hdoubleLow] at hlow
  rw [hdoubleHigh] at hhigh
  exact locationAt_eq
    (h.entry i (by omega) (by rw [hlow]; rfl) (by rw [hhigh]; rfl) hx)
    (h.entry i (by omega) (by rw [hlow]; rfl) (by rw [hhigh]; rfl) hy)

theorem stack_ofFn {α : Type} {n : ℕ} (h : 0 < n) (g : Fin n → α) :
    stack (List.ofFn g) = .ok (List.ofFn g) := by
  refine if_neg (fun hempty => ?_)
  have hlength := congrArg List.length (List.isEmpty_iff.mp hempty)
  rw [List.length_ofFn, List.length_nil] at hlength
  omega

theorem mapM_range_eq_ok {α : Type} {n : ℕ} {f : ℕ → Except Error α} {g : Fin n → α}
    (h : ∀ i : Fin n, f i = .ok (g i)) : (List.range n).mapM f = .ok (List.ofFn g) := by
  rw [← List.map_coe_finRange_eq_range, List.mapM_map, List.ofFn_eq_map]
  exact mapM_eq_ok (fun i _ => h i)

/-- What a loop over the entities collects. -/
theorem loop_eq {α : Type} {n : ℕ} {f : ℕ → Except Error α} {g : Fin n → α}
    (h : ∀ i : Fin n, f i = .ok (g i)) : (List.range n).mapM f >>= stack = stack (List.ofFn g) := by
  rw [mapM_range_eq_ok h]
  rfl

/-- What the learner makes of an observation, by the entries that it reads. -/
theorem localVisibleTargetPositions_of {obs : List ℝ} {nTargets : ℕ} {camera : CameraFov}
    {offsets : Fin nTargets → ℂ} {flags : Fin nTargets → ℝ}
    (hlength : 22 + nTargets * 5 ≤ obs.length) (hcamera : cameraFovAt obs 13 = .ok camera)
    (hoffset : ∀ t : Fin nTargets, locationAt obs (22 + (t : ℕ) * 5) = .ok (offsets t))
    (hflag : ∀ t : Fin nTargets, entry obs (22 + (t : ℕ) * 5 + 4) = .ok (flags t)) :
    localVisibleTargetPositions obs nTargets
      = stack (List.ofFn (fun t => (camera.position + offsets t, decide (0 < flags t))))
        >>= fun targets => pure (some targets) := by
  have hnot : ¬ obs.length < Focus.PRESERVED_DIM + Focus.CAMERA_STATE_DIM_PRIVATE
      + nTargets * (Focus.TARGET_STATE_DIM_PUBLIC + 1) := not_lt.mpr hlength
  unfold localVisibleTargetPositions
  dsimp only
  rw [if_neg hnot]
  show (cameraFovAt obs 13 >>= _) = _
  rw [hcamera, ← loop_eq (f := fun j => do
    let offset ← locationAt obs (22 + j * 5)
    let flag ← entry obs (22 + j * 5 + 4)
    return (camera.position + offset, decide (0 < flag))) (fun t => ?_)]
  · rw [bind_assoc]
    rfl
  · exact bind_eq_ok.mpr ⟨_, hoffset t, bind_eq_ok.mpr ⟨_, hflag t, rfl⟩⟩

/-! ## The global state -/

namespace Env

variable {cfg : Config} {G V : Type} {e : Env cfg G V}

theorem cameras_fieldAt (e : Env cfg G V) :
    FieldAt (stateSpace cfg) e.globalState 13 9 CAMERA_STATE_SPACE_PRIVATE
      (fun c => (e.cameras c).statePrivate) where
  low := ⟨PRESERVED_SPACE.low, _, rfl, by
      simp only [stateSpace, List.append_assoc]
      rfl⟩
  high := ⟨PRESERVED_SPACE.high, _, rfl, by
      simp only [stateSpace, List.append_assoc]
      rfl⟩
  state := ⟨preservedData cfg, _, rfl, by
      simp only [globalState, List.append_assoc]
      rfl⟩
  dim_eq := rfl
  length_rows _ := rfl

theorem length_tile {α : Type} (row : List α) (n : ℕ) :
    (Space.tile row n).length = n * row.length := by
  rw [Space.tile, List.length_flatten, List.map_replicate, List.sum_replicate_nat]

theorem targets_fieldAt (e : Env cfg G V) :
    FieldAt (stateSpace cfg) e.globalState (13 + cfg.numCameras * 9) 14 TARGET_STATE_SPACE_PRIVATE
      e.targetStatePrivate where
  low := ⟨PRESERVED_SPACE.low ++ Space.tile CAMERA_STATE_SPACE_PRIVATE.low cfg.numCameras, _, by
    rw [List.length_append, length_tile]
    rfl, by
      simp only [stateSpace, List.append_assoc]
      rfl⟩
  high := ⟨PRESERVED_SPACE.high ++ Space.tile CAMERA_STATE_SPACE_PRIVATE.high cfg.numCameras, _, by
    rw [List.length_append, length_tile]
    rfl, by
      simp only [stateSpace, List.append_assoc]
      rfl⟩
  state := ⟨preservedData cfg ++ ravel (fun c => (e.cameras c).statePrivate), _, by
    rw [List.length_append]
    exact congrArg _ (Layout.length_rows (fun _ => rfl)), by
      simp only [globalState, List.append_assoc]
      rfl⟩
  dim_eq := rfl
  length_rows _ := rfl

theorem obstacles_fieldAt (e : Env cfg G V) :
    FieldAt (stateSpace cfg) e.globalState (13 + cfg.numCameras * 9 + cfg.numTargets * 14) 3
      OBSTACLE_STATE_SPACE (fun o => (e.obstacles o).state) where
  low := ⟨PRESERVED_SPACE.low ++ Space.tile CAMERA_STATE_SPACE_PRIVATE.low cfg.numCameras
    ++ Space.tile TARGET_STATE_SPACE_PRIVATE.low cfg.numTargets, _, by
      rw [List.length_append, List.length_append, length_tile, length_tile]
      rfl, by
      simp only [stateSpace, List.append_assoc]
      rfl⟩
  high := ⟨PRESERVED_SPACE.high ++ Space.tile CAMERA_STATE_SPACE_PRIVATE.high cfg.numCameras
    ++ Space.tile TARGET_STATE_SPACE_PRIVATE.high cfg.numTargets, _, by
      rw [List.length_append, List.length_append, length_tile, length_tile]
      rfl, by
      simp only [stateSpace, List.append_assoc]
      rfl⟩
  state := ⟨preservedData cfg ++ ravel (fun c => (e.cameras c).statePrivate)
    ++ ravel e.targetStatePrivate, _, by
      rw [List.length_append, List.length_append]
      exact congrArg₂ (· + ·) (congrArg _ (Layout.length_rows (fun _ => rfl)))
        (Layout.length_rows (fun _ => rfl)), by
      simp only [globalState, List.append_assoc]
      rfl⟩
  dim_eq := rfl
  length_rows _ := rfl

/-- The global state has the dimension of its space. -/
theorem length_globalState (e : Env cfg G V) : e.globalState.length = (stateSpace cfg).dim := by
  have hfloats : ∀ {n : ℕ} (row : Fin n → ℤ), (floats row).length = n := by
    intro n row
    rw [floats, List.length_map, List.length_finRange]
  have hcameras : (ravel (fun c => (e.cameras c).statePrivate)).length = cfg.numCameras * 9 :=
    Layout.length_rows (fun _ => rfl)
  have htargets : (ravel e.targetStatePrivate).length = cfg.numTargets * 14 :=
    Layout.length_rows (fun _ => rfl)
  have hobstacles : (ravel (fun o => (e.obstacles o).state)).length = cfg.numObstacles * 3 :=
    Layout.length_rows (fun _ => rfl)
  have hcargoes : (ravel (fun w => floats (e.cargo.remainingCargoes w))).length
      = NUM_WAREHOUSES * NUM_WAREHOUSES := Layout.length_rows (fun w => hfloats _)
  simp only [globalState, stateSpace, Space.dim, List.length_append, length_tile,
    List.length_replicate, hfloats, hcameras, htargets, hobstacles, hcargoes]
  show 13 + _ + _ + _ + _ = 13 + cfg.numCameras * 9 + cfg.numTargets * 14 + cfg.numObstacles * 3 + _
  omega

/-- **The cameras** are decoded. -/
theorem extractCameraFov_eq (hsight : ∀ c, 0 < (e.cameras c).sightRange) :
    extractCameraFov (rescaledRow (stateSpace cfg) e.globalState) cfg.numCameras
      = stack (List.ofFn (fun c => (e.cameras c).fov)) := by
  obtain ⟨hlow, hhigh⟩ := CAMERA_STATE_SPACE_PRIVATE_eq
  refine loop_eq (fun c => cameraFovAt_eq (hsight c) (fun idx x hx => ?_))
  refine (cameras_fieldAt e).entry c idx.isLt ?_ ?_
    (((cameras_fieldAt e).getElem? c idx.isLt).trans hx)
  · rw [hlow, List.getElem?_ofFn, dif_pos idx.isLt]
  · rw [hhigh, List.getElem?_ofFn, dif_pos idx.isLt]

/-- **The targets** are decoded. -/
theorem extractTargetPositions_eq :
    extractTargetPositions (rescaledRow (stateSpace cfg) e.globalState) cfg.numCameras cfg.numTargets
      = stack (List.ofFn (fun t => (e.targets t).location)) := by
  have hfield := targets_fieldAt e
  exact loop_eq (fun t => hfield.locationAt t (by decide) rfl rfl
    (hfield.getElem? t (by decide)) (hfield.getElem? t (by decide)))

/-- **The obstacles** are decoded. -/
theorem extractObstacles_eq :
    extractObstacles (rescaledRow (stateSpace cfg) e.globalState) cfg.numCameras cfg.numTargets
        cfg.numObstacles
      = stack (List.ofFn (fun o => ((e.obstacles o).location, (e.obstacles o).radius))) := by
  have hfield := obstacles_fieldAt e
  refine loop_eq (fun o => ?_)
  have hposition : locationAt (rescaledRow (stateSpace cfg) e.globalState)
      (13 + cfg.numCameras * 9 + cfg.numTargets * 14 + (o : ℕ) * 3) = .ok (e.obstacles o).location :=
    hfield.locationAt o (by decide) rfl rfl (hfield.getElem? o (by decide))
      (hfield.getElem? o (by decide))
  have hradius := hfield.entry o (k := 2) (by decide) rfl rfl (hfield.getElem? o (by decide))
  refine bind_eq_ok.mpr ⟨_, hposition, bind_eq_ok.mpr ⟨_, hradius, ?_⟩⟩
  refine congrArg Except.ok (Prod.ext rfl ?_)
  show (rescaleEntry 0 ((1000 : ℚ) : WithTop ℚ) (e.obstacles o).radius + 1) / 2 * 1000
    = (e.obstacles o).radius
  rw [rescaleEntry_of_lt (by norm_num)]
  push_cast
  ring

/-! ## Observations of a camera -/

/-- The observations of the obstacles have their width. -/
def ObstacleRows (e : Env cfg G V) : Prop :=
  ∀ c o, (e.cameraObstacleObservations c o).length = OBSTACLE_STATE_DIM + 1

/-- The row of a camera, up to the targets. -/
theorem camera_row (e : Env cfg G V) (c : Fin cfg.numCameras) :
    e.jointObservation.1.camera c
      = (preservedData cfg).set 3 ((c : ℕ) : ℝ) ++ ((e.cameras c).statePrivate
        ++ (ravel (fun t => whereMask (e.cameraTargetViewMask c t) (flagged (e.targetStatePublic t)))
        ++ (ravel (e.cameraObstacleObservations c) ++ ravel (fun other =>
          whereMask (e.cameraCameraViewMask c other) (flagged (e.cameraStatePublic other)))))) := by
  show (e.cameraObservation c).set 3 ((c : ℕ) : ℝ) = _
  unfold cameraObservation
  simp only [List.append_assoc]
  exact List.set_append_left _ _ (by rw [length_preservedData]; decide)

theorem length_camera_row (h : e.ObstacleRows) (c : Fin cfg.numCameras) :
    (e.jointObservation.1.camera c).length
      = (observationSpaceOf .camera cfg.numCameras cfg.numTargets cfg.numObstacles).dim := by
  have htargets : (ravel (fun t => whereMask (e.cameraTargetViewMask c t)
      (flagged (e.targetStatePublic t)))).length = cfg.numTargets * 5 :=
    length_ravel_masked _ (fun _ => rfl)
  have hcameras : (ravel (fun other => whereMask (e.cameraCameraViewMask c other)
      (flagged (e.cameraStatePublic other)))).length = cfg.numCameras * 7 :=
    length_ravel_masked _ (fun _ => rfl)
  have hobstacles : (ravel (e.cameraObstacleObservations c)).length = cfg.numObstacles * 4 :=
    Layout.length_rows (h c)
  have hhead : ((preservedData cfg).set 3 ((c : ℕ) : ℝ)).length = 13 := List.length_set
  have hprivate : (e.cameras c).statePrivate.length = 9 := rfl
  rw [camera_row, dim_observationSpaceOf, observationIndicesOf_eq]
  simp only [List.length_append, hhead, hprivate, htargets, hobstacles, hcameras]
  show _ = 13 + (9 + (cfg.numTargets * 5 + (cfg.numObstacles * 4 + (cfg.numCameras * 7 + 0))))
  omega

/-- What is in front of the targets in the row of a camera. -/
theorem length_camera_head (c : Fin cfg.numCameras) :
    ((preservedData cfg).set 3 ((c : ℕ) : ℝ) ++ (e.cameras c).statePrivate).length = 22 := by
  rw [List.length_append, List.length_set]
  rfl

/-- The field of the targets in the row of a camera. -/
theorem slice_camera_row (c : Fin cfg.numCameras) :
    Layout.slice 22 (22 + cfg.numTargets * (4 + 1)) (e.jointObservation.1.camera c)
      = ravel (fun t => whereMask (e.cameraTargetViewMask c t) (flagged (e.targetStatePublic t))) := by
  have hhead := length_camera_head (e := e) c
  have htargets : (ravel (fun t => whereMask (e.cameraTargetViewMask c t)
      (flagged (e.targetStatePublic t)))).length = cfg.numTargets * (4 + 1) :=
    length_ravel_masked _ (fun _ => rfl)
  rw [camera_row, ← List.append_assoc, ← hhead, ← htargets, Layout.slice,
    List.take_length_add_append, List.drop_left' rfl, List.take_left' rfl]

/-- An entry of a target in the row of a camera. -/
theorem getElem?_camera_row (c : Fin cfg.numCameras) (t : Fin cfg.numTargets) {k : ℕ} (hk : k < 5) :
    (e.jointObservation.1.camera c)[22 + (t : ℕ) * 5 + k]?
      = (whereMask (e.cameraTargetViewMask c t) (flagged (e.targetStatePublic t)))[k]? := by
  have hhead := length_camera_head (e := e) c
  rw [camera_row, ← List.append_assoc]
  refine getElem?_field hhead (fun t => ?_) t hk
  exact length_whereMask _ _

/-- The own state in the row of a camera. -/
theorem getElem?_camera_row_own (c : Fin cfg.numCameras) {k : ℕ} (hk : k < 9) :
    (e.jointObservation.1.camera c)[13 + k]? = (e.cameras c).statePrivate[k]? := by
  have hhead : ((preservedData cfg).set 3 ((c : ℕ) : ℝ)).length = 13 := List.length_set
  rw [camera_row, ← hhead]
  exact Layout.getElem?_middle hk

theorem flags_camera_row (c : Fin cfg.numCameras) :
    (observationSlicesOf .camera cfg.numCameras cfg.numTargets cfg.numObstacles).opponentMask.read
        (e.jointObservation.1.camera c)
      = List.ofFn (fun t => if e.cameraTargetViewMask c t then 1 else 0) := by
  rw [(cameraObservationSlicesOf_masks _ _ _).1]
  exact Slice.read_mask (fun _ => rfl) (slice_camera_row c)

theorem origin_camera_row (c : Fin cfg.numCameras) :
    Layout.slice PRESERVED_DIM (PRESERVED_DIM + 2) (e.jointObservation.1.camera c)
      = [(e.cameras c).location.re, (e.cameras c).location.im] := by
  have hhead : ((preservedData cfg).set 3 ((c : ℕ) : ℝ)).length = PRESERVED_DIM := List.length_set
  rw [camera_row, ← hhead, Layout.slice, List.take_length_add_append, List.drop_left' rfl]
  rfl

/-! ### The learner's view -/

/-- What comes through both wrappers. -/
theorem Preprocessing.transform_both (team : Team) (numCameras numTargets numObstacles : ℕ)
    (row : List ℝ) :
    (⟨true, true⟩ : Preprocessing).transform team numCameras numTargets numObstacles row
      = rescaledRow (observationSpaceOf team numCameras numTargets numObstacles)
        (relativeRow team numCameras numTargets numObstacles row) := by
  unfold Preprocessing.transform
  dsimp only
  rw [if_pos rfl, if_pos rfl]

/-- The bounds of the own state. -/
theorem own_boundsAt (numCameras numTargets numObstacles : ℕ) :
    BoundsAt (observationSpaceOf .camera numCameras numTargets numObstacles) 13 9
      CAMERA_STATE_SPACE_PRIVATE 1 where
  low := ⟨PRESERVED_SPACE.low, _, rfl, by
    simp only [observationSpaceOf, cameraObservationSpaceOf, List.append_assoc]
    rfl⟩
  high := ⟨PRESERVED_SPACE.high, _, rfl, by
    simp only [observationSpaceOf, cameraObservationSpaceOf, List.append_assoc]
    rfl⟩
  dim_eq := rfl

/-- The bounds of the state of a target and its flag. -/
def shownTarget : Space where
  low := TARGET_STATE_SPACE_PUBLIC.low ++ [-1]
  high := TARGET_STATE_SPACE_PUBLIC.high ++ [1]
  length_high := rfl

theorem shown_boundsAt (numCameras numTargets numObstacles : ℕ) :
    BoundsAt (observationSpaceOf .camera numCameras numTargets numObstacles) 22 5 shownTarget
      numTargets where
  low := ⟨PRESERVED_SPACE.low ++ CAMERA_STATE_SPACE_PRIVATE.low, _, rfl, by
    simp only [observationSpaceOf, cameraObservationSpaceOf, List.append_assoc]
    rfl⟩
  high := ⟨PRESERVED_SPACE.high ++ CAMERA_STATE_SPACE_PRIVATE.high, _, rfl, by
    simp only [observationSpaceOf, cameraObservationSpaceOf, List.append_assoc]
    rfl⟩
  dim_eq := rfl

/-- What the learner is to find out about the targets. -/
noncomputable def seenTargets (self : Env cfg G V) (c : Fin cfg.numCameras) : List (ℂ × Bool) :=
  List.ofFn (fun t => (if self.cameraTargetViewMask c t then (self.targets t).location
    else (self.cameras c).location, self.cameraTargetViewMask c t))

theorem getElem?_relativeRow_own (c : Fin cfg.numCameras) (idx : Fin 9) :
    (relativeRow .camera cfg.numCameras cfg.numTargets cfg.numObstacles
        (e.jointObservation.1.camera c))[13 + (idx : ℕ)]? = (e.cameras c).statePrivate[(idx : ℕ)]? := by
  rw [← getElem?_camera_row_own c idx.isLt]
  refine getElem?_relativeRow (fun htrue => ?_) _
  have hmask : (coordinateMaskOf .camera cfg.numCameras cfg.numTargets cfg.numObstacles)[13 + (idx : ℕ)]?
      = some false := by
    show (cameraCoordinateMaskOf _ _ _)[13 + (idx : ℕ)]? = _
    simp only [cameraCoordinateMaskOf, List.append_assoc]
    fin_cases idx <;> rfl
  rw [hmask] at htrue
  cases htrue

/-- The coordinates of a target, relative to the camera if it is seen. -/
theorem getElem?_relativeRow_target (h : e.ObstacleRows) (c : Fin cfg.numCameras)
    (t : Fin cfg.numTargets) :
    let row := relativeRow .camera cfg.numCameras cfg.numTargets cfg.numObstacles
      (e.jointObservation.1.camera c)
    let offset := if e.cameraTargetViewMask c t then
      (e.targets t).location - (e.cameras c).location else 0
    row[22 + (t : ℕ) * 5 + 0]? = some offset.re ∧ row[22 + (t : ℕ) * 5 + 1]? = some offset.im ∧
      row[22 + (t : ℕ) * 5 + 4]? = some (if e.cameraTargetViewMask c t then 1 else 0) := by
  have hlength := length_camera_row h c
  have hflags := flags_camera_row (e := e) c
  have hrow := fun k (hk : k < 5) => getElem?_camera_row (e := e) c t hk
  -- the flag itself is not moved
  have hflag : (coordinateMaskOf .camera cfg.numCameras cfg.numTargets cfg.numObstacles)[
      22 + (t : ℕ) * 5 + 4]? = some false := by
    show (cameraCoordinateMaskOf _ _ _)[_]? = _
    simp only [cameraCoordinateMaskOf, List.append_assoc]
    rw [← List.append_assoc]
    exact getElem?_tile (m := 22) (d := 5) rfl rfl t (by decide)
  have hlast := getElem?_relativeRow (fun htrue => by cases hflag.symm.trans htrue)
    (e.jointObservation.1.camera c)
  have hwidth : (e.targetStatePublic t).length = 4 := rfl
  rw [hrow 4 (by decide), flag_whereMask_flagged _ hwidth] at hlast
  dsimp only
  cases hseen : e.cameraTargetViewMask c t with
  | true =>
      rw [hseen] at hrow hlast
      obtain ⟨hx, hy⟩ := getElem?_relativeRow_seen hlength hflags (origin_camera_row c) t
        (by rw [hseen]; exact one_ne_zero) (hrow 0 (by decide)) (hrow 1 (by decide))
      exact ⟨hx, hy, hlast⟩
  | false =>
      rw [hseen] at hrow hlast
      have hunseen := fun k (hk : k < 5) => getElem?_relativeRow_unseen hlength hflags t
        (by rw [hseen]; rfl) hk
      refine ⟨?_, ?_, hlast⟩
      · rw [hunseen 0 (by decide), hrow 0 (by decide)]
        rfl
      · rw [hunseen 1 (by decide), hrow 1 (by decide)]
        rfl

/-- The own state of a camera, in what comes through both wrappers. -/
theorem cameraFovAt_own (c : Fin cfg.numCameras) (hsight : 0 < (e.cameras c).sightRange) :
    cameraFovAt (rescaledRow (observationSpaceOf .camera cfg.numCameras cfg.numTargets cfg.numObstacles)
      (relativeRow .camera cfg.numCameras cfg.numTargets cfg.numObstacles
        (e.jointObservation.1.camera c))) Focus.PRESERVED_DIM = .ok (e.cameras c).fov := by
  have hown := own_boundsAt cfg.numCameras cfg.numTargets cfg.numObstacles
  obtain ⟨hlow, hhigh⟩ := CAMERA_STATE_SPACE_PRIVATE_eq
  refine cameraFovAt_eq hsight (fun idx x hx => ?_)
  refine hown.entry 0 idx.isLt ?_ ?_ ?_
  · rw [hlow, List.getElem?_ofFn, dif_pos idx.isLt]
  · rw [hhigh, List.getElem?_ofFn, dif_pos idx.isLt]
  · exact (getElem?_relativeRow_own c idx).trans hx

/-- **The targets that a camera sees** are found where they are. -/
theorem localVisibleTargetPositions_eq (h : e.ObstacleRows) (c : Fin cfg.numCameras)
    (hsight : 0 < (e.cameras c).sightRange) :
    localVisibleTargetPositions
        ((⟨true, true⟩ : Preprocessing).transform .camera cfg.numCameras cfg.numTargets
          cfg.numObstacles (e.jointObservation.1.camera c)) cfg.numTargets
      = .ok (some (e.seenTargets c)) := by
  have hshown := shown_boundsAt cfg.numCameras cfg.numTargets cfg.numObstacles
  have hcamera := cameraFovAt_own c hsight
  have hlength : 22 + cfg.numTargets * 5 ≤ (rescaledRow
      (observationSpaceOf .camera cfg.numCameras cfg.numTargets cfg.numObstacles)
      (relativeRow .camera cfg.numCameras cfg.numTargets cfg.numObstacles
        (e.jointObservation.1.camera c))).length := by
    rw [length_rescaledRow ((length_relativeRow _).trans (length_camera_row h c)),
      dim_observationSpaceOf, observationIndicesOf_eq]
    show _ ≤ 13 + (9 + (cfg.numTargets * 5 + _))
    omega
  -- the entries of a target are its place as seen from the camera, or zero
  have hoffset : ∀ t : Fin cfg.numTargets, locationAt (rescaledRow
      (observationSpaceOf .camera cfg.numCameras cfg.numTargets cfg.numObstacles)
      (relativeRow .camera cfg.numCameras cfg.numTargets cfg.numObstacles
        (e.jointObservation.1.camera c))) (22 + (t : ℕ) * 5)
      = .ok (if e.cameraTargetViewMask c t then (e.targets t).location - (e.cameras c).location
        else 0) := by
    intro t
    obtain ⟨hx, hy, -⟩ := getElem?_relativeRow_target h c t
    exact hshown.locationAt t (by decide) rfl rfl hx hy
  have hflag : ∀ t : Fin cfg.numTargets, entry (rescaledRow
      (observationSpaceOf .camera cfg.numCameras cfg.numTargets cfg.numObstacles)
      (relativeRow .camera cfg.numCameras cfg.numTargets cfg.numObstacles
        (e.jointObservation.1.camera c))) (22 + (t : ℕ) * 5 + 4)
      = .ok (if e.cameraTargetViewMask c t then 1 else 0) := by
    intro t
    obtain ⟨-, -, hflag⟩ := getElem?_relativeRow_target h c t
    exact (hshown.entry t (by decide) rfl rfl hflag).trans (congrArg Except.ok (rescaleEntry_flag _))
  -- so that with the place of the camera they give back its location
  have hfound : List.ofFn (fun t => ((e.cameras c).fov.position
      + (if e.cameraTargetViewMask c t then (e.targets t).location - (e.cameras c).location else 0),
        decide ((0 : ℝ) < if e.cameraTargetViewMask c t then 1 else 0))) = e.seenTargets c := by
    refine congrArg List.ofFn (funext (fun t => ?_))
    show ((e.cameras c).location + _, _) = _
    cases e.cameraTargetViewMask c t with
    | true => simp
    | false => simp
  rw [Preprocessing.transform_both, localVisibleTargetPositions_of hlength hcamera hoffset hflag,
    hfound, seenTargets, stack_ofFn (n := cfg.numTargets) cfg.numTargets_pos]
  rfl

end Env

/-! ## Runs -/

section

variable {cfg : Config} {G V : Type}

theorem Camera.sightRangeOf_pos {params : CameraConfig} {viewingAngle : ℝ} (h : 0 < viewingAngle) :
    0 < Camera.sightRangeOf params viewingAngle := by
  have hmin : (0 : ℝ) < (params.minViewingAngle : ℚ) := by exact_mod_cast params.minViewingAngle.2
  have hmax : (0 : ℝ) < (params.maxSightRange : ℚ) := by exact_mod_cast params.maxSightRange.2
  refine Real.sqrt_pos.mpr (div_pos ?_ h)
  rw [areaProduct]
  push_cast
  positivity

/-- Every camera sees some way. -/
def sighted (cfg : Config) (G : Type) : EntityInvariant cfg G where
  camera c := 0 < c.sightRange
  target _ := True
  obstacle _ := True

variable [RandomState G]

/-- A draw between two positive numbers, in either order. -/
theorem uniform_pos {low high : ℝ} (hlow : 0 < low) (hhigh : 0 < high) (g : G) :
    0 < (RandomState.uniform low high g).1 := by
  have hu := (RandomState.random g).1.2
  have hfirst := mul_pos hlow (sub_pos.mpr hu.2)
  have hsecond := mul_nonneg hhigh.le hu.1
  show 0 < low + (high - low) * ((RandomState.random g).1 : ℝ)
  linarith

theorem Camera.reset_sighted {params : CameraConfig} (c : Camera params G) :
    Ensures c.reset (fun c' => 0 < c'.sightRange) := by
  intro c' h
  unfold Camera.reset at h
  dsimp only at h
  split at h
  · cases h
    refine Camera.sightRangeOf_pos ?_
    have hmin : (0 : ℝ) < (params.minViewingAngle : ℚ) := by exact_mod_cast params.minViewingAngle.2
    exact uniform_pos hmin (by norm_num [MAX_CAMERA_VIEWING_ANGLE]) _
  · cases h

variable [SetOrder]

theorem sighted_kept : (sighted cfg G).Kept where
  cameraRng _ _ he := he
  cameraReset e _ := e.reset_sighted
  cameraObstacles _ _ he := he
  cameraSimulate e action _ := by
    refine Camera.sightRangeOf_pos ?_
    have hmin : (0 : ℝ) < (cfg.cameraParams.minViewingAngle : ℚ) := by
      exact_mod_cast cfg.cameraParams.minViewingAngle.2
    refine lt_min (hmin.trans_le (le_max_right _ _)) ?_
    norm_num [MAX_CAMERA_VIEWING_ANGLE]
  targetRng _ _ _ := trivial
  targetCapacity _ _ _ := trivial
  targetReset _ _ := trivial
  targetSimulate _ _ _ _ := trivial
  obstacleRng _ _ _ := trivial
  obstacleReset _ _ _ := trivial
  obstacleZero _ _ := trivial

namespace MultiAgentTracking

/-- What the decoders rely on. -/
structure Decodable (e : MultiAgentTracking cfg G V) : Prop where
  sighted : (sighted cfg G).Holds e.toEnv
  obstacleRows : e.toEnv.ObstacleRows
  cached : ∀ state, e.cachedState = some state → state = e.toEnv.globalState

omit [SetOrder] in
theorem init_decodable {memory : Memory V} {start : MultiAgentTracking cfg G V}
    (h : init cfg memory = .ok start) : start.Decodable := by
  obtain ⟨env, henv, heq⟩ := bind_eq_ok.mp h
  cases heq
  obtain ⟨cameras, hcameras, henv⟩ := bind_eq_ok.mp henv
  obtain ⟨r, -, henv⟩ := bind_eq_ok.mp henv
  cases henv
  have hsight : ∀ i < cfg.numCameras, Ensures (Camera.init cfg.cameraParams
      (cfg.cameraParams.placement.box i) : Except Error (Camera cfg.cameraParams G))
      (fun c => 0 < c.sightRange) := by
    intro i _
    unfold Camera.init
    split
    · exact Camera.reset_sighted _
    · exact fun _ hinit => by cases hinit
  have hall := initAll_ensures cfg.numCameras hsight cameras hcameras
  exact ⟨⟨hall, fun _ => trivial, fun _ => trivial⟩, fun _ _ => List.length_replicate,
    fun state hstate => by cases hstate⟩

theorem Does.decodable {e e' : MultiAgentTracking cfg G V} {method : Method cfg V}
    (h : e.Decodable) (hdoes : Does e method e') : e'.Decodable := by
  suffices hstores : (sighted cfg G).Holds e'.toEnv ∧ e'.toEnv.ObstacleRows from
    ⟨hstores.1, hstores.2, hdoes.cached h.cached⟩
  cases hdoes with
  | reset hreset =>
      obtain ⟨⟨observations, reg, env⟩, henv, heq⟩ := bind_eq_ok.mp hreset
      cases heq
      have hknows := Env.reset_knowsObstacles henv
      refine ⟨sighted_kept.toKeptByReset.reset h.sighted henv, fun c o => ?_⟩
      show (env.cameraObstacleObservations c o).length = _
      rw [hknows.camera, length_whereMask, hknows.flagged, length_flagged]
      rfl
  | call hnext =>
      have hsame : ∀ {e' : Env cfg G V} {call : Env.Call cfg V}, Env.Next e.toEnv call e' →
          e'.cameraObstacleObservations = e.toEnv.cameraObstacleObservations := by
        intro e' call hnext
        rcases hnext.cases_step with ⟨reg, a, b, result, -, hstep⟩ | ⟨mail, rfl⟩
        · obtain ⟨seen, s, hmoved, -, hfinish⟩ := Env.step_eq_ok hstep
          cases hfinish
          exact hmoved.cameraObstacleObservations
        · rfl
      refine ⟨sighted_kept.next h.sighted hnext, fun c o => ?_⟩
      rw [hsame hnext]
      exact h.obstacleRows c o
  | state =>
      unfold MultiAgentTracking.state
      split
      · exact ⟨h.sighted, h.obstacleRows⟩
      · exact ⟨h.sighted, h.obstacleRows⟩

omit [RandomState G] [SetOrder] in
/-- What the learner is given of `state`. -/
theorem Decodable.normalizeObservation_state {e : MultiAgentTracking cfg G V} (h : e.Decodable) :
    normalizeObservation e.state.1 (stateSpace cfg)
      = .ok (rescaledRow (stateSpace cfg) e.toEnv.globalState) := by
  rw [Cached.state_eq h.cached]
  exact normalizeObservation_eq_ok e.toEnv.length_globalState

/-- **The learner decodes the environment**, after any history. What there is none of cannot be
stacked. -/
theorem focus_decodes {memory : Memory V} {start e : MultiAgentTracking cfg G V}
    {history : List (Method cfg V)} (hstart : init cfg memory = .ok start)
    (hrun : Run Does start history e) :
    (∃ normalized, normalizeObservation e.state.1 (stateSpace cfg) = .ok normalized ∧
      extractCameraFov normalized cfg.numCameras
        = stack (List.ofFn (fun c => (e.cameras c).fov)) ∧
      extractTargetPositions normalized cfg.numCameras cfg.numTargets
        = .ok (List.ofFn (fun t => (e.targets t).location)) ∧
      extractObstacles normalized cfg.numCameras cfg.numTargets cfg.numObstacles
        = stack (List.ofFn (fun o => ((e.obstacles o).location, (e.obstacles o).radius)))) ∧
    ∀ c : Fin cfg.numCameras, ∃ obs,
      (⟨true, true⟩ : Preprocessing).apply (e.toEnv.jointObservation.1.camera c) .camera
        cfg.numCameras cfg.numTargets cfg.numObstacles = .ok obs ∧
      localVisibleTargetPositions obs cfg.numTargets
        = .ok (some (List.ofFn (fun t => (if e.cameraTargetViewMask c t then (e.targets t).location
          else (e.cameras c).location, e.cameraTargetViewMask c t)))) := by
  have hdecodable : e.Decodable := hrun.invariant Decodable (init_decodable hstart)
    (fun _ _ _ h hdoes => hdoes.decodable h)
  have hsight := hdecodable.sighted.cameras
  constructor
  · refine ⟨_, hdecodable.normalizeObservation_state, Env.extractCameraFov_eq hsight, ?_,
      Env.extractObstacles_eq⟩
    rw [Env.extractTargetPositions_eq]
    exact stack_ofFn cfg.numTargets_pos _
  · intro c
    have hentities : 0 < cfg.numCameras + cfg.numTargets + cfg.numObstacles := by
      have htargets : 0 < cfg.numTargets := cfg.numTargets_pos
      omega
    exact ⟨_, Preprocessing.apply_eq_ok _ hentities
        (Env.length_camera_row hdecodable.obstacleRows c),
      Env.localVisibleTargetPositions_eq hdecodable.obstacleRows c (hsight c)⟩

end MultiAgentTracking

end

open MultiAgentTracking Env in
/-- The small environment, with its one target, after a reset. -/
theorem MultiAgentTracking.focus_decodes_solo :
    letI := rotating
    letI := SetOrder.increasing
    ∃ (start e : MultiAgentTracking (soloConfig (0, 0) 10 (by decide)) (Fin 4) Unit)
      (history : List (Method (soloConfig (0, 0) 10 (by decide)) Unit)) (normalized : List ℝ),
      Run Does start history e ∧ history ≠ []
        ∧ normalizeObservation e.state.1 (stateSpace (soloConfig (0, 0) 10 (by decide)))
          = .ok normalized
        ∧ extractTargetPositions normalized 0 1
          = .ok (List.ofFn (fun t => (e.targets t).location)) := by
  let _ := rotating
  let _ := SetOrder.increasing
  obtain ⟨start, e, observations, hinit, hdoes⟩ :=
    MultiAgentTracking.exists_solo_reset (0, 0) 10 (by decide) ⟨0, fun _ => ()⟩
  obtain ⟨⟨normalized, hnormalized, -, htargets, -⟩, -⟩ :=
    focus_decodes hinit (Run.nil.snoc hdoes)
  exact ⟨_, _, _, normalized, Run.nil.snoc hdoes, List.cons_ne_nil _ _, hnormalized, htargets⟩

open MultiAgentTracking Env in
/-- No obstacles cannot be decoded. -/
theorem MultiAgentTracking.no_obstacles_not_decoded :
    letI := rotating
    letI := SetOrder.increasing
    ∃ (memory : Memory Unit)
      (start e : MultiAgentTracking (soloConfig (0, 0) 10 (by decide)) (Fin 4) Unit)
      (history : List (Method (soloConfig (0, 0) 10 (by decide)) Unit)),
      init _ memory = .ok start ∧ Run Does start history e ∧
        ∀ normalized, normalizeObservation e.state.1
            (stateSpace (soloConfig (0, 0) 10 (by decide))) = .ok normalized →
          extractObstacles normalized 0 1 (soloConfig (0, 0) 10 (by decide)).numObstacles
            = .error (.runtimeError "stack expects a non-empty TensorList") := by
  let _ := rotating
  let _ := SetOrder.increasing
  obtain ⟨start, e, observations, hinit, hdoes⟩ :=
    MultiAgentTracking.exists_solo_reset (0, 0) 10 (by decide) ⟨0, fun _ => ()⟩
  exact ⟨_, _, _, _, hinit, Run.nil.snoc hdoes, fun normalized _ => rfl⟩

end Mate
