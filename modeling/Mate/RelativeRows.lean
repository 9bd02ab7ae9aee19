import Mate.Preprocessing

set_option autoImplicit false

/-! # What the relative coordinates are relative to

`convert_coordinates` subtracts abscissas and ordinates in turn from the masked entries. They stand
in pairs, so that the coordinates of an entity that is seen lose the coordinates of the agent, and
the row of one that is not seen stays as it is.
-/

namespace Mate

/-! ## Fields -/

theorem tile_eq_flatMap {α : Type} (row : List α) (n : ℕ) :
    Space.tile row n = (List.finRange n).flatMap (fun _ => row) := by
  rw [Space.tile, List.flatMap_def, List.map_const', List.length_finRange]

section

variable {α : Type} {m d n k : ℕ} {first rest : List α}

/-- An entry of row `i` of a field of rows. -/
theorem getElem?_field {rows : Fin n → List α} (hfirst : first.length = m)
    (hrows : ∀ i, (rows i).length = d) (i : Fin n) (hk : k < d) :
    (first ++ ((List.finRange n).flatMap rows ++ rest))[m + (i : ℕ) * d + k]? = (rows i)[k]? := by
  have hlt : d * (i : ℕ) + k < ((List.finRange n).flatMap rows).length := by
    rw [Layout.length_rows hrows]
    have hmul : (i : ℕ) * d + d ≤ n * d := by
      rw [← Nat.succ_mul]
      exact Nat.mul_le_mul_right d i.isLt
    rw [Nat.mul_comm d]
    omega
  have hindex : m + (i : ℕ) * d + k = first.length + (d * (i : ℕ) + k) := by
    rw [hfirst, Nat.mul_comm d, Nat.add_assoc]
  rw [hindex, Layout.getElem?_middle hlt, Layout.getElem?_rows hrows i hk]

/-- An entry of a bound that is repeated. -/
theorem getElem?_tile {row : List α} (hfirst : first.length = m) (hrow : row.length = d)
    (i : Fin n) (hk : k < d) :
    (first ++ (Space.tile row n ++ rest))[m + (i : ℕ) * d + k]? = row[k]? := by
  rw [tile_eq_flatMap]
  exact getElem?_field hfirst (fun _ => hrow) i hk

end

/-! ## Masked entries -/

/-- A masked entry loses the value whose turn it is. -/
theorem getElem?_subtractAt_of_true {mask : List Bool} {values converted : List ℝ} {k : ℕ} {v x : ℝ}
    (hmask : mask[k]? = some true) (hvalue : values[(mask.take k).count true]? = some v)
    (hx : converted[k]? = some x) : (subtractAt mask values converted)[k]? = some (x - v) := by
  -- along the mask; the values are used up by the entries that it masks
  fun_induction subtractAt mask values converted generalizing k with
  | case1 mask value values y converted ih =>
      cases k with
      | zero =>
          obtain rfl := Option.some.inj hvalue
          obtain rfl := Option.some.inj hx
          rfl
      | succ k =>
          rw [List.take_succ_cons, List.count_cons_self] at hvalue
          exact ih hmask hvalue hx
  | case2 b mask values y converted hnot ih =>
      cases k with
      | zero =>
          obtain rfl := Option.some.inj hmask
          cases values with
          | nil => cases hvalue
          | cons value values => exact absurd rfl (hnot value values rfl)
      | succ k =>
          cases b with
          | true =>
              cases values with
              | nil => cases hvalue
              | cons value values => exact absurd rfl (hnot value values rfl)
          | false =>
              rw [List.take_succ_cons, List.count_cons_of_ne (by decide)] at hvalue
              exact ih hmask hvalue hx
  | case3 mask values converted _ hnot =>
      cases mask with
      | nil => cases hmask
      | cons b mask =>
          cases converted with
          | nil => cases hx
          | cons y converted => exact absurd rfl (fun h => hnot b mask y converted h rfl)

/-- The origin is repeated often enough for a pair of entries. -/
theorem getElem?_origin {x y : ℝ} {n count k : ℕ} (hk : k < 2) (hlt : count < n) :
    (Space.tile [x, y] n)[2 * count + k]? = [x, y][k]? :=
  Layout.getElem?_replicate rfl (⟨count, hlt⟩ : Fin n) hk

/-- **Pairs** lose the origin: behind an even number of masked entries the abscissa comes first. -/
theorem getElem?_subtractAt_pair {mask : List Bool} {x y : ℝ} {converted : List ℝ} {start count : ℕ}
    (hcount : (mask.take start).count true = 2 * count) (hx : mask[start]? = some true)
    (hy : mask[start + 1]? = some true) {a b : ℝ} (ha : converted[start]? = some a)
    (hb : converted[start + 1]? = some b) :
    (subtractAt mask (Space.tile [x, y] (mask.count true / 2)) converted)[start]? = some (a - x) ∧
      (subtractAt mask (Space.tile [x, y] (mask.count true / 2)) converted)[start + 1]?
        = some (b - y) := by
  have htake : (mask.take (start + 1)).count true = 2 * count + 1 := by
    rw [List.take_add_one, hx, List.count_append, hcount]
    rfl
  have hlt : count < mask.count true / 2 := by
    have htwo : (mask.take (start + 1 + 1)).count true = 2 * count + 2 := by
      rw [List.take_add_one, hy, List.count_append, htake]
      rfl
    have hle := (List.take_sublist (start + 1 + 1) mask).count_le true
    omega
  constructor
  · refine getElem?_subtractAt_of_true hx ?_ ha
    rw [hcount]
    exact getElem?_origin (k := 0) (by decide) hlt
  · refine getElem?_subtractAt_of_true hy ?_ hb
    rw [htake]
    exact getElem?_origin (k := 1) (by decide) hlt

/-! ## The mask of what is seen -/

/-- The mask of an entity that is seen, or not. -/
def shownMask (DIM : ℕ) (seen : Bool) : List Bool :=
  List.zipWith (· && ·) (entityMask DIM) (List.replicate (DIM + 1) seen)

theorem zipWith_rows {n d : ℕ} {rows rows' : Fin n → List Bool} (h : ∀ i, (rows i).length = d)
    (h' : ∀ i, (rows' i).length = d) :
    List.zipWith (· && ·) ((List.finRange n).flatMap rows) ((List.finRange n).flatMap rows')
      = (List.finRange n).flatMap (fun i => List.zipWith (· && ·) (rows i) (rows' i)) := by
  induction n with
  | zero => rfl
  | succ n ih =>
      rw [List.finRange_succ, List.flatMap_cons, List.flatMap_cons, List.flatMap_cons,
        List.flatMap_map, List.flatMap_map, List.flatMap_map,
        List.zipWith_append ((h 0).trans (h' 0).symm)]
      exact congrArg _ (ih (fun i => h i.succ) (fun i => h' i.succ))

/-- Rows with even counts. -/
theorem count_take_rows {n d : ℕ} {rows : Fin n → List Bool} (h : ∀ i, (rows i).length = d)
    (heven : ∀ i, Even ((rows i).count true)) (i : ℕ) (hi : i ≤ n) :
    Even ((((List.finRange n).flatMap rows).take (i * d)).count true) := by
  induction n generalizing i with
  | zero => exact ⟨0, by simp⟩
  | succ n ih =>
      cases i with
      | zero => exact ⟨0, by simp⟩
      | succ i =>
          rw [List.finRange_succ, List.flatMap_cons, List.flatMap_map]
          have hlength : (i + 1) * d = (rows 0).length + i * d := by
            rw [h, Nat.succ_mul, Nat.add_comm]
          rw [hlength, List.take_length_add_append, List.count_append]
          exact (heven 0).add (ih (fun j => h j.succ) (fun j => heven j.succ) i
            (Nat.le_of_succ_le_succ hi))

/-- A mask is restricted from where the other one begins. -/
theorem restrictMask_append {head mask viewMask : List Bool} (h : mask.length = viewMask.length) :
    restrictMask (head ++ mask) viewMask = head ++ List.zipWith (· && ·) mask viewMask := by
  have hlength : (head ++ mask).length - viewMask.length = head.length := by
    rw [List.length_append, h, Nat.add_sub_cancel]
  rw [restrictMask, hlength, List.take_left' rfl, List.drop_left' rfl]

theorem restrictMask_rows {head rest viewRest : List Bool} {n d : ℕ} {rows rows' : Fin n → List Bool}
    (h : ∀ i, (rows i).length = d) (h' : ∀ i, (rows' i).length = d)
    (hrest : rest.length = viewRest.length) :
    restrictMask (head ++ ((List.finRange n).flatMap rows ++ rest))
        ((List.finRange n).flatMap rows' ++ viewRest)
      = head ++ ((List.finRange n).flatMap (fun i => List.zipWith (· && ·) (rows i) (rows' i))
        ++ List.zipWith (· && ·) rest viewRest) := by
  have hrows : ((List.finRange n).flatMap rows).length = ((List.finRange n).flatMap rows').length := by
    rw [Layout.length_rows h, Layout.length_rows h']
  rw [restrictMask_append, List.zipWith_append hrows, zipWith_rows h h']
  rw [List.length_append, List.length_append, hrows, hrest]

/-- The flags of the opponents repeated. -/
theorem repeatFlags_eq {slice : Slice} {DIM n : ℕ} {converted : List ℝ} {flags : Fin n → ℝ}
    (h : slice.read converted = List.ofFn flags) :
    repeatFlags slice DIM converted
      = (List.finRange n).flatMap (fun i => List.replicate (DIM + 1) (decide (flags i ≠ 0))) := by
  rw [repeatFlags, h, List.ofFn_eq_map, List.flatMap_map]

/-! ## Flags -/

/-- A slice of the flags of `n` rows reads one flag for every row. -/
theorem read_flags {start DIM n : ℕ} {l : List ℝ} (h : start + n * (DIM + 1) ≤ l.length) :
    ∃ flags : Fin n → ℝ,
      (⟨start + DIM, start + n * (DIM + 1), DIM + 1⟩ : Slice).read l = List.ofFn flags := by
  have hrow : ∀ i : Fin n, start + DIM + (DIM + 1) * (i : ℕ) < start + n * (DIM + 1) := by
    intro i
    have hle := Nat.mul_le_mul_right (DIM + 1) (Nat.succ_le_of_lt i.isLt)
    rw [Nat.succ_mul, Nat.mul_comm (i : ℕ)] at hle
    omega
  refine ⟨fun i => l.get ⟨start + DIM + (DIM + 1) * (i : ℕ), (hrow i).trans_le h⟩, ?_⟩
  show Layout.everyNth (DIM + 1) (Layout.slice (start + DIM) (start + n * (DIM + 1)) l) = _
  refine Layout.everyNth_eq_ofFn (by omega : 0 < DIM + 1) (fun i => ?_) (fun k hk => ?_)
  · rw [Layout.getElem?_slice, if_pos (hrow i), List.getElem?_eq_getElem ((hrow i).trans_le h)]
    rfl
  · have hle := Nat.mul_le_mul_right (DIM + 1) hk
    rw [Nat.mul_comm k] at hle
    rw [Layout.getElem?_slice, if_neg (by omega)]

section

variable {numCameras numTargets numObstacles : ℕ} {row : List ℝ}

theorem cameraObservationSlicesOf_masks (numCameras numTargets numObstacles : ℕ) :
    (observationSlicesOf .camera numCameras numTargets numObstacles).opponentMask
        = ⟨22 + 4, 22 + numTargets * (4 + 1), 4 + 1⟩ ∧
      (observationSlicesOf .camera numCameras numTargets numObstacles).obstacleMask
        = ⟨22 + numTargets * 5 + 3, 22 + numTargets * 5 + numObstacles * (3 + 1), 3 + 1⟩ ∧
      (observationSlicesOf .camera numCameras numTargets numObstacles).teammateMask
        = ⟨22 + numTargets * 5 + numObstacles * 4 + 6,
          22 + numTargets * 5 + numObstacles * 4 + numCameras * (6 + 1), 6 + 1⟩ := by
  have hindices := Env.observationIndicesOf_eq .camera numCameras numTargets numObstacles
  rw [Env.observationSlicesOf_eq .camera numCameras numTargets numObstacles _ rfl]
  simp only [hindices, Env.fieldWidths, Layout.offset]
  simp [Team.opponentStateDim, Team.teammateStateDim, PRESERVED_DIM, NUM_WAREHOUSES,
    CAMERA_STATE_DIM_PRIVATE, TARGET_STATE_DIM_PUBLIC, OBSTACLE_STATE_DIM, CAMERA_STATE_DIM_PUBLIC]
  omega

/-- **The mask of a camera**: behind the head, the coordinates of the targets it sees. -/
theorem restrictMask_camera
    (h : row.length = (observationSpaceOf .camera numCameras numTargets numObstacles).dim)
    {flags : Fin numTargets → ℝ}
    (hflags : (observationSlicesOf .camera numCameras numTargets numObstacles).opponentMask.read row
      = List.ofFn flags) :
    ∃ rest, restrictMask (coordinateMaskOf .camera numCameras numTargets numObstacles)
        (repeatFlags (observationSlicesOf .camera numCameras numTargets numObstacles).opponentMask
            Team.camera.opponentStateDim row
          ++ repeatFlags (observationSlicesOf .camera numCameras numTargets numObstacles).obstacleMask
            OBSTACLE_STATE_DIM row
          ++ repeatFlags (observationSlicesOf .camera numCameras numTargets numObstacles).teammateMask
            Team.camera.teammateStateDim row)
      = (preservedMask ++ List.replicate CAMERA_STATE_DIM_PRIVATE false)
        ++ ((List.finRange numTargets).flatMap (fun t => shownMask 4 (decide (flags t ≠ 0))) ++ rest) := by
  obtain ⟨hopponent, hobstacle, hteammate⟩ :=
    cameraObservationSlicesOf_masks numCameras numTargets numObstacles
  -- the row is as long as its fields, so that all flags can be read
  have hlength : row.length = 22 + numTargets * 5 + numObstacles * 4 + numCameras * 7 := by
    rw [h, Env.dim_observationSpaceOf, Env.observationIndicesOf_eq]
    simp [Env.fieldWidths, Layout.offset, PRESERVED_DIM, NUM_WAREHOUSES, CAMERA_STATE_DIM_PRIVATE,
      TARGET_STATE_DIM_PUBLIC, OBSTACLE_STATE_DIM, CAMERA_STATE_DIM_PUBLIC]
    omega
  obtain ⟨obstacleFlags, hobstacles⟩ : ∃ flags : Fin numObstacles → ℝ,
      (observationSlicesOf .camera numCameras numTargets numObstacles).obstacleMask.read row
        = List.ofFn flags := by
    rw [hobstacle]
    exact read_flags (by omega)
  obtain ⟨teammateFlags, hteammates⟩ : ∃ flags : Fin numCameras → ℝ,
      (observationSlicesOf .camera numCameras numTargets numObstacles).teammateMask.read row
        = List.ofFn flags := by
    rw [hteammate]
    exact read_flags (by omega)
  -- the mask has the head, and one block for every entity
  have hmask : coordinateMaskOf .camera numCameras numTargets numObstacles
      = (preservedMask ++ List.replicate CAMERA_STATE_DIM_PRIVATE false)
        ++ ((List.finRange numTargets).flatMap (fun _ => entityMask 4)
          ++ ((List.finRange numObstacles).flatMap (fun _ => entityMask 3)
            ++ (List.finRange numCameras).flatMap (fun _ => entityMask 6))) := by
    show cameraCoordinateMaskOf _ _ _ = _
    simp only [cameraCoordinateMaskOf, List.append_assoc, tile_eq_flatMap]
    rfl
  rw [hmask, repeatFlags_eq hflags, repeatFlags_eq hobstacles, repeatFlags_eq hteammates,
    List.append_assoc (List.flatMap _ (List.finRange numTargets))]
  refine ⟨_, restrictMask_rows (d := 5) (fun _ => rfl) (fun _ => List.length_replicate) ?_⟩
  rw [List.length_append, List.length_append, Layout.length_rows (fun _ => rfl),
    Layout.length_rows (fun _ => rfl), Layout.length_rows (fun _ => List.length_replicate),
    Layout.length_rows (fun _ => List.length_replicate)]
  rfl

/-- Behind the head, and behind whole rows, an even number of entries is masked. -/
theorem count_take_camera (mask : Fin numTargets → Bool) (rest : List Bool) (t : Fin numTargets) :
    ∃ count, ((preservedMask ++ List.replicate CAMERA_STATE_DIM_PRIVATE false
      ++ ((List.finRange numTargets).flatMap (fun t => shownMask 4 (mask t)) ++ rest)).take
        (22 + (t : ℕ) * 5)).count true = 2 * count := by
  have heven : ∀ t, Even ((shownMask 4 (mask t)).count true) := by
    intro t
    cases mask t with
    | false => exact ⟨0, rfl⟩
    | true => exact ⟨1, rfl⟩
  have hle : (t : ℕ) * 5 ≤ ((List.finRange numTargets).flatMap (fun t => shownMask 4 (mask t))).length := by
    rw [Layout.length_rows (d := 5) (fun _ => rfl)]
    exact Nat.mul_le_mul_right 5 t.isLt.le
  obtain ⟨m, hm⟩ := count_take_rows (d := 5) (fun _ => rfl) heven t t.isLt.le
  have hhead : 22 = (preservedMask ++ List.replicate CAMERA_STATE_DIM_PRIVATE false).length := rfl
  rw [hhead, List.take_length_add_append, List.count_append, List.take_append_of_le_length hle, hm]
  refine ⟨4 + m, ?_⟩
  show 8 + (m + m) = _
  omega

theorem getElem?_cameraMask (mask : Fin numTargets → Bool) (rest : List Bool) (t : Fin numTargets)
    {k : ℕ} (hk : k < 5) :
    (preservedMask ++ List.replicate CAMERA_STATE_DIM_PRIVATE false
      ++ ((List.finRange numTargets).flatMap (fun t => shownMask 4 (mask t)) ++ rest))[
        22 + (t : ℕ) * 5 + k]? = (shownMask 4 (mask t))[k]? :=
  getElem?_field (m := 22) (d := 5) rfl (fun _ => rfl) t hk

/-- **A target that is seen** is found relative to the camera. -/
theorem getElem?_relativeRow_seen
    (h : row.length = (observationSpaceOf .camera numCameras numTargets numObstacles).dim)
    {flags : Fin numTargets → ℝ}
    (hflags : (observationSlicesOf .camera numCameras numTargets numObstacles).opponentMask.read row
      = List.ofFn flags) {x y : ℝ}
    (horigin : Layout.slice PRESERVED_DIM (PRESERVED_DIM + 2) row = [x, y]) (t : Fin numTargets)
    (hseen : flags t ≠ 0) {a b : ℝ} (ha : row[22 + (t : ℕ) * 5 + 0]? = some a)
    (hb : row[22 + (t : ℕ) * 5 + 1]? = some b) :
    (relativeRow .camera numCameras numTargets numObstacles row)[22 + (t : ℕ) * 5 + 0]?
        = some (a - x) ∧
      (relativeRow .camera numCameras numTargets numObstacles row)[22 + (t : ℕ) * 5 + 1]?
        = some (b - y) := by
  obtain ⟨rest, hmask⟩ := restrictMask_camera h hflags
  obtain ⟨count, hcount⟩ := count_take_camera (fun t => decide (flags t ≠ 0)) rest t
  have hentry := fun k (hk : k < 5) =>
    getElem?_cameraMask (fun t => decide (flags t ≠ 0)) rest t hk
  rw [decide_eq_true hseen] at hentry
  unfold relativeRow
  dsimp only
  rw [hmask, horigin]
  exact getElem?_subtractAt_pair hcount (hentry 0 (by decide)) (hentry 1 (by decide)) ha hb

/-- The row of a target that is not seen stays. -/
theorem getElem?_relativeRow_unseen
    (h : row.length = (observationSpaceOf .camera numCameras numTargets numObstacles).dim)
    {flags : Fin numTargets → ℝ}
    (hflags : (observationSlicesOf .camera numCameras numTargets numObstacles).opponentMask.read row
      = List.ofFn flags) (t : Fin numTargets) (hunseen : flags t = 0) {k : ℕ} (hk : k < 5) :
    (relativeRow .camera numCameras numTargets numObstacles row)[22 + (t : ℕ) * 5 + k]?
      = row[22 + (t : ℕ) * 5 + k]? := by
  obtain ⟨rest, hmask⟩ := restrictMask_camera h hflags
  unfold relativeRow
  dsimp only
  rw [hmask]
  refine getElem?_subtractAt ?_
  rw [getElem?_cameraMask (fun t => decide (flags t ≠ 0)) rest t hk,
    decide_eq_false (not_not_intro hunseen)]
  interval_cases k <;> decide

end

end Mate
