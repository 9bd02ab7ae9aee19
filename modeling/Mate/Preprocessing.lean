import Mate.Codec

set_option autoImplicit false

/-! # Preprocessing of observations

`RelativeCoordinates` subtracts the location of the agent from the locations of the warehouses and
of the entities it sees, and `RescaledObservation` maps bounded entries to `[-1, 1]`. The agents of
RLlib do the same to their observations, if their policies were trained behind these wrappers.
Either keeps the head of a row, and the flags of the opponents in the row of a camera, so that a
row that was preprocessed still passes for an observation (`ObservationRow.transform`).
-/

namespace Mate

open Fallible

/-! ## Coordinates -/

def preservedMask : List Bool :=
  List.replicate (PRESERVED_DIM - 1 - 2 * NUM_WAREHOUSES) false
    ++ List.replicate (2 * NUM_WAREHOUSES) true ++ [false]

/-- The mask of the public state of an entity and its flag. -/
def entityMask (DIM : ℕ) : List Bool := [true, true] ++ List.replicate (DIM - 1) false

def cameraCoordinateMaskOf (numCameras numTargets numObstacles : ℕ) : List Bool :=
  preservedMask ++ List.replicate CAMERA_STATE_DIM_PRIVATE false
    ++ Space.tile (entityMask TARGET_STATE_DIM_PUBLIC) numTargets
    ++ Space.tile (entityMask OBSTACLE_STATE_DIM) numObstacles
    ++ Space.tile (entityMask CAMERA_STATE_DIM_PUBLIC) numCameras

def targetCoordinateMaskOf (numCameras numTargets numObstacles : ℕ) : List Bool :=
  preservedMask ++ List.replicate TARGET_STATE_DIM_PRIVATE false
    ++ Space.tile (entityMask CAMERA_STATE_DIM_PUBLIC) numCameras
    ++ Space.tile (entityMask OBSTACLE_STATE_DIM) numObstacles
    ++ Space.tile (entityMask TARGET_STATE_DIM_PUBLIC) numTargets

/-- `coordinate_mask_of`. -/
def coordinateMaskOf : Team → ℕ → ℕ → ℕ → List Bool
  | .camera => cameraCoordinateMaskOf
  | .target => targetCoordinateMaskOf

/-- `np.repeat(view_mask, repeats=DIM + 1, axis=-1)`, for the flags that a slice reads. -/
noncomputable def repeatFlags (slice : Slice) (DIM : ℕ) (converted : List ℝ) : List Bool :=
  (slice.read converted).flatMap (fun flag => List.replicate (DIM + 1) (decide (flag ≠ 0)))

/-- `coordinate_mask[..., -size:] = np.logical_and(coordinate_mask[..., -size:], view_mask)`. -/
def restrictMask (mask viewMask : List Bool) : List Bool :=
  mask.take (mask.length - viewMask.length)
    ++ List.zipWith (· && ·) (mask.drop (mask.length - viewMask.length)) viewMask

/-- `converted[mask] -= values`: the values are used up one after the other. -/
noncomputable def subtractAt : List Bool → List ℝ → List ℝ → List ℝ
  | true :: mask, value :: values, x :: converted => (x - value) :: subtractAt mask values converted
  | _ :: mask, values, x :: converted => x :: subtractAt mask values converted
  | _, _, converted => converted

/-- What `convert_coordinates` makes of the entries that the space has. There is an even number of
masked entries, an abscissa and an ordinate for every location. -/
noncomputable def relativeRow (team : Team) (numCameras numTargets numObstacles : ℕ)
    (converted : List ℝ) : List ℝ :=
  let slices := observationSlicesOf team numCameras numTargets numObstacles
  let viewMask := repeatFlags slices.opponentMask team.opponentStateDim converted
    ++ repeatFlags slices.obstacleMask OBSTACLE_STATE_DIM converted
    ++ repeatFlags slices.teammateMask team.teammateStateDim converted
  let coordinateMask :=
    restrictMask (coordinateMaskOf team numCameras numTargets numObstacles) viewMask
  let origin := Layout.slice PRESERVED_DIM (PRESERVED_DIM + 2) converted
  subtractAt coordinateMask (Space.tile origin (coordinateMask.count true / 2)) converted

/-- The message of the assertions about the size of an observation; the size that follows it in the
source is left out. -/
def featureSizeError (dim : ℕ) : Error :=
  .assertionError ("The feature size of the observation must be not less than " ++ toString dim
    ++ ".")

/-- `other_entities_size`. -/
def otherEntitiesSize : Team → ℕ → ℕ → ℕ → ℕ
  | .camera, numCameras, numTargets, numObstacles => numTargets * (TARGET_STATE_DIM_PUBLIC + 1)
      + numObstacles * (OBSTACLE_STATE_DIM + 1) + numCameras * (CAMERA_STATE_DIM_PUBLIC + 1)
  | .target, numCameras, numTargets, numObstacles => numCameras * (CAMERA_STATE_DIM_PUBLIC + 1)
      + numObstacles * (OBSTACLE_STATE_DIM + 1) + numTargets * (TARGET_STATE_DIM_PUBLIC + 1)

/-- The assignment to the last `otherEntitiesSize` entries of the mask is one to all of them if
that size is zero. -/
def broadcastError : Error := .valueError "operands could not be broadcast together"

noncomputable def convertCoordinates (observation : List ℝ) (team : Team)
    (numCameras numTargets numObstacles : ℕ) : Except Error (List ℝ) :=
  let observationSpace := observationSpaceOf team numCameras numTargets numObstacles
  if observation.length < observationSpace.dim then .error (featureSizeError observationSpace.dim)
  else if otherEntitiesSize team numCameras numTargets numObstacles = 0 then .error broadcastError
  else .ok (relativeRow team numCameras numTargets numObstacles (observation.take observationSpace.dim)
    ++ observation.drop observationSpace.dim)

/-! ## Scales -/

/-- An entry between its bounds. The lower ones are all finite. -/
noncomputable def rescaleEntry (low : ℚ) : WithTop ℚ → ℝ → ℝ
  | ⊤, x => x - low
  | (high : ℚ), x => if low < high then 2 * (x - low) / (high - low : ℚ) - 1 else x - low

/-- What `normalize_observation` makes of the entries that the space has. -/
noncomputable def rescaledRow (space : Space) (rescaled : List ℝ) : List ℝ :=
  List.zipWith (fun bounds x => rescaleEntry bounds.1 bounds.2 x) (space.low.zip space.high) rescaled

noncomputable def normalizeObservation (observation : List ℝ) (observationSpace : Space) :
    Except Error (List ℝ) :=
  if observation.length < observationSpace.dim then .error (featureSizeError observationSpace.dim)
  else .ok (rescaledRow observationSpace (observation.take observationSpace.dim)
    ++ observation.drop observationSpace.dim)

noncomputable def rescaleObservation (observation : List ℝ) (team : Team)
    (numCameras numTargets numObstacles : ℕ) : Except Error (List ℝ) :=
  normalizeObservation observation (observationSpaceOf team numCameras numTargets numObstacles)

/-! ## Both -/

/-- Which of the wrappers are around an environment. -/
structure Preprocessing where
  needConvertCoordinates : Bool
  needRescaleObservation : Bool

namespace Preprocessing

/-- One observation that comes through the wrappers. -/
noncomputable def apply (self : Preprocessing) (observation : List ℝ) (team : Team)
    (numCameras numTargets numObstacles : ℕ) : Except Error (List ℝ) := do
  let observation ←
    if self.needConvertCoordinates then
      convertCoordinates observation team numCameras numTargets numObstacles
    else .ok observation
  if self.needRescaleObservation then
    rescaleObservation observation team numCameras numTargets numObstacles
  else return observation

/-- What comes through for a row of the right length. -/
noncomputable def transform (self : Preprocessing) (team : Team)
    (numCameras numTargets numObstacles : ℕ) (row : List ℝ) : List ℝ :=
  let row := if self.needConvertCoordinates then relativeRow team numCameras numTargets numObstacles row
    else row
  if self.needRescaleObservation then
    rescaledRow (observationSpaceOf team numCameras numTargets numObstacles) row
  else row

end Preprocessing

/-- `preprocess_raw_observation`, with the counts that the agent was reset on. -/
noncomputable def AgentBase.preprocessRawObservation {team : Team} {G : Type}
    (self : AgentBase team G) (flags : Preprocessing) (observation : List ℝ) :
    Except Error (List ℝ) :=
  flags.apply observation team self.numCameras self.numTargets self.numObstacles

/-! ## Entries that stay -/

theorem length_subtractAt (mask : List Bool) (values converted : List ℝ) :
    (subtractAt mask values converted).length = converted.length := by
  fun_induction subtractAt mask values converted with
  | case1 mask value values x converted ih => exact congrArg (· + 1) ih
  | case2 b mask values x converted _ ih => exact congrArg (· + 1) ih
  | case3 => rfl

/-- Entries outside of the mask stay. -/
theorem getElem?_subtractAt {mask : List Bool} {values converted : List ℝ} {k : ℕ}
    (h : mask[k]? ≠ some true) : (subtractAt mask values converted)[k]? = converted[k]? := by
  fun_induction subtractAt mask values converted generalizing k with
  | case1 mask value values x converted ih =>
      cases k with
      | zero => exact absurd rfl h
      | succ k => exact ih h
  | case2 b mask values x converted _ ih =>
      cases k with
      | zero => rfl
      | succ k => exact ih h
  | case3 => rfl

/-- A mask is only ever restricted. -/
theorem getElem?_restrictMask {mask viewMask : List Bool} {k : ℕ}
    (h : (restrictMask mask viewMask)[k]? = some true) : mask[k]? = some true := by
  unfold restrictMask at h
  rw [List.getElem?_append] at h
  split at h
  · rw [List.getElem?_take] at h
    split at h
    · exact h
    · cases h
  · rename_i hk
    rw [List.length_take, Nat.min_eq_left (Nat.sub_le _ _), not_lt] at hk
    rw [List.length_take, Nat.min_eq_left (Nat.sub_le _ _), List.getElem?_zipWith,
      List.getElem?_drop, Nat.add_sub_cancel' hk] at h
    cases hmask : mask[k]? with
    | none =>
        rw [hmask] at h
        cases h
    | some b =>
        rw [hmask] at h
        cases hview : viewMask[k - (mask.length - viewMask.length)]? with
        | none =>
            rw [hview] at h
            cases h
        | some b' =>
            rw [hview] at h
            cases b with
            | true => rfl
            | false => cases h

section

variable {team : Team} {numCameras numTargets numObstacles : ℕ}

theorem length_relativeRow (row : List ℝ) :
    (relativeRow team numCameras numTargets numObstacles row).length = row.length :=
  length_subtractAt _ _ _

/-- Conversion changes coordinates and nothing else. -/
theorem getElem?_relativeRow {k : ℕ}
    (h : (coordinateMaskOf team numCameras numTargets numObstacles)[k]? ≠ some true) (row : List ℝ) :
    (relativeRow team numCameras numTargets numObstacles row)[k]? = row[k]? :=
  getElem?_subtractAt (fun hmask => h (getElem?_restrictMask hmask))

theorem length_rescaledRow {space : Space} {row : List ℝ} (h : row.length = space.dim) :
    (rescaledRow space row).length = space.dim := by
  rw [rescaledRow, List.length_zipWith, List.length_zip, space.length_high, h, Space.dim,
    Nat.min_self, Nat.min_self]

theorem getElem?_rescaledRow {space : Space} {k : ℕ} {low : ℚ} {high : WithTop ℚ}
    (hlow : space.low[k]? = some low) (hhigh : space.high[k]? = some high) (row : List ℝ) :
    (rescaledRow space row)[k]? = row[k]?.map (rescaleEntry low high) := by
  have hzip : (space.low.zip space.high)[k]? = some (low, high) :=
    List.getElem?_zip_eq_some.mpr ⟨hlow, hhigh⟩
  rw [rescaledRow, List.getElem?_zipWith, hzip]
  cases row[k]? with
  | none => rfl
  | some x => rfl

/-- Flags are scaled to themselves. -/
theorem rescaleEntry_flag (x : ℝ) : rescaleEntry (-1) ((1 : ℚ) : WithTop ℚ) x = x := by
  have hlt : (-1 : ℚ) < 1 := by norm_num
  show (if (-1 : ℚ) < 1 then 2 * (x - ((-1 : ℚ) : ℝ)) / (((1 : ℚ) - (-1) : ℚ) : ℝ) - 1
    else x - ((-1 : ℚ) : ℝ)) = x
  rw [if_pos hlt]
  push_cast
  ring

/-- Counts are scaled to themselves. -/
theorem rescaleEntry_count (x : ℝ) : rescaleEntry 0 ⊤ x = x := by
  show x - ((0 : ℚ) : ℝ) = x
  rw [Rat.cast_zero, sub_zero]

theorem Preprocessing.length_transform (self : Preprocessing) {row : List ℝ}
    (h : row.length = (observationSpaceOf team numCameras numTargets numObstacles).dim) :
    (self.transform team numCameras numTargets numObstacles row).length
      = (observationSpaceOf team numCameras numTargets numObstacles).dim := by
  have hrelative : (if self.needConvertCoordinates then
      relativeRow team numCameras numTargets numObstacles row else row).length
        = (observationSpaceOf team numCameras numTargets numObstacles).dim := by
    split
    · rw [length_relativeRow, h]
    · exact h
  unfold Preprocessing.transform
  show (if self.needRescaleObservation then _ else _ : List ℝ).length = _
  split
  · exact length_rescaledRow hrelative
  · exact hrelative

/-- An entry that is no coordinate and that its bounds scale to itself. -/
theorem Preprocessing.getElem?_transform (self : Preprocessing) {k : ℕ} {low : ℚ}
    {high : WithTop ℚ}
    (hmask : (coordinateMaskOf team numCameras numTargets numObstacles)[k]? ≠ some true)
    (hlow : (observationSpaceOf team numCameras numTargets numObstacles).low[k]? = some low)
    (hhigh : (observationSpaceOf team numCameras numTargets numObstacles).high[k]? = some high)
    (hfixed : ∀ x, rescaleEntry low high x = x) (row : List ℝ) :
    (self.transform team numCameras numTargets numObstacles row)[k]? = row[k]? := by
  have hrelative : (if self.needConvertCoordinates then
      relativeRow team numCameras numTargets numObstacles row else row)[k]? = row[k]? := by
    split
    · exact getElem?_relativeRow hmask row
    · rfl
  unfold Preprocessing.transform
  show (if self.needRescaleObservation then _ else _ : List ℝ)[k]? = _
  split
  · rw [getElem?_rescaledRow hlow hhigh, hrelative, funext hfixed, Option.map_id']
  · exact hrelative

theorem otherEntitiesSize_ne_zero (h : 0 < numCameras + numTargets + numObstacles) :
    otherEntitiesSize team numCameras numTargets numObstacles ≠ 0 := by
  cases team with
  | camera =>
      show numTargets * 5 + numObstacles * 4 + numCameras * 7 ≠ 0
      omega
  | target =>
      show numCameras * 7 + numObstacles * 4 + numTargets * 5 ≠ 0
      omega

/-- A row of the right length is converted as a whole. -/
theorem convertCoordinates_eq_ok (hentities : 0 < numCameras + numTargets + numObstacles)
    {row : List ℝ}
    (h : row.length = (observationSpaceOf team numCameras numTargets numObstacles).dim) :
    convertCoordinates row team numCameras numTargets numObstacles
      = .ok (relativeRow team numCameras numTargets numObstacles row) := by
  rw [convertCoordinates, if_neg h.not_lt, if_neg (otherEntitiesSize_ne_zero hentities),
    List.take_of_length_le h.le, List.drop_eq_nil_of_le h.le, List.append_nil]

/-- A row of the right length is rescaled as a whole. -/
theorem normalizeObservation_eq_ok {space : Space} {row : List ℝ} (h : row.length = space.dim) :
    normalizeObservation row space = .ok (rescaledRow space row) := by
  rw [normalizeObservation, if_neg h.not_lt, List.take_of_length_le h.le,
    List.drop_eq_nil_of_le h.le, List.append_nil]

/-- Rows of the right length come through the wrappers. -/
theorem Preprocessing.apply_eq_ok (self : Preprocessing) {row : List ℝ}
    (hentities : 0 < numCameras + numTargets + numObstacles)
    (h : row.length = (observationSpaceOf team numCameras numTargets numObstacles).dim) :
    self.apply row team numCameras numTargets numObstacles
      = .ok (self.transform team numCameras numTargets numObstacles row) := by
  have hlength : (relativeRow team numCameras numTargets numObstacles row).length
      = (observationSpaceOf team numCameras numTargets numObstacles).dim := by
    rw [length_relativeRow, h]
  have hconvert := convertCoordinates_eq_ok hentities h
  unfold apply transform
  by_cases hneed : self.needConvertCoordinates = true
  · rw [if_pos hneed, if_pos hneed, hconvert]
    dsimp only [bind, Except.bind]
    split
    · exact normalizeObservation_eq_ok hlength
    · rfl
  · rw [if_neg hneed, if_neg hneed]
    dsimp only [bind, Except.bind]
    split
    · exact normalizeObservation_eq_ok h
    · rfl

end

/-! ## Rows -/

/-- Where the flags of the opponents are in the row of a camera. -/
theorem getElem?_tile_camera {α : Type} {head : List α} (hhead : head.length = 22) {row : List α}
    (hrow : row.length = 5) {numTargets : ℕ} (rest rest' : List α) (j : Fin numTargets) :
    (head ++ Space.tile row numTargets ++ rest ++ rest')[26 + 5 * (j : ℕ)]? = row[4]? := by
  have hk : 5 * (j : ℕ) + 4 < (Space.tile row numTargets).length := by
    have := j.isLt
    rw [Space.tile, List.length_flatten, List.map_replicate, List.sum_replicate_nat, hrow]
    omega
  have hindex : 26 + 5 * (j : ℕ) = head.length + (5 * (j : ℕ) + 4) := by omega
  rw [List.append_assoc, List.append_assoc, hindex, Layout.getElem?_middle hk]
  exact Layout.getElem?_replicate hrow j (by omega)

/-- The flags of the opponents in the row of a camera stay. -/
theorem Preprocessing.opponentMask_transform (self : Preprocessing)
    {numCameras numTargets numObstacles : ℕ} {row : List ℝ}
    (h : row.length = (observationSpaceOf .camera numCameras numTargets numObstacles).dim) :
    (observationSlicesOf .camera numCameras numTargets numObstacles).opponentMask.read
        (self.transform .camera numCameras numTargets numObstacles row)
      = (observationSlicesOf .camera numCameras numTargets numObstacles).opponentMask.read row := by
  refine Layout.everyNth_slice_congr ((self.length_transform h).trans h.symm) (fun k hk => ?_)
  have hj : k < numTargets := by
    simp only [observationSlicesOf, cameraObservationSlicesOf, cameraObservationIndicesOf, cumsum,
      List.ofFn_succ, PRESERVED_DIM, CAMERA_STATE_DIM_PRIVATE, TARGET_STATE_DIM_PUBLIC] at hk
    simp at hk
    omega
  refine self.getElem?_transform ?_ ?_ ?_ rescaleEntry_flag row
  · have hmask := getElem?_tile_camera (rfl : (preservedMask
      ++ List.replicate CAMERA_STATE_DIM_PRIVATE false).length = 22)
      (rfl : (entityMask TARGET_STATE_DIM_PUBLIC).length = 5)
      (Space.tile (entityMask OBSTACLE_STATE_DIM) numObstacles)
      (Space.tile (entityMask CAMERA_STATE_DIM_PUBLIC) numCameras) ⟨k, hj⟩
    intro htrue
    have hfalse := hmask.symm.trans htrue
    cases hfalse
  · exact getElem?_tile_camera (rfl : (PRESERVED_SPACE.low
      ++ CAMERA_STATE_SPACE_PRIVATE.low).length = 22)
      (rfl : (TARGET_STATE_SPACE_PUBLIC.low ++ [-1]).length = 5) _ _ ⟨k, hj⟩
  · exact getElem?_tile_camera (rfl : (PRESERVED_SPACE.high
      ++ CAMERA_STATE_SPACE_PRIVATE.high).length = 22)
      (rfl : (TARGET_STATE_SPACE_PUBLIC.high ++ [1]).length = 5) _ _ ⟨k, hj⟩

namespace Env.ObservationRow

variable {cfg : Config} {team : Team} {i : Fin (cfg.teamSize team)} {row : List ℝ}

theorem length_eq_dim (h : ObservationRow cfg team i row) :
    row.length = (observationSpaceOf team cfg.numCameras cfg.numTargets cfg.numObstacles).dim :=
  h.length_eq.trans (dim_observationSpaceOf team _ _ _).symm

/-- **A preprocessed row** passes for an observation. -/
theorem transform (h : ObservationRow cfg team i row) (flags : Preprocessing) :
    ObservationRow cfg team i
      (flags.transform team cfg.numCameras cfg.numTargets cfg.numObstacles row) where
  length_eq := (flags.length_transform h.length_eq_dim).trans (dim_observationSpaceOf team _ _ _)
  head := by
    intro k
    rw [← h.head k]
    refine flags.getElem?_transform ?_ ?_ ?_ rescaleEntry_count row
    · intro htrue
      cases team <;> fin_cases k <;> cases htrue
    · cases team <;> fin_cases k <;> rfl
    · cases team <;> fin_cases k <;> rfl

theorem apply (h : ObservationRow cfg team i row) (flags : Preprocessing) :
    flags.apply row team cfg.numCameras cfg.numTargets cfg.numObstacles
      = .ok (flags.transform team cfg.numCameras cfg.numTargets cfg.numObstacles row) := by
  have hagent : 0 < cfg.teamSize team := i.pos
  have hentities : 0 < cfg.numCameras + cfg.numTargets + cfg.numObstacles := by
    cases team with
    | camera =>
        have hcameras : 0 < cfg.numCameras := hagent
        omega
    | target =>
        have htargets : 0 < cfg.numTargets := hagent
        omega
  exact flags.apply_eq_ok hentities h.length_eq_dim

/-- An agent that knows the layout preprocesses the row as the wrappers do. -/
theorem preprocessRawObservation {G : Type} (h : ObservationRow cfg team i row)
    {agent : AgentBase team G} (hagent : agent.Knows cfg i) (flags : Preprocessing) :
    agent.preprocessRawObservation flags row
      = .ok (flags.transform team cfg.numCameras cfg.numTargets cfg.numObstacles row) := by
  rw [AgentBase.preprocessRawObservation, hagent.numCameras, hagent.numTargets,
    hagent.numObstacles, h.apply]

end Env.ObservationRow

end Mate
