import Mate.Codec

set_option autoImplicit false

/-! # The shared field of view

`SharedFieldOfView` overwrites three fields in every row of a team: those of the opponents, of the
obstacles and of the teammates. The rows of the targets get the same empty bits as well. What the
agents of a team are shown is a `TeamView`, and sharing it is to take the union of what they see
(`TeamView.share`). The wrapper does to the rows what sharing does to the views
(`observation_showing`), and a shared view is shared already (`TeamView.share_share`).
-/

namespace Mate

open Env Fallible Runs

/-! ## The wrapper -/

/-- The argument `team` of the wrapper. -/
inductive SharedTeam
  | both
  | camera
  | target
  | none
  deriving DecidableEq

/-- `row[s] = values`, for a slice without gaps that has as many entries. -/
def Slice.write (s : Slice) (values row : List ℝ) : List ℝ := Layout.overwrite s.start values row

open Classical in
/-- Entry `j` of `rows[..., s].any(axis=0)`. -/
noncomputable def Slice.any {n : ℕ} (s : Slice) (rows : Fin n → List ℝ) (j : ℕ) : Bool :=
  decide (∃ i, (s.read (rows i)).getD j 0 ≠ 0)

/-- `np.where(mask, rows, 0.0).ravel()`. -/
def whereRows {n : ℕ} (mask : Fin n → Bool) (rows : Fin n → List ℝ) : List ℝ :=
  ravel (fun j => whereMask (mask j) (rows j))

namespace SharedFieldOfView

variable {cfg : Config}

def sharedCamera (team : SharedTeam) : Bool := team = .camera || team = .both

def sharedTarget (team : SharedTeam) : Bool := team = .target || team = .both

/-- `camera_states_public_flagged`. -/
def cameraStatesPublicFlagged (observation : Observations cfg) (c : Fin cfg.numCameras) : List ℝ :=
  flagged (Layout.slice PRESERVED_DIM (PRESERVED_DIM + CAMERA_STATE_DIM_PUBLIC)
    (observation.camera c))

/-- `target_states_public_flagged`. -/
def targetStatesPublicFlagged (observation : Observations cfg) (t : Fin cfg.numTargets) : List ℝ :=
  flagged (Layout.slice PRESERVED_DIM (PRESERVED_DIM + TARGET_STATE_DIM_PUBLIC)
    (observation.target t))

/-- `target_empty_bits_slice`. -/
def targetEmptyBitsSlice (cfg : Config) : Slice :=
  let indices := targetObservationIndicesOf cfg.numCameras cfg.numTargets cfg.numObstacles
  { start := indices 2 - NUM_WAREHOUSES, stop := indices 2 }

variable (obstacleStatesFlagged : Fin cfg.numObstacles → List ℝ)

/-- The branch `if self.shared_camera`. -/
noncomputable def shareCamera (observation : Observations cfg) : Fin cfg.numCameras → List ℝ :=
  let slices := cameraObservationSlicesOf cfg.numCameras cfg.numTargets cfg.numObstacles
  let sharedTargetMask := fun t : Fin cfg.numTargets => slices.opponentMask.any observation.camera t
  let sharedObstacleMask := fun o : Fin cfg.numObstacles =>
    slices.obstacleMask.any observation.camera o
  fun c =>
    let row := slices.opponentStatesWithMask.write
      (whereRows sharedTargetMask (targetStatesPublicFlagged observation)) (observation.camera c)
    let row := slices.obstacleStatesWithMask.write
      (whereRows sharedObstacleMask obstacleStatesFlagged) row
    slices.teammateStatesWithMask.write (ravel (cameraStatesPublicFlagged observation)) row

/-- The branch `if self.shared_target`. -/
noncomputable def shareTarget (observation : Observations cfg) : Fin cfg.numTargets → List ℝ :=
  let slices := targetObservationSlicesOf cfg.numCameras cfg.numTargets cfg.numObstacles
  let sharedCameraMask := fun c : Fin cfg.numCameras => slices.opponentMask.any observation.target c
  let sharedObstacleMask := fun o : Fin cfg.numObstacles =>
    slices.obstacleMask.any observation.target o
  let sharedEmptyBits := (List.finRange NUM_WAREHOUSES).map (fun w : Warehouse =>
    if (targetEmptyBitsSlice cfg).any observation.target w then 1 else 0)
  fun t =>
    let row := (targetEmptyBitsSlice cfg).write sharedEmptyBits (observation.target t)
    let row := slices.opponentStatesWithMask.write
      (whereRows sharedCameraMask (cameraStatesPublicFlagged observation)) row
    let row := slices.obstacleStatesWithMask.write
      (whereRows sharedObstacleMask obstacleStatesFlagged) row
    slices.teammateStatesWithMask.write (ravel (targetStatesPublicFlagged observation)) row

/-- `observation`, where the environment has the obstacles `obstacle_states_flagged`. -/
noncomputable def observation (team : SharedTeam) (observation : Observations cfg) :
    Observations cfg :=
  if !(sharedCamera team || sharedTarget team) then observation
  else
    -- the arrays are written in place, and neither branch reads what the other one writes
    { camera :=
        if sharedCamera team then shareCamera obstacleStatesFlagged observation
        else observation.camera
      target :=
        if sharedTarget team then shareTarget obstacleStatesFlagged observation
        else observation.target }

/-- The setting shares the views of a team. -/
def shares (team : SharedTeam) : Team → Bool
  | .camera => sharedCamera team
  | .target => sharedTarget team

end SharedFieldOfView

/-! ## Views -/

/-- What the agents of a team are shown: whom, and which warehouses are marked as empty. -/
@[ext]
structure TeamView (cfg : Config) (team : Team) where
  emptyBits : Fin (cfg.teamSize team) → Warehouse → Bool
  opponentMask : Fin (cfg.teamSize team) → Fin (cfg.teamSize team.opponent) → Bool
  obstacleMask : Fin (cfg.teamSize team) → Fin cfg.numObstacles → Bool
  teammateMask : Fin (cfg.teamSize team) → Fin (cfg.teamSize team) → Bool

/-- What any of the rows of a mask has. -/
def anyRow {n : ℕ} {κ : Type} (mask : Fin n → κ → Bool) (_ : Fin n) (k : κ) : Bool :=
  decide (∃ i, mask i k = true)

/-- What any row has of the union, the union has. -/
theorem anyRow_anyRow {n : ℕ} {κ : Type} (mask : Fin n → κ → Bool) :
    anyRow (anyRow mask) = anyRow mask := by
  funext i k
  refine decide_eq_decide.mpr ⟨fun ⟨_, h⟩ => of_decide_eq_true h, fun h => ⟨i, decide_eq_true h⟩⟩

namespace TeamView

variable {cfg : Config} {team : Team}

/-- **The shared view**: everyone is shown what anyone is shown, and all teammates. -/
def share (view : TeamView cfg team) : TeamView cfg team where
  emptyBits := anyRow view.emptyBits
  opponentMask := anyRow view.opponentMask
  obstacleMask := anyRow view.obstacleMask
  teammateMask := fun _ _ => true

theorem share_share (view : TeamView cfg team) : view.share.share = view.share := by
  ext1
  · exact anyRow_anyRow view.emptyBits
  · exact anyRow_anyRow view.opponentMask
  · exact anyRow_anyRow view.obstacleMask
  · rfl

end TeamView

/-! ## The rows that show a view -/

namespace Env

variable {cfg : Config} {G V : Type}

/-- What the environment shows a team. The empty bits are those of the targets. -/
def view (self : Env cfg G V) : (team : Team) → TeamView cfg team
  | .camera => ⟨fun _ _ => false, self.viewMask .camera .target, self.obstacleViewMask .camera,
      self.viewMask .camera .camera⟩
  | .target => ⟨self.cargo.emptyBits, self.viewMask .target .camera, self.obstacleViewMask .target,
      self.viewMask .target .target⟩

/-- The private state of an agent up to the empty bits. -/
noncomputable def knownState (self : Env cfg G V) :
    (team : Team) → Fin (cfg.teamSize team) → List ℝ
  | .camera, c => (self.cameras c).statePrivate
  | .target, t => (self.targets t).statePublic (self.cargo.goalBits t)
      ++ [(self.targets t).stepSize, ((self.targets t).capacity : ℝ)]
      ++ (List.finRange NUM_WAREHOUSES).map (fun w => (self.cargo.goalBits t w : ℝ))

/-- The empty bits in a row of the team. -/
def bitEntries (team : Team) (emptyBits : Warehouse → Bool) : List ℝ :=
  match team with
  | .camera => []
  | .target => (List.finRange NUM_WAREHOUSES).map (fun w => if emptyBits w then 1 else 0)

/-- The fields of row `i` for a view. -/
noncomputable def viewFields (self : Env cfg G V) {team : Team} (view : TeamView cfg team)
    (i : Fin (cfg.teamSize team)) : List (List ℝ) :=
  [(preservedData cfg).set 3 (i : ℕ),
    self.knownState team i ++ bitEntries team (view.emptyBits i),
    whereRows (view.opponentMask i) (fun j => flagged (self.publicState team.opponent j)),
    whereRows (view.obstacleMask i) (fun o => flagged (self.obstacles o).state),
    whereRows (view.teammateMask i) (fun j => flagged (self.publicState team j))]

/-- The rows of a view. -/
noncomputable def viewRow (self : Env cfg G V) {team : Team} (view : TeamView cfg team)
    (i : Fin (cfg.teamSize team)) : List ℝ :=
  (self.viewFields view i).flatten

/-- The rows of a view of the cameras and of one of the targets. -/
noncomputable def showing (self : Env cfg G V) (camera : TeamView cfg .camera)
    (target : TeamView cfg .target) : Observations cfg :=
  ⟨self.viewRow camera, self.viewRow target⟩

variable {self : Env cfg G V}

theorem fields_eq_viewFields (team : Team) (i : Fin (cfg.teamSize team)) :
    self.fields team i = self.viewFields (self.view team) i := by
  cases team with
  | camera =>
      show [_, (self.cameras i).statePrivate, _, _, _] = _
      rw [viewFields, knownState, bitEntries, List.append_nil]
      rfl
  | target => rfl

theorem row_eq_viewRow (h : self.ShowsObstacles) (team : Team) (i : Fin (cfg.teamSize team)) :
    self.jointObservation.1.row team i = self.viewRow (self.view team) i := by
  rw [row_eq_flatten h, viewRow, fields_eq_viewFields]

theorem jointObservation_eq_showing (h : self.ShowsObstacles) :
    self.jointObservation.1 = self.showing (self.view .camera) (self.view .target) := by
  have hcamera : self.jointObservation.1.camera = self.viewRow (self.view .camera) :=
    funext (row_eq_viewRow h .camera)
  have htarget : self.jointObservation.1.target = self.viewRow (self.view .target) :=
    funext (row_eq_viewRow h .target)
  rw [showing, ← hcamera, ← htarget]

/-! ## Fields of the rows -/

section Fields

variable (self : Env cfg G V) {team : Team} (view : TeamView cfg team) (i : Fin (cfg.teamSize team))

omit team view i in
theorem length_knownState (team : Team) (i : Fin (cfg.teamSize team))
    (bits : Warehouse → Bool) :
    (self.knownState team i ++ bitEntries team bits).length = team.stateDim := by
  cases team <;> rfl

theorem length_obstacle (o : Fin cfg.numObstacles) :
    (self.obstacles o).state.length = OBSTACLE_STATE_DIM := rfl

theorem map_length_viewFields : (self.viewFields view i).map List.length
    = fieldWidths team cfg.numCameras cfg.numTargets cfg.numObstacles := by
  simp only [viewFields, whereRows, List.map_cons, List.map_nil, List.length_set,
    length_knownState, length_ravel_masked _ (self.length_publicState _),
    length_ravel_masked _ self.length_obstacle, length_preservedData]
  cases team <;> rfl

/-- **Cutting a row of a view** gives back its fields. -/
theorem slice_viewRow (k : Fin 5) :
    Layout.slice
        (observationIndicesOf team cfg.numCameras cfg.numTargets cfg.numObstacles k.castSucc)
        (observationIndicesOf team cfg.numCameras cfg.numTargets cfg.numObstacles k.succ)
        (self.viewRow view i) = (self.viewFields view i).get k := by
  rw [observationIndicesOf_eq, observationIndicesOf_eq, ← map_length_viewFields self view i]
  exact Layout.slice_flatten (self.viewFields view i) k k.isLt

theorem length_viewRow : (self.viewRow view i).length
    = observationIndicesOf team cfg.numCameras cfg.numTargets cfg.numObstacles 5 := by
  rw [viewRow, List.length_flatten, map_length_viewFields, observationIndicesOf_eq]
  cases team <;> rfl

/-- Overwriting a field of a row that has the widths of the team. -/
theorem overwrite_field {fields : List (List ℝ)}
    (h : fields.map List.length = fieldWidths team cfg.numCameras cfg.numTargets cfg.numObstacles)
    {k : ℕ} (hk : k < fields.length) {values : List ℝ} (hvalues : values.length = fields[k].length) :
    Layout.overwrite (Layout.offset
        (fieldWidths team cfg.numCameras cfg.numTargets cfg.numObstacles) k) values fields.flatten
      = (fields.set k values).flatten := by
  rw [← h]
  exact Layout.overwrite_flatten fields k hk hvalues

/-- The state begins with the public state, whose length is that of the slice. -/
theorem slice_publicState : Layout.slice PRESERVED_DIM (PRESERVED_DIM + team.teammateStateDim)
    (self.viewRow view i) = self.publicState team i := by
  obtain ⟨rest, hrest⟩ : ∃ rest, self.knownState team i ++ bitEntries team (view.emptyBits i)
      = self.publicState team i ++ rest := by
    cases team with
    | camera => exact ⟨_, List.append_assoc _ _ _⟩
    | target => exact ⟨_, (List.append_assoc (_ ++ _) _ _).trans (List.append_assoc _ _ _)⟩
  have hlength : (self.publicState team i).length = team.teammateStateDim :=
    self.length_publicState team i
  have hhead : ((preservedData cfg).set 3 ((i : ℕ) : ℝ)).length = PRESERVED_DIM := by
    rw [List.length_set, length_preservedData]
  rw [viewRow, viewFields, hrest, List.flatten_cons, List.flatten_cons, List.append_assoc,
    ← hhead, ← hlength, Layout.slice, List.take_length_add_append, List.take_left',
    List.drop_left']
  · rfl
  · rfl

/-! ## What the wrapper reads -/

theorem any_eq {n m : ℕ} {s : Slice} {rows : Fin n → List ℝ} {mask : Fin n → Fin m → Bool}
    (h : ∀ i, s.read (rows i) = List.ofFn (fun j => if mask i j then 1 else 0)) (i : Fin n)
    (j : Fin m) : s.any rows j = anyRow mask i j := by
  refine decide_eq_decide.mpr (exists_congr (fun k => ?_))
  have hget : (s.read (rows k)).getD (j : ℕ) 0 = if mask k j then 1 else 0 := by
    rw [h]
    simp
  rw [hget]
  by_cases hk : mask k j
  · simp [hk]
  · simp [hk]

/-- The mask of the opponents. -/
theorem any_opponentMask (j : Fin (cfg.teamSize team.opponent)) :
    (observationSlicesOf team cfg.numCameras cfg.numTargets cfg.numObstacles).opponentMask.any
      (self.viewRow view) j = anyRow view.opponentMask i j := by
  refine any_eq (fun k => ?_) i j
  have hread := Slice.read_mask (self.length_publicState team.opponent)
    (slice_viewRow self view k 2)
  cases team with
  | camera => exact hread
  | target => exact hread

/-- The mask of the obstacles. -/
theorem any_obstacleMask (o : Fin cfg.numObstacles) :
    (observationSlicesOf team cfg.numCameras cfg.numTargets cfg.numObstacles).obstacleMask.any
      (self.viewRow view) o = anyRow view.obstacleMask i o := by
  refine any_eq (fun k => ?_) i o
  have hread := Slice.read_mask self.length_obstacle
    (slice_viewRow self view k 3)
  cases team with
  | camera => exact hread
  | target => exact hread

end Fields

/-! ## The empty bits -/

section EmptyBits

variable (self : Env cfg G V) (view : TeamView cfg .target) (t : Fin cfg.numTargets)

/-- The fields of a target, with the empty bits as a field of their own. -/
noncomputable def bitFields : List (List ℝ) :=
  [(preservedData cfg).set 3 ((t : ℕ) : ℝ), self.knownState .target t,
    bitEntries .target (view.emptyBits t)] ++ (self.viewFields view t).drop 2

theorem viewRow_eq_bitFields : self.viewRow view t = (self.bitFields view t).flatten := by
  simp [viewRow, viewFields, bitFields]

theorem targetEmptyBitsSlice_eq :
    SharedFieldOfView.targetEmptyBitsSlice cfg = { start := 23, stop := 27 } := by
  have hindex : targetObservationIndicesOf cfg.numCameras cfg.numTargets cfg.numObstacles 2 = 27 :=
    observationIndicesOf_eq .target cfg.numCameras cfg.numTargets cfg.numObstacles 2
  simp only [SharedFieldOfView.targetEmptyBitsSlice, hindex]
  rfl

theorem offset_bitFields : Layout.offset ((self.bitFields view t).map List.length) 2 = 23 ∧
    Layout.offset ((self.bitFields view t).map List.length) 3 = 27 := by
  have hknown : (self.knownState .target t).length = 10 := rfl
  have hbits : (bitEntries .target (view.emptyBits t)).length = 4 := rfl
  have hhead : ((preservedData cfg).set 3 ((t : ℕ) : ℝ)).length = 13 := by
    rw [List.length_set, length_preservedData]
    rfl
  simp [bitFields, Layout.offset, hknown, hbits, hhead]

theorem any_emptyBits (w : Warehouse) :
    (SharedFieldOfView.targetEmptyBitsSlice cfg).any (self.viewRow view) w
      = anyRow view.emptyBits t w := by
  refine any_eq (fun k => ?_) t w
  obtain ⟨hstart, hstop⟩ := offset_bitFields self view k
  have hslice := Layout.slice_flatten (self.bitFields view k) 2 (by simp [bitFields])
  rw [hstart, hstop, ← viewRow_eq_bitFields] at hslice
  rw [targetEmptyBitsSlice_eq, Slice.read, Layout.everyNth_one, hslice, List.ofFn_eq_map]
  rfl

/-- Overwriting the empty bits of a row. -/
theorem write_emptyBits (bits : Warehouse → Bool) :
    (SharedFieldOfView.targetEmptyBitsSlice cfg).write (bitEntries .target bits)
        (self.viewRow view t)
      = self.viewRow { view with emptyBits := fun _ => bits } t := by
  obtain ⟨hstart, -⟩ := offset_bitFields self view t
  have hlength : (bitEntries .target bits).length = (bitEntries .target (view.emptyBits t)).length :=
    rfl
  have hwrite := Layout.overwrite_flatten (self.bitFields view t) 2 (by simp [bitFields]) hlength
  rw [hstart, ← viewRow_eq_bitFields] at hwrite
  rw [targetEmptyBitsSlice_eq, Slice.write, hwrite, viewRow_eq_bitFields]
  rfl

end EmptyBits

/-! ## What the wrapper writes -/

section Writes

variable (self : Env cfg G V) {team : Team} (view : TeamView cfg team)

omit team view in
theorem length_agentRows (other : Team) (mask : Fin (cfg.teamSize other) → Bool) :
    (whereRows mask (fun j => flagged (self.publicState other j))).length
      = cfg.teamSize other * (other.teammateStateDim + 1) :=
  length_ravel_masked mask (self.length_publicState other)

omit team view in
theorem length_obstacleRows (mask : Fin cfg.numObstacles → Bool) :
    (whereRows mask (fun o => flagged (self.obstacles o).state)).length
      = cfg.numObstacles * (OBSTACLE_STATE_DIM + 1) :=
  length_ravel_masked mask self.length_obstacle

/-- **The three fields** of another view are written over a row. -/
theorem write_viewRow (view' : TeamView cfg team) (i : Fin (cfg.teamSize team))
    (hbits : bitEntries team (view'.emptyBits i) = bitEntries team (view.emptyBits i)) :
    let slices := observationSlicesOf team cfg.numCameras cfg.numTargets cfg.numObstacles
    slices.teammateStatesWithMask.write
        (whereRows (view'.teammateMask i) (fun j => flagged (self.publicState team j)))
      (slices.obstacleStatesWithMask.write
          (whereRows (view'.obstacleMask i) (fun o => flagged (self.obstacles o).state))
        (slices.opponentStatesWithMask.write
          (whereRows (view'.opponentMask i) (fun j => flagged (self.publicState team.opponent j)))
          (self.viewRow view i)))
      = self.viewRow view' i := by
  intro slices
  have hwidths := map_length_viewFields self view i
  have hstart : slices.opponentStatesWithMask.start
        = Layout.offset (fieldWidths team cfg.numCameras cfg.numTargets cfg.numObstacles) 2 ∧
      slices.obstacleStatesWithMask.start
        = Layout.offset (fieldWidths team cfg.numCameras cfg.numTargets cfg.numObstacles) 3 ∧
      slices.teammateStatesWithMask.start
        = Layout.offset (fieldWidths team cfg.numCameras cfg.numTargets cfg.numObstacles) 4 := by
    have hindex := observationIndicesOf_eq team cfg.numCameras cfg.numTargets cfg.numObstacles
    cases team with
    | camera => exact ⟨hindex 2, hindex 3, hindex 4⟩
    | target => exact ⟨hindex 2, hindex 3, hindex 4⟩
  have hopponents := (self.length_agentRows team.opponent (view'.opponentMask i)).trans
    (self.length_agentRows team.opponent (view.opponentMask i)).symm
  have hobstacles := (self.length_obstacleRows (view'.obstacleMask i)).trans
    (self.length_obstacleRows (view.obstacleMask i)).symm
  have hteammates := (self.length_agentRows team (view'.teammateMask i)).trans
    (self.length_agentRows team (view.teammateMask i)).symm
  rw [Slice.write, Slice.write, Slice.write, hstart.1, hstart.2.1, hstart.2.2, viewRow, viewRow,
    viewFields, viewFields, hbits]
  rw [viewFields] at hwidths
  -- every write replaces its field and leaves the widths as they are
  have hwidths' := (Layout.map_length_set (show 2 < 5 by decide) hopponents).trans hwidths
  have hwidths'' := (Layout.map_length_set (show 3 < 5 by decide) hobstacles).trans hwidths'
  rw [overwrite_field hwidths (show 2 < 5 by decide) hopponents,
    overwrite_field hwidths' (show 3 < 5 by decide) hobstacles,
    overwrite_field hwidths'' (show 4 < 5 by decide) hteammates]
  rfl

end Writes

/-! ## Sharing the rows -/

/-- The stored rows of the obstacles that a view shows are those of the obstacles. -/
structure ShowsStored (e : Env cfg G V) {team : Team} (view : TeamView cfg team) : Prop where
  length : ∀ o, (e.obstacleStatesFlagged o).length = OBSTACLE_STATE_DIM + 1
  shown : ∀ i o, view.obstacleMask i o = true →
    e.obstacleStatesFlagged o = flagged (e.obstacles o).state

section Sharing

variable {team : Team} {view : TeamView cfg team}

theorem ShowsStored.share (h : self.ShowsStored view) : self.ShowsStored view.share where
  length := h.length
  shown := by
    intro i o hany
    obtain ⟨k, hk⟩ := of_decide_eq_true hany
    exact h.shown k o hk

/-- Where no one sees an obstacle, its stored row is not shown. -/
theorem ShowsStored.whereRows_eq (h : self.ShowsStored view) (i : Fin (cfg.teamSize team)) :
    whereRows (view.obstacleMask i) self.obstacleStatesFlagged
      = whereRows (view.obstacleMask i) (fun o => flagged (self.obstacles o).state) := by
  refine congrArg ravel (funext (fun o => ?_))
  by_cases hmask : view.obstacleMask i o = true
  · rw [h.shown i o hmask]
  · rw [whereMask, whereMask, if_neg hmask, if_neg hmask, h.length, length_flagged,
      self.length_obstacle]

end Sharing

variable {camera : TeamView cfg .camera} {target : TeamView cfg .target}

theorem cameraStatesPublicFlagged_showing :
    SharedFieldOfView.cameraStatesPublicFlagged (self.showing camera target)
      = fun c => flagged (self.publicState .camera c) :=
  funext (fun c => congrArg flagged (slice_publicState self camera c))

theorem targetStatesPublicFlagged_showing :
    SharedFieldOfView.targetStatesPublicFlagged (self.showing camera target)
      = fun t => flagged (self.publicState .target t) :=
  funext (fun t => congrArg flagged (slice_publicState self target t))

theorem shareCamera_showing (h : self.ShowsStored camera) :
    SharedFieldOfView.shareCamera self.obstacleStatesFlagged (self.showing camera target)
      = self.viewRow camera.share := by
  funext c
  have hopponent : (fun t : Fin cfg.numTargets => (cameraObservationSlicesOf cfg.numCameras
      cfg.numTargets cfg.numObstacles).opponentMask.any (self.viewRow camera) t)
      = camera.share.opponentMask c := funext (any_opponentMask self camera c)
  have hobstacle : (fun o : Fin cfg.numObstacles => (cameraObservationSlicesOf cfg.numCameras
      cfg.numTargets cfg.numObstacles).obstacleMask.any (self.viewRow camera) o)
      = camera.share.obstacleMask c := funext (any_obstacleMask self camera c)
  refine Eq.trans ?_ (write_viewRow self camera camera.share c rfl)
  show Slice.write _ _ (Slice.write _ _ (Slice.write _ _ _)) = _
  refine congrArg₂ (Slice.write _) ?_ (congrArg₂ (Slice.write _) ?_ (congrArg₂ (Slice.write _) ?_ rfl))
  · exact congrArg ravel cameraStatesPublicFlagged_showing
  · exact (congrArg₂ whereRows hobstacle rfl).trans (h.share.whereRows_eq c)
  · exact congrArg₂ whereRows hopponent targetStatesPublicFlagged_showing

theorem shareTarget_showing (h : self.ShowsStored target) :
    SharedFieldOfView.shareTarget self.obstacleStatesFlagged (self.showing camera target)
      = self.viewRow target.share := by
  funext t
  have hopponent : (fun c : Fin cfg.numCameras => (targetObservationSlicesOf cfg.numCameras
      cfg.numTargets cfg.numObstacles).opponentMask.any (self.viewRow target) c)
      = target.share.opponentMask t := funext (any_opponentMask self target t)
  have hobstacle : (fun o : Fin cfg.numObstacles => (targetObservationSlicesOf cfg.numCameras
      cfg.numTargets cfg.numObstacles).obstacleMask.any (self.viewRow target) o)
      = target.share.obstacleMask t := funext (any_obstacleMask self target t)
  have hbits : (fun w : Warehouse => (SharedFieldOfView.targetEmptyBitsSlice cfg).any
      (self.viewRow target) w) = target.share.emptyBits t := funext (any_emptyBits self target t)
  refine Eq.trans ?_ (write_viewRow self { target with emptyBits := target.share.emptyBits }
    target.share t rfl)
  show Slice.write _ _ (Slice.write _ _ (Slice.write _ _ _)) = _
  refine congrArg₂ (Slice.write _) ?_ (congrArg₂ (Slice.write _) ?_
    (congrArg₂ (Slice.write _) ?_ ?_))
  · exact congrArg ravel targetStatesPublicFlagged_showing
  · exact (congrArg₂ whereRows hobstacle rfl).trans (h.share.whereRows_eq t)
  · exact congrArg₂ whereRows hopponent cameraStatesPublicFlagged_showing
  · refine Eq.trans ?_ (write_emptyBits self target t (target.share.emptyBits t))
    exact congrArg₂ (Slice.write _) (congrArg (bitEntries .target) hbits) rfl

/-- The view of a team after the wrapper. -/
def sharedView (setting : SharedTeam) {team : Team} (view : TeamView cfg team) : TeamView cfg team :=
  if SharedFieldOfView.shares setting team then view.share else view

/-- **The wrapper shares the views** of the teams it is for. -/
theorem observation_showing (hcamera : self.ShowsStored camera) (htarget : self.ShowsStored target)
    (setting : SharedTeam) :
    SharedFieldOfView.observation self.obstacleStatesFlagged setting (self.showing camera target)
      = self.showing (sharedView setting camera) (sharedView setting target) := by
  cases setting with
  | both =>
      show (⟨_, _⟩ : Observations cfg) = ⟨_, _⟩
      exact congrArg₂ _ (shareCamera_showing hcamera) (shareTarget_showing htarget)
  | camera =>
      show (⟨_, _⟩ : Observations cfg) = ⟨_, _⟩
      exact congrArg₂ _ (shareCamera_showing hcamera) rfl
  | target =>
      show (⟨_, _⟩ : Observations cfg) = ⟨_, _⟩
      exact congrArg₂ _ rfl (shareTarget_showing htarget)
  | none => rfl

theorem sharedView_sharedView (setting : SharedTeam) {team : Team} (view : TeamView cfg team) :
    sharedView setting (sharedView setting view) = sharedView setting view := by
  unfold sharedView
  split
  · exact view.share_share
  · rfl

/-! ## The union of what a team sees -/

/-- The entries of entity `j` in the field that begins at `start`, without its flag. -/
def stateAt (start DIM : ℕ) (row : List ℝ) (j : ℕ) : List ℝ :=
  Layout.slice (start + (DIM + 1) * j) (start + (DIM + 1) * j + DIM) row

/-- The flag of entity `j` in the field that begins at `start`. -/
def flagAt (start DIM : ℕ) (row : List ℝ) (j : ℕ) : ℝ := row.getD (start + (DIM + 1) * j + DIM) 0

open Classical in
/-- The new rows flag the entities that any of the old ones flags. A flagged one has its state there,
the others are zero. -/
structure ShowsUnion {n m : ℕ} (start DIM : ℕ) (states : Fin m → List ℝ)
    (rows rows' : Fin n → List ℝ) : Prop where
  flag : ∀ i (j : Fin m), flagAt start DIM (rows' i) j
    = if ∃ k, flagAt start DIM (rows k) j ≠ 0 then 1 else 0
  shown : ∀ i (j : Fin m), flagAt start DIM (rows' i) j ≠ 0 → stateAt start DIM (rows' i) j = states j
  hidden : ∀ i (j : Fin m), flagAt start DIM (rows' i) j = 0 →
    stateAt start DIM (rows' i) j = List.replicate DIM 0

open Classical in
/-- The rows of a team are shared. -/
structure SharesRows (e : Env cfg G V) (team : Team) (rows rows' : Fin (cfg.teamSize team) → List ℝ) :
    Prop where
  length : ∀ i, (rows' i).length = (rows i).length
  opponents : ShowsUnion
    (observationIndicesOf team cfg.numCameras cfg.numTargets cfg.numObstacles 2)
    team.opponentStateDim (e.publicState team.opponent) rows rows'
  obstacles : ShowsUnion
    (observationIndicesOf team cfg.numCameras cfg.numTargets cfg.numObstacles 3)
    OBSTACLE_STATE_DIM (fun o => (e.obstacles o).state) rows rows'
  teammates : ∀ i (j : Fin (cfg.teamSize team)),
    let start := observationIndicesOf team cfg.numCameras cfg.numTargets cfg.numObstacles 4
    flagAt start team.teammateStateDim (rows' i) j = 1 ∧
      stateAt start team.teammateStateDim (rows' i) j = e.publicState team j
  emptyBits : team = .target → ∀ i (w : Warehouse),
    let start := observationIndicesOf team cfg.numCameras cfg.numTargets cfg.numObstacles 2
      - NUM_WAREHOUSES
    (rows' i).getD (start + w) 0 = if ∃ k, (rows k).getD (start + w) 0 ≠ 0 then 1 else 0
  /-- the preserved data and the rest of the own state -/
  kept : ∀ i k, k < observationIndicesOf team cfg.numCameras cfg.numTargets cfg.numObstacles 2 →
    (team = .target → k < observationIndicesOf team cfg.numCameras cfg.numTargets cfg.numObstacles 2
      - NUM_WAREHOUSES) → (rows' i)[k]? = (rows i)[k]?

theorem one_or_zero_ne (b : Bool) : (if b then (1 : ℝ) else 0) ≠ 0 ↔ b = true := by
  cases b <;> simp

/-- Fields of masked states, of which the second has the union of the masks. -/
theorem ShowsUnion.of_fields {n m start stop DIM : ℕ} {states : Fin m → List ℝ}
    {rows rows' : Fin n → List ℝ} {mask : Fin n → Fin m → Bool}
    (hstates : ∀ j, (states j).length = DIM) (hstop : stop = start + m * (DIM + 1))
    (hrows : ∀ i, Layout.slice start stop (rows i)
      = whereRows (mask i) (fun j => flagged (states j)))
    (hrows' : ∀ i, Layout.slice start stop (rows' i)
      = whereRows (anyRow mask i) (fun j => flagged (states j))) :
    ShowsUnion start DIM states rows rows' := by
  have hflag : ∀ i j, flagAt start DIM (rows i) (j : Fin m) = if mask i j then 1 else 0 := by
    intro i j
    rw [flagAt, List.getD_eq_getElem?_getD, flag_of_field hstates (hrows i) hstop j, Option.getD_some]
  have hflag' : ∀ i j, flagAt start DIM (rows' i) (j : Fin m) = if anyRow mask i j then 1 else 0 := by
    intro i j
    rw [flagAt, List.getD_eq_getElem?_getD, flag_of_field hstates (hrows' i) hstop j, Option.getD_some]
  have hstate : ∀ i j, stateAt start DIM (rows' i) (j : Fin m)
      = if anyRow mask i j then states j else List.replicate DIM 0 :=
    fun i j => state_of_field hstates (hrows' i) hstop j
  refine ⟨fun i j => ?_, fun i j h => ?_, fun i j h => ?_⟩
  · rw [hflag']
    refine if_congr ?_ rfl rfl
    rw [anyRow, decide_eq_true_iff]
    refine exists_congr (fun k => ?_)
    rw [hflag, one_or_zero_ne]
  · rw [hflag', one_or_zero_ne] at h
    rw [hstate, if_pos h]
  · have hfalse : ¬ anyRow mask i j = true := fun hmask => (one_or_zero_ne _).mpr hmask
      ((hflag' i j).symm.trans h)
    rw [hstate, if_neg hfalse]

/-- The entry of an empty bit. -/
theorem getD_emptyBit (view : TeamView cfg .target) (t : Fin cfg.numTargets) (w : Warehouse) :
    (self.viewRow view t).getD (23 + w) 0 = if view.emptyBits t w then 1 else 0 := by
  obtain ⟨hstart, hstop⟩ := offset_bitFields self view t
  have hslice := Layout.slice_flatten (self.bitFields view t) 2 (by simp [bitFields])
  rw [hstart, hstop, ← viewRow_eq_bitFields] at hslice
  have hw : 23 + (w : ℕ) < 27 := Nat.add_lt_add_left w.isLt 23
  rw [List.getD_eq_getElem?_getD, Layout.getElem?_of_slice hw, hslice]
  show ((List.finRange NUM_WAREHOUSES).map (fun w => if view.emptyBits t w then (1 : ℝ) else 0))[
    (w : ℕ)]?.getD 0 = _
  simp

/-- A row keeps what comes before the empty bits. -/
theorem getElem?_kept {team : Team} (view view' : TeamView cfg team) (i : Fin (cfg.teamSize team))
    {k : ℕ} (hk : k < PRESERVED_DIM + (self.knownState team i).length) :
    (self.viewRow view' i)[k]? = (self.viewRow view i)[k]? := by
  have hhead : ∀ view : TeamView cfg team, ∃ rest, self.viewRow view i
      = ((preservedData cfg).set 3 ((i : ℕ) : ℝ) ++ self.knownState team i) ++ rest := by
    intro view
    refine ⟨bitEntries team (view.emptyBits i) ++ ((self.viewFields view i).drop 2).flatten, ?_⟩
    simp [viewRow, viewFields]
  have hlength : k < ((preservedData cfg).set 3 ((i : ℕ) : ℝ) ++ self.knownState team i).length := by
    rwa [List.length_append, List.length_set, length_preservedData]
  obtain ⟨rest, hrest⟩ := hhead view
  obtain ⟨rest', hrest'⟩ := hhead view'
  rw [hrest, hrest', List.getElem?_append_left hlength, List.getElem?_append_left hlength]

/-- **Sharing a view** shares the rows that show it. -/
theorem sharesRows_share (team : Team) (view : TeamView cfg team) :
    self.SharesRows team (self.viewRow view) (self.viewRow view.share) := by
  obtain ⟨h₃, h₄, h₅⟩ := observationIndicesOf_rows cfg team _ rfl
  have hopponent : ∀ j, (self.publicState team.opponent j).length = team.opponentStateDim := by
    intro j
    rw [length_publicState]
    cases team <;> rfl
  have hteammates := fun i => slice_viewRow self view.share i 4
  -- the own state ends the head of the row
  have hindex : observationIndicesOf team cfg.numCameras cfg.numTargets cfg.numObstacles 2
      = PRESERVED_DIM + team.stateDim := by
    rw [observationIndicesOf_eq]
    cases team <;> rfl
  constructor
  · intro i
    rw [length_viewRow, length_viewRow]
  · exact .of_fields hopponent h₃ (fun i => slice_viewRow self view i 2)
      (fun i => slice_viewRow self view.share i 2)
  · exact .of_fields self.length_obstacle h₄ (fun i => slice_viewRow self view i 3)
      (fun i => slice_viewRow self view.share i 3)
  · intro i j start
    have hflag := flag_of_field (self.length_publicState team) (hteammates i) h₅ j
    have hstate := state_of_field (self.length_publicState team) (hteammates i) h₅ j
    refine ⟨?_, hstate⟩
    rw [flagAt, List.getD_eq_getElem?_getD]
    exact congrArg (fun entry => Option.getD entry 0) hflag
  · rintro rfl i w start
    have hstart : start = 23 := by
      show _ - NUM_WAREHOUSES = 23
      rw [hindex]
      rfl
    rw [hstart]
    refine (getD_emptyBit view.share i w).trans (if_congr ?_ rfl rfl)
    refine decide_eq_true_iff.trans (exists_congr (fun k => ?_))
    exact (one_or_zero_ne _).symm.trans (by rw [← getD_emptyBit view k w])
  · intro i k hk hbits
    refine getElem?_kept view view.share i ?_
    rw [hindex] at hk hbits
    cases team with
    | camera => exact hk
    | target => exact hbits rfl

/-! ## Reached states -/

variable [RandomState G] [SetOrder]

/-- The rows of the obstacles that an agent sees are stored. -/
theorem Reached.showsStored {e : Env cfg G V} (h : Reached e) (team : Team) :
    e.ShowsStored (e.view team) := by
  cases h with
  | init h =>
      obtain ⟨cameras, -, h⟩ := bind_eq_ok.mp h
      obtain ⟨⟨obstacles, radiusRng⟩, -, h⟩ := bind_eq_ok.mp h
      cases h
      refine ⟨fun o => rfl, fun i o hmask => ?_⟩
      cases team <;> cases hmask
  | run hreset hrun =>
      have hknows := knowsObstacles_of_run hreset hrun
      refine ⟨fun o => ?_, fun i o _ => hknows.flagged o⟩
      rw [hknows.flagged, length_flagged, length_obstacle]

/-- **The wrapper shares exactly what the team sees**, and a second one changes nothing. -/
theorem observation_union {e : Env cfg G V} (h : Reached e) (setting : SharedTeam) :
    let rows := e.jointObservation.1
    let shared := SharedFieldOfView.observation e.obstacleStatesFlagged setting rows
    (∀ team, if SharedFieldOfView.shares setting team then
        e.SharesRows team (rows.row team) (shared.row team)
      else shared.row team = rows.row team) ∧
    SharedFieldOfView.observation e.obstacleStatesFlagged setting shared = shared := by
  intro rows shared
  have hrows : rows = e.showing (e.view .camera) (e.view .target) :=
    jointObservation_eq_showing h.showsObstacles
  -- shared views still show what is stored
  have hstored : ∀ team, e.ShowsStored (sharedView setting (e.view team)) := by
    intro team
    unfold sharedView
    split
    · exact (h.showsStored team).share
    · exact h.showsStored team
  have hshared : shared = e.showing (sharedView setting (e.view .camera))
      (sharedView setting (e.view .target)) := by
    show SharedFieldOfView.observation _ _ rows = _
    rw [hrows]
    exact observation_showing (h.showsStored .camera) (h.showsStored .target) setting
  have hrow : ∀ team, rows.row team = e.viewRow (e.view team) ∧
      shared.row team = e.viewRow (sharedView setting (e.view team)) := by
    intro team
    rw [hrows, hshared]
    cases team <;> exact ⟨rfl, rfl⟩
  refine ⟨fun team => ?_, ?_⟩
  · rw [(hrow team).1, (hrow team).2, sharedView]
    split
    · exact sharesRows_share team (e.view team)
    · rfl
  · rw [hshared, observation_showing (hstored .camera) (hstored .target), sharedView_sharedView,
      sharedView_sharedView]

omit [SetOrder] in
/-- Both teams of the small environment share their views. -/
theorem observation_union_solo :
    letI := rotating
    letI := SetOrder.increasing
    ∃ (env : Env (soloConfig (0, 0) 10 (by decide)) (Fin 4) Unit),
      let rows := env.jointObservation.1
      let shared := SharedFieldOfView.observation env.obstacleStatesFlagged .both rows
      env.SharesRows .target rows.target shared.target ∧
        SharedFieldOfView.observation env.obstacleStatesFlagged .both shared = shared := by
  let _ := rotating
  let _ := SetOrder.increasing
  obtain ⟨self, start, observations, reg, -, hreset⟩ :=
    exists_solo_reset (0, 0) 10 (by decide) ⟨0, fun _ => ()⟩
  obtain ⟨hshares, htwice⟩ := observation_union (.run hreset .nil) .both
  exact ⟨start, hshares .target, htwice⟩

end Env

end Mate
