import Mate.Agents.Base
import Mate.Accounts

set_option autoImplicit false

/-! # The codec of the observations

A row of `joint_observation` is written as five fields (`Env.fields`), whose widths are those
that `observation_indices_of` sums up. Hence an agent that was reset on one row reads out of every
later row what the view masks allow, and nothing else (`Env.observation_decoded`).
-/

namespace Mate

open Fallible Runs Env

/-! ## Rounding -/

theorem roundToInt_natCast (n : ℕ) : roundToInt (n : ℝ) = n := by
  have hfract : Int.fract (n : ℝ) = 0 := Int.fract_natCast n
  unfold roundToInt
  rw [hfract, if_pos (by norm_num), Int.floor_natCast]

/-! ## The rows of a field -/

theorem length_whereMask (mask : Bool) (row : List ℝ) : (whereMask mask row).length = row.length := by
  unfold whereMask
  split
  · rfl
  · exact List.length_replicate

theorem length_flagged (state : List ℝ) : (flagged state).length = state.length + 1 := by
  simp [flagged]

/-- A masked row begins with the state, or with zeros. -/
theorem slice_whereMask_flagged {DIM : ℕ} (mask : Bool) {state : List ℝ} (h : state.length = DIM) :
    Layout.slice 0 DIM (whereMask mask (flagged state))
      = if mask then state else List.replicate DIM 0 := by
  subst h
  cases mask
  · simp [Layout.slice, whereMask, flagged]
  · simp [Layout.slice, whereMask, flagged]

/-- The flag of a masked row. -/
theorem flag_whereMask_flagged {DIM : ℕ} (mask : Bool) {state : List ℝ} (h : state.length = DIM) :
    (whereMask mask (flagged state))[DIM]? = some (if mask then 1 else 0) := by
  subst h
  cases mask
  · simp [whereMask, flagged]
  · simp [whereMask, flagged]

section

variable {DIM start stop num : ℕ} {mask : Fin num → Bool} {states : Fin num → List ℝ}
  {observation : List ℝ}

theorem length_maskedRow (h : ∀ j, (states j).length = DIM) (j : Fin num) :
    (whereMask (mask j) (flagged (states j))).length = DIM + 1 := by
  rw [length_whereMask, length_flagged, h]

section Field

variable (hstates : ∀ j, (states j).length = DIM)
  (hfield : Layout.slice start stop observation
    = ravel (fun j => whereMask (mask j) (flagged (states j))))
  (hstop : stop = start + num * (DIM + 1))
include hstates hfield hstop

omit hstates hfield in
/-- The flag of a row lies before the end of the field. -/
theorem flag_lt_stop (j : Fin num) : start + ((DIM + 1) * (j : ℕ) + DIM) < stop := by
  have hle := Nat.mul_le_mul_right (DIM + 1) (Nat.succ_le_of_lt j.isLt)
  rw [Nat.succ_mul, Nat.mul_comm] at hle
  omega

/-- The piece of the vector at the multiple of the width is the beginning of row `j`. -/
theorem state_of_field (j : Fin num) :
    Layout.slice (start + (DIM + 1) * (j : ℕ)) (start + (DIM + 1) * (j : ℕ) + DIM) observation
      = if mask j then states j else List.replicate DIM 0 := by
  rw [← slice_whereMask_flagged (mask j) (hstates j),
    ← Layout.slice_rows (length_maskedRow hstates) j (Nat.le_succ DIM), Nat.add_zero, Nat.add_assoc]
  exact (Layout.slice_slice (flag_lt_stop hstop j).le observation).symm.trans (by rw [hfield]; rfl)

theorem flag_of_field (j : Fin num) :
    observation[start + (DIM + 1) * (j : ℕ) + DIM]? = some (if mask j then 1 else 0) := by
  rw [← flag_whereMask_flagged (mask j) (hstates j),
    ← Layout.getElem?_rows (length_maskedRow hstates) j (Nat.lt_succ_self DIM), Nat.add_assoc]
  exact (Layout.getElem?_of_slice (flag_lt_stop hstop j) observation).trans (by rw [hfield]; rfl)

end Field

/-- **Reading a row** of a field of masked states. -/
theorem AgentBase.getState_eq (hstates : ∀ j, (states j).length = DIM)
    (hfield : Layout.slice start stop observation
      = ravel (fun j => whereMask (mask j) (flagged (states j))))
    (hstop : stop = start + num * (DIM + 1)) (outOfRange : String) (j : Fin num) :
    ∃ state, AgentBase.getState DIM start num outOfRange observation (j : ℕ)
        = .ok (state, mask j) ∧ state.index = (j : ℕ)
      ∧ state.state = if mask j then states j else List.replicate DIM 0 := by
  have hstate := state_of_field hstates hfield hstop j
  have hflag := flag_of_field hstates hfield hstop j
  have hlength : (Layout.slice (start + (DIM + 1) * (j : ℕ))
      (start + (DIM + 1) * (j : ℕ) + DIM) observation).length = DIM := by
    rw [hstate]
    split
    · exact hstates j
    · exact List.length_replicate
  refine ⟨⟨_, (j : ℕ), hlength⟩, ?_, rfl, hstate⟩
  have hrange : 0 ≤ ((j : ℕ) : ℤ) ∧ ((j : ℕ) : ℤ) < num := by
    have := j.isLt
    omega
  rw [AgentBase.getState, if_pos hrange, Int.toNat_natCast]
  simp only [StateBase.make, dif_pos hlength, AgentBase.readEntry, hflag]
  cases mask j <;> simp [bind, Except.bind, pure, Except.pure]

/-- **Reading the mask** of a field of masked states. -/
theorem Slice.read_mask (hstates : ∀ j, (states j).length = DIM)
    (hfield : Layout.slice start stop observation
      = ravel (fun j => whereMask (mask j) (flagged (states j)))) :
    (⟨start + DIM, stop, DIM + 1⟩ : Slice).read observation
      = List.ofFn (fun j => if mask j then 1 else 0) := by
  have hdrop : Layout.slice (start + DIM) stop observation
      = (Layout.slice start stop observation).drop DIM := by
    rw [Layout.slice, Layout.slice, List.drop_drop]
  rw [Slice.read, hdrop, hfield]
  exact Layout.everyNth_rows (length_maskedRow hstates)
    (fun j => flag_whereMask_flagged (mask j) (hstates j))

end

/-! ## The fields of a row -/

def Team.opponent : Team → Team
  | .camera => .target
  | .target => .camera

/-- Row `i` of the array of a team. -/
def Observations.row {cfg : Config} (observations : Observations cfg) :
    (team : Team) → Fin (cfg.teamSize team) → List ℝ
  | .camera, c => observations.camera c
  | .target, t => observations.target t

namespace Env

variable {cfg : Config} {G V : Type} [RandomState G]

/-- The private state of agent `i` of a team. -/
noncomputable def privateState (self : Env cfg G V) :
    (team : Team) → Fin (cfg.teamSize team) → List ℝ
  | .camera, c => (self.cameras c).statePrivate
  | .target, t => self.targetStatePrivate t

/-- The public state of agent `i` of a team. -/
noncomputable def publicState (self : Env cfg G V) :
    (team : Team) → Fin (cfg.teamSize team) → List ℝ
  | .camera, c => self.cameraStatePublic c
  | .target, t => self.targetStatePublic t

/-- The view masks between agents. -/
def viewMask (self : Env cfg G V) :
    (team other : Team) → Fin (cfg.teamSize team) → Fin (cfg.teamSize other) → Bool
  | .camera, .camera => self.cameraCameraViewMask
  | .camera, .target => self.cameraTargetViewMask
  | .target, .camera => self.targetCameraViewMask
  | .target, .target => self.targetTargetViewMask

/-- The view masks of the obstacles. -/
def obstacleViewMask (self : Env cfg G V) :
    (team : Team) → Fin (cfg.teamSize team) → Fin cfg.numObstacles → Bool
  | .camera => self.cameraObstacleViewMask
  | .target => self.targetObstacleViewMask

/-- What agent `i` of a team is shown of the agents of a team. -/
noncomputable def shownAgents (self : Env cfg G V) (team other : Team)
    (i : Fin (cfg.teamSize team)) : List ℝ :=
  ravel (fun j => whereMask (self.viewMask team other i j) (flagged (self.publicState other j)))

/-- What agent `i` of a team is shown of the obstacles. -/
noncomputable def shownObstacles (self : Env cfg G V) (team : Team)
    (i : Fin (cfg.teamSize team)) : List ℝ :=
  ravel (fun o => whereMask (self.obstacleViewMask team i o) (flagged (self.obstacles o).state))

/-- The rows of the obstacles are those of the obstacles that are there. -/
structure ShowsObstacles (e : Env cfg G V) : Prop where
  camera : ∀ c o, e.cameraObstacleObservations c o
    = whereMask (e.cameraObstacleViewMask c o) (flagged (e.obstacles o).state)
  target : ∀ t o, whereMask (e.targetObstacleViewMask t o) (e.obstacleStatesFlagged o)
    = whereMask (e.targetObstacleViewMask t o) (flagged (e.obstacles o).state)

/-- The five fields of row `i`, in the order of `joint_observation`. -/
noncomputable def fields (self : Env cfg G V) (team : Team) (i : Fin (cfg.teamSize team)) :
    List (List ℝ) :=
  [(preservedData cfg).set 3 (i : ℕ), self.privateState team i,
    self.shownAgents team team.opponent i, self.shownObstacles team i,
    self.shownAgents team team i]

/-- The widths of the fields. -/
def fieldWidths (team : Team) (numCameras numTargets numObstacles : ℕ) : List ℕ :=
  match team with
  | .camera => [PRESERVED_DIM, CAMERA_STATE_DIM_PRIVATE, numTargets * (TARGET_STATE_DIM_PUBLIC + 1),
      numObstacles * (OBSTACLE_STATE_DIM + 1), numCameras * (CAMERA_STATE_DIM_PUBLIC + 1)]
  | .target => [PRESERVED_DIM, TARGET_STATE_DIM_PRIVATE, numCameras * (CAMERA_STATE_DIM_PUBLIC + 1),
      numObstacles * (OBSTACLE_STATE_DIM + 1), numTargets * (TARGET_STATE_DIM_PUBLIC + 1)]

omit [RandomState G] in
theorem length_privateState (self : Env cfg G V) (team : Team) (i : Fin (cfg.teamSize team)) :
    (self.privateState team i).length = team.stateDim := by
  cases team <;> rfl

omit [RandomState G] in
theorem length_publicState (self : Env cfg G V) (team : Team) (i : Fin (cfg.teamSize team)) :
    (self.publicState team i).length = team.teammateStateDim := by
  cases team <;> rfl

theorem length_preservedData (cfg : Config) : (preservedData cfg).length = PRESERVED_DIM := rfl

theorem length_ravel_masked {n DIM : ℕ} (mask : Fin n → Bool) {states : Fin n → List ℝ}
    (h : ∀ j, (states j).length = DIM) :
    (ravel (fun j => whereMask (mask j) (flagged (states j)))).length = n * (DIM + 1) :=
  Layout.length_rows (length_maskedRow h)

omit [RandomState G] in
/-- **The concatenation** of `joint_observation` is that of the five fields. -/
theorem row_eq_flatten {self : Env cfg G V} (h : self.ShowsObstacles) (team : Team)
    (i : Fin (cfg.teamSize team)) :
    self.jointObservation.1.row team i = (self.fields team i).flatten := by
  cases team with
  | camera =>
      show (self.cameraObservation i).set 3 _ = _
      have hobstacles : self.cameraObstacleObservations i = fun o =>
          whereMask (self.cameraObstacleViewMask i o) (flagged (self.obstacles o).state) :=
        funext (h.camera i)
      unfold cameraObservation
      rw [hobstacles]
      simp only [List.append_assoc]
      rw [List.set_append_left _ _ (by rw [length_preservedData]; decide)]
      simp only [fields, List.flatten_cons, List.flatten_nil, List.append_nil]
      rfl
  | target =>
      show (self.targetObservation i).set 3 _ = _
      have hobstacles : (fun o => whereMask (self.targetObstacleViewMask i o)
          (self.obstacleStatesFlagged o)) = fun o =>
          whereMask (self.targetObstacleViewMask i o) (flagged (self.obstacles o).state) :=
        funext (h.target i)
      unfold targetObservation
      rw [hobstacles]
      simp only [List.append_assoc]
      rw [List.set_append_left _ _ (by rw [length_preservedData]; decide)]
      simp only [fields, List.flatten_cons, List.flatten_nil, List.append_nil]
      rfl

omit [RandomState G] in
theorem map_length_fields (self : Env cfg G V) (team : Team) (i : Fin (cfg.teamSize team)) :
    (self.fields team i).map List.length
      = fieldWidths team cfg.numCameras cfg.numTargets cfg.numObstacles := by
  have hobstacle : ∀ o, (self.obstacles o).state.length = OBSTACLE_STATE_DIM := fun o => rfl
  simp only [fields, List.map_cons, List.map_nil, List.length_set, length_privateState,
    shownAgents, shownObstacles, length_ravel_masked _ (self.length_publicState _),
    length_ravel_masked _ hobstacle, length_preservedData]
  cases team <;> rfl

/-- **The indices** are the sums of the widths. -/
theorem observationIndicesOf_eq (team : Team) (numCameras numTargets numObstacles : ℕ) (k : Fin 6) :
    observationIndicesOf team numCameras numTargets numObstacles k
      = Layout.offset (fieldWidths team numCameras numTargets numObstacles) k := by
  cases team with
  | camera =>
      fin_cases k <;> simp [observationIndicesOf, cameraObservationIndicesOf, cumsum, fieldWidths,
        Layout.offset, List.ofFn_succ]
  | target =>
      fin_cases k <;> simp [observationIndicesOf, targetObservationIndicesOf, cumsum, fieldWidths,
        Layout.offset, List.ofFn_succ]

omit [RandomState G] in
/-- **Cutting a row at the indices** gives back its fields. -/
theorem slice_row {self : Env cfg G V} (h : self.ShowsObstacles) (team : Team)
    (i : Fin (cfg.teamSize team)) (k : Fin 5) :
    Layout.slice
        (observationIndicesOf team cfg.numCameras cfg.numTargets cfg.numObstacles k.castSucc)
        (observationIndicesOf team cfg.numCameras cfg.numTargets cfg.numObstacles k.succ)
        (self.jointObservation.1.row team i) = (self.fields team i).get k := by
  rw [observationIndicesOf_eq, observationIndicesOf_eq, row_eq_flatten h,
    ← map_length_fields self team i]
  exact Layout.slice_flatten (self.fields team i) k k.isLt

omit [RandomState G] in
theorem length_row {self : Env cfg G V} (h : self.ShowsObstacles) (team : Team)
    (i : Fin (cfg.teamSize team)) :
    (self.jointObservation.1.row team i).length
      = observationIndicesOf team cfg.numCameras cfg.numTargets cfg.numObstacles 5 := by
  rw [row_eq_flatten h, List.length_flatten, map_length_fields, observationIndicesOf_eq]
  cases team <;> rfl

/-! ## The obstacles that are shown -/

variable [SetOrder]

/-- A state that a caller can observe: that of a new environment, or of one that was reset, after
any calls. -/
inductive Reached : Env cfg G V → Prop
  | init {memory : Memory V} {self : Env cfg G V} : Env.init cfg memory = .ok self → Reached self
  | run {fuel : ℕ} {seed : Option ℕ} {self start env : Env cfg G V}
      {observations : Observations cfg} {reg : Registry} {calls : List (Call cfg V)} :
      self.reset fuel seed = .ok (observations, reg, start) → Run Next start calls env →
      Reached env

/-- Between two resets the arrays of the obstacles are up to date. -/
structure KnowsObstacles (e : Env cfg G V) : Prop where
  flagged : ∀ o, e.obstacleStatesFlagged o = flagged (e.obstacles o).state
  camera : ∀ c o, e.cameraObstacleObservations c o
    = whereMask (e.cameraObstacleViewMask c o) (e.obstacleStatesFlagged o)

omit [RandomState G] [SetOrder] in
theorem KnowsObstacles.shows {e : Env cfg G V} (h : e.KnowsObstacles) : e.ShowsObstacles where
  camera := fun c o => by rw [h.camera, h.flagged]
  target := fun t o => by rw [h.flagged]

theorem reset_knowsObstacles {fuel : ℕ} {seed : Option ℕ} {self start : Env cfg G V}
    {observations : Observations cfg} {reg : Registry}
    (h : self.reset fuel seed = .ok (observations, reg, start)) : start.KnowsObstacles := by
  obtain ⟨placed, s, orientations, rng, -, hplaced, -, hfinish⟩ := reset_eq_ok h
  cases hfinish
  exact ⟨hplaced.obstacleStatesFlagged, hplaced.cameraObstacleObservations⟩

theorem Next.knowsObstacles {self self' : Env cfg G V} {call : Call cfg V}
    (h : Next self call self') (hself : self.KnowsObstacles) : self'.KnowsObstacles := by
  cases h with
  | step h =>
      obtain ⟨seen, s, hmoved, -, hfinish⟩ := step_eq_ok h
      cases hfinish
      constructor
      · intro o
        show seen.obstacleStatesFlagged o = Env.flagged (seen.obstacles o).state
        rw [hmoved.obstacleStatesFlagged, hmoved.obstacles]
        exact hself.flagged o
      · intro c o
        show seen.cameraObstacleObservations c o
          = whereMask (seen.cameraObstacleViewMask c o) (seen.obstacleStatesFlagged o)
        rw [hmoved.cameraObstacleObservations, hmoved.cameraObstacleViewMask,
          hmoved.obstacleStatesFlagged]
        exact hself.camera c o
  | send messages => exact ⟨hself.flagged, hself.camera⟩
  | receive h => exact ⟨hself.flagged, hself.camera⟩
  | write memory h => exact ⟨hself.flagged, hself.camera⟩

/-- The arrays of the obstacles stay up to date from a reset on. -/
theorem knowsObstacles_of_run {fuel : ℕ} {seed : Option ℕ} {self start env : Env cfg G V}
    {observations : Observations cfg} {reg : Registry} {calls : List (Call cfg V)}
    (hreset : self.reset fuel seed = .ok (observations, reg, start))
    (hrun : Run Next start calls env) : env.KnowsObstacles :=
  hrun.invariant KnowsObstacles (reset_knowsObstacles hreset)
    (fun _ _ _ hs hnext => hnext.knowsObstacles hs)

omit [SetOrder] in
/-- A new environment shows no obstacle. -/
theorem init_showsObstacles {memory : Memory V} {self : Env cfg G V}
    (h : Env.init cfg memory = .ok self) : self.ShowsObstacles := by
  obtain ⟨cameras, -, h⟩ := bind_eq_ok.mp h
  obtain ⟨⟨obstacles, radiusRng⟩, -, h⟩ := bind_eq_ok.mp h
  cases h
  exact ⟨fun c o => rfl, fun t o => rfl⟩

theorem Reached.showsObstacles {e : Env cfg G V} (h : Reached e) : e.ShowsObstacles := by
  cases h with
  | init h => exact init_showsObstacles h
  | run hreset hrun => exact (knowsObstacles_of_run hreset hrun).shows

end Env

/-! ## Agents that know the layout -/

/-- The agent has the counts, the index and the layout of agent `i` of its team. -/
structure AgentBase.Knows {team : Team} {G : Type} (cfg : Config) (i : Fin (cfg.teamSize team))
    (agent : AgentBase team G) : Prop where
  numCameras : agent.numCameras = cfg.numCameras
  numTargets : agent.numTargets = cfg.numTargets
  numObstacles : agent.numObstacles = cfg.numObstacles
  index : agent.index = (i : ℕ)
  observationIndices : agent.observationIndices
    = observationIndicesOf team cfg.numCameras cfg.numTargets cfg.numObstacles
  observationSlices : agent.observationSlices
    = observationSlicesOf team cfg.numCameras cfg.numTargets cfg.numObstacles
  observationDim : agent.observationDim
    = observationIndicesOf team cfg.numCameras cfg.numTargets cfg.numObstacles 5

/-- What an agent observes does not change what it knows. -/
theorem AgentBase.Knows.observed {team : Team} {G : Type} {cfg : Config}
    {i : Fin (cfg.teamSize team)} {agent : AgentBase team G} (h : agent.Knows cfg i)
    (state : StateBase team.stateDim) (episodeStep : ℤ) (stepCounter : ℕ) :
    ({ agent with state, episodeStep, stepCounter } : AgentBase team G).Knows cfg i :=
  ⟨h.numCameras, h.numTargets, h.numObstacles, h.index, h.observationIndices, h.observationSlices,
    h.observationDim⟩

namespace Env

variable {cfg : Config} {G V : Type}

theorem selfState_read {self : Env cfg G V} (h : self.ShowsObstacles) (team : Team)
    (i : Fin (cfg.teamSize team)) :
    (observationSlicesOf team cfg.numCameras cfg.numTargets cfg.numObstacles).selfState.read
      (self.jointObservation.1.row team i) = self.privateState team i := by
  have hslice := slice_row h team i 1
  cases team with
  | camera => exact (Layout.everyNth_one _).trans hslice
  | target => exact (Layout.everyNth_one _).trans hslice

/-- The space of a team has the dimension of its layout. -/
theorem dim_observationSpaceOf (team : Team) (numCameras numTargets numObstacles : ℕ) :
    (observationSpaceOf team numCameras numTargets numObstacles).dim
      = observationIndicesOf team numCameras numTargets numObstacles 5 := by
  rw [observationIndicesOf_eq]
  cases team with
  | camera =>
      simp only [observationSpaceOf, cameraObservationSpaceOf, Space.dim, Space.tile,
        List.length_append, List.length_flatten, List.map_replicate, List.sum_replicate_nat]
      show 13 + 9 + numTargets * 5 + numObstacles * 4 + numCameras * 7
        = 13 + (9 + (numTargets * 5 + (numObstacles * 4 + (numCameras * 7 + 0))))
      omega
  | target =>
      simp only [observationSpaceOf, targetObservationSpaceOf, Space.dim, Space.tile,
        List.length_append, List.length_flatten, List.map_replicate, List.sum_replicate_nat]
      show 13 + 14 + numCameras * 7 + numObstacles * 4 + numTargets * 5
        = 13 + (14 + (numCameras * 7 + (numObstacles * 4 + (numTargets * 5 + 0))))
      omega

/-- The first four entries of a row are the counts and the index. -/
theorem getElem?_row {self : Env cfg G V} (h : self.ShowsObstacles) (team : Team)
    (i : Fin (cfg.teamSize team)) (k : Fin 4) :
    (self.jointObservation.1.row team i)[(k : ℕ)]?
      = some (![(cfg.numCameras : ℝ), cfg.numTargets, cfg.numObstacles, ((i : ℕ) : ℝ)] k) := by
  rw [row_eq_flatten h]
  fin_cases k <;> rfl

/-- What an agent relies on in a row: its length, and the counts and the index at its head. -/
structure ObservationRow (cfg : Config) (team : Team) (i : Fin (cfg.teamSize team))
    (row : List ℝ) : Prop where
  length_eq : row.length
    = observationIndicesOf team cfg.numCameras cfg.numTargets cfg.numObstacles 5
  head : ∀ k : Fin 4, row[(k : ℕ)]?
    = some (![(cfg.numCameras : ℝ), cfg.numTargets, cfg.numObstacles, ((i : ℕ) : ℝ)] k)

theorem observationRow {self : Env cfg G V} (h : self.ShowsObstacles) (team : Team)
    (i : Fin (cfg.teamSize team)) :
    ObservationRow cfg team i (self.jointObservation.1.row team i) :=
  ⟨length_row h team i, getElem?_row h team i⟩

namespace ObservationRow

variable {team : Team} {i : Fin (cfg.teamSize team)} {row : List ℝ}

/-- The own state is found in every row of the right length. -/
theorem length_selfState (h : ObservationRow cfg team i row) :
    ((observationSlicesOf team cfg.numCameras cfg.numTargets cfg.numObstacles).selfState.read
      row).length = team.stateDim := by
  have hlength := h.length_eq
  rw [observationIndicesOf_eq] at hlength
  cases team with
  | camera =>
      have hle : 22 ≤ row.length := by
        rw [hlength]
        show 22 ≤ 13 + (9 + (cfg.numTargets * 5 + (cfg.numObstacles * 4 + (cfg.numCameras * 7 + 0))))
        omega
      show (Layout.everyNth 1 (Layout.slice 13 22 row)).length = 9
      rw [Layout.everyNth_one, Layout.slice, List.length_drop, List.length_take]
      omega
  | target =>
      have hle : 27 ≤ row.length := by
        rw [hlength]
        show 27 ≤ 13 + (14 + (cfg.numCameras * 7 + (cfg.numObstacles * 4 + (cfg.numTargets * 5 + 0))))
        omega
      show (Layout.everyNth 1 (Layout.slice 13 27 row)).length = 14
      rw [Layout.everyNth_one, Layout.slice, List.length_drop, List.length_take]
      omega

/-- **An agent that is reset** on a row knows the layout, and has its clock at the start. -/
theorem reset [RandomState G] (h : ObservationRow cfg team i row) (npRandom : G) :
    ∃ agent, AgentBase.reset team npRandom row = .ok agent ∧ agent.Knows cfg i
      ∧ agent.state.state
        = (observationSlicesOf team cfg.numCameras cfg.numTargets cfg.numObstacles).selfState.read row
      ∧ agent.state.index = (i : ℕ) ∧ agent.episodeStep = -1 ∧ agent.stepCounter = 0 := by
  have hread : ∀ k : Fin 4, AgentBase.readEntry row k
      = .ok (![(cfg.numCameras : ℝ), cfg.numTargets, cfg.numObstacles, ((i : ℕ) : ℝ)] k) := by
    intro k
    rw [AgentBase.readEntry, h.head k]
  have hcount : ∀ n : ℕ, AgentBase.readCount (n : ℤ) = .ok n := by
    intro n
    rw [AgentBase.readCount, if_pos (Int.natCast_nonneg n), Int.toNat_natCast]
  have hcameras : AgentBase.readEntry row 0 = .ok (cfg.numCameras : ℝ) := hread 0
  have htargets : AgentBase.readEntry row 1 = .ok (cfg.numTargets : ℝ) := hread 1
  have hobstacles : AgentBase.readEntry row 2 = .ok (cfg.numObstacles : ℝ) := hread 2
  have hindex : AgentBase.readEntry row 3 = .ok ((i : ℕ) : ℝ) := hread 3
  unfold AgentBase.reset
  simp only [hcameras, htargets, hobstacles, hindex, bind, Except.bind, hcount, roundToInt_natCast,
    h.length_eq, dim_observationSpaceOf, ne_eq, not_true_eq_false, if_false,
    StateBase.make, dif_pos h.length_selfState, pure, Except.pure]
  exact ⟨_, rfl, ⟨rfl, rfl, rfl, rfl, rfl, rfl, rfl⟩, rfl, rfl, rfl, rfl⟩

/-- **An agent that knows the layout** takes the row, and counts its steps. -/
theorem checkInputs (h : ObservationRow cfg team i row) {agent : AgentBase team G}
    (hagent : agent.Knows cfg i) :
    ∃ state, agent.checkInputs row = .ok (state, { agent with
        episodeStep := if agent.stepCounter % 2 = 0 then agent.episodeStep + 1 else agent.episodeStep
        stepCounter := agent.stepCounter + 1 })
      ∧ state.state
        = (observationSlicesOf team cfg.numCameras cfg.numTargets cfg.numObstacles).selfState.read row
      ∧ state.index = (i : ℕ) := by
  unfold AgentBase.checkInputs
  simp only [hagent.observationDim, hagent.observationSlices, hagent.index, h.length_eq, ne_eq,
    not_true_eq_false, if_false, StateBase.make, dif_pos h.length_selfState, bind, Except.bind, pure,
    Except.pure]
  exact ⟨_, rfl, rfl, rfl⟩

end ObservationRow

theorem reset_knows [RandomState G] {self : Env cfg G V} (h : self.ShowsObstacles) (team : Team)
    (i : Fin (cfg.teamSize team)) (npRandom : G) :
    ∃ agent, AgentBase.reset team npRandom (self.jointObservation.1.row team i) = .ok agent
      ∧ agent.Knows cfg i ∧ agent.state.state = self.privateState team i
      ∧ agent.state.index = (i : ℕ) := by
  obtain ⟨agent, hreset, hknows, hstate, hindex, -, -⟩ := (observationRow h team i).reset npRandom
  exact ⟨agent, hreset, hknows, hstate.trans (selfState_read h team i), hindex⟩

/-! ## Decoding -/

/-- What an agent reads of row `i`: its own state, the others as far as the masks allow, and the
same fields by indices, by slices and in the order of the concatenation. -/
structure Decodes (team : Team) (i : Fin (cfg.teamSize team)) (agent : AgentBase team G)
    (e : Env cfg G V) : Prop where
  state : ∃ state agent', agent.checkInputs (e.jointObservation.1.row team i) = .ok (state, agent')
    ∧ state.state = e.privateState team i ∧ state.index = (i : ℕ)
  opponent : ∀ j : Fin (cfg.teamSize team.opponent), ∃ state,
    agent.getOpponentState (e.jointObservation.1.row team i) (j : ℕ)
        = .ok (state, e.viewMask team team.opponent i j)
      ∧ state.index = (j : ℕ)
      ∧ state.state = if e.viewMask team team.opponent i j then e.publicState team.opponent j
          else List.replicate team.opponentStateDim 0
  obstacle : ∀ o : Fin cfg.numObstacles, ∃ state,
    agent.getObstacleState (e.jointObservation.1.row team i) (o : ℕ)
        = .ok (state, e.obstacleViewMask team i o)
      ∧ state.index = (o : ℕ)
      ∧ state.state = if e.obstacleViewMask team i o then (e.obstacles o).state
          else List.replicate OBSTACLE_STATE_DIM 0
  teammate : ∀ j : Fin (cfg.teamSize team), ∃ state,
    agent.getTeammateState (e.jointObservation.1.row team i) (j : ℕ)
        = .ok (state, e.viewMask team team i j)
      ∧ state.index = (j : ℕ)
      ∧ state.state = if e.viewMask team team i j then e.publicState team j
          else List.replicate team.teammateStateDim 0
  concatenation : e.jointObservation.1.row team i = (e.fields team i).flatten
  indices : ∀ k : Fin 5, Layout.slice (agent.observationIndices k.castSucc)
    (agent.observationIndices k.succ) (e.jointObservation.1.row team i) = (e.fields team i).get k
  slices : [agent.observationSlices.preservedData, agent.observationSlices.selfState,
      agent.observationSlices.opponentStatesWithMask, agent.observationSlices.obstacleStatesWithMask,
      agent.observationSlices.teammateStatesWithMask].map
        (fun slice => slice.read (e.jointObservation.1.row team i)) = e.fields team i
  opponentMask : agent.observationSlices.opponentMask.read (e.jointObservation.1.row team i)
    = List.ofFn (fun j => if e.viewMask team team.opponent i j then 1 else 0)
  obstacleMask : agent.observationSlices.obstacleMask.read (e.jointObservation.1.row team i)
    = List.ofFn (fun o => if e.obstacleViewMask team i o then 1 else 0)
  teammateMask : agent.observationSlices.teammateMask.read (e.jointObservation.1.row team i)
    = List.ofFn (fun j => if e.viewMask team team i j then 1 else 0)

theorem checkInputs_knows {team : Team} {i : Fin (cfg.teamSize team)} {agent : AgentBase team G}
    (hagent : agent.Knows cfg i) {self : Env cfg G V} (h : self.ShowsObstacles) :
    ∃ state agent', agent.checkInputs (self.jointObservation.1.row team i) = .ok (state, agent')
      ∧ state.state = self.privateState team i ∧ state.index = (i : ℕ) ∧ agent'.Knows cfg i := by
  obtain ⟨state, hcheck, hstate, hindex⟩ := (observationRow h team i).checkInputs hagent
  exact ⟨state, _, hcheck, hstate.trans (selfState_read h team i), hindex, hagent.observed _ _ _⟩

/-- The indices of the fields of rows are apart by the rows between them. -/
theorem observationIndicesOf_rows (cfg : Config) (team : Team) (indices : Fin 6 → ℕ)
    (h : indices = observationIndicesOf team cfg.numCameras cfg.numTargets cfg.numObstacles) :
    indices 3 = indices 2 + cfg.teamSize team.opponent * (team.opponentStateDim + 1)
      ∧ indices 4 = indices 3 + cfg.numObstacles * (OBSTACLE_STATE_DIM + 1)
      ∧ indices 5 = indices 4 + cfg.teamSize team * (team.teammateStateDim + 1) := by
  subst h
  simp only [observationIndicesOf_eq]
  cases team with
  | camera =>
      simp [fieldWidths, Layout.offset, Config.teamSize, Team.opponent, Team.opponentStateDim,
        Team.teammateStateDim]
      omega
  | target =>
      simp [fieldWidths, Layout.offset, Config.teamSize, Team.opponent, Team.opponentStateDim,
        Team.teammateStateDim]
      omega

/-- The slices of both teams are taken at the indices. -/
theorem observationSlicesOf_eq (team : Team) (numCameras numTargets numObstacles : ℕ)
    (indices : Fin 6 → ℕ)
    (h : indices = observationIndicesOf team numCameras numTargets numObstacles) :
    observationSlicesOf team numCameras numTargets numObstacles =
      { preservedData := ⟨indices 0, indices 1, 1⟩
        selfState := ⟨indices 1, indices 2, 1⟩
        opponentStatesWithMask := ⟨indices 2, indices 3, 1⟩
        opponentMask := ⟨indices 2 + team.opponentStateDim, indices 3, team.opponentStateDim + 1⟩
        obstacleStatesWithMask := ⟨indices 3, indices 4, 1⟩
        obstacleMask := ⟨indices 3 + OBSTACLE_STATE_DIM, indices 4, OBSTACLE_STATE_DIM + 1⟩
        teammateStatesWithMask := ⟨indices 4, indices 5, 1⟩
        teammateMask :=
          ⟨indices 4 + team.teammateStateDim, indices 5, team.teammateStateDim + 1⟩ } := by
  subst h
  cases team <;> rfl

/-- **An agent that knows the layout decodes** every row of its index. -/
theorem Decodes.of_knows {team : Team} {i : Fin (cfg.teamSize team)} {agent : AgentBase team G}
    (hagent : agent.Knows cfg i) {self : Env cfg G V} (h : self.ShowsObstacles) :
    Decodes team i agent self := by
  -- the indices that the agent knows are those of the fields
  have hfields : ∀ k : Fin 5, Layout.slice (agent.observationIndices k.castSucc)
      (agent.observationIndices k.succ) (self.jointObservation.1.row team i)
        = (self.fields team i).get k := by
    rw [hagent.observationIndices]
    exact slice_row h team i
  obtain ⟨h₃, h₄, h₅⟩ :=
    observationIndicesOf_rows cfg team agent.observationIndices hagent.observationIndices
  have hslices := observationSlicesOf_eq team cfg.numCameras cfg.numTargets cfg.numObstacles
    agent.observationIndices hagent.observationIndices
  rw [← hagent.observationSlices] at hslices
  have hopponent : ∀ j, (self.publicState team.opponent j).length = team.opponentStateDim := by
    intro j
    rw [length_publicState]
    cases team <;> rfl
  have hobstacle : ∀ o, (self.obstacles o).state.length = OBSTACLE_STATE_DIM := fun o => rfl
  have hteammate := self.length_publicState team
  have hnumOpponents : agent.numOpponents = cfg.teamSize team.opponent := by
    cases team with
    | camera => exact hagent.numTargets
    | target => exact hagent.numCameras
  have hnumTeammates : agent.numTeammates = cfg.teamSize team := by
    cases team with
    | camera => exact hagent.numCameras
    | target => exact hagent.numTargets
  obtain ⟨state, agent', hcheck, hstate, hindex, -⟩ := checkInputs_knows hagent h
  exact
    { state := ⟨state, agent', hcheck, hstate, hindex⟩
      opponent := by
        intro j
        rw [AgentBase.getOpponentState, hnumOpponents]
        exact AgentBase.getState_eq hopponent (hfields 2) h₃ _ j
      obstacle := by
        intro o
        rw [AgentBase.getObstacleState, hagent.numObstacles]
        exact AgentBase.getState_eq hobstacle (hfields 3) h₄ _ o
      teammate := by
        intro j
        rw [AgentBase.getTeammateState, hnumTeammates]
        exact AgentBase.getState_eq hteammate (hfields 4) h₅ _ j
      concatenation := row_eq_flatten h team i
      indices := hfields
      slices := by
        have hread : ∀ k : Fin 5, (⟨agent.observationIndices k.castSucc,
            agent.observationIndices k.succ, 1⟩ : Slice).read (self.jointObservation.1.row team i)
              = (self.fields team i).get k := by
          intro k
          rw [Slice.read, Layout.everyNth_one, hfields]
        rw [hslices]
        exact congrArg₂ List.cons (hread 0) (congrArg₂ List.cons (hread 1) (congrArg₂ List.cons
          (hread 2) (congrArg₂ List.cons (hread 3) (congrArg₂ List.cons (hread 4) rfl))))
      opponentMask := by
        rw [hslices]
        exact Slice.read_mask hopponent (hfields 2)
      obstacleMask := by
        rw [hslices]
        exact Slice.read_mask hobstacle (hfields 3)
      teammateMask := by
        rw [hslices]
        exact Slice.read_mask hteammate (hfields 4) }

/-- **The codec.** An agent that was reset on row `i` of any observation knows the counts and its
index, and decodes row `i` of every observation. -/
theorem observation_decoded [RandomState G] [SetOrder] {first env : Env cfg G V}
    (hfirst : Reached first) (henv : Reached env) (team : Team) (i : Fin (cfg.teamSize team))
    (npRandom : G) :
    ∃ agent, AgentBase.reset team npRandom (first.jointObservation.1.row team i) = .ok agent
      ∧ agent.numCameras = cfg.numCameras ∧ agent.numTargets = cfg.numTargets
      ∧ agent.numObstacles = cfg.numObstacles ∧ agent.index = (i : ℕ)
      ∧ agent.observationIndices
        = observationIndicesOf team cfg.numCameras cfg.numTargets cfg.numObstacles
      ∧ agent.observationSlices
        = observationSlicesOf team cfg.numCameras cfg.numTargets cfg.numObstacles
      ∧ agent.state.state = first.privateState team i ∧ agent.state.index = (i : ℕ)
      ∧ Decodes team i agent env := by
  obtain ⟨agent, hreset, hknows, hstate, hindex⟩ := reset_knows hfirst.showsObstacles team i npRandom
  exact ⟨agent, hreset, hknows.numCameras, hknows.numTargets, hknows.numObstacles, hknows.index,
    hknows.observationIndices, hknows.observationSlices, hstate, hindex,
    Decodes.of_knows hknows henv.showsObstacles⟩

/-- The target of the small environment. -/
def soloTarget (location : ℚ × ℚ) (maxEpisodeSteps : ℕ) (h : 0 < maxEpisodeSteps) :
    Fin ((soloConfig location maxEpisodeSteps h).teamSize .target) := ⟨0, Nat.one_pos⟩

/-- The target of the small environment decodes its observation after a step. -/
theorem observation_decoded_solo :
    letI := rotating
    letI := SetOrder.increasing
    ∃ (start env : Env (soloConfig (0, 0) 10 (by decide)) (Fin 4) Unit)
      (agent : AgentBase .target (Fin 4)),
      AgentBase.reset .target 0 (start.jointObservation.1.row .target
          (soloTarget (0, 0) 10 (by decide))) = .ok agent
        ∧ agent.numTargets = 1
        ∧ Decodes .target (soloTarget (0, 0) 10 (by decide)) agent env := by
  let _ := rotating
  let _ := SetOrder.increasing
  obtain ⟨self, start, env, observations, reg, result, hreset, hstep⟩ :=
    exists_solo_step (0, 0) 10 (by decide)
  have hfirst : Reached start := .run hreset .nil
  have henv : Reached env := .run hreset (Run.single (Next.step hstep))
  obtain ⟨agent, hagent, -, htargets, -, -, -, -, -, -, hdecodes⟩ :=
    observation_decoded hfirst henv .target (soloTarget (0, 0) 10 (by decide)) 0
  exact ⟨start, env, agent, hagent, htargets, hdecodes⟩

end Env

end Mate
