import Mate.Rllib.CentralizedTraining
import Mate.Utils

set_option autoImplicit false

/-! # Shifting the others' actions by one step

`ShiftAgentActionTimestep` moves the feature `prev_others_joint_action` of a sample batch one
step forward, in the flat observations. It takes the feature to be the last columns. That is so
only if nothing is appended behind it, neither an action mask nor the others' observations, and
a slice that begins at `-0` is the whole row (`columns_agree_iff`).
-/

namespace Mate.Rllib

open Layout

namespace CentralizedTraining

/-! ## The callback -/

/-- `slice(start, stop).indices(length)`. -/
def sliceIndices (start stop : Option ℤ) (length : ℕ) : Columns :=
  -- a negative index counts from the end
  let clip := fun k : ℤ => if k < 0 then (k + length).toNat else min k.toNat length
  (start.elim 0 clip, stop.elim length clip)

variable (env : CentralizedTraining)

def othersJointActionDim : ℕ := env.othersJointActionSpace.flatSize

/-- The columns of `others_joint_action_slice = slice(-others_joint_action_dim, None)`. -/
def othersJointActionSlice : Columns :=
  sliceIndices (some (-(env.othersJointActionDim : ℤ))) none env.flatObsDim

/-- `to[columns] = from[columns]` on one row. -/
def copyColumns (columns : Columns) (source row : List ℝ) : List ℝ :=
  assign columns.1 (slice columns.1 columns.2 source) row

/-- The observations and next observations of a sample batch. -/
structure ObsBatch where
  curObs : List (List ℝ)
  nextObs : List (List ℝ)

/-- Every row but the last takes the columns over from the row behind it. -/
def shiftRows (columns : Columns) (last : List ℝ) : List (List ℝ) → List (List ℝ)
  | [] => []
  | [row] => [assign columns.1 last row]
  | row :: next :: rest => copyColumns columns next row :: shiftRows columns last (next :: rest)

/-- `on_postprocess_trajectory`, given the flat next actions of the other agents. -/
def onPostprocessTrajectory (lastOthersNextJointAction : List ℝ) (batch : ObsBatch) :
    Except Error ObsBatch :=
  let columns := env.othersJointActionSlice
  if lastOthersNextJointAction.length ≠ columns.2 - columns.1 then
    .error (.valueError "could not broadcast input array")
  else .ok
    { curObs := List.zipWith (copyColumns columns) batch.nextObs batch.curObs
      nextObs := shiftRows columns lastOthersNextJointAction batch.nextObs }

/-- The feature of a flat observation under a key. -/
def feature (key : String) (row : List ℝ) : List ℝ :=
  slice (env.writtenColumns key).1 (env.writtenColumns key).2 row

/-- Rows that differ in the others' actions only. -/
def OthersKept (rows rows' : List (List ℝ)) : Prop :=
  List.Forall₂ (fun row row' => ∀ key ∈ env.subspaces.map Prod.fst,
    key ≠ "prev_others_joint_action" → env.feature key row' = env.feature key row) rows rows'

/-- The callback rewrites what the preprocessor writes and the models read, and nothing else. -/
structure ColumnsAgree : Prop where
  callback_eq : Finset.Ico env.othersJointActionSlice.1 env.othersJointActionSlice.2
    = Finset.Ico (env.writtenColumns "prev_others_joint_action").1
        (env.writtenColumns "prev_others_joint_action").2
  models_eq : env.flatObsSlice "prev_others_joint_action"
    = env.writtenColumns "prev_others_joint_action"
  others_kept : ∀ (batch : ObsBatch) (last : List ℝ), last.length = env.othersJointActionDim →
    batch.curObs.length = batch.nextObs.length →
    (∀ row ∈ batch.curObs ++ batch.nextObs, row.length = env.flatObsDim) →
    ∃ result, env.onPostprocessTrajectory last batch = .ok result
      ∧ env.OthersKept batch.curObs result.curObs ∧ env.OthersKept batch.nextObs result.nextObs

/-! ## Where the feature lies -/

/-- The columns behind the feature. -/
def trailingDim : ℕ :=
  (env.actionMaskSpace.elim 0 GymSpace.flatSize)
    + if env.addJointObservation then env.othersJointObservationSpace.flatSize else 0

@[simp] theorem keyIndex_prevOthersJointAction : env.keyIndex "prev_others_joint_action" = 2 := by
  rw [keyIndex, subspaces]
  rfl

theorem mem_keys_prevOthersJointAction :
    "prev_others_joint_action" ∈ env.subspaces.map Prod.fst := by
  simp [subspaces]

theorem spaceDims_eq : ∃ trailing : List ℕ, trailing.sum = env.trailingDim ∧ env.spaceDims
    = env.observationSpace.flatSize :: env.stateSpace.flatSize :: env.othersJointActionDim
      :: trailing := by
  refine ⟨_, ?_, by rw [spaceDims, subspaces]; rfl⟩
  rw [trailingDim]
  cases env.actionMaskSpace <;> cases env.addJointObservation <;> simp

/-- The feature begins behind the observation and the state. -/
theorem writtenColumns_prevOthersJointAction : env.writtenColumns "prev_others_joint_action"
    = (env.observationSpace.flatSize + env.stateSpace.flatSize,
      env.observationSpace.flatSize + env.stateSpace.flatSize + env.othersJointActionDim) := by
  obtain ⟨trailing, -, hdims⟩ := env.spaceDims_eq
  rw [writtenColumns, keyIndex_prevOthersJointAction, hdims]
  simp [offset]
  omega

theorem flatObsDim_eq_add : env.flatObsDim = env.observationSpace.flatSize
    + env.stateSpace.flatSize + env.othersJointActionDim + env.trailingDim := by
  obtain ⟨trailing, htrailing, hdims⟩ := env.spaceDims_eq
  rw [flatObsDim_eq, hdims, ← htrailing]
  simp
  omega

/-- The callback takes the last columns, and all of them if there are none to take. -/
theorem othersJointActionSlice_eq : env.othersJointActionSlice
    = (if env.othersJointActionDim = 0 then 0 else env.flatObsDim - env.othersJointActionDim,
      env.flatObsDim) := by
  rw [othersJointActionSlice, sliceIndices]
  apply Prod.ext
  · show (if _ then _ else _) = _
    by_cases h : env.othersJointActionDim = 0
    · rw [if_neg (by omega), if_pos h, h]
      simp
    · rw [if_pos (by omega), if_neg h]
      omega
  · rfl

/-- **Where the callback's columns are the feature**: it has columns and is the last field, or
there are no columns at all. -/
theorem callback_eq_iff :
    Finset.Ico env.othersJointActionSlice.1 env.othersJointActionSlice.2
        = Finset.Ico (env.writtenColumns "prev_others_joint_action").1
          (env.writtenColumns "prev_others_joint_action").2
      ↔ env.othersJointActionDim ≠ 0 ∧ env.trailingDim = 0 ∨ env.flatObsDim = 0 := by
  have htotal := env.flatObsDim_eq_add
  rw [othersJointActionSlice_eq, writtenColumns_prevOthersJointAction]
  constructor
  · intro h
    by_contra hnot
    rw [not_or, not_and_or, not_not] at hnot
    obtain ⟨hcase, hpos⟩ := hnot
    -- the last column is the callback's, so it has to be one of the feature
    have hlast : env.flatObsDim - 1 ∈ Finset.Ico
        (if env.othersJointActionDim = 0 then 0 else env.flatObsDim - env.othersJointActionDim)
        env.flatObsDim := by
      rw [Finset.mem_Ico]
      split <;> omega
    have hfeature := h ▸ hlast
    rw [Finset.mem_Ico] at hfeature
    dsimp only at hfeature
    omega
  · rintro (⟨hdim, htrailing⟩ | hzero)
    · rw [if_neg hdim]
      congr 1
      · dsimp only
        omega
      · dsimp only
        omega
    · have hdim : env.othersJointActionDim = 0 := by omega
      rw [if_pos hdim, hzero]
      simp [hdim]

/-- Then the columns begin and end at the same places. -/
theorem columns_eq (h : env.othersJointActionDim ≠ 0 ∧ env.trailingDim = 0 ∨ env.flatObsDim = 0) :
    env.othersJointActionSlice = env.writtenColumns "prev_others_joint_action" := by
  have htotal := env.flatObsDim_eq_add
  rw [othersJointActionSlice_eq, writtenColumns_prevOthersJointAction]
  rcases h with ⟨hdim, htrailing⟩ | hzero
  · rw [if_neg hdim]
    apply Prod.ext
    · dsimp only
      omega
    · dsimp only
      omega
  · rw [if_pos (by omega)]
    apply Prod.ext
    · dsimp only
      omega
    · dsimp only
      omega

/-! ## What is kept -/

theorem getElem?_assign {offset j : ℕ} {values row : List ℝ}
    (h : offset + values.length ≤ row.length) (hj : j < offset ∨ offset + values.length ≤ j) :
    (assign offset values row)[j]? = row[j]? := by
  have htake : (row.take offset).length = offset := by
    rw [List.length_take, min_eq_left (by omega)]
  rw [assign]
  rcases hj with hj | hj
  · rw [List.append_assoc, List.getElem?_append_left (by omega), List.getElem?_take, if_pos hj]
  · rw [List.getElem?_append_right (by rw [List.length_append]; omega), List.length_append,
      List.getElem?_drop, htake]
    congr 1
    omega

theorem offset_mono (widths : List ℕ) {i j : ℕ} (h : i ≤ j) : offset widths i ≤ offset widths j :=
  List.Sublist.sum_le_sum (List.take_sublist_take_left h) (fun _ _ => Nat.zero_le _)

/-- The feature of another key lies beside the columns of a key. -/
theorem feature_assign {key key' : String} (h : key ∈ env.subspaces.map Prod.fst)
    (hne : key ≠ key') {values row : List ℝ}
    (hlength : (env.writtenColumns key').1 + values.length = (env.writtenColumns key').2)
    (hrow : (env.writtenColumns key').2 ≤ row.length) :
    env.feature key (assign (env.writtenColumns key').1 values row) = env.feature key row := by
  have hidx : env.keyIndex key ≠ env.keyIndex key' := fun heq => hne (List.idxOf_inj h |>.mp heq)
  apply List.ext_getElem?
  intro j
  rw [feature, feature, getElem?_slice, getElem?_slice]
  split
  · rename_i hj
    apply getElem?_assign (by omega)
    rw [hlength]
    rcases Nat.lt_or_gt_of_ne hidx with hlt | hlt
    · left
      exact hj.trans_le (offset_mono env.spaceDims hlt)
    · right
      have hle := offset_mono env.spaceDims (Nat.succ_le_of_lt hlt)
      exact hle.trans (Nat.le_add_right _ j)
  · rfl

section Kept

variable (hcolumns : env.othersJointActionSlice = env.writtenColumns "prev_others_joint_action")
include hcolumns

theorem feature_copyColumns {key : String} (h : key ∈ env.subspaces.map Prod.fst)
    (hne : key ≠ "prev_others_joint_action") {source row : List ℝ}
    (hsource : source.length = env.flatObsDim) (hrow : row.length = env.flatObsDim) :
    env.feature key (copyColumns env.othersJointActionSlice source row) = env.feature key row := by
  have hwritten := env.writtenColumns_prevOthersJointAction
  have htotal := env.flatObsDim_eq_add
  rw [copyColumns, hcolumns]
  refine env.feature_assign h hne ?_ ?_
  · rw [slice, List.length_drop, List.length_take, hwritten]
    dsimp only
    omega
  · rw [hwritten]
    dsimp only
    omega

theorem othersKept_shiftRows {last : List ℝ} (hlast : last.length = env.othersJointActionDim)
    {rows : List (List ℝ)} (hrows : ∀ row ∈ rows, row.length = env.flatObsDim) :
    env.OthersKept rows (shiftRows env.othersJointActionSlice last rows) := by
  induction rows with
  | nil => exact List.Forall₂.nil
  | cons row rows ih =>
      have hrow := hrows row List.mem_cons_self
      have hrest := ih (fun r hr => hrows r (List.mem_cons_of_mem row hr))
      cases rows with
      | nil =>
          refine List.Forall₂.cons (fun key h hne => ?_) List.Forall₂.nil
          have hwritten := env.writtenColumns_prevOthersJointAction
          have htotal := env.flatObsDim_eq_add
          rw [hcolumns]
          refine env.feature_assign h hne ?_ ?_
          · rw [hwritten, hlast]
          · rw [hwritten]
            dsimp only
            omega
      | cons next rows =>
          refine List.Forall₂.cons (fun key h hne => ?_) hrest
          exact env.feature_copyColumns hcolumns h hne
            (hrows next (List.mem_cons_of_mem row List.mem_cons_self)) hrow

theorem othersKept_curObs {cur next : List (List ℝ)} (hlength : cur.length = next.length)
    (hcur : ∀ row ∈ cur, row.length = env.flatObsDim)
    (hnext : ∀ row ∈ next, row.length = env.flatObsDim) :
    env.OthersKept cur (List.zipWith (copyColumns env.othersJointActionSlice) next cur) := by
  induction cur generalizing next with
  | nil =>
      rw [List.zipWith_nil_right]
      exact List.Forall₂.nil
  | cons row cur ih =>
      cases next with
      | nil => cases hlength
      | cons row' next =>
          refine List.Forall₂.cons (fun key h hne => ?_)
            (ih (Nat.succ.inj hlength) (fun r hr => hcur r (List.mem_cons_of_mem row hr))
              (fun r hr => hnext r (List.mem_cons_of_mem row' hr)))
          exact env.feature_copyColumns hcolumns h hne (hnext row' List.mem_cons_self)
            (hcur row List.mem_cons_self)

theorem others_kept {batch : ObsBatch} {last : List ℝ}
    (hlast : last.length = env.othersJointActionDim)
    (hlength : batch.curObs.length = batch.nextObs.length)
    (hrows : ∀ row ∈ batch.curObs ++ batch.nextObs, row.length = env.flatObsDim) :
    ∃ result, env.onPostprocessTrajectory last batch = .ok result
      ∧ env.OthersKept batch.curObs result.curObs
      ∧ env.OthersKept batch.nextObs result.nextObs := by
  have hwritten := env.writtenColumns_prevOthersJointAction
  have hwidth : last.length
      = env.othersJointActionSlice.2 - env.othersJointActionSlice.1 := by
    rw [hlast, hcolumns, hwritten]
    dsimp only
    omega
  have hnext : ∀ row ∈ batch.nextObs, row.length = env.flatObsDim :=
    fun row h => hrows row (List.mem_append_right batch.curObs h)
  refine ⟨⟨_, shiftRows env.othersJointActionSlice last batch.nextObs⟩, ?_,
    env.othersKept_curObs hcolumns hlength
    (fun row h => hrows row (List.mem_append_left batch.nextObs h)) hnext,
    env.othersKept_shiftRows hcolumns hlast hnext⟩
  rw [onPostprocessTrajectory]
  exact if_neg (not_not.mpr hwidth)

end Kept

/-- **When the callback rewrites the others' actions and nothing else**: they take columns and
nothing that takes columns is appended behind them, or the observation has no columns at all. -/
theorem columns_agree_iff : env.ColumnsAgree ↔
    env.othersJointActionDim ≠ 0 ∧ env.trailingDim = 0 ∨ env.flatObsDim = 0 := by
  constructor
  · intro h
    exact env.callback_eq_iff.mp h.callback_eq
  · intro h
    have hcolumns := env.columns_eq h
    refine ⟨env.callback_eq_iff.mpr h, env.flatObsSlice_eq env.mem_keys_prevOthersJointAction, ?_⟩
    intro batch last hlast hlength hrows
    exact env.others_kept hcolumns hlast hlength hrows

/-- Four cameras with 8 features, a state of 20 and 25 actions, and the others' observations
appended, as I2C has them. -/
def i2cCameras : CentralizedTraining where
  numTeammates := 4
  observationSpace := .box [8]
  stateSpace := .box [20]
  actionSpace := .discrete 25
  actionMaskSpace := none
  addJointObservation := true

/-- The callback rewrites the observations of the other agents as well. -/
theorem not_columnsAgree_i2cCameras : i2cCameras.othersJointActionSlice = (52, 127)
    ∧ i2cCameras.writtenColumns "prev_others_joint_action" = (28, 103)
    ∧ ¬ i2cCameras.ColumnsAgree := by
  have hslice : i2cCameras.othersJointActionSlice = (52, 127) := by decide
  have hwritten : i2cCameras.writtenColumns "prev_others_joint_action" = (28, 103) := by
    rw [writtenColumns_prevOthersJointAction]
    decide
  refine ⟨hslice, hwritten, fun h => ?_⟩
  have heq := h.callback_eq
  rw [hslice, hwritten] at heq
  have hmem : 28 ∈ Finset.Ico 52 127 := heq ▸ Finset.mem_Ico.mpr ⟨le_rfl, by omega⟩
  rw [Finset.mem_Ico] at hmem
  omega

end CentralizedTraining

end Mate.Rllib
