import Mate.ActionShift

set_option autoImplicit false

/-! # Shifting actions in windows of one array

The sample collector cuts `CUR_OBS` and `NEXT_OBS` out of the same array, one row apart
(`builtRows_cur`, `builtRows_next`). `ShiftAgentActionTimestep` writes through both of them, so its
second assignment reads what the first one has moved already. While it writes, every row holds its
own observation with the actions of some other row (`stamp`, `writeColumns_stamp`); which ones they
are in the end is `heldCur` and `heldNext`.
-/

namespace Mate.Rllib

open Layout

namespace CentralizedTraining

/-! ## The sample collector -/

/-- The rows of the observation buffer that `_AgentCollector.build` takes for a column of the given
shift, which is a window as long as the shift is at most one. -/
def builtRows (shiftBefore : ℕ) (viewShift : ℤ) (length : ℕ) : Columns :=
  let obsShift := -1
  let shift := viewShift + obsShift
  if shift = 0 then sliceIndices (some shiftBefore) none length
  else sliceIndices (some (shiftBefore + shift)) (some shift) length

/-- A slice that begins at an index in the range begins there. -/
theorem sliceIndices_start {start length : ℕ} (h : start ≤ length) (stop : Option ℤ) :
    (sliceIndices (some start) stop length).1 = start := by
  have hnonneg : ¬ (start : ℤ) < 0 := by omega
  simp only [sliceIndices, Option.elim_some, if_neg hnonneg, Int.toNat_natCast, min_eq_left h]

/-- `CUR_OBS` is `buf[k-1:-1]`. -/
theorem builtRows_cur {k T : ℕ} (hk : 0 < k) : builtRows k 0 (k + T) = (k - 1, k - 1 + T) := by
  have hstart : (k : ℤ) + (0 + -1) = ((k - 1 : ℕ) : ℤ) := by omega
  rw [builtRows, if_neg (by decide), hstart]
  apply Prod.ext
  · exact sliceIndices_start (by omega) _
  · simp only [sliceIndices, Option.elim_some]
    rw [if_pos (by decide)]
    omega

/-- `NEXT_OBS` is `buf[k:]`. -/
theorem builtRows_next (k T : ℕ) : builtRows k 1 (k + T) = (k, k + T) := by
  rw [builtRows, if_pos (by decide)]
  exact Prod.ext (sliceIndices_start (Nat.le_add_right k T) none) rfl

/-! ## Assignments to rows and columns -/

/-- `array[rows, columns]`. -/
def readColumns (rows columns : Columns) (array : List (List ℝ)) : List (List ℝ) :=
  (slice rows.1 rows.2 array).map (slice columns.1 columns.2)

/-- `array[rows, columns] = values`. The values are read before anything is written, also where
they overlap with what is written. -/
def writeColumns (rows columns : Columns) (values array : List (List ℝ)) : List (List ℝ) :=
  array.mapIdx (fun i row =>
    if rows.1 ≤ i ∧ i < rows.2 then assign columns.1 (values.getD (i - rows.1) []) row else row)

variable (env : CentralizedTraining)

/-- `on_postprocess_trajectory`, given the flat next actions of the other agents, on the rows `cur`
and `next` of one array. -/
def onPostprocessWindows (lastOthersNextJointAction : List ℝ) (cur next : Columns)
    (buffer : List (List ℝ)) : Except Error (List (List ℝ)) :=
  let columns := env.othersJointActionSlice
  let buffer := writeColumns cur columns (readColumns next columns buffer) buffer
  let buffer := writeColumns (next.1, next.2 - 1) columns
    (readColumns (next.1 + 1, next.2) columns buffer) buffer
  if lastOthersNextJointAction.length ≠ columns.2 - columns.1 then
    .error (.valueError "could not broadcast input array")
  else .ok (writeColumns (next.2 - 1, next.2) columns [lastOthersNextJointAction] buffer)

/-! ## Rows with the actions of other rows -/

/-- The rows with `value i` in the columns of row `i`. -/
def stamp (columns : Columns) (value : ℕ → List ℝ) (rows : List (List ℝ)) : List (List ℝ) :=
  rows.mapIdx (fun i row => assign columns.1 (value i) row)

section Stamp

variable {columns : Columns} {row v w : List ℝ}

theorem slice_assign (hv : v.length = columns.2 - columns.1) (hcolumns : columns.1 ≤ columns.2)
    (hrow : columns.2 ≤ row.length) : slice columns.1 columns.2 (assign columns.1 v row) = v := by
  have htake : (row.take columns.1).length = columns.1 := by
    rw [List.length_take, min_eq_left (by omega)]
  have hfront : (row.take columns.1 ++ v).length = columns.2 := by
    rw [List.length_append, htake]
    omega
  rw [slice, assign, List.take_left' hfront, List.drop_left' htake]

theorem assign_slice (hcolumns : columns.1 ≤ columns.2) (hrow : columns.2 ≤ row.length) :
    assign columns.1 (slice columns.1 columns.2 row) row = row := by
  have hlength : columns.1 + (slice columns.1 columns.2 row).length = columns.2 := by
    rw [slice, List.length_drop, List.length_take, min_eq_left hrow]
    omega
  have hfront : row.take columns.1 ++ slice columns.1 columns.2 row = row.take columns.2 := by
    conv_rhs => rw [← List.take_append_drop columns.1 (row.take columns.2)]
    rw [List.take_take, min_eq_left hcolumns, slice]
  rw [assign, hlength, hfront, List.take_append_drop]

/-- What is written last is what remains. -/
theorem assign_assign (h : v.length = w.length) (hrow : columns.1 + w.length ≤ row.length) :
    assign columns.1 v (assign columns.1 w row) = assign columns.1 v row := by
  have htake : (row.take columns.1).length = columns.1 := by
    rw [List.length_take, min_eq_left (by omega)]
  have hfront : (row.take columns.1 ++ w).length = columns.1 + v.length := by
    rw [List.length_append, htake, h]
  have hhead : (assign columns.1 w row).take columns.1 = row.take columns.1 := by
    rw [assign, List.append_assoc, List.take_left' htake]
  have htail : (assign columns.1 w row).drop (columns.1 + v.length)
      = row.drop (columns.1 + v.length) := by
    rw [assign, List.drop_left' hfront, h]
  rw [assign, hhead, htail]
  rfl

variable {rows : List (List ℝ)} {value : ℕ → List ℝ}

theorem getElem?_stamp (columns : Columns) (value : ℕ → List ℝ) (rows : List (List ℝ)) (i : ℕ) :
    (stamp columns value rows)[i]? = (rows[i]?).map (assign columns.1 (value i)) :=
  List.getElem?_mapIdx

/-- Rows with their own actions. -/
theorem stamp_self (hcolumns : columns.1 ≤ columns.2) (hrows : ∀ row ∈ rows, columns.2 ≤ row.length) :
    stamp columns (fun i => slice columns.1 columns.2 (rows.getD i [])) rows = rows := by
  apply List.ext_getElem?
  intro i
  rw [getElem?_stamp]
  cases h : rows[i]? with
  | none => rfl
  | some row =>
      rw [Option.map_some, List.getD_eq_getElem?_getD, h, Option.getD_some,
        assign_slice hcolumns (hrows row (List.mem_of_getElem? h))]

variable (hvalue : ∀ i < rows.length, (value i).length = columns.2 - columns.1)
  (hcolumns : columns.1 ≤ columns.2) (hrows : ∀ row ∈ rows, columns.2 ≤ row.length)
include hvalue hcolumns hrows

/-- Writing rows that were stamped replaces what they were stamped with. -/
theorem writeColumns_stamp {dst : Columns} {values : List (List ℝ)} (written : ℕ → List ℝ)
    (hwritten : ∀ i, dst.1 ≤ i → i < dst.2 → i < rows.length →
      values.getD (i - dst.1) [] = written i ∧ (written i).length = columns.2 - columns.1) :
    writeColumns dst columns values (stamp columns value rows)
      = stamp columns (fun i => if dst.1 ≤ i ∧ i < dst.2 then written i else value i) rows := by
  apply List.ext_getElem?
  intro i
  rw [writeColumns, List.getElem?_mapIdx, getElem?_stamp, getElem?_stamp]
  cases h : rows[i]? with
  | none => rfl
  | some row =>
      have hrow := hrows row (List.mem_of_getElem? h)
      have hlt : i < rows.length := (List.getElem?_eq_some_iff.mp h).1
      rw [Option.map_some, Option.map_some, Option.map_some]
      by_cases hi : dst.1 ≤ i ∧ i < dst.2
      · obtain ⟨heq, hlength⟩ := hwritten i hi.1 hi.2 hlt
        rw [if_pos hi, if_pos hi, heq, assign_assign (hlength.trans (hvalue i hlt).symm)]
        rw [hvalue i hlt]
        omega
      · rw [if_neg hi, if_neg hi]

/-- What is read of stamped rows. -/
theorem getD_readColumns_stamp {src : Columns} {j : ℕ} (hsrc : src.1 + j < src.2)
    (hlt : src.1 + j < rows.length) :
    (readColumns src columns (stamp columns value rows)).getD j [] = value (src.1 + j) := by
  have hrow := List.getElem?_eq_getElem hlt
  rw [List.getD_eq_getElem?_getD, readColumns, List.getElem?_map, getElem?_slice, if_pos hsrc,
    getElem?_stamp, hrow, Option.map_some, Option.map_some, Option.getD_some,
    slice_assign (hvalue _ hlt) hcolumns (hrows _ (List.getElem_mem hlt))]

/-- Rows that take over the actions of the rows behind them. -/
theorem shift_stamp (start stop : ℕ) (hstop : stop < rows.length) :
    writeColumns (start, stop) columns
        (readColumns (start + 1, stop + 1) columns (stamp columns value rows))
        (stamp columns value rows)
      = stamp columns (fun i => if start ≤ i ∧ i < stop then value (i + 1) else value i) rows := by
  refine writeColumns_stamp hvalue hcolumns hrows (fun i => value (i + 1)) (fun i h h' _ => ?_)
  dsimp only at h h'
  have hindex : start + 1 + (i - start) = i + 1 := by omega
  refine ⟨?_, hvalue (i + 1) (by omega)⟩
  rw [getD_readColumns_stamp hvalue hcolumns hrows (by dsimp only; omega) (by dsimp only; omega)]
  exact congrArg value hindex

end Stamp

/-! ## What is held in the end -/

/-- The joint action of the others that was taken at step `t`: the next observation has it. -/
def takenAction (shiftBefore : ℕ) (buffer : List (List ℝ)) (t : ℕ) : List ℝ :=
  env.feature "prev_others_joint_action" (buffer.getD (shiftBefore + t) [])

/-- What row `t` of `CUR_OBS` holds after the callback. -/
def heldCur (taken : ℕ → List ℝ) (T t : ℕ) : List ℝ :=
  if t = 0 then taken 0 else if t + 1 < T then taken (t + 1) else taken t

/-- What row `t` of `NEXT_OBS` holds after the callback. -/
def heldNext (taken : ℕ → List ℝ) (last : List ℝ) (T t : ℕ) : List ℝ :=
  if t + 1 = T then last else if t + 2 < T then taken (t + 2) else taken (t + 1)

/-- The rows hold the given actions of the others, and all other features are as they were. -/
structure Holds (k T : ℕ) (before after : List (List ℝ)) (cur next : ℕ → List ℝ) : Prop where
  cur_obs : ∀ t < T, ((slice (builtRows k 0 after.length).1 (builtRows k 0 after.length).2
    after)[t]?).map (env.feature "prev_others_joint_action") = some (cur t)
  next_obs : ∀ t < T, ((slice (builtRows k 1 after.length).1 (builtRows k 1 after.length).2
    after)[t]?).map (env.feature "prev_others_joint_action") = some (next t)
  others_kept : env.OthersKept before after

/-- The actions are aligned with the observations. -/
def Aligned (k T : ℕ) (last : List ℝ) (before after : List (List ℝ)) : Prop :=
  let taken := env.takenAction k before
  env.Holds k T before after taken (fun t => if t + 1 = T then last else taken (t + 1))

section Windows

variable {k T : ℕ} (hk : 0 < k) (hT : 0 < T) {buffer : List (List ℝ)}
  (hlength : buffer.length = k + T) (hrows : ∀ row ∈ buffer, row.length = env.flatObsDim)
  {last : List ℝ} (hlast : last.length = env.othersJointActionDim)
  (hcolumns : env.othersJointActionSlice = env.writtenColumns "prev_others_joint_action")

/-- Which row's actions are in row `i`, after all three assignments. -/
def finalValue (own : ℕ → List ℝ) (last : List ℝ) (k T i : ℕ) : List ℝ :=
  if k + T - 1 ≤ i ∧ i < k + T then last
  else if k ≤ i ∧ i < k + T - 1 then
    if i + 1 < k + T - 1 then own (i + 2) else own (i + 1)
  else if k - 1 ≤ i ∧ i < k - 1 + T then own (i + 1) else own i

include hcolumns in
/-- The columns of the callback, in rows of the flat observation. -/
theorem othersJointActionSlice_fits : env.othersJointActionSlice.1 ≤ env.othersJointActionSlice.2 ∧
    env.othersJointActionSlice.2 - env.othersJointActionSlice.1 = env.othersJointActionDim ∧
    env.othersJointActionSlice.2 ≤ env.flatObsDim := by
  have htotal := env.flatObsDim_eq_add
  rw [hcolumns, env.writtenColumns_prevOthersJointAction]
  dsimp only
  omega

include hrows hcolumns in
theorem length_ownAction {i : ℕ} (hi : i < buffer.length) :
    (env.feature "prev_others_joint_action" (buffer.getD i [])).length
      = env.othersJointActionSlice.2 - env.othersJointActionSlice.1 := by
  obtain ⟨-, -, hfits⟩ := env.othersJointActionSlice_fits hcolumns
  have hrow := hrows _ (List.getElem_mem hi)
  rw [List.getD_eq_getElem?_getD, List.getElem?_eq_getElem hi, Option.getD_some, feature, ← hcolumns,
    slice, List.length_drop, List.length_take, hrow, min_eq_left hfits]

include hk hT hlength hrows hlast hcolumns in
/-- The three assignments, one after the other. -/
theorem onPostprocessWindows_eq :
    env.onPostprocessWindows last (builtRows k 0 buffer.length) (builtRows k 1 buffer.length) buffer
      = .ok (stamp env.othersJointActionSlice
          (finalValue (fun i => env.feature "prev_others_joint_action" (buffer.getD i [])) last k T)
          buffer) := by
  set columns := env.othersJointActionSlice with hdef
  set own := fun i => env.feature "prev_others_joint_action" (buffer.getD i []) with hown
  obtain ⟨hle, hwidth, hfit⟩ := env.othersJointActionSlice_fits hcolumns
  have hfits : ∀ row ∈ buffer, columns.2 ≤ row.length := fun row h => hfit.trans_eq (hrows row h).symm
  have hlen : ∀ i < buffer.length, (own i).length = columns.2 - columns.1 :=
    fun i hi => env.length_ownAction hrows hcolumns hi
  have hself : stamp columns own buffer = buffer := by
    have hslice : own = fun i => slice columns.1 columns.2 (buffer.getD i []) := by
      rw [hcolumns]
      rfl
    rw [hslice]
    exact stamp_self hle hfits
  -- `CUR_OBS[:, s] = NEXT_OBS[:, s]`
  let first := fun i => if k - 1 ≤ i ∧ i < k - 1 + T then own (i + 1) else own i
  have hfirst : writeColumns (k - 1, k - 1 + T) columns (readColumns (k, k + T) columns buffer) buffer
      = stamp columns first buffer := by
    have hshift := shift_stamp hlen hle hfits (k - 1) (k - 1 + T) (by omega)
    have hread : (k - 1 + 1, k - 1 + T + 1) = (k, k + T) := by
      apply Prod.ext <;> (dsimp only; omega)
    rwa [hself, hread] at hshift
  have hlenFirst : ∀ i < buffer.length, (first i).length = columns.2 - columns.1 := by
    intro i hi
    simp only [first]
    split
    · exact hlen (i + 1) (by omega)
    · exact hlen i hi
  -- `NEXT_OBS[:-1, s] = NEXT_OBS[1:, s]`
  let second := fun i => if k ≤ i ∧ i < k + T - 1 then first (i + 1) else first i
  have hsecond : writeColumns (k, k + T - 1) columns
      (readColumns (k + 1, k + T) columns (stamp columns first buffer)) (stamp columns first buffer)
      = stamp columns second buffer := by
    have hshift := shift_stamp hlenFirst hle hfits k (k + T - 1) (by omega)
    rwa [Nat.sub_add_cancel (by omega)] at hshift
  have hlenSecond : ∀ i < buffer.length, (second i).length = columns.2 - columns.1 := by
    intro i hi
    simp only [second]
    split
    · exact hlenFirst (i + 1) (by omega)
    · exact hlenFirst i hi
  -- `NEXT_OBS[-1, s] = last_others_next_joint_action`
  have hthird : writeColumns (k + T - 1, k + T) columns [last] (stamp columns second buffer)
      = stamp columns (fun i => if k + T - 1 ≤ i ∧ i < k + T then last else second i) buffer := by
    refine writeColumns_stamp hlenSecond hle hfits (fun _ => last) (fun i h h' _ => ⟨?_, ?_⟩)
    · have hzero : i - (k + T - 1) = 0 := by
        dsimp only at h h'
        omega
      rw [hzero]
      rfl
    · rw [hlast, hwidth]
  have hfinal : (fun i => if k + T - 1 ≤ i ∧ i < k + T then last else second i)
      = finalValue own last k T := by
    funext i
    simp only [finalValue, second, first]
    split_ifs <;> first | rfl | omega
  rw [hlength, builtRows_cur hk, builtRows_next, onPostprocessWindows]
  dsimp only
  rw [hfirst, hsecond, if_neg (by rw [hlast, hwidth]; exact not_not_intro rfl), hthird, hfinal]

include hk hT in
/-- The rows of `CUR_OBS`. -/
theorem finalValue_cur (own : ℕ → List ℝ) {t : ℕ} (ht : t < T) :
    finalValue own last k T (k - 1 + t) = heldCur (fun t => own (k + t)) T t := by
  have hnotLast : ¬ (k + T - 1 ≤ k - 1 + t ∧ k - 1 + t < k + T) := by omega
  unfold finalValue heldCur
  rw [if_neg hnotLast]
  rcases Nat.eq_zero_or_pos t with rfl | hpos
  · rw [if_neg (by omega), if_pos (by omega), if_pos rfl]
    exact congrArg own (by omega)
  · rw [if_pos (by omega), if_neg hpos.ne']
    by_cases hlt : t + 1 < T
    · rw [if_pos (by omega), if_pos hlt]
      exact congrArg own (by omega)
    · rw [if_neg (by omega), if_neg hlt]
      exact congrArg own (by omega)

include hT in
/-- The rows of `NEXT_OBS`. -/
theorem finalValue_next (own : ℕ → List ℝ) {t : ℕ} (ht : t < T) :
    finalValue own last k T (k + t) = heldNext (fun t => own (k + t)) last T t := by
  unfold finalValue heldNext
  by_cases hend : t + 1 = T
  · rw [if_pos (by omega), if_pos hend]
  · rw [if_neg (by omega), if_pos (by omega), if_neg hend]
    by_cases hlt : t + 2 < T
    · rw [if_pos (by omega), if_pos hlt]
      exact congrArg own (by omega)
    · rw [if_neg (by omega), if_neg hlt]
      exact congrArg own (by omega)

include hrows hlast hcolumns in
theorem length_finalValue (hlength : buffer.length = k + T) {i : ℕ} (hi : i < buffer.length) :
    (finalValue (fun i => env.feature "prev_others_joint_action" (buffer.getD i [])) last k T i).length
      = env.othersJointActionSlice.2 - env.othersJointActionSlice.1 := by
  obtain ⟨-, hwidth, -⟩ := env.othersJointActionSlice_fits hcolumns
  have hown := fun {j : ℕ} => env.length_ownAction (i := j) hrows hcolumns
  unfold finalValue
  split_ifs
  · rw [hlast, hwidth]
  · exact hown (by omega)
  · exact hown (by omega)
  · exact hown (by omega)
  · exact hown hi

include hk hT hlength hrows hlast hcolumns in
/-- **What the callback does to windows of one array.** -/
theorem onPostprocessWindows_holds : ∃ after,
    env.onPostprocessWindows last (builtRows k 0 buffer.length) (builtRows k 1 buffer.length) buffer
      = .ok after ∧
    env.Holds k T buffer after (heldCur (env.takenAction k buffer) T)
      (heldNext (env.takenAction k buffer) last T) := by
  set own := fun i => env.feature "prev_others_joint_action" (buffer.getD i []) with hown
  obtain ⟨hle, hwidth, hfit⟩ := env.othersJointActionSlice_fits hcolumns
  have hlen : ∀ i < buffer.length, (finalValue own last k T i).length
      = env.othersJointActionSlice.2 - env.othersJointActionSlice.1 :=
    fun i hi => env.length_finalValue hrows hlast hcolumns hlength hi
  refine ⟨_, env.onPostprocessWindows_eq hk hT hlength hrows hlast hcolumns, ?_⟩
  set after := stamp env.othersJointActionSlice (finalValue own last k T) buffer with hafter
  have hlenAfter : after.length = k + T := by
    rw [hafter, stamp, List.length_mapIdx, hlength]
  -- the actions in a row
  have hfeature : ∀ i < k + T, (after[i]?).map (env.feature "prev_others_joint_action")
      = some (finalValue own last k T i) := by
    intro i hi
    have hlt : i < buffer.length := hlength.symm ▸ hi
    have hrow := hrows _ (List.getElem_mem hlt)
    rw [hafter, getElem?_stamp, List.getElem?_eq_getElem hlt, Option.map_some, Option.map_some,
      feature, ← hcolumns, slice_assign (hlen i hlt) hle (hfit.trans_eq hrow.symm)]
  refine ⟨fun t ht => ?_, fun t ht => ?_, ?_⟩
  · rw [hlenAfter, builtRows_cur hk]
    dsimp only
    rw [getElem?_slice, if_pos (by omega), hfeature _ (by omega), finalValue_cur hk hT own ht]
    rfl
  · rw [hlenAfter, builtRows_next]
    dsimp only
    rw [getElem?_slice, if_pos (by omega), hfeature _ (by omega), finalValue_next hT own ht]
    rfl
  · refine List.forall₂_iff_get.mpr ⟨hlength.trans hlenAfter.symm, fun i h h' => ?_⟩
    intro key hkey hne
    have hrow := hrows _ (List.getElem_mem h)
    have hget : after.get ⟨i, h'⟩ = assign (env.writtenColumns "prev_others_joint_action").1
        (finalValue own last k T i) (buffer.get ⟨i, h⟩) := by
      rw [← hcolumns]
      exact List.getElem_mapIdx
    have hlen' := hlen i h
    rw [hcolumns] at hle hfit hlen'
    rw [hget, env.feature_assign hkey hne (by omega)]
    exact hfit.trans_eq hrow.symm

/-! ## Alignment -/

/-- The actions in the middle of the trajectory do not change. -/
def Steady (taken : ℕ → List ℝ) (T : ℕ) : Prop := ∀ t, 0 < t → t < T → taken t = taken 1

theorem aligned_of_steady {taken : ℕ → List ℝ} (h : Steady taken T) (last : List ℝ) {t : ℕ}
    (ht : t < T) :
    heldCur taken T t = taken t ∧
      heldNext taken last T t = if t + 1 = T then last else taken (t + 1) := by
  have heq : ∀ {a b : ℕ}, 0 < a → a < T → 0 < b → b < T → taken a = taken b :=
    fun ha ha' hb hb' => (h _ ha ha').trans (h _ hb hb').symm
  constructor
  · unfold heldCur
    split_ifs with hzero hlt
    · rw [hzero]
    · exact heq (Nat.succ_pos t) hlt (Nat.pos_of_ne_zero hzero) ht
    · rfl
  · unfold heldNext
    split_ifs with hend hlt
    · rfl
    · exact heq (by omega) hlt (Nat.succ_pos t) (by omega)
    · rfl

/-- A row that holds the next action has to be one that does not change. -/
theorem steady_of_aligned {taken : ℕ → List ℝ} (h : ∀ t < T, heldCur taken T t = taken t) :
    Steady taken T := by
  intro t hpos ht
  induction t with
  | zero => exact absurd hpos (lt_irrefl 0)
  | succ t ih =>
      rcases Nat.eq_zero_or_pos t with rfl | hpos'
      · rfl
      · have hcur := h t (by omega)
        rw [heldCur, if_neg hpos'.ne', if_pos ht] at hcur
        rw [hcur, ih hpos' (by omega)]

end Windows

section Iff

variable {env : CentralizedTraining} {k T : ℕ} {buffer : List (List ℝ)} {last : List ℝ}

theorem steady_of_windows (hk : 0 < k) (hT : 0 < T) (hlength : buffer.length = k + T)
    (hrows : ∀ row ∈ buffer, row.length = env.flatObsDim)
    (hlast : last.length = env.othersJointActionDim)
    (hcolumns : env.othersJointActionSlice = env.writtenColumns "prev_others_joint_action")
    {after : List (List ℝ)}
    (hafter : env.onPostprocessWindows last (builtRows k 0 buffer.length)
      (builtRows k 1 buffer.length) buffer = .ok after)
    (h : env.Aligned k T last buffer after) : Steady (env.takenAction k buffer) T := by
  obtain ⟨after', hafter', hholds⟩ :=
    env.onPostprocessWindows_holds hk hT hlength hrows hlast hcolumns
  obtain rfl : after' = after := Except.ok.inj (hafter'.symm.trans hafter)
  refine steady_of_aligned (fun t ht => ?_)
  exact Option.some.inj ((hholds.cur_obs t ht).symm.trans (h.cur_obs t ht))

/-- **When the actions are aligned**: those of the others take columns, and from the second step of
the trajectory on they do not change. -/
theorem windows_aligned_iff (htrailing : env.trailingDim = 0) (hk : 0 < k) (hT : 0 < T)
    (hlength : buffer.length = k + T) (hrows : ∀ row ∈ buffer, row.length = env.flatObsDim)
    (hlast : last.length = env.othersJointActionDim) :
    (∃ after, env.onPostprocessWindows last (builtRows k 0 buffer.length)
        (builtRows k 1 buffer.length) buffer = .ok after ∧ env.Aligned k T last buffer after)
      ↔ (env.othersJointActionDim ≠ 0 ∨ env.flatObsDim = 0) ∧
        Steady (env.takenAction k buffer) T := by
  constructor
  · rintro ⟨after, hafter, haligned⟩
    by_cases hdim : env.othersJointActionDim ≠ 0 ∨ env.flatObsDim = 0
    · have hcolumns := env.columns_eq (hdim.imp_left (fun h => ⟨h, htrailing⟩))
      exact ⟨hdim, steady_of_windows hk hT hlength hrows hlast hcolumns hafter haligned⟩
    · -- no action does not fit into a whole row
      obtain ⟨hzero, hpos⟩ := not_or.mp hdim
      rw [not_not] at hzero
      have hne : last.length ≠ env.othersJointActionSlice.2 - env.othersJointActionSlice.1 := by
        rw [hlast, othersJointActionSlice_eq, if_pos hzero]
        dsimp only
        omega
      rw [onPostprocessWindows] at hafter
      rw [if_pos hne] at hafter
      cases hafter
  · rintro ⟨hdim, hsteady⟩
    have hcolumns := env.columns_eq (hdim.imp_left (fun h => ⟨h, htrailing⟩))
    obtain ⟨after, hafter, hholds⟩ :=
      env.onPostprocessWindows_holds hk hT hlength hrows hlast hcolumns
    refine ⟨after, hafter, fun t ht => ?_, fun t ht => ?_, hholds.others_kept⟩
    · rw [hholds.cur_obs t ht, (aligned_of_steady hsteady last ht).1]
    · rw [hholds.next_obs t ht, (aligned_of_steady hsteady last ht).2]

end Iff

/-! ## Separate arrays -/

section Separate

variable {columns : Columns} {last : List ℝ} {rows : List (List ℝ)}

end Separate

/-! ## Two cameras -/

/-- Two cameras with one feature, a state of one number and two actions. -/
def twoCameras : CentralizedTraining where
  numTeammates := 2
  observationSpace := .box [1]
  stateSpace := .box [1]
  actionSpace := .discrete 2
  actionMaskSpace := none
  addJointObservation := false

theorem twoCameras_columns : twoCameras.othersJointActionSlice = (2, 4) ∧
    twoCameras.writtenColumns "prev_others_joint_action" = (2, 4) := by
  rw [writtenColumns_prevOthersJointAction]
  decide

/-- The other camera takes its first action, the second one, and the first one again. -/
def threeSteps : List (List ℝ) := [[0, 0, 0, 0], [0, 0, 1, 0], [0, 0, 0, 1], [0, 0, 1, 0]]

/-- One action all the time. -/
def sameSteps : List (List ℝ) := [[0, 0, 0, 0], [0, 0, 1, 0], [0, 0, 1, 0], [0, 0, 1, 0]]

theorem length_of_mem_threeSteps : ∀ row ∈ threeSteps, row.length = twoCameras.flatObsDim := by
  have hdim : twoCameras.flatObsDim = 4 := by decide
  rw [hdim]
  simp [threeSteps]

theorem windows_aligned_sameSteps : ∃ after, twoCameras.onPostprocessWindows [0, 1]
    (builtRows 1 0 sameSteps.length) (builtRows 1 1 sameSteps.length) sameSteps = .ok after ∧
      twoCameras.Aligned 1 3 [0, 1] sameSteps after := by
  refine (windows_aligned_iff (by decide) one_pos three_pos rfl ?_ (by decide)).mpr
    ⟨Or.inl (by decide), fun t hpos ht => ?_⟩
  · have hdim : twoCameras.flatObsDim = 4 := by decide
    rw [hdim]
    simp [sameSteps]
  · obtain rfl | rfl : t = 1 ∨ t = 2 := by omega
    · rfl
    · rfl

/-- **Misaligned actions**: the second row of `CUR_OBS` gets the action of the third step. -/
theorem windows_misaligned : ¬ ∃ after, twoCameras.onPostprocessWindows [0, 1]
    (builtRows 1 0 threeSteps.length) (builtRows 1 1 threeSteps.length) threeSteps = .ok after ∧
      twoCameras.Aligned 1 3 [0, 1] threeSteps after := by
  rintro ⟨after, hafter, haligned⟩
  obtain ⟨hslice, hwritten⟩ := twoCameras_columns
  have hsteady := steady_of_windows one_pos three_pos rfl length_of_mem_threeSteps (by decide)
    (hslice.trans hwritten.symm) hafter haligned
  have heq := hsteady 2 two_pos (by omega)
  simp [takenAction, feature, hwritten, threeSteps, slice] at heq

end CentralizedTraining

end Mate.Rllib
