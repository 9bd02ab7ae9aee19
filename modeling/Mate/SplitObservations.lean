import Mate.RelativeRows

set_option autoImplicit false

/-! # Observations entity by entity

An observation is a flat vector. Taken apart it has the warehouses, the state of the agent, and a
row for every other entity (`SplitObservation`). `convert_coordinates` works on the flat vector, with
masks and slices; taken apart, it moves the origin of the warehouses and of the rows that are
flagged to the agent, and changes nothing else (`convertCoordinates_relative`). Among the rows of
the teammates is that of the agent itself.
-/

namespace Mate

/-! ## Plain entries and places -/

/-- A piece of an observation: an entry that stays, or a location that is made relative. -/
inductive Part
  | plain (x : ℝ)
  | place (x y : ℝ)

namespace Part

def entries : Part → List ℝ
  | plain x => [x]
  | place x y => [x, y]

def mask : Part → List Bool
  | plain _ => [false]
  | place _ _ => [true, true]

def isPlace : Part → Bool
  | plain _ => false
  | place _ _ => true

/-- The piece as seen from an origin. -/
noncomputable def relativeTo (ox oy : ℝ) : Part → Part
  | plain x => plain x
  | place x y => place (x - ox) (y - oy)

theorem count_mask (parts : List Part) :
    (parts.flatMap mask).count true = 2 * parts.countP isPlace := by
  induction parts with
  | nil => rfl
  | cons part parts ih =>
      rw [List.flatMap_cons, List.count_append, ih]
      cases part with
      | plain x =>
          rw [List.countP_cons_of_neg Bool.false_ne_true]
          exact Nat.zero_add _
      | place x y =>
          rw [List.countP_cons_of_pos rfl]
          show 2 + _ = _
          omega

/-- **Masked subtraction** of a repeated origin takes it from every place. -/
theorem subtractAt_parts (ox oy : ℝ) (parts : List Part) :
    subtractAt (parts.flatMap mask) (Space.tile [ox, oy] ((parts.flatMap mask).count true / 2))
      (parts.flatMap entries) = (parts.map (relativeTo ox oy)).flatMap entries := by
  rw [count_mask, Nat.mul_div_cancel_left _ (by decide)]
  induction parts with
  | nil => rfl
  | cons part parts ih =>
      rw [List.map_cons, List.flatMap_cons, List.flatMap_cons, List.flatMap_cons, ← ih]
      cases part with
      | plain x =>
          rw [List.countP_cons_of_neg Bool.false_ne_true]
          rfl
      | place x y =>
          rw [List.countP_cons_of_pos rfl]
          rfl

end Part

/-! ## Rows of entities -/

/-- The public state of an entity and its flag. -/
structure EntityRow (DIM : ℕ) where
  x : ℝ
  y : ℝ
  rest : List ℝ
  flag : ℝ
  length_rest : rest.length + 2 = DIM

namespace EntityRow

variable {DIM n : ℕ}

def entries (row : EntityRow DIM) : List ℝ := row.x :: row.y :: (row.rest ++ [row.flag])

open Classical in
/-- The row as seen from an origin. -/
noncomputable def relativeTo (ox oy : ℝ) (row : EntityRow DIM) : EntityRow DIM :=
  if row.flag ≠ 0 then { row with x := row.x - ox, y := row.y - oy } else row

open Classical in
noncomputable def parts (row : EntityRow DIM) : List Part :=
  (if row.flag ≠ 0 then [Part.place row.x row.y] else [Part.plain row.x, Part.plain row.y])
    ++ (row.rest ++ [row.flag]).map Part.plain

theorem length_entries (row : EntityRow DIM) : row.entries.length = DIM + 1 := by
  have hrest := row.length_rest
  simp only [entries, List.length_cons, List.length_append, List.length_nil]
  omega

theorem getElem?_flag (row : EntityRow DIM) : row.entries[DIM]? = some row.flag := by
  obtain ⟨x, y, rest, flag, rfl⟩ := row
  show (x :: y :: (rest ++ [flag]))[rest.length + 1 + 1]? = some flag
  rw [List.getElem?_cons_succ, List.getElem?_cons_succ, List.getElem?_append_right le_rfl,
    Nat.sub_self]
  rfl

/-- Plain parts are the entries. -/
theorem flatMap_plain (l : List ℝ) : (l.map Part.plain).flatMap Part.entries = l := by
  rw [List.flatMap_map]
  exact List.flatMap_singleton' l

theorem flatMap_mask_plain (l : List ℝ) :
    (l.map Part.plain).flatMap Part.mask = List.replicate l.length false := by
  rw [List.flatMap_map, List.flatMap_def]
  show (l.map (fun _ => [false])).flatten = _
  induction l with
  | nil => rfl
  | cons x l ih => exact congrArg (false :: ·) ih

theorem parts_entries (row : EntityRow DIM) : row.parts.flatMap Part.entries = row.entries := by
  unfold parts entries
  rw [List.flatMap_append, flatMap_plain]
  split
  · rfl
  · rfl

/-- The mask of a row: the coordinates, if the entity is seen. -/
theorem parts_mask (row : EntityRow DIM) :
    row.parts.flatMap Part.mask = shownMask DIM (decide (row.flag ≠ 0)) := by
  obtain ⟨x, y, rest, flag, rfl⟩ := row
  have hfalse : ∀ seen, List.zipWith (· && ·) (List.replicate (rest.length + 1) false)
      (List.replicate (rest.length + 1) seen) = List.replicate (rest.length + 1) false := by
    intro seen
    rw [List.zipWith_replicate', Bool.false_and]
  have hmask : ∀ seen, shownMask (rest.length + 2) seen
      = seen :: seen :: List.replicate (rest.length + 1) false := by
    intro seen
    rw [← hfalse seen]
    show (true && seen) :: (true && seen) :: _ = _
    rw [Bool.true_and]
    rfl
  unfold parts
  rw [hmask, List.flatMap_append, flatMap_mask_plain, List.length_append]
  dsimp only
  split
  · rename_i hflag
    rw [decide_eq_true hflag]
    rfl
  · rename_i hflag
    rw [decide_eq_false hflag]
    rfl

theorem parts_relativeTo (ox oy : ℝ) (row : EntityRow DIM) :
    (row.relativeTo ox oy).parts = row.parts.map (Part.relativeTo ox oy) := by
  unfold relativeTo
  by_cases hflag : row.flag ≠ 0
  · rw [if_pos hflag]
    unfold parts
    dsimp only
    rw [if_pos hflag, if_pos hflag]
    simp only [List.map_append, List.map_map]
    rfl
  · rw [if_neg hflag]
    unfold parts
    rw [if_neg hflag]
    simp only [List.map_append, List.map_map]
    rfl

/-- A list of the right length is a list of rows. -/
theorem exists_rows (hDIM : 2 ≤ DIM) (n : ℕ) {l : List ℝ} (h : l.length = n * (DIM + 1)) :
    ∃ rows : Fin n → EntityRow DIM, l = (List.finRange n).flatMap (fun i => (rows i).entries) := by
  induction n generalizing l with
  | zero =>
      rw [Nat.zero_mul, List.length_eq_zero_iff] at h
      exact ⟨fun i => i.elim0, h⟩
  | succ n ih =>
      rw [Nat.succ_mul] at h
      obtain ⟨rows, hrows⟩ := ih (l := l.drop (DIM + 1)) (by rw [List.length_drop]; omega)
      obtain ⟨row, hrow⟩ : ∃ row : EntityRow DIM, l.take (DIM + 1) = row.entries := by
        have hlength : (l.take (DIM + 1)).length = DIM + 1 := by
          rw [List.length_take]
          omega
        obtain ⟨x, y, rest, hxy⟩ : ∃ x y rest, l.take (DIM + 1) = x :: y :: rest := by
          match hl : l.take (DIM + 1) with
          | [] => rw [hl] at hlength; cases hlength
          | [_] => rw [hl] at hlength; exact absurd hlength (by simp; omega)
          | x :: y :: rest => exact ⟨x, y, rest, rfl⟩
        rw [hxy, List.length_cons, List.length_cons] at hlength
        rcases List.eq_nil_or_concat rest with rfl | ⟨init, flag, rfl⟩
        · rw [List.length_nil] at hlength
          omega
        · rw [List.length_concat] at hlength
          rw [hxy, List.concat_eq_append]
          exact ⟨⟨x, y, init, flag, by omega⟩, rfl⟩
      refine ⟨Fin.cons row rows, ?_⟩
      rw [List.finRange_succ, List.flatMap_cons, List.flatMap_map, Fin.cons_zero]
      simp only [Fin.cons_succ]
      rw [← hrow, ← hrows, List.take_append_drop]

end EntityRow

/-! ## Observations -/

namespace Team

/-- How many rows of teammates there are, with that of the agent itself. -/
def numTeammates : Team → ℕ → ℕ → ℕ
  | .camera, numCameras, _ => numCameras
  | .target, _, numTargets => numTargets

def numOpponents : Team → ℕ → ℕ → ℕ
  | .camera, _, numTargets => numTargets
  | .target, numCameras, _ => numCameras

end Team

/-- An observation of an agent, taken apart. What the space does not have trails behind. -/
structure SplitObservation (team : Team) (numCameras numTargets numObstacles : ℕ) where
  head : List ℝ
  warehouses : Fin NUM_WAREHOUSES → ℝ × ℝ
  warehouseRadius : ℝ
  x : ℝ
  y : ℝ
  ownRest : List ℝ
  opponents : Fin (team.numOpponents numCameras numTargets) → EntityRow team.opponentStateDim
  obstacles : Fin numObstacles → EntityRow OBSTACLE_STATE_DIM
  teammates : Fin (team.numTeammates numCameras numTargets) → EntityRow team.teammateStateDim
  trailing : List ℝ
  length_head : head.length = PRESERVED_DIM - 1 - 2 * NUM_WAREHOUSES
  length_ownRest : ownRest.length + 2 = team.stateDim

namespace SplitObservation

variable {team : Team} {numCameras numTargets numObstacles : ℕ}

/-- The fields of the vector. -/
def fields (s : SplitObservation team numCameras numTargets numObstacles) : List (List ℝ) :=
  [s.head ++ (List.finRange NUM_WAREHOUSES).flatMap
      (fun w => [(s.warehouses w).1, (s.warehouses w).2]) ++ [s.warehouseRadius],
    s.x :: s.y :: s.ownRest,
    (List.finRange _).flatMap (fun i => (s.opponents i).entries),
    (List.finRange _).flatMap (fun i => (s.obstacles i).entries),
    (List.finRange _).flatMap (fun i => (s.teammates i).entries)]

def entries (s : SplitObservation team numCameras numTargets numObstacles) : List ℝ :=
  s.fields.flatten

/-- The flat vector. -/
def toList (s : SplitObservation team numCameras numTargets numObstacles) : List ℝ :=
  s.entries ++ s.trailing

/-- The observation with the warehouses and the entities that are seen relative to the agent. -/
noncomputable def relative (s : SplitObservation team numCameras numTargets numObstacles) :
    SplitObservation team numCameras numTargets numObstacles :=
  { s with
    warehouses := fun w => ((s.warehouses w).1 - s.x, (s.warehouses w).2 - s.y)
    opponents := fun i => (s.opponents i).relativeTo s.x s.y
    obstacles := fun i => (s.obstacles i).relativeTo s.x s.y
    teammates := fun i => (s.teammates i).relativeTo s.x s.y }

/-- The vector in parts. -/
noncomputable def parts (s : SplitObservation team numCameras numTargets numObstacles) :
    List Part :=
  s.head.map Part.plain
    ++ ((List.finRange NUM_WAREHOUSES).map
        (fun w => Part.place (s.warehouses w).1 (s.warehouses w).2)
      ++ (Part.plain s.warehouseRadius :: (s.x :: s.y :: s.ownRest).map Part.plain))
    ++ ((List.finRange _).flatMap (fun i => (s.opponents i).parts)
      ++ ((List.finRange _).flatMap (fun i => (s.obstacles i).parts)
        ++ (List.finRange _).flatMap (fun i => (s.teammates i).parts)))

variable (s : SplitObservation team numCameras numTargets numObstacles)

theorem parts_entries : s.parts.flatMap Part.entries = s.entries := by
  have hrows : ∀ {DIM n : ℕ} (rows : Fin n → EntityRow DIM),
      ((List.finRange n).flatMap (fun i => (rows i).parts)).flatMap Part.entries
        = (List.finRange n).flatMap (fun i => (rows i).entries) := by
    intro DIM n rows
    rw [List.flatMap_assoc]
    exact congrArg (fun f => List.flatMap f _) (funext fun i => (rows i).parts_entries)
  have hplain : ∀ l : List ℝ, l.flatMap (fun x => (Part.plain x).entries) = l :=
    List.flatMap_singleton'
  unfold parts entries fields
  simp only [List.flatMap_append, List.flatMap_cons, List.flatMap_map, hplain, hrows,
    List.flatten_cons, List.flatten_nil, List.append_assoc, List.append_nil]
  rfl

theorem relative_parts : s.relative.parts = s.parts.map (Part.relativeTo s.x s.y) := by
  have hrows : ∀ {DIM n : ℕ} (rows : Fin n → EntityRow DIM),
      ((List.finRange n).flatMap (fun i => (rows i).parts)).map (Part.relativeTo s.x s.y)
        = (List.finRange n).flatMap (fun i => ((rows i).relativeTo s.x s.y).parts) := by
    intro DIM n rows
    rw [List.map_flatMap]
    exact congrArg (fun f => List.flatMap f _)
      (funext fun i => ((rows i).parts_relativeTo s.x s.y).symm)
  unfold parts
  simp only [List.map_append, List.map_cons, List.map_map, hrows]
  rfl

theorem map_length_fields :
    s.fields.map List.length = Env.fieldWidths team numCameras numTargets numObstacles := by
  have hhead := s.length_head
  have hown := s.length_ownRest
  have hwarehouses : ((List.finRange NUM_WAREHOUSES).flatMap
      (fun w => [(s.warehouses w).1, (s.warehouses w).2])).length = NUM_WAREHOUSES * 2 :=
    Layout.length_rows (fun _ => rfl)
  have hpreserved : (s.head ++ (List.finRange NUM_WAREHOUSES).flatMap
      (fun w => [(s.warehouses w).1, (s.warehouses w).2]) ++ [s.warehouseRadius]).length
        = PRESERVED_DIM := by
    rw [List.length_append, List.length_append, hhead, hwarehouses]
    rfl
  have hstate : (s.x :: s.y :: s.ownRest).length = team.stateDim := hown
  unfold fields
  simp only [List.map_cons, List.map_nil, Layout.length_rows (fun i => (s.opponents i).length_entries),
    Layout.length_rows (fun i => (s.obstacles i).length_entries),
    Layout.length_rows (fun i => (s.teammates i).length_entries), hpreserved, hstate]
  cases team with
  | camera => rfl
  | target => rfl

/-- **Cutting the vector at the indices** gives back its fields. -/
theorem slice_entries (k : Fin 5) :
    Layout.slice (observationIndicesOf team numCameras numTargets numObstacles k.castSucc)
      (observationIndicesOf team numCameras numTargets numObstacles k.succ) s.entries
        = s.fields.get k := by
  rw [Env.observationIndicesOf_eq, Env.observationIndicesOf_eq, ← s.map_length_fields]
  exact Layout.slice_flatten s.fields k k.isLt

theorem length_entries : s.entries.length
    = (observationSpaceOf team numCameras numTargets numObstacles).dim := by
  rw [entries, List.length_flatten, s.map_length_fields, Env.dim_observationSpaceOf,
    Env.observationIndicesOf_eq]
  cases team with
  | camera => rfl
  | target => rfl

/-! ### The masks -/

/-- The flags of a field of rows. -/
theorem read_flags_of_field {start stop DIM n : ℕ} {l : List ℝ} {rows : Fin n → EntityRow DIM}
    (h : Layout.slice start stop l = (List.finRange n).flatMap (fun i => (rows i).entries)) :
    (⟨start + DIM, stop, DIM + 1⟩ : Slice).read l = List.ofFn (fun i => (rows i).flag) := by
  have hdrop : Layout.slice (start + DIM) stop l = (Layout.slice start stop l).drop DIM := by
    rw [Layout.slice, Layout.slice, List.drop_drop]
  rw [Slice.read, hdrop, h]
  exact Layout.everyNth_rows (fun i => (rows i).length_entries) (fun i => (rows i).getElem?_flag)

/-- The mask of a field of rows is restricted row by row. -/
theorem zipWith_field {n d : ℕ} (hd : 0 < d) (seen : Fin n → Bool) (rest rest' : List Bool) :
    List.zipWith (· && ·) ((List.finRange n).flatMap (fun _ => entityMask d) ++ rest)
        ((List.finRange n).flatMap (fun i => List.replicate (d + 1) (seen i)) ++ rest')
      = (List.finRange n).flatMap (fun i => shownMask d (seen i))
        ++ List.zipWith (· && ·) rest rest' := by
  have hmask : ∀ i : Fin n, ((fun _ => entityMask d) i).length = d + 1 := by
    intro i
    show (true :: true :: List.replicate (d - 1) false).length = d + 1
    rw [List.length_cons, List.length_cons, List.length_replicate]
    omega
  have hflags : ∀ i : Fin n, ((fun i => List.replicate (d + 1) (seen i)) i).length = d + 1 :=
    fun i => List.length_replicate
  rw [List.zipWith_append ((Layout.length_rows hmask).trans (Layout.length_rows hflags).symm),
    zipWith_rows hmask hflags]
  rfl

theorem coordinateMaskOf_eq (team : Team) (numCameras numTargets numObstacles : ℕ) :
    coordinateMaskOf team numCameras numTargets numObstacles
      = preservedMask ++ List.replicate team.stateDim false
        ++ ((List.finRange (team.numOpponents numCameras numTargets)).flatMap
            (fun _ => entityMask team.opponentStateDim)
          ++ ((List.finRange numObstacles).flatMap (fun _ => entityMask OBSTACLE_STATE_DIM)
            ++ ((List.finRange (team.numTeammates numCameras numTargets)).flatMap
              (fun _ => entityMask team.teammateStateDim) ++ []))) := by
  simp only [← tile_eq_flatMap, List.append_nil, ← List.append_assoc]
  cases team with
  | camera => rfl
  | target => rfl

/-- The flags that the slices read. -/
theorem read_masks :
    (observationSlicesOf team numCameras numTargets numObstacles).opponentMask.read s.entries
        = List.ofFn (fun i => (s.opponents i).flag)
      ∧ (observationSlicesOf team numCameras numTargets numObstacles).obstacleMask.read s.entries
        = List.ofFn (fun i => (s.obstacles i).flag)
      ∧ (observationSlicesOf team numCameras numTargets numObstacles).teammateMask.read s.entries
        = List.ofFn (fun i => (s.teammates i).flag) := by
  rw [Env.observationSlicesOf_eq team numCameras numTargets numObstacles _ rfl]
  exact ⟨read_flags_of_field (s.slice_entries 2), read_flags_of_field (s.slice_entries 3),
    read_flags_of_field (s.slice_entries 4)⟩

/-- **The mask of the conversion**: the places of the vector. -/
theorem restrictMask_entries :
    restrictMask (coordinateMaskOf team numCameras numTargets numObstacles)
        (repeatFlags (observationSlicesOf team numCameras numTargets numObstacles).opponentMask
            team.opponentStateDim s.entries
          ++ repeatFlags (observationSlicesOf team numCameras numTargets numObstacles).obstacleMask
            OBSTACLE_STATE_DIM s.entries
          ++ repeatFlags (observationSlicesOf team numCameras numTargets numObstacles).teammateMask
            team.teammateStateDim s.entries)
      = s.parts.flatMap Part.mask := by
  obtain ⟨hopponents, hobstacles, hteammates⟩ := s.read_masks
  have hdims : 0 < team.opponentStateDim ∧ 0 < team.teammateStateDim := by
    cases team with
    | camera => exact ⟨by decide, by decide⟩
    | target => exact ⟨by decide, by decide⟩
  have hobstacle : 0 < OBSTACLE_STATE_DIM := by decide
  have hmasks : ∀ {DIM n : ℕ} (rows : Fin n → EntityRow DIM),
      ((List.finRange n).flatMap (fun i => (rows i).parts)).flatMap Part.mask
        = (List.finRange n).flatMap (fun i => shownMask DIM (decide ((rows i).flag ≠ 0))) := by
    intro DIM n rows
    rw [List.flatMap_assoc]
    exact congrArg (fun f => List.flatMap f _) (funext fun i => (rows i).parts_mask)
  -- before the entities, only the places of the warehouses and the own one count
  have hhead : (s.head.map Part.plain
      ++ ((List.finRange NUM_WAREHOUSES).map
          (fun w => Part.place (s.warehouses w).1 (s.warehouses w).2)
        ++ (Part.plain s.warehouseRadius :: (s.x :: s.y :: s.ownRest).map Part.plain))).flatMap
          Part.mask = preservedMask ++ List.replicate team.stateDim false := by
    have hown : (s.x :: s.y :: s.ownRest).length = team.stateDim := s.length_ownRest
    rw [List.flatMap_append, EntityRow.flatMap_mask_plain, s.length_head, List.flatMap_append,
      List.flatMap_cons, EntityRow.flatMap_mask_plain, hown, List.flatMap_map]
    unfold preservedMask
    rw [List.append_assoc, List.append_assoc]
    rfl
  have hfields : ∀ {n d : ℕ} {field : Fin n → List Bool} {field' : Fin n → List Bool}
      {rest rest' : List Bool}, (∀ i, (field i).length = d) → (∀ i, (field' i).length = d) →
      rest.length = rest'.length →
      ((List.finRange n).flatMap field ++ rest).length
        = ((List.finRange n).flatMap field' ++ rest').length := by
    intro n d field field' rest rest' hfield hfield' hrest
    rw [List.length_append, List.length_append, Layout.length_rows hfield,
      Layout.length_rows hfield', hrest]
  have hentity : ∀ {d : ℕ}, 0 < d → (entityMask d).length = d + 1 := by
    intro d hd
    rw [entityMask, List.length_append, List.length_replicate]
    show 2 + (d - 1) = d + 1
    omega
  have hview : ∀ a b c : List Bool, a ++ b ++ c = a ++ (b ++ (c ++ [])) := by
    intro a b c
    rw [List.append_nil, List.append_assoc]
  rw [repeatFlags_eq hopponents, repeatFlags_eq hobstacles, repeatFlags_eq hteammates,
    hview, coordinateMaskOf_eq]
  -- field by field, all of one length
  refine (restrictMask_append ?_).trans ?_
  · exact hfields (fun _ => hentity hdims.1) (fun _ => List.length_replicate)
      (hfields (fun _ => hentity hobstacle) (fun _ => List.length_replicate)
        (hfields (fun _ => hentity hdims.2) (fun _ => List.length_replicate) rfl))
  · rw [zipWith_field hdims.1, zipWith_field hobstacle, zipWith_field hdims.2]
    unfold parts
    rw [List.flatMap_append, hhead, List.flatMap_append, List.flatMap_append, hmasks, hmasks,
      hmasks, List.zipWith_nil_left, List.append_nil]

/-! ### Conversion -/

theorem slice_origin :
    Layout.slice PRESERVED_DIM (PRESERVED_DIM + 2) s.entries = [s.x, s.y] := by
  have hown := s.slice_entries 1
  have hstart : observationIndicesOf team numCameras numTargets numObstacles (Fin.castSucc 1)
      = PRESERVED_DIM := by
    cases team with
    | camera => rfl
    | target => rfl
  have hstop : observationIndicesOf team numCameras numTargets numObstacles (Fin.succ 1)
      = PRESERVED_DIM + team.stateDim := by
    cases team with
    | camera => rfl
    | target => rfl
  have hdim : 2 ≤ team.stateDim := by
    have hrest := s.length_ownRest
    omega
  rw [hstart, hstop] at hown
  have hpiece := Layout.slice_slice (Nat.add_le_add_left hdim PRESERVED_DIM) s.entries (a := 0)
  rw [Nat.add_zero] at hpiece
  rw [← hpiece, hown]
  rfl

/-- **The entries of the space** are converted part by part. -/
theorem relativeRow_entries :
    relativeRow team numCameras numTargets numObstacles s.entries = s.relative.entries := by
  unfold relativeRow
  dsimp only
  rw [s.restrictMask_entries, s.slice_origin, ← s.relative.parts_entries, s.relative_parts,
    ← Part.subtractAt_parts, s.parts_entries]

/-- The places of the warehouses. -/
theorem exists_pairs (n : ℕ) {l : List ℝ} (h : l.length = n * 2) :
    ∃ pairs : Fin n → ℝ × ℝ, l = (List.finRange n).flatMap (fun i => [(pairs i).1, (pairs i).2]) := by
  induction n generalizing l with
  | zero =>
      rw [Nat.zero_mul, List.length_eq_zero_iff] at h
      exact ⟨fun i => i.elim0, h⟩
  | succ n ih =>
      match l with
      | [] => simp at h
      | [x] =>
          rw [List.length_singleton] at h
          omega
      | x :: y :: l =>
          rw [List.length_cons, List.length_cons] at h
          obtain ⟨pairs, hpairs⟩ := ih (l := l) (by omega)
          refine ⟨Fin.cons (x, y) pairs, ?_⟩
          rw [List.finRange_succ, List.flatMap_cons, List.flatMap_map, Fin.cons_zero]
          simp only [Fin.cons_succ]
          rw [← hpairs]
          rfl

/-- The first `n` entries are cut off, and `m` are left. -/
theorem exists_cut {n m : ℕ} {l : List ℝ} (h : n + m ≤ l.length) :
    ∃ first rest, l = first ++ rest ∧ first.length = n ∧ m ≤ rest.length := by
  refine ⟨l.take n, l.drop n, (List.take_append_drop n l).symm, List.length_take_of_le ?_, ?_⟩
  · omega
  · rw [List.length_drop]
    omega

/-- The dimension of the space, field by field. -/
theorem dim_eq_fields : (observationSpaceOf team numCameras numTargets numObstacles).dim
    = 4 + (NUM_WAREHOUSES * 2 + (1 + (2 + ((team.stateDim - 2)
      + (team.numOpponents numCameras numTargets * (team.opponentStateDim + 1)
        + (numObstacles * (OBSTACLE_STATE_DIM + 1)
          + (team.numTeammates numCameras numTargets * (team.teammateStateDim + 1) + 0))))))) := by
  rw [Env.dim_observationSpaceOf, Env.observationIndicesOf_eq]
  cases team with
  | camera =>
      show 13 + (9 + (numTargets * 5 + (numObstacles * 4 + (numCameras * 7 + 0))))
        = 4 + (8 + (1 + (2 + (7 + (numTargets * 5 + (numObstacles * 4 + (numCameras * 7 + 0)))))))
      omega
  | target =>
      show 13 + (14 + (numCameras * 7 + (numObstacles * 4 + (numTargets * 5 + 0))))
        = 4 + (8 + (1 + (2 + (12 + (numCameras * 7 + (numObstacles * 4 + (numTargets * 5 + 0)))))))
      omega

/-- Every vector that is long enough is an observation. -/
theorem exists_toList {row : List ℝ}
    (h : (observationSpaceOf team numCameras numTargets numObstacles).dim ≤ row.length) :
    ∃ s : SplitObservation team numCameras numTargets numObstacles, s.toList = row := by
  rw [dim_eq_fields] at h
  obtain ⟨head, row, rfl, hhead, hrow⟩ := exists_cut h
  obtain ⟨pairs, row, rfl, hpairs, hrow⟩ := exists_cut hrow
  obtain ⟨radius, row, rfl, hradius, hrow⟩ := exists_cut hrow
  obtain ⟨place, row, rfl, hplace, hrow⟩ := exists_cut hrow
  obtain ⟨ownRest, row, rfl, hown, hrow⟩ := exists_cut hrow
  obtain ⟨opponents, row, rfl, hopponents, hrow⟩ := exists_cut hrow
  obtain ⟨obstacles, row, rfl, hobstacles, hrow⟩ := exists_cut hrow
  obtain ⟨teammates, trailing, rfl, hteammates, -⟩ := exists_cut hrow
  have hdims : 2 ≤ team.opponentStateDim ∧ 2 ≤ team.teammateStateDim ∧ 2 ≤ team.stateDim := by
    cases team with
    | camera => exact ⟨by decide, by decide, by decide⟩
    | target => exact ⟨by decide, by decide, by decide⟩
  have hownRest : ownRest.length + 2 = team.stateDim := by
    rw [hown]
    exact Nat.sub_add_cancel hdims.2.2
  obtain ⟨warehouses, rfl⟩ := exists_pairs _ hpairs
  obtain ⟨warehouseRadius, rfl⟩ := List.length_eq_one_iff.mp hradius
  obtain ⟨x, y, rfl⟩ := List.length_eq_two.mp hplace
  obtain ⟨opponents, rfl⟩ := EntityRow.exists_rows hdims.1 _ hopponents
  obtain ⟨obstacles, rfl⟩ := EntityRow.exists_rows (by decide) _ hobstacles
  obtain ⟨teammates, rfl⟩ := EntityRow.exists_rows hdims.2.1 _ hteammates
  refine ⟨⟨head, warehouses, warehouseRadius, x, y, ownRest, opponents, obstacles, teammates,
    trailing, hhead, hownRest⟩, ?_⟩
  unfold toList entries fields
  simp only [List.flatten_cons, List.flatten_nil, List.append_nil, List.append_assoc]
  rfl

/-- One observation. -/
theorem convertCoordinates_toList (hentities : 0 < numCameras + numTargets + numObstacles) :
    convertCoordinates s.toList team numCameras numTargets numObstacles
      = .ok s.relative.toList := by
  have hlength := s.length_entries
  have hdim : ¬ s.toList.length
      < (observationSpaceOf team numCameras numTargets numObstacles).dim := by
    rw [toList, List.length_append]
    omega
  unfold convertCoordinates
  dsimp only
  rw [if_neg hdim, if_neg (otherEntitiesSize_ne_zero hentities), toList,
    List.take_left' hlength, List.drop_left' hlength, relativeRow_entries]
  rfl

end SplitObservation

/-! ## Batches -/

/-- `np.hstack` of two arrays with the same number of rows. -/
def hstack {α : Type} : List (List α) → List (List α) → List (List α) := List.zipWith (· ++ ·)

/-- `convert_coordinates` of an array of rows of one width. -/
noncomputable def convertCoordinatesBatched (width : ℕ) (observation : List (List ℝ)) (team : Team)
    (numCameras numTargets numObstacles : ℕ) : Except Error (List (List ℝ)) :=
  let observationSpace := observationSpaceOf team numCameras numTargets numObstacles
  if width < observationSpace.dim then .error (featureSizeError observationSpace.dim)
  else if otherEntitiesSize team numCameras numTargets numObstacles = 0 then .error broadcastError
  else
    let converted := observation.map (List.take observationSpace.dim)
    let slices := observationSlicesOf team numCameras numTargets numObstacles
    let viewMask := hstack
      (hstack (converted.map (repeatFlags slices.opponentMask team.opponentStateDim))
        (converted.map (repeatFlags slices.obstacleMask OBSTACLE_STATE_DIM)))
      (converted.map (repeatFlags slices.teammateMask team.teammateStateDim))
    let coordinateMask := List.zipWith restrictMask
      (List.replicate converted.length (coordinateMaskOf team numCameras numTargets numObstacles))
      viewMask
    let origin := converted.map (Layout.slice PRESERVED_DIM (PRESERVED_DIM + 2))
    -- the loop over the rows, each with its own origin
    let converted := (List.range converted.length).foldl (fun converted i =>
      converted.modify i (subtractAt (coordinateMask.getD i [])
        (Space.tile (origin.getD i []) ((coordinateMask.getD i []).count true / 2)))) converted
    if width = observationSpace.dim then .ok converted
    else .ok (hstack converted (observation.map (List.drop observationSpace.dim)))

/-- A loop that treats the rows one after the other treats every row. -/
theorem foldl_modify_range {α : Type} (f : ℕ → α → α) (l : List α) :
    (List.range l.length).foldl (fun l i => l.modify i (f i)) l = l.mapIdx f := by
  -- after `k` rounds the first `k` rows are treated
  have hloop : ∀ k, (List.range k).foldl (fun l i => l.modify i (f i)) l
      = l.mapIdx (fun i a => if i < k then f i a else a) := by
    intro k
    induction k with
    | zero =>
        apply List.ext_getElem?
        intro i
        rw [List.getElem?_mapIdx]
        show l[i]? = l[i]?.map _
        cases l[i]? with
        | none => rfl
        | some a => rfl
    | succ k ih =>
        rw [List.range_succ, List.foldl_append, ih]
        apply List.ext_getElem?
        intro i
        show (List.modify _ k (f k))[i]? = _
        rw [List.getElem?_modify, List.getElem?_mapIdx, List.getElem?_mapIdx]
        cases l[i]? with
        | none => rfl
        | some a =>
            refine congrArg some ?_
            by_cases hk : k = i
            · subst hk
              simp
            · have hlt : i < k + 1 ↔ i < k := by omega
              simp [hk, hlt]
  rw [hloop]
  apply List.ext_getElem?
  intro i
  rw [List.getElem?_mapIdx, List.getElem?_mapIdx]
  cases hi : l[i]? with
  | none => rfl
  | some a =>
      obtain ⟨hlt, -⟩ := List.getElem?_eq_some_iff.mp hi
      exact congrArg some (if_pos hlt)

section

variable {team : Team} {numCameras numTargets numObstacles : ℕ}

/-- **A batch** is converted row by row. -/
theorem convertCoordinatesBatched_eq {width : ℕ} {rows : List (List ℝ)}
    (hwidth : ∀ row ∈ rows, row.length = width) :
    convertCoordinatesBatched width rows team numCameras numTargets numObstacles
      = if width < (observationSpaceOf team numCameras numTargets numObstacles).dim then
          .error (featureSizeError (observationSpaceOf team numCameras numTargets numObstacles).dim)
        else if otherEntitiesSize team numCameras numTargets numObstacles = 0 then
          .error broadcastError
        else .ok (rows.map (fun row => relativeRow team numCameras numTargets numObstacles
            (row.take (observationSpaceOf team numCameras numTargets numObstacles).dim)
          ++ row.drop (observationSpaceOf team numCameras numTargets numObstacles).dim)) := by
  unfold convertCoordinatesBatched
  dsimp only
  split
  · rfl
  · split
    · rfl
    · -- stacked and taken apart again, the masks are those of the rows
      have hmask : ∀ converted : List (List ℝ), List.zipWith restrictMask
          (List.replicate converted.length (coordinateMaskOf team numCameras numTargets numObstacles))
          (hstack (hstack
            (converted.map (repeatFlags (observationSlicesOf team numCameras numTargets
              numObstacles).opponentMask team.opponentStateDim))
            (converted.map (repeatFlags (observationSlicesOf team numCameras numTargets
              numObstacles).obstacleMask OBSTACLE_STATE_DIM)))
            (converted.map (repeatFlags (observationSlicesOf team numCameras numTargets
              numObstacles).teammateMask team.teammateStateDim)))
          = converted.map (fun row => restrictMask
              (coordinateMaskOf team numCameras numTargets numObstacles)
              (repeatFlags (observationSlicesOf team numCameras numTargets
                  numObstacles).opponentMask team.opponentStateDim row
                ++ repeatFlags (observationSlicesOf team numCameras numTargets
                  numObstacles).obstacleMask OBSTACLE_STATE_DIM row
                ++ repeatFlags (observationSlicesOf team numCameras numTargets
                  numObstacles).teammateMask team.teammateStateDim row)) := by
        intro converted
        unfold hstack
        rw [← List.map_const', List.zipWith_map, List.zipWith_self, List.zipWith_map,
          List.zipWith_self, List.zipWith_map, List.zipWith_self]
      -- and each row is moved by its own origin
      have hrows : ∀ (converted : List (List ℝ)) (mask : List ℝ → List Bool)
          (origin : List ℝ → List ℝ), converted.mapIdx (fun i =>
            subtractAt ((converted.map mask).getD i [])
              (Space.tile ((converted.map origin).getD i [])
                (((converted.map mask).getD i []).count true / 2)))
          = converted.map (fun row =>
            subtractAt (mask row) (Space.tile (origin row) ((mask row).count true / 2)) row) := by
        intro converted mask origin
        apply List.ext_getElem?
        intro i
        rw [List.getElem?_mapIdx, List.getElem?_map]
        cases hrow : converted[i]? with
        | none => rfl
        | some row => simp [List.getD_eq_getElem?_getD, hrow]
      rw [hmask, foldl_modify_range, hrows]
      have hdone : ∀ row : List ℝ, subtractAt _ (Space.tile _ _) row
          = relativeRow team numCameras numTargets numObstacles row := fun row => rfl
      simp only [hdone, List.map_map]
      split
      · rename_i heq
        refine congrArg Except.ok (List.map_congr_left (fun row hrow => ?_))
        rw [List.drop_eq_nil_of_le ((hwidth row hrow).trans heq).le, List.append_nil]
        rfl
      · unfold hstack
        rw [List.zipWith_map, List.zipWith_self]
        rfl

end

/-! ## The row of the agent itself -/

namespace SplitObservation

/-- The observation of a target that is alone, at `(3, 4)`, and sees itself. -/
noncomputable def alone : SplitObservation .target 0 1 0 where
  head := [0, 1, 0, 0]
  warehouses := fun w => ((warehouseLocation w).re, (warehouseLocation w).im)
  warehouseRadius := WAREHOUSE_RADIUS
  x := 3
  y := 4
  ownRest := [0, 0, 20, 1] ++ List.replicate (2 * NUM_WAREHOUSES) 0
  opponents := fun c => c.elim0
  obstacles := fun o => o.elim0
  teammates := fun _ => ⟨3, 4, [0, 0], 1, rfl⟩
  trailing := []
  length_head := rfl
  length_ownRest := rfl

/-- The observation with everything but the row of the agent among its teammates relative. -/
noncomputable def othersRelative {team : Team} {numCameras numTargets numObstacles : ℕ}
    (s : SplitObservation team numCameras numTargets numObstacles) (index : ℕ) :
    SplitObservation team numCameras numTargets numObstacles :=
  { s.relative with
    teammates := fun i => if (i : ℕ) = index then s.teammates i else s.relative.teammates i }

end SplitObservation

end Mate
