import Mate.Library.Layout
import Mate.Rllib.FocusTrajectory
import Mate.StepCredits

set_option autoImplicit false

/-! # The join of the trajectories

When no agent has two rows of one key, the dictionary of the join has a member for every row of
every agent, whatever the order of the batches and of their rows. So the rows that the engine is
given are the own rows whose key all agents have (`matchedRows_eq`), with the actions in the order
of the agents.
-/

namespace Mate.Rllib.Focus

open Dicts Fallible

/-! ## Numbers of agents -/

theorem agentIndex_inj {n : ℕ} {a b : Fin n} (h : ((a : ℕ) : ℤ) = (b : ℕ)) : a = b :=
  Fin.ext (Int.ofNat_inj.mp h)

theorem mem_agentIndices {n : ℕ} {i : ℤ} : i ∈ agentIndices n ↔ ∃ a : Fin n, i = (a : ℕ) := by
  rw [agentIndices, List.mem_map]
  constructor
  · rintro ⟨a, ha, rfl⟩
    exact ⟨⟨a, List.mem_range.mp ha⟩, rfl⟩
  · rintro ⟨a, rfl⟩
    exact ⟨a, List.mem_range.mpr a.2, rfl⟩

theorem nodup_agentIndices (n : ℕ) : (agentIndices n).Nodup :=
  List.nodup_range.map (fun _ _ h => Int.ofNat_inj.mp h)

/-! ## Trajectories -/

section Batches

variable {n : ℕ} (batch : Fin n → MemberBatch)

/-- All batches have time steps. -/
def allTimed : Bool := (List.finRange n).all (fun a => (batch a).t.isSome)

/-- The key of a row of agent `a`. -/
def agentKey (a : Fin n) (row : Fin (batch a).count) : ℤ × ℤ × ℤ :=
  rowKey (allTimed batch) (batch a) row

variable [Numerals]

/-- The names of the other agents tell their numbers, or the columns `AGENT_INDEX` do, and so it is
with the own number: it is what the names leave over, or it is in the column. -/
structure Numbered (own : Fin n) (agentId : Fin n → String) : Prop where
  others : ∀ a, a ≠ own → agentIdToIndex (agentId a) = some ((a : ℕ) : ℤ) ∨
    (agentIdToIndex (agentId a) = none ∧ ∀ row, (batch a).agentIndex row = (a : ℕ))
  own : (∀ a, a ≠ own → agentIdToIndex (agentId a) = some ((a : ℕ) : ℤ)) ∨
    ∀ row, (batch own).agentIndex row = (own : ℕ)

end Batches

/-- What the agents have recorded, as one of them sees it. The batches of the others may come in any
order, among entries that are not batches. -/
structure Trajectory [Numerals] (O n : ℕ) where
  own : Fin n
  batch : Fin n → MemberBatch
  curObs : Fin (batch own).count → Fin O → ℝ
  nextObs : Fin (batch own).count → Fin O → ℝ
  agentId : Fin n → String
  others : List (String × OtherBatch O)
  listed : (otherEntries others).Perm (((List.finRange n).filter (· ≠ own)).map (fun a =>
    (agentIdToIndex (agentId a), batch a)))
  numbered : Numbered batch own agentId
  /-- an agent has at most one row of a key -/
  once : ∀ a, Function.Injective (agentKey batch a)

namespace Trajectory

variable [Numerals] {O n : ℕ} (tr : Trajectory O n)

/-- The rows of the own batch. -/
def count : ℕ := (tr.batch tr.own).count

/-- The own batch, as it is passed. -/
def sampleBatch : SampleBatch O :=
  let own := tr.batch tr.own
  ⟨own.count, some own.epsId, some own.agentIndex, some own.actions, own.envId, own.t,
    some tr.curObs, some tr.nextObs⟩

def ownKey (row : Fin tr.count) : ℤ × ℤ × ℤ := agentKey tr.batch tr.own row

/-- The rows can be told apart: by time steps, or by their numbers in batches of one length. -/
def Keyed : Prop := allTimed tr.batch = true ∨ ∀ a, (tr.batch a).count = tr.count

/-- All agents have a row with the key of the row. -/
def Complete (row : Fin tr.count) : Prop :=
  tr.Keyed ∧ ∀ a, ∃ row', agentKey tr.batch a row' = tr.ownKey row

variable {cfg : FocusConfig} {D H A : ℕ} (model : MAPPOModel cfg O D H n A)

/-- The joint row of a row that is complete. -/
noncomputable def matchedRow (row : Fin tr.count) (h : tr.Complete row) :
    MatchedRow tr.count D n where
  row := row
  agentIndex := (tr.own : ℕ)
  state := model.globalState (tr.curObs row)
  nextState := model.globalState (tr.nextObs row)
  actions := fun a => (tr.batch a).actions (h.2 a).choose

open Classical in
/-- The joint rows, in the order of the own batch. -/
noncomputable def matched : List (MatchedRow tr.count D n) :=
  (List.finRange tr.count).filterMap (fun row =>
    if h : tr.Complete row then some (tr.matchedRow model row h) else none)

end Trajectory

/-! ## The entries -/

namespace Trajectory

variable [Numerals] {O n : ℕ} (tr : Trajectory O n)

theorem mem_otherEntries {e : Option ℤ × MemberBatch} : e ∈ otherEntries tr.others ↔
    ∃ a, a ≠ tr.own ∧ e = (agentIdToIndex (tr.agentId a), tr.batch a) := by
  rw [tr.listed.mem_iff, List.mem_map]
  constructor
  · rintro ⟨a, ha, rfl⟩
    exact ⟨a, of_decide_eq_true (List.mem_filter.mp ha).2, rfl⟩
  · rintro ⟨a, ha, rfl⟩
    exact ⟨a, List.mem_filter.mpr ⟨List.mem_finRange a, decide_eq_true ha⟩, rfl⟩

theorem length_otherEntries : (otherEntries tr.others).length + 1 = n := by
  have hpos := tr.own.pos
  have herase : (List.finRange n).filter (· ≠ tr.own) = (List.finRange n).erase tr.own := by
    rw [(List.nodup_finRange n).erase_eq_filter]
    refine List.filter_congr (fun a _ => ?_)
    rw [Bool.eq_iff_iff, decide_eq_true_iff, bne_iff_ne]
  rw [tr.listed.length_eq, List.length_map, herase, List.length_erase_of_mem (List.mem_finRange _),
    List.length_finRange]
  omega

/-- The numbers in the names of the others. -/
def taken : List ℤ := (otherEntries tr.others).filterMap Prod.fst

theorem mem_taken {i : ℤ} :
    i ∈ tr.taken ↔ ∃ a, a ≠ tr.own ∧ agentIdToIndex (tr.agentId a) = some i := by
  rw [taken, List.mem_filterMap]
  constructor
  · rintro ⟨e, he, hi⟩
    obtain ⟨a, ha, rfl⟩ := tr.mem_otherEntries.mp he
    dsimp only at hi
    exact ⟨a, ha, hi⟩
  · rintro ⟨a, ha, hi⟩
    refine ⟨_, tr.mem_otherEntries.mpr ⟨a, ha, rfl⟩, ?_⟩
    dsimp only
    exact hi

/-- A name tells no number but that of its agent. -/
theorem eq_of_name {a b : Fin n} (ha : a ≠ tr.own)
    (hb : agentIdToIndex (tr.agentId a) = some ((b : ℕ) : ℤ)) : a = b := by
  rcases tr.numbered.others a ha with h | ⟨h, -⟩
  · exact agentIndex_inj (Option.some.inj (h.symm.trans hb))
  · rw [h] at hb
    cases hb

/-- A number is left over if no other name tells it. -/
theorem mem_left {b : Fin n}
    (h : b = tr.own ∨ agentIdToIndex (tr.agentId b) ≠ some ((b : ℕ) : ℤ)) :
    ((b : ℕ) : ℤ) ∈ (agentIndices n).filter (fun i => i ∉ tr.taken) := by
  refine List.mem_filter.mpr ⟨mem_agentIndices.mpr ⟨b, rfl⟩, decide_eq_true ?_⟩
  rw [mem_taken]
  rintro ⟨c, hc, hname⟩
  have hcb := tr.eq_of_name hc hname
  subst hcb
  exact h.elim hc (fun h => h hname)

/-- If the names tell all other numbers, the own one is left over. -/
theorem left_eq (hall : ∀ a, a ≠ tr.own → agentIdToIndex (tr.agentId a) = some ((a : ℕ) : ℤ)) :
    (agentIndices n).filter (fun i => i ∉ tr.taken) = [((tr.own : ℕ) : ℤ)] := by
  have hiff : ∀ i ∈ agentIndices n, decide (i ∉ tr.taken) = decide (i = ((tr.own : ℕ) : ℤ)) := by
    intro i hi
    obtain ⟨a, rfl⟩ := mem_agentIndices.mp hi
    refine decide_eq_decide.mpr ⟨fun hnot => ?_, fun h => ?_⟩
    · by_contra hne
      have ha : a ≠ tr.own := fun h => hne (by rw [h])
      exact hnot (tr.mem_taken.mpr ⟨a, ha, hall a ha⟩)
    · rw [mem_taken]
      rintro ⟨b, hb, hname⟩
      exact hb ((tr.eq_of_name hb hname).trans (agentIndex_inj h))
  have hown := mem_agentIndices.mpr ⟨tr.own, rfl⟩
  rw [List.filter_congr hiff, List.filter_eq,
    List.count_eq_one_of_mem (nodup_agentIndices n) hown]
  rfl

/-- The number that is left over when the others' numbers are taken, if there is just one. -/
theorem currentAgentIndex_taken :
    currentAgentIndex n (otherEntries tr.others)
      = match (agentIndices n).filter (fun i => i ∉ tr.taken) with
        | [i] => some i
        | _ => none := by
  simp only [currentAgentIndex, taken, tr.length_otherEntries, if_true]
  rfl

/-- The number that the names leave over is the own one. Where they leave over more than one, the
column has it. -/
theorem currentAgentIndex_eq :
    currentAgentIndex n (otherEntries tr.others) = some ((tr.own : ℕ) : ℤ) ∨
      (currentAgentIndex n (otherEntries tr.others) = none ∧
        ∀ row, (tr.batch tr.own).agentIndex row = (tr.own : ℕ)) := by
  rw [tr.currentAgentIndex_taken]
  by_cases hall : ∀ a, a ≠ tr.own → agentIdToIndex (tr.agentId a) = some ((a : ℕ) : ℤ)
  · rw [tr.left_eq hall]
    exact Or.inl rfl
  · -- the name of `a` tells no number, so that two numbers are left over
    refine Or.inr ⟨?_, tr.numbered.own.resolve_left hall⟩
    push Not at hall
    obtain ⟨a, ha, hnone⟩ := hall
    have hmine := tr.mem_left (Or.inl rfl)
    have hother := tr.mem_left (Or.inr hnone)
    split
    · rename_i i hi
      rw [hi, List.mem_singleton] at hmine hother
      exact absurd (agentIndex_inj (hother.trans hmine.symm)) ha
    · rfl

/-- The number that is known before a row is looked at. -/
noncomputable def hint (a : Fin n) : Option ℤ :=
  if a = tr.own then currentAgentIndex n (otherEntries tr.others)
  else agentIdToIndex (tr.agentId a)

/-- All rows are put under the number of their agent. -/
theorem hint_getD (a : Fin n) (row : Fin (tr.batch a).count) :
    (tr.hint a).getD ((tr.batch a).agentIndex row) = (a : ℕ) := by
  unfold hint
  by_cases ha : a = tr.own
  · subst ha
    rw [if_pos rfl]
    rcases tr.currentAgentIndex_eq with h | ⟨h, hcolumn⟩
    · rw [h]
      rfl
    · rw [h]
      exact hcolumn row
  · rw [if_neg ha]
    rcases tr.numbered.others a ha with h | ⟨h, hcolumn⟩
    · rw [h]
      rfl
    · rw [h]
      exact hcolumn row

/-- The batches that are joined. -/
noncomputable def allBatches : List (Option ℤ × MemberBatch) :=
  (currentAgentIndex n (otherEntries tr.others), tr.batch tr.own) :: otherEntries tr.others

theorem mem_allBatches {e : Option ℤ × MemberBatch} :
    e ∈ tr.allBatches ↔ ∃ a, e = (tr.hint a, tr.batch a) := by
  rw [allBatches, List.mem_cons, mem_otherEntries]
  constructor
  · rintro (rfl | ⟨a, ha, rfl⟩)
    · exact ⟨tr.own, by rw [hint, if_pos rfl]⟩
    · exact ⟨a, by rw [hint, if_neg ha]⟩
  · rintro ⟨a, rfl⟩
    by_cases ha : a = tr.own
    · subst ha
      exact Or.inl (by rw [hint, if_pos rfl])
    · exact Or.inr ⟨a, ha, by rw [hint, if_neg ha]⟩

theorem useTimestepKey_allBatches : useTimestepKey tr.allBatches = allTimed tr.batch := by
  rw [Bool.eq_iff_iff, useTimestepKey, allTimed, List.all_eq_true, List.all_eq_true]
  constructor
  · exact fun h a _ => h (tr.hint a, tr.batch a) (tr.mem_allBatches.mpr ⟨a, rfl⟩)
  · rintro h e he
    obtain ⟨a, rfl⟩ := tr.mem_allBatches.mp he
    exact h a (List.mem_finRange a)

/-! ## The join -/

theorem mem_keyedRows {key : ℤ × ℤ × ℤ} {i : ℤ} {m : Member} :
    (key, i, m) ∈ keyedRows (allTimed tr.batch) tr.allBatches ↔
      ∃ a row, key = agentKey tr.batch a row ∧ i = (a : ℕ) ∧ m = ⟨tr.batch a, row⟩ := by
  rw [keyedRows, List.mem_flatMap]
  constructor
  · rintro ⟨e, he, hrow⟩
    obtain ⟨a, rfl⟩ := tr.mem_allBatches.mp he
    obtain ⟨row, -, hrow⟩ := List.mem_map.mp hrow
    cases hrow
    exact ⟨a, row, rfl, tr.hint_getD a row, rfl⟩
  · rintro ⟨a, row, rfl, rfl, rfl⟩
    refine ⟨_, tr.mem_allBatches.mpr ⟨a, rfl⟩, List.mem_map.mpr ⟨row, List.mem_finRange row, ?_⟩⟩
    rw [tr.hint_getD a row]
    rfl

theorem single_keyedRows : Single (keyedRows (allTimed tr.batch) tr.allBatches) := by
  intro key i m m' hm hm'
  obtain ⟨a, row, hkey, hi, rfl⟩ := tr.mem_keyedRows.mp hm
  obtain ⟨b, row', hkey', hi', rfl⟩ := tr.mem_keyedRows.mp hm'
  have hab : a = b := Fin.ext (Int.ofNat_inj.mp (hi.symm.trans hi'))
  subst hab
  rw [tr.once a (hkey.symm.trans hkey')]

/-- `rows_by_key`. -/
noncomputable def rowsByKey : Dicts.Dict (ℤ × ℤ × ℤ) (Dicts.Dict ℤ Member) :=
  group (keyedRows (allTimed tr.batch) tr.allBatches)

theorem get?_rowsByKey {key : ℤ × ℤ × ℤ} {i : ℤ} {m : Member} :
    (members tr.rowsByKey key).get? i = some m ↔
      ∃ a row, key = agentKey tr.batch a row ∧ i = (a : ℕ) ∧ m = ⟨tr.batch a, row⟩ :=
  (get?_members_eq_some tr.single_keyedRows).trans tr.mem_keyedRows

/-- A key has members for all agents. -/
theorem jointMembers_eq_some {key : ℤ × ℤ × ℤ} {row : (a : Fin n) → Fin (tr.batch a).count}
    (hrow : ∀ a, agentKey tr.batch a (row a) = key) :
    jointMembers n (members tr.rowsByKey key) = some (fun a => ⟨tr.batch a, row a⟩) := by
  have hget : ∀ a : Fin n,
      (members tr.rowsByKey key).get? ((a : ℕ) : ℤ) = some ⟨tr.batch a, row a⟩ :=
    fun a => tr.get?_rowsByKey.mpr ⟨a, row a, (hrow a).symm, rfl, rfl⟩
  have hkeys : (members tr.rowsByKey key).keys.toFinset = (agentIndices n).toFinset := by
    ext i
    rw [List.mem_toFinset, List.mem_toFinset, Dicts.Dict.mem_keys, mem_agentIndices]
    constructor
    · rintro ⟨m, hm⟩
      obtain ⟨a, -, -, rfl, -⟩ := tr.get?_rowsByKey.mp hm
      exact ⟨a, rfl⟩
    · rintro ⟨a, rfl⟩
      exact ⟨_, hget a⟩
  have hlength : (members tr.rowsByKey key).keys.length = n := by
    calc (members tr.rowsByKey key).keys.length
        = (members tr.rowsByKey key).keys.toFinset.card :=
          (List.toFinset_card_of_nodup (nodup_keys_members _ key)).symm
      _ = (agentIndices n).length := by
          rw [hkeys, List.toFinset_card_of_nodup (nodup_agentIndices n)]
      _ = n := by simp [agentIndices]
  unfold jointMembers
  rw [dif_pos ⟨hlength, hkeys⟩]
  simp only [hget, Option.get_some]

theorem jointMembers_eq_none {key : ℤ × ℤ × ℤ}
    (h : ¬ ∀ a, ∃ row, agentKey tr.batch a row = key) :
    jointMembers n (members tr.rowsByKey key) = none := by
  unfold jointMembers
  refine dif_neg (fun hkeys => h (fun a => ?_))
  have hmem : ((a : ℕ) : ℤ) ∈ (members tr.rowsByKey key).keys := by
    rw [← List.mem_toFinset, hkeys.2, List.mem_toFinset, mem_agentIndices]
    exact ⟨a, rfl⟩
  obtain ⟨m, hm⟩ := Dicts.Dict.mem_keys.mp hmem
  obtain ⟨b, row, hkey, hab, -⟩ := tr.get?_rowsByKey.mp hm
  have hab : a = b := Fin.ext (Int.ofNat_inj.mp hab)
  subst hab
  exact ⟨row, hkey.symm⟩

/-! ## The joint rows -/

/-- The own batch, with all columns that are required. -/
def ownBatch : OwnBatch O tr.count :=
  let own := tr.batch tr.own
  ⟨own.epsId, own.agentIndex, own.actions, own.envId, own.t, tr.curObs, tr.nextObs⟩

theorem own?_sampleBatch : tr.sampleBatch.own? = some tr.ownBatch := rfl

variable {cfg : FocusConfig} {D H A : ℕ} (model : MAPPOModel cfg O D H n A)

/-- **The rows that the engine is given are those that all agents have.** -/
theorem matchedRows_eq (hkeyed : tr.Keyed) :
    model.matchedRows (currentAgentIndex n (otherEntries tr.others)) (allTimed tr.batch) tr.ownBatch
      tr.rowsByKey = tr.matched model := by
  unfold MAPPOModel.matchedRows matched
  refine List.filterMap_congr (fun row _ => ?_)
  by_cases h : tr.Complete row
  · have hjoint : jointMembers n (members tr.rowsByKey (tr.ownKey row)) = some _ :=
      tr.jointMembers_eq_some (fun a => (h.2 a).choose_spec)
    have hown := tr.hint_getD tr.own row
    rw [hint, if_pos rfl] at hown
    rw [dif_pos h]
    show (jointMembers n (members tr.rowsByKey (tr.ownKey row))).map _ = _
    rw [hjoint, Option.map_some]
    refine congrArg some ?_
    unfold matchedRow
    rw [← hown]
    rfl
  · rw [dif_neg h]
    show (jointMembers n (members tr.rowsByKey (tr.ownKey row))).map _ = _
    rw [tr.jointMembers_eq_none (fun hall => h ⟨hkeyed, hall⟩), Option.map_none]

theorem mem_matched {m : MatchedRow tr.count D n} :
    m ∈ tr.matched model ↔ ∃ h : tr.Complete m.row, m = tr.matchedRow model m.row h := by
  rw [matched, List.mem_filterMap]
  constructor
  · rintro ⟨row, -, hm⟩
    by_cases h : tr.Complete row
    · rw [dif_pos h] at hm
      cases hm
      exact ⟨h, rfl⟩
    · rw [dif_neg h] at hm
      cases hm
  · rintro ⟨h, hm⟩
    exact ⟨m.row, List.mem_finRange _, by rw [dif_pos h, ← hm]⟩

open Classical in
theorem map_row_matched :
    (tr.matched model).map MatchedRow.row = (List.finRange tr.count).filter tr.Complete := by
  rw [matched, List.map_filterMap, ← List.filterMap_eq_filter]
  refine List.filterMap_congr (fun row _ => ?_)
  by_cases h : tr.Complete row
  · simp [h, matchedRow, Option.guard]
  · simp [h, Option.guard]

/-- The joint rows are in the order of the own batch. -/
theorem sorted_matched : ((tr.matched model).map MatchedRow.row).Pairwise (· < ·) := by
  classical
  rw [map_row_matched]
  exact (List.pairwise_lt_finRange _).filter _

/-- Where not all batches have time steps, and they are not of one length, nothing is joined. -/
theorem matched_eq_nil (h : ¬ tr.Keyed) : tr.matched model = [] :=
  List.eq_nil_iff_forall_not_mem.mpr (fun _ hm => h ((tr.mem_matched model).mp hm).1.1)

end Trajectory

end Mate.Rllib.Focus
