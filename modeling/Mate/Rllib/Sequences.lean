import Mate.Rllib.Rollout
import Mathlib.Data.List.SplitLengths

set_option autoImplicit false

/-! # Sequences for the learner

`chop_into_sequences` cuts the rows of a sample batch where their episode changes and at every
`max_seq_len` rows, and pads the pieces to one length. An episode that fits is one piece of its own,
wherever it stands in the batch (`chop_episode`).
-/

namespace Mate.Rllib

open Fallible Nets

/-! ## Chopping -/

section Chop

variable {ι α : Type}

/-- The loop over the ids of the rows: the id of the row before and the length so far. -/
def seqLens [DecidableEq ι] (maxSeqLen : ℕ) : Option ι → ℕ → List ι → List ℕ
  | _, seqLen, [] => if seqLen = 0 then [] else [seqLen]
  | prevId, seqLen, uid :: uids =>
      if (prevId.any (fun p => decide (uid ≠ p)) = true) ∨ maxSeqLen ≤ seqLen then
        seqLen :: seqLens maxSeqLen (some uid) 1 uids
      else seqLens maxSeqLen (some uid) (seqLen + 1) uids

/-- The rows of one column, cut into sequences of the given lengths and padded to the longest. -/
def chopIntoSequences (lens : List ℕ) (pad : α) (column : List α) : List (List α) :=
  (lens.splitLengths column).map
    (fun sequence => sequence ++ List.replicate (lens.foldr max 0 - sequence.length) pad)

variable [DecidableEq ι] {maxSeqLen : ℕ}

/-- No row is lost. -/
theorem sum_seqLens (prevId : Option ι) (seqLen : ℕ) (uids : List ι) :
    (seqLens maxSeqLen prevId seqLen uids).sum = seqLen + uids.length := by
  induction uids generalizing prevId seqLen with
  | nil =>
      unfold seqLens
      split
      · simp_all
      · simp
  | cons uid uids ih =>
      unfold seqLens
      split
      · rw [List.sum_cons, ih, List.length_cons]
        omega
      · rw [ih, List.length_cons]
        omega

/-- Where the id changes the loop starts anew. -/
theorem seqLens_append (hmax : 0 < maxSeqLen) {u : ι} (rest : List ι) (p : ι) (seqLen : ℕ)
    (hlen : 0 < seqLen) (uids : List ι) (hlast : (p :: uids).getLast (List.cons_ne_nil p uids) ≠ u) :
    seqLens maxSeqLen (some p) seqLen (uids ++ u :: rest)
      = seqLens maxSeqLen (some p) seqLen uids ++ seqLens maxSeqLen none 0 (u :: rest) := by
  induction uids generalizing p seqLen with
  | nil =>
      have hne : p ≠ u := hlast
      simp [seqLens, hne.symm, hlen.ne', hmax.ne']
  | cons uid uids ih =>
      have hlast' : (uid :: uids).getLast (List.cons_ne_nil uid uids) ≠ u := by
        rwa [List.getLast_cons_cons] at hlast
      rw [List.cons_append, seqLens, seqLens]
      split
      · rw [ih uid 1 one_pos hlast', List.cons_append]
      · exact ih uid (seqLen + 1) (Nat.succ_pos seqLen) hlast'

/-- Rows of one id make one sequence as long as they fit. -/
theorem seqLens_replicate (u : ι) (m seqLen : ℕ) (hfit : seqLen + m ≤ maxSeqLen)
    (hlen : 0 < seqLen) (after : List ι) (hafter : ∀ v ∈ after.head?, v ≠ u) :
    ∃ rest, seqLens maxSeqLen (some u) seqLen (List.replicate m u ++ after)
      = (seqLen + m) :: rest := by
  induction m generalizing seqLen with
  | zero =>
      cases after with
      | nil => exact ⟨[], by simp [seqLens, hlen.ne']⟩
      | cons v after =>
          have hv : v ≠ u := hafter v rfl
          exact ⟨seqLens maxSeqLen (some v) 1 after, by simp [seqLens, hv]⟩
  | succ m ih =>
      rw [List.replicate_succ, List.cons_append, seqLens, if_neg (by simp; omega)]
      obtain ⟨rest, hrest⟩ := ih (seqLen + 1) (by omega) (Nat.succ_pos seqLen)
      exact ⟨rest, by rw [hrest]; congr 1; omega⟩

/-- **The sequence of an episode**: behind rows that end with another id, and before rows that
begin with another one, the rows of an episode that fits are one sequence. -/
theorem seqLens_episode (u : ι) {T : ℕ} (hpos : 0 < T) (hfit : T ≤ maxSeqLen)
    (before after : List ι) (hbefore : ∀ v ∈ before.getLast?, v ≠ u)
    (hafter : ∀ v ∈ after.head?, v ≠ u) :
    ∃ rest, seqLens maxSeqLen none 0 (before ++ (List.replicate T u ++ after))
      = seqLens maxSeqLen none 0 before ++ T :: rest := by
  obtain ⟨m, rfl⟩ : ∃ m, T = m + 1 := ⟨T - 1, by omega⟩
  have hstart : ∃ rest, seqLens maxSeqLen none 0 (List.replicate (m + 1) u ++ after)
      = (m + 1) :: rest := by
    have hfit' : 1 + m ≤ maxSeqLen := by omega
    obtain ⟨rest, hrest⟩ := seqLens_replicate u m 1 hfit' one_pos after hafter
    refine ⟨rest, ?_⟩
    rw [List.replicate_succ, List.cons_append, seqLens, if_neg (by simp; omega), hrest,
      Nat.add_comm 1 m]
  obtain ⟨rest, hrest⟩ := hstart
  refine ⟨rest, ?_⟩
  rw [← hrest]
  cases before with
  | nil => rfl
  | cons p before =>
      have hlast : (p :: before).getLast (List.cons_ne_nil p before) ≠ u :=
        hbefore _ (List.getLast?_eq_some_getLast _)
      have hnone : ∀ l, seqLens maxSeqLen none 0 (p :: l) = seqLens maxSeqLen (some p) 1 l := by
        intro l
        rw [seqLens, if_neg (by simp; omega)]
      rw [List.cons_append, hnone, hnone, List.replicate_succ, List.cons_append,
        seqLens_append (by omega) _ p 1 one_pos before hlast]

omit [DecidableEq ι] in
theorem splitLengths_append (lens : List ℕ) (n : ℕ) (rest : List ℕ) (l : List α) :
    ((lens ++ n :: rest).splitLengths l)[lens.length]? = some ((l.drop lens.sum).take n) := by
  induction lens generalizing l with
  | nil => rw [List.nil_append, List.splitLengths_cons]; rfl
  | cons m lens ih =>
      rw [List.cons_append, List.splitLengths_cons, List.length_cons, List.getElem?_cons_succ, ih,
        List.drop_drop, List.sum_cons]

/-- The rows of an episode that fits come back as one sequence, followed by padding only. -/
theorem chop_episode (id : α → ι) {u : ι} {before episode after : List α} (hne : episode ≠ [])
    (hfit : episode.length ≤ maxSeqLen) (hepisode : ∀ row ∈ episode, id row = u)
    (hbefore : ∀ row ∈ before.getLast?, id row ≠ u) (hafter : ∀ row ∈ after.head?, id row ≠ u)
    {lens : List ℕ} (hlens : lens = seqLens maxSeqLen none 0 ((before ++ (episode ++ after)).map id))
    {β : Type} (f : α → β) (pad : β) :
    ∃ k n : ℕ, (chopIntoSequences lens pad ((before ++ (episode ++ after)).map f))[k]?
      = some (episode.map f ++ List.replicate n pad) := by
  have huids : episode.map id = List.replicate episode.length u := by
    rw [List.eq_replicate_iff, List.length_map]
    refine ⟨rfl, fun v hv => ?_⟩
    obtain ⟨row, hrow, rfl⟩ := List.mem_map.mp hv
    exact hepisode row hrow
  obtain ⟨rest, hrest⟩ := seqLens_episode u (List.length_pos_of_ne_nil hne) hfit (before.map id) (after.map id)
    (by
      intro v hv
      rw [List.getLast?_map] at hv
      obtain ⟨row, hrow, rfl⟩ := Option.mem_map.mp hv
      exact hbefore row hrow)
    (by
      intro v hv
      rw [List.head?_map] at hv
      obtain ⟨row, hrow, rfl⟩ := Option.mem_map.mp hv
      exact hafter row hrow)
  rw [List.map_append, List.map_append, huids, hrest] at hlens
  have hsum : (seqLens maxSeqLen none 0 (before.map id)).sum = before.length := by
    rw [sum_seqLens, Nat.zero_add, List.length_map]
  -- what comes before the episode is cut where the episode begins
  have hcut : (lens.splitLengths ((before ++ (episode ++ after)).map f))[
      (seqLens maxSeqLen none 0 (before.map id)).length]? = some (episode.map f) := by
    rw [hlens, splitLengths_append, hsum, List.map_append, List.drop_left' (List.length_map f),
      List.map_append, List.take_left' (List.length_map f)]
  refine ⟨(seqLens maxSeqLen none 0 (before.map id)).length,
    lens.foldr max 0 - (episode.map f).length, ?_⟩
  rw [chopIntoSequences, List.getElem?_map, hcut]
  rfl

end Chop

/-! ## The batch of the learner -/

namespace GroupedPolicy

/-- A row of the sample batch of a policy, as far as `_sequence_batch` reads it for the network. -/
structure SampleRow (policy : GroupedPolicy) where
  epsId : ℤ
  agentIndex : ℤ
  unrollId : ℤ
  obs : List ℝ
  nextObs : List ℝ
  actions : policy.JointAction

variable {policy : GroupedPolicy}

def SampleRow.uniqueId (row : SampleRow policy) : ℤ :=
  row.epsId + row.agentIndex + row.unrollId * 2 ^ 32

/-- A row whose vectors have the width of the grouped observation. -/
structure SampleRow.WellFormed (row : SampleRow policy) : Prop where
  obs : policy.WellFormed row.obs
  nextObs_length : row.nextObs.length = policy.flatDim

def SampleRow.transition (row : SampleRow policy) :
    RecurrentAgent.Transition policy.toAgentShape where
  obs := (policy.unpack row.obs).obs
  nextObs := (policy.unpack row.nextObs).obs
  actions := row.actions

/-- A padded row: zeros in every column. -/
def padding (policy : GroupedPolicy) : RecurrentAgent.Transition policy.toAgentShape where
  obs := fun _ _ => 0
  nextObs := fun _ _ => 0
  actions := policy.zeroRow

structure GroupedSequenceBatch (policy : GroupedPolicy) where
  sequences : List (List (RecurrentAgent.Transition policy.toAgentShape))
  seqLens : List ℕ

def SampleRow.unpackRow (row : SampleRow policy) :
    Except Error (RecurrentAgent.Transition policy.toAgentShape) := do
  let current ← policy.unpackObservation row.obs
  let next ← policy.unpackObservation row.nextObs
  return { obs := current.obs, nextObs := next.obs, actions := row.actions }

def sequenceBatch (maxSeqLen : ℕ) (samples : List (SampleRow policy)) :
    Except Error (GroupedSequenceBatch policy) := do
  let rows ← samples.mapM SampleRow.unpackRow
  let lens := Rllib.seqLens maxSeqLen none 0 (samples.map SampleRow.uniqueId)
  if lens = [] then .error (.valueError "max() arg is an empty sequence")
  else return { sequences := chopIntoSequences lens policy.padding rows, seqLens := lens }

theorem unpackRow_eq {row : SampleRow policy} (h : row.WellFormed) :
    row.unpackRow = .ok row.transition := by
  rw [SampleRow.unpackRow, unpackObservation_eq h.obs.length_eq,
    unpackObservation_eq h.nextObs_length]
  rfl

theorem mapM_unpackRow_eq {samples : List (SampleRow policy)}
    (h : ∀ row ∈ samples, row.WellFormed) :
    samples.mapM SampleRow.unpackRow = .ok (samples.map SampleRow.transition) :=
  Fallible.mapM_eq_ok (fun row hrow => unpackRow_eq (h row hrow))

/-- An episode in a sample batch: its rows have one id, the rows around it another one, and it
fits into one sequence. -/
structure Episode (maxSeqLen : ℕ) (before episode after : List (SampleRow policy)) : Prop where
  ne_nil : episode ≠ []
  fits : episode.length ≤ maxSeqLen
  wellFormed : ∀ row ∈ before ++ (episode ++ after), row.WellFormed
  one_id : ∃ u, (∀ row ∈ episode, row.uniqueId = u) ∧ (∀ row ∈ before.getLast?, row.uniqueId ≠ u)
    ∧ ∀ row ∈ after.head?, row.uniqueId ≠ u

/-- The learner finds an episode as one padded sequence of its batch. -/
theorem Episode.sequence {maxSeqLen : ℕ} {before episode after : List (SampleRow policy)}
    (h : Episode maxSeqLen before episode after) : ∃ (batch : GroupedSequenceBatch policy) (k n : ℕ),
      sequenceBatch maxSeqLen (before ++ (episode ++ after)) = .ok batch
      ∧ batch.sequences[k]?
        = some (episode.map SampleRow.transition ++ List.replicate n policy.padding) := by
  obtain ⟨u, hepisode, hbefore, hafter⟩ := h.one_id
  obtain ⟨k, n, hchop⟩ := chop_episode SampleRow.uniqueId h.ne_nil h.fits hepisode hbefore hafter rfl
    SampleRow.transition policy.padding
  let lens := Rllib.seqLens maxSeqLen none 0
    ((before ++ (episode ++ after)).map SampleRow.uniqueId)
  refine ⟨⟨_, lens⟩, k, n, ?_, hchop⟩
  rw [sequenceBatch, mapM_unpackRow_eq h.wellFormed]
  show (if _ then _ else _) = _
  rw [if_neg]
  · rfl
  · -- the lengths sum up to the number of the rows, so there is one
    intro hnil
    have hsum := @sum_seqLens _ _ maxSeqLen none 0
      ((before ++ (episode ++ after)).map SampleRow.uniqueId)
    have hpos := List.length_pos_of_ne_nil h.ne_nil
    rw [hnil] at hsum
    simp at hsum
    omega

end GroupedPolicy

end Mate.Rllib
