import Mate.Library.Blocks
import Mate.Rllib.Sequences

set_option autoImplicit false

/-! # Chopping a batch into sequences

`chop_into_sequences` with its loops over arrays: the rows of every feature column are written one
by one into an array of zeros, at a base that moves on by `max_seq_len` for each sequence, and the
state columns are read at the first row of each. Columns come without nesting and the sequences are
not shuffled, as in all the learners here. -/

namespace Mate.Rllib.RnnSequencing

open Fallible Blocks

variable {ι α σ : Type}

/-- A feature column, with what an entry of `f_pad` is before it is written. -/
structure Column (α : Type) where
  rows : List α
  zero : α

/-- The arguments of a call. -/
structure Batch (ι α σ : Type) where
  uniqueIds : List ι
  featureColumns : List (Column α)
  stateColumns : List (List σ)
  seqLens : Option (List ℕ)

structure Output (α σ : Type) where
  featureSequences : List (List α)
  initialStates : List (List σ)
  seqLens : List ℕ

/-- The variables of the loops that fill `f_pad`. -/
structure Filling (α : Type) where
  fPad : List α
  seqBase : ℕ
  i : ℕ

def outOfBounds : Error := .indexError "index is out of bounds"

/-- `f_pad[seq_base + seq_offset] = f[i]; i += 1`. -/
def Filling.put (f : List α) (s : Filling α) (seqOffset : ℕ) : Except Error (Filling α) :=
  match f[s.i]? with
  | none => .error outOfBounds
  | some row =>
      if s.seqBase + seqOffset < s.fPad.length then
        .ok { s with fPad := s.fPad.set (s.seqBase + seqOffset) row, i := s.i + 1 }
      else .error outOfBounds

/-- The rows of one sequence. -/
def Filling.putSequence (f : List α) (maxSeqLen : ℕ) (s : Filling α) (len : ℕ) :
    Except Error (Filling α) := do
  let s ← (List.range len).foldlM (Filling.put f) s
  return { s with seqBase := s.seqBase + maxSeqLen }

def padColumn (maxSeqLen : ℕ) (seqLens : List ℕ) (col : Column α) : Except Error (List α) := do
  let s ← seqLens.foldlM (Filling.putSequence col.rows maxSeqLen)
    ⟨List.replicate (seqLens.length * maxSeqLen) col.zero, 0, 0⟩
  if s.i = col.rows.length then return s.fPad else .error (.assertionError "i == len(f)")

/-- `s_init.append(s[i]); i += len_`. -/
def readState (s : List σ) (read : List σ × ℕ) (len : ℕ) : Except Error (List σ × ℕ) :=
  match s[read.2]? with
  | none => .error outOfBounds
  | some state => .ok (read.1 ++ [state], read.2 + len)

def initialStates (s : List σ) (seqLens : List ℕ) : Except Error (List σ) := do
  let read ← seqLens.foldlM (readState s) ([], 0)
  return read.1

/-- The lengths that are given, or those of the loop over the ids. -/
def Batch.cut [DecidableEq ι] (maxSeqLen : ℕ) (batch : Batch ι α σ) : List ℕ :=
  match batch.seqLens with
  | some (len :: lens) => len :: lens
  | _ => Rllib.seqLens maxSeqLen none 0 batch.uniqueIds

/-- `max_seq_len`, with `dynamic_max` as long as the longest sequence. -/
def paddedLen (maxSeqLen : ℕ) (dynamicMax : Bool) (extraPadding : ℕ) (seqLens : List ℕ) :
    Except Error ℕ :=
  if dynamicMax then
    if seqLens = [] then .error (.valueError "max() arg is an empty sequence")
    else .ok (seqLens.foldr max 0 + extraPadding)
  else .ok maxSeqLen

def reducedStates (statesAlreadyReducedToInit : Bool) (stateColumns : List (List σ))
    (seqLens : List ℕ) : Except Error (List (List σ)) :=
  if statesAlreadyReducedToInit then .ok stateColumns
  else stateColumns.mapM (fun s => initialStates s seqLens)

def chopIntoSequences [DecidableEq ι] (maxSeqLen : ℕ) (dynamicMax : Bool) (extraPadding : ℕ)
    (statesAlreadyReducedToInit : Bool) (batch : Batch ι α σ) : Except Error (Output α σ) := do
  let seqLens := batch.cut maxSeqLen
  let maxSeqLen ← paddedLen maxSeqLen dynamicMax extraPadding seqLens
  let featureSequences ← batch.featureColumns.mapM (padColumn maxSeqLen seqLens)
  let states ← reducedStates statesAlreadyReducedToInit batch.stateColumns seqLens
  return { featureSequences := featureSequences, initialStates := states, seqLens := seqLens }

end Mate.Rllib.RnnSequencing

/-! ## The sequences of a batch

The loop over the ids finds the lengths of the one maximal cut of the rows (`seqLens_eq`), and the
loops over the columns keep the rows of every block, padded to one width (`padColumn_eq`). So a
batch that is chopped loses nothing, and nothing stands in it twice (`chopIntoSequences_cuts`).
-/

namespace Mate.Rllib.RnnSequencing

open Fallible Blocks

variable {ι α σ : Type}

/-! ## The lengths -/

section Lengths

variable [DecidableEq ι]

/-- Within a run the loop only counts. -/
theorem seqLens_run {m : ℕ} (u : ι) (j n : ℕ) (hfit : n + j ≤ m) (rest : List ι) :
    Rllib.seqLens m (some u) n (List.replicate j u ++ rest) = Rllib.seqLens m (some u) (n + j) rest := by
  induction j generalizing n with
  | zero => rfl
  | succ j ih =>
      have hgoes : ¬ (((some u).any (fun p => decide (u ≠ p)) = true) ∨ m ≤ n) := by
        simp only [Option.any_some, ne_eq, not_true, decide_false, Bool.false_eq_true, false_or,
          Nat.not_le]
        omega
      rw [List.replicate_succ, List.cons_append, Rllib.seqLens, if_neg hgoes, ih (n + 1) (by omega),
        Nat.add_assoc, Nat.add_comm 1 j]

/-- Behind a block that has been counted, the loop finds the lengths of the others. -/
theorem seqLens_from {m : ℕ} {u : ι} {n : ℕ} {blocks : List (List ι)}
    (h : Maximal m (List.replicate (n + 1) u :: blocks)) :
    Rllib.seqLens m (some u) (n + 1) blocks.flatten = (n + 1) :: blocks.map List.length := by
  induction blocks generalizing u n with
  | nil => rw [List.flatten_nil, Rllib.seqLens, if_neg (Nat.succ_ne_zero n), List.map_nil]
  | cons b blocks ih =>
      obtain ⟨v, k, rfl, hk⟩ := h.tail.head_eq
      -- the block is full, or the next one has another id
      have hends : ((some u).any (fun p => decide (v ≠ p)) = true) ∨ m ≤ n + 1 := by
        rcases (List.isChain_cons_cons.mp h.full_or_ne).1 with hfull | hne
        · right
          rw [← hfull, List.length_replicate]
        · left
          have huv : u ≠ v := hne u (by simp) v (by simp)
          simpa using huv.symm
      rw [List.flatten_cons, List.replicate_succ, List.cons_append, Rllib.seqLens, if_pos hends,
        seqLens_run v k 1 (by omega), Nat.add_comm 1 k, ih h.tail, List.map_cons,
        List.length_cons, List.length_replicate]

/-- The loop finds the lengths of the blocks of a maximal cut. -/
theorem seqLens_eq {m : ℕ} (hm : 0 < m) {blocks : List (List ι)} (h : Maximal m blocks) :
    Rllib.seqLens m none 0 blocks.flatten = blocks.map List.length := by
  cases blocks with
  | nil => rfl
  | cons b blocks =>
      obtain ⟨u, n, rfl, hn⟩ := h.head_eq
      have hgoes : ¬ (((none : Option ι).any (fun p => decide (u ≠ p)) = true) ∨ m ≤ 0) := by
        simp only [Option.any_none, Bool.false_eq_true, false_or, Nat.not_le]
        exact hm
      rw [List.flatten_cons, List.replicate_succ, List.cons_append, Rllib.seqLens, if_neg hgoes,
        seqLens_run u n 1 (by omega), Nat.add_comm 1 n, seqLens_from h, List.map_cons,
        List.length_cons, List.length_replicate]

end Lengths

/-! ## The arrays -/

/-- A sequence is written over as many entries as it has rows. -/
theorem foldlM_put (f before after old : List α) (i : ℕ) (hrows : i + old.length ≤ f.length) :
    (List.range old.length).foldlM (Filling.put f) ⟨before ++ old ++ after, before.length, i⟩
      = .ok ⟨before ++ (f.drop i).take old.length ++ after, before.length, i + old.length⟩ := by
  induction old using List.reverseRecOn generalizing after with
  | nil =>
      rw [List.length_nil, List.range_zero, List.take_zero, List.append_nil]
      rfl
  | append_singleton old a ih =>
      rw [List.length_append, List.length_singleton] at hrows ⊢
      have hi : i + old.length < f.length := by omega
      have hnext : (f.drop i).take (old.length + 1)
          = (f.drop i).take old.length ++ [f[i + old.length]] := by
        rw [List.take_add_one, List.getElem?_drop, List.getElem?_eq_getElem hi]
        rfl
      have hlength : ((f.drop i).take old.length).length = old.length := by
        rw [List.length_take, List.length_drop]
        omega
      have hset : (before ++ (f.drop i).take old.length ++ a :: after).set
          (before.length + old.length) f[i + old.length]
          = before ++ (f.drop i).take old.length ++ f[i + old.length] :: after := by
        rw [List.set_append_right _ _ (by rw [List.length_append]; omega), List.length_append,
          hlength, Nat.sub_self, List.set_cons_zero]
      rw [List.range_succ, List.foldlM_append, List.append_assoc before, List.append_assoc old,
        List.singleton_append, ← List.append_assoc before old, ih (a :: after) (by omega)]
      show (Filling.put f _ old.length >>= _) = _
      rw [Filling.put, List.getElem?_eq_getElem hi]
      show (if _ then _ else _) >>= _ = _
      rw [if_pos (by simp only [List.length_append, List.length_cons, hlength]; omega)]
      show Except.ok _ = _
      rw [hset, hnext, Nat.add_assoc, ← List.append_assoc before, List.append_assoc _ [_] after,
        List.singleton_append]

/-- The loops over a column. -/
theorem foldlM_putSequence (f : List α) (zero : α) (width : ℕ) (lens : List ℕ) (before : List α)
    (i : ℕ) (hrows : i + lens.sum ≤ f.length) (hfit : ∀ len ∈ lens, len ≤ width) :
    lens.foldlM (Filling.putSequence f width)
        ⟨before ++ List.replicate (lens.length * width) zero, before.length, i⟩
      = .ok ⟨before ++ padded width zero (lens.splitLengths (f.drop i)),
          before.length + lens.length * width, i + lens.sum⟩ := by
  induction lens generalizing before i with
  | nil =>
      rw [List.length_nil, Nat.zero_mul, List.replicate_zero, List.append_nil]
      show Except.ok _ = _
      rw [List.splitLengths_nil, padded, List.flatMap_nil, List.append_nil]
      rfl
  | cons len lens ih =>
      obtain ⟨hlen, hlens⟩ := List.forall_mem_cons.mp hfit
      rw [List.sum_cons] at hrows ⊢
      have hlength : ((f.drop i).take len).length = len := by
        rw [List.length_take, List.length_drop]
        omega
      -- the zeros of this sequence, those behind it, and those of the others
      have hzeros : List.replicate ((len :: lens).length * width) zero
          = List.replicate len zero
            ++ (List.replicate (width - len) zero ++ List.replicate (lens.length * width) zero) := by
        rw [List.replicate_append_replicate, List.replicate_append_replicate, List.length_cons,
          Nat.succ_mul]
        congr 1
        omega
      have hwritten : Filling.putSequence f width
            ⟨before ++ List.replicate ((len :: lens).length * width) zero, before.length, i⟩ len
          = .ok ⟨before ++ (f.drop i).take len ++ (List.replicate (width - len) zero
              ++ List.replicate (lens.length * width) zero), before.length + width, i + len⟩ := by
        have hput := foldlM_put f before (List.replicate (width - len) zero
          ++ List.replicate (lens.length * width) zero) (List.replicate len zero) i
          (by rw [List.length_replicate]; omega)
        rw [List.length_replicate, List.append_assoc before, ← hzeros] at hput
        rw [Filling.putSequence, hput]
        rfl
      have hwidth : (before ++ ((f.drop i).take len ++ List.replicate (width - len) zero)).length
          = before.length + width := by
        rw [List.length_append, List.length_append, hlength, List.length_replicate]
        omega
      rw [List.foldlM_cons, hwritten]
      show lens.foldlM _ _ = _
      rw [List.append_assoc before, ← List.append_assoc _ _ (List.replicate (lens.length * width) zero),
        ← List.append_assoc before, ← hwidth, ih _ _ (by omega) hlens, List.splitLengths_cons,
        padded_cons, hlength, List.drop_drop, List.append_assoc before, hwidth, List.length_cons,
        Nat.succ_mul]
      congr 2
      · omega
      · omega

/-- **A column is padded** block by block. -/
theorem padColumn_eq {width : ℕ} {lens : List ℕ} {col : Column α} (hsum : lens.sum = col.rows.length)
    (hfit : ∀ len ∈ lens, len ≤ width) :
    padColumn width lens col = .ok (padded width col.zero (lens.splitLengths col.rows)) := by
  have hloops := foldlM_putSequence col.rows col.zero width lens [] 0 (by omega) hfit
  rw [List.nil_append, List.nil_append, List.drop_zero, List.length_nil] at hloops
  rw [padColumn, hloops]
  show (if 0 + lens.sum = col.rows.length then _ else _) = _
  rw [if_pos (by omega)]
  rfl

/-- The states are read where the sequences begin. -/
theorem initialStates_eq {s : List σ} {lens : List ℕ} (hpos : ∀ len ∈ lens, 0 < len)
    (hsum : lens.sum ≤ s.length) :
    ∃ init, initialStates s lens = .ok init ∧ init.length = lens.length
      ∧ ∀ k < lens.length, init[k]? = s[(lens.take k).sum]? := by
  have hloop : ∃ init, lens.foldlM (readState s) ([], 0) = .ok (init, lens.sum)
      ∧ init.length = lens.length ∧ ∀ k < lens.length, init[k]? = s[(lens.take k).sum]? := by
    induction lens using List.reverseRecOn with
    | nil => exact ⟨[], rfl, rfl, fun k hk => absurd hk (Nat.not_lt_zero k)⟩
    | append_singleton lens len ih =>
        have hlen := hpos len (by simp)
        rw [List.sum_append, List.sum_singleton] at hsum
        obtain ⟨init, hinit, hlength, hreads⟩ := ih
          (fun n hn => hpos n (List.mem_append_left [len] hn)) (by omega)
        have hat : lens.sum < s.length := by omega
        refine ⟨init ++ [s[lens.sum]], ?_, ?_, fun k hk => ?_⟩
        · rw [List.foldlM_append, hinit]
          show (readState s (init, lens.sum) len >>= _) = _
          rw [readState, List.getElem?_eq_getElem hat, List.sum_append, List.sum_singleton]
          rfl
        · rw [List.length_append, List.length_append, hlength]
          rfl
        · rw [List.length_append, List.length_singleton] at hk
          rcases Nat.lt_or_eq_of_le (Nat.lt_succ_iff.mp hk) with hlt | rfl
          · rw [List.getElem?_append_left (by omega), hreads k hlt,
              List.take_append_of_le_length hlt.le]
          · rw [List.take_left' rfl, List.getElem?_eq_getElem hat, ← hlength,
              List.getElem?_concat_length]
  obtain ⟨init, hinit, hlength, hreads⟩ := hloop
  refine ⟨init, ?_, hlength, hreads⟩
  rw [initialStates, hinit]
  rfl

/-! ## A batch -/

/-- What becomes of a column: the rows of the blocks in order, and zeros behind each. -/
structure Keeps (width : ℕ) (lens : List ℕ) (col : Column α) (sequence : List α) : Prop where
  length_eq : sequence.length = lens.length * width
  rows : unpadded width lens sequence = col.rows
  zeros : ∀ k len t : ℕ, lens[k]? = some len → len ≤ t → t < width →
    sequence[k * width + t]? = some col.zero

/-- What becomes of a column of states: those of the first rows. -/
structure Reads (lens : List ℕ) (s init : List σ) : Prop where
  length_eq : init.length = lens.length
  first : ∀ k < lens.length, init[k]? = s[(lens.take k).sum]?

theorem keeps_padded {width : ℕ} {lens : List ℕ} {col : Column α} (hsum : lens.sum = col.rows.length)
    (hfit : ∀ len ∈ lens, len ≤ width) :
    Keeps width lens col (padded width col.zero (lens.splitLengths col.rows)) := by
  have hlengths : (lens.splitLengths col.rows).map List.length = lens :=
    List.map_splitLengths_length _ _ (by omega)
  have hblocks : ∀ b ∈ lens.splitLengths col.rows, b.length ≤ width := by
    intro b hb
    refine hfit b.length ?_
    rw [← hlengths]
    exact List.mem_map_of_mem hb
  refine ⟨?_, ?_, ?_⟩
  · rw [length_padded col.zero hblocks, List.length_splitLengths]
  · have hread := unpadded_padded col.zero hblocks
    rwa [hlengths, List.flatten_splitLengths _ _ (by omega)] at hread
  · intro k len t hk hlen ht
    rw [← hlengths, List.getElem?_map] at hk
    obtain ⟨b, hb, rfl⟩ := Option.map_eq_some_iff.mp hk
    rw [getElem?_padded col.zero hblocks hb ht, List.getD_eq_getElem?_getD,
      List.getElem?_eq_none hlen]
    rfl

theorem le_foldr_max {n : ℕ} {l : List ℕ} (h : n ∈ l) : n ≤ l.foldr max 0 := by
  induction l with
  | nil => cases h
  | cons m l ih =>
      rcases List.mem_cons.mp h with rfl | h
      · exact Nat.le_max_left _ _
      · exact Nat.le_trans (ih h) (Nat.le_max_right _ _)

/-- The call, for a batch that is cut into the given lengths. -/
theorem chopIntoSequences_of_cut [DecidableEq ι] {maxSeqLen : ℕ} (dynamicMax : Bool)
    (extraPadding : ℕ) {batch : Batch ι α σ} {lens : List ℕ} (hcut : batch.cut maxSeqLen = lens)
    (hne : lens ≠ []) (hpos : ∀ len ∈ lens, 0 < len) (hle : ∀ len ∈ lens, len ≤ maxSeqLen)
    (hfeatures : ∀ col ∈ batch.featureColumns, col.rows.length = lens.sum)
    (hstates : ∀ s ∈ batch.stateColumns, s.length = lens.sum) :
    ∃ (out : Output α σ) (width : ℕ),
      chopIntoSequences maxSeqLen dynamicMax extraPadding false batch = .ok out
      ∧ out.seqLens = lens
      ∧ width = (if dynamicMax then lens.foldr max 0 + extraPadding else maxSeqLen)
      ∧ List.Forall₂ (Keeps width lens) batch.featureColumns out.featureSequences
      ∧ List.Forall₂ (Reads lens) batch.stateColumns out.initialStates := by
  have hfit : ∀ len ∈ lens,
      len ≤ (if dynamicMax then lens.foldr max 0 + extraPadding else maxSeqLen) := by
    intro len hlen
    split
    · exact Nat.le_trans (le_foldr_max hlen) (Nat.le_add_right _ _)
    · exact hle len hlen
  have hwidth : paddedLen maxSeqLen dynamicMax extraPadding lens
      = .ok (if dynamicMax then lens.foldr max 0 + extraPadding else maxSeqLen) := by
    rw [paddedLen, if_neg hne]
    split
    · rfl
    · rfl
  generalize (if dynamicMax then lens.foldr max 0 + extraPadding else maxSeqLen) = width
    at hfit hwidth
  have hcolumns : batch.featureColumns.mapM (padColumn width lens)
      = .ok (batch.featureColumns.map
        (fun col => padded width col.zero (lens.splitLengths col.rows))) :=
    mapM_eq_ok (fun col hcol => padColumn_eq (hfeatures col hcol).symm hfit)
  obtain ⟨states, hread, hreads⟩ : ∃ states,
      reducedStates false batch.stateColumns lens = .ok states
      ∧ List.Forall₂ (Reads lens) batch.stateColumns states := by
    show ∃ states, batch.stateColumns.mapM (fun s => initialStates s lens) = .ok states ∧ _
    generalize batch.stateColumns = columns at hstates
    induction columns with
    | nil => exact ⟨[], rfl, .nil⟩
    | cons s columns ih =>
        obtain ⟨hs, hcolumns⟩ := List.forall_mem_cons.mp hstates
        obtain ⟨init, hinit, hlength, hfirst⟩ := initialStates_eq hpos hs.ge
        obtain ⟨states, hread, hreads⟩ := ih hcolumns
        refine ⟨init :: states, ?_, .cons ⟨hlength, hfirst⟩ hreads⟩
        rw [List.mapM_cons, hinit, hread]
        rfl
  refine ⟨⟨batch.featureColumns.map
    (fun col => padded width col.zero (lens.splitLengths col.rows)), states, lens⟩, width, ?_, rfl,
    rfl, ?_, hreads⟩
  · rw [chopIntoSequences, hcut, hwidth]
    show (batch.featureColumns.mapM (padColumn width lens) >>= _) = _
    rw [hcolumns]
    show (reducedStates false batch.stateColumns lens >>= _) = _
    rw [hread]
    rfl
  · rw [List.forall₂_map_right_iff, List.forall₂_same]
    exact fun col hcol => keeps_padded (hfeatures col hcol).symm hfit

theorem chopIntoSequences_congr [DecidableEq ι] {maxSeqLen : ℕ} (dynamicMax : Bool)
    (extraPadding : ℕ) {batch : Batch ι α σ} {lens : Option (List ℕ)}
    (h : ({ batch with seqLens := lens } : Batch ι α σ).cut maxSeqLen = batch.cut maxSeqLen) :
    chopIntoSequences maxSeqLen dynamicMax extraPadding false { batch with seqLens := lens }
      = chopIntoSequences maxSeqLen dynamicMax extraPadding false batch := by
  unfold chopIntoSequences
  rw [h]

/-- **A chopped batch loses nothing.** The rows of a batch have one maximal cut into sequences of
rows of one id. `chop_into_sequences` finds its lengths; every column is kept row by row, with zeros
behind each sequence only, and every state column at the first rows. Given its own lengths it does
the same again. -/
theorem chopIntoSequences_cuts [DecidableEq ι] {maxSeqLen : ℕ} (hmax : 0 < maxSeqLen)
    (dynamicMax : Bool) (extraPadding : ℕ) {batch : Batch ι α σ} (hnew : batch.seqLens = none)
    (hsome : batch.uniqueIds ≠ [])
    (hfeatures : ∀ col ∈ batch.featureColumns, col.rows.length = batch.uniqueIds.length)
    (hstates : ∀ s ∈ batch.stateColumns, s.length = batch.uniqueIds.length) :
    ∃ (blocks : List (List ι)) (out : Output α σ) (width : ℕ),
      (∀ blocks', (Maximal maxSeqLen blocks' ∧ blocks'.flatten = batch.uniqueIds) ↔ blocks' = blocks)
      ∧ chopIntoSequences maxSeqLen dynamicMax extraPadding false batch = .ok out
      ∧ out.seqLens = blocks.map List.length
      ∧ width = (if dynamicMax then out.seqLens.foldr max 0 + extraPadding else maxSeqLen)
      ∧ List.Forall₂ (Keeps width out.seqLens) batch.featureColumns out.featureSequences
      ∧ List.Forall₂ (Reads out.seqLens) batch.stateColumns out.initialStates
      ∧ chopIntoSequences maxSeqLen dynamicMax extraPadding false
          { batch with seqLens := some out.seqLens } = .ok out := by
  obtain ⟨blocks, hmaximal, hflatten⟩ := exists_maximal hmax batch.uniqueIds
  have hlens : batch.cut maxSeqLen = blocks.map List.length := by
    rw [Batch.cut, hnew, ← hflatten]
    exact seqLens_eq hmax hmaximal
  have hsum : (blocks.map List.length).sum = batch.uniqueIds.length := by
    rw [← hflatten, List.length_flatten]
  have hne : blocks.map List.length ≠ [] := by
    intro hnil
    rw [List.map_eq_nil_iff] at hnil
    rw [hnil] at hflatten
    exact hsome hflatten.symm
  have hpos : ∀ len ∈ blocks.map List.length, 0 < len := by
    intro len hlen
    obtain ⟨b, hb, rfl⟩ := List.mem_map.mp hlen
    exact List.length_pos_of_ne_nil (hmaximal.ne_nil b hb)
  have hle : ∀ len ∈ blocks.map List.length, len ≤ maxSeqLen := by
    intro len hlen
    obtain ⟨b, hb, rfl⟩ := List.mem_map.mp hlen
    exact hmaximal.length_le b hb
  obtain ⟨out, width, hout, hseqLens, hwidth, hkeeps, hreads⟩ := chopIntoSequences_of_cut dynamicMax
    extraPadding hlens hne hpos hle (fun col hcol => (hfeatures col hcol).trans hsum.symm)
    (fun s hs => (hstates s hs).trans hsum.symm)
  refine ⟨blocks, out, width, fun blocks' => ⟨fun h => ?_, fun h => ?_⟩, hout, hseqLens, ?_, ?_, ?_, ?_⟩
  · exact h.1.unique hmaximal (h.2.trans hflatten.symm)
  · rw [h]
    exact ⟨hmaximal, hflatten⟩
  · rw [hseqLens]
    exact hwidth
  · rwa [hseqLens]
  · rwa [hseqLens]
  · rw [chopIntoSequences_congr, hout]
    -- lengths that are given are only used when there are some
    obtain ⟨len, lens, hcons⟩ := List.exists_cons_of_ne_nil hne
    rw [hlens, hseqLens, hcons]
    rfl

/-- Three rows of one episode and two of others. -/
def fiveRows : Batch ℕ ℕ ℕ :=
  ⟨[1, 1, 1, 5, 7], [⟨[11, 12, 13, 14, 15], 0⟩], [[21, 22, 23, 24, 25]], none⟩

/-- With sequences of at most two rows the first episode is cut. -/
theorem chopIntoSequences_cuts_fiveRows :
    ∃ (blocks : List (List ℕ)) (out : Output ℕ ℕ) (width : ℕ),
      (∀ blocks', (Maximal 2 blocks' ∧ blocks'.flatten = [1, 1, 1, 5, 7]) ↔ blocks' = blocks)
      ∧ chopIntoSequences 2 true 0 false fiveRows = .ok out
      ∧ out.seqLens = blocks.map List.length
      ∧ width = out.seqLens.foldr max 0 + 0
      ∧ List.Forall₂ (Keeps width out.seqLens) fiveRows.featureColumns out.featureSequences
      ∧ List.Forall₂ (Reads out.seqLens) fiveRows.stateColumns out.initialStates
      ∧ chopIntoSequences 2 true 0 false { fiveRows with seqLens := some out.seqLens } = .ok out :=
  chopIntoSequences_cuts (by decide) true 0 (rfl : fiveRows.seqLens = none) (by decide)
    (by decide) (by decide)

end Mate.Rllib.RnnSequencing
