import Mathlib.Data.List.SplitLengths
import Mathlib.Data.List.Chain
import Mathlib.Data.List.Flatten
import Mathlib.Tactic.Common

set_option autoImplicit false

/-! # Lists in blocks

A list is cut into blocks of equal entries, of at most `m` entries each. Such a cut is maximal when
a block only ends where it is full or where the next entry is another one. Every list has a maximal
cut (`exists_maximal`), and only one (`Maximal.unique`). Blocks of different lengths are kept in one
flat list by padding all of them to one width (`padded`); what was kept is read off again with
the lengths (`unpadded_padded`).
-/

namespace Blocks

variable {ι α : Type}

/-! ## Maximal cuts -/

/-- The blocks are runs of one entry, at most `m` long, and none could have been longer. -/
structure Maximal (m : ℕ) (blocks : List (List ι)) : Prop where
  ne_nil : ∀ b ∈ blocks, b ≠ []
  length_le : ∀ b ∈ blocks, b.length ≤ m
  same : ∀ b ∈ blocks, ∀ x ∈ b, ∀ y ∈ b, x = y
  full_or_ne : blocks.IsChain (fun b b' => b.length = m ∨ ∀ x ∈ b, ∀ y ∈ b', x ≠ y)

theorem Maximal.nil (m : ℕ) : Maximal m ([] : List (List ι)) :=
  ⟨fun _ h => absurd h List.not_mem_nil, fun _ h => absurd h List.not_mem_nil,
    fun _ h => absurd h List.not_mem_nil, List.IsChain.nil⟩

theorem Maximal.tail {m : ℕ} {b : List ι} {blocks : List (List ι)} (h : Maximal m (b :: blocks)) :
    Maximal m blocks :=
  ⟨fun b' hb' => h.ne_nil b' (List.mem_cons_of_mem b hb'),
    fun b' hb' => h.length_le b' (List.mem_cons_of_mem b hb'),
    fun b' hb' => h.same b' (List.mem_cons_of_mem b hb'), h.full_or_ne.tail⟩

/-- The first block is a run. -/
theorem Maximal.head_eq {m : ℕ} {b : List ι} {blocks : List (List ι)}
    (h : Maximal m (b :: blocks)) :
    ∃ u n, b = List.replicate (n + 1) u ∧ n + 1 ≤ m := by
  obtain ⟨u, l, rfl⟩ := List.exists_cons_of_ne_nil (h.ne_nil b List.mem_cons_self)
  refine ⟨u, l.length, ?_, h.length_le _ List.mem_cons_self⟩
  rw [List.eq_replicate_iff]
  refine ⟨List.length_cons, fun v hv => ?_⟩
  exact h.same _ List.mem_cons_self v hv u List.mem_cons_self

/-- A block is added where the last one is full, or has other entries. -/
theorem Maximal.snoc {m : ℕ} {blocks : List (List ι)} (h : Maximal m blocks) {x : ι} (hm : 0 < m)
    (hlast : ∀ b ∈ blocks.getLast?, b.length = m ∨ ∀ y ∈ b, y ≠ x) : Maximal m (blocks ++ [[x]]) := by
  refine ⟨?_, ?_, ?_, ?_⟩
  · intro b hb
    rcases List.mem_append.mp hb with hb | hb
    · exact h.ne_nil b hb
    · rw [List.mem_singleton.mp hb]
      exact List.cons_ne_nil x []
  · intro b hb
    rcases List.mem_append.mp hb with hb | hb
    · exact h.length_le b hb
    · rw [List.mem_singleton.mp hb]
      exact hm
  · intro b hb y hy z hz
    rcases List.mem_append.mp hb with hb | hb
    · exact h.same b hb y hy z hz
    · rw [List.mem_singleton.mp hb] at hy hz
      rw [List.mem_singleton.mp hy, List.mem_singleton.mp hz]
  · refine h.full_or_ne.append (List.isChain_singleton _) ?_
    intro b hb b' hb'
    obtain rfl : [x] = b' := by simpa using hb'
    rcases hlast b hb with hfull | hne
    · exact Or.inl hfull
    · exact Or.inr (fun y hy z hz => by
        rw [List.mem_singleton.mp hz]
        exact hne y hy)

/-- The last block grows where it is not full and its entries are the same. -/
theorem Maximal.grow {m : ℕ} {blocks : List (List ι)} {b : List ι} (h : Maximal m (blocks ++ [b]))
    {x : ι} (hlt : b.length < m) (hx : ∀ y ∈ b, y = x) : Maximal m (blocks ++ [b ++ [x]]) := by
  have hmem : ∀ b' ∈ blocks, b' ∈ blocks ++ [b] := fun b' hb' => List.mem_append_left [b] hb'
  have hx' : ∀ y ∈ b ++ [x], y = x := by
    intro y hy
    rcases List.mem_append.mp hy with hy | hy
    · exact hx y hy
    · exact List.mem_singleton.mp hy
  refine ⟨?_, ?_, ?_, ?_⟩
  · intro b' hb'
    rcases List.mem_append.mp hb' with hb' | hb'
    · exact h.ne_nil b' (hmem b' hb')
    · rw [List.mem_singleton.mp hb']
      simp
  · intro b' hb'
    rcases List.mem_append.mp hb' with hb' | hb'
    · exact h.length_le b' (hmem b' hb')
    · rw [List.mem_singleton.mp hb', List.length_append]
      exact hlt
  · intro b' hb' y hy z hz
    rcases List.mem_append.mp hb' with hb' | hb'
    · exact h.same b' (hmem b' hb') y hy z hz
    · rw [List.mem_singleton.mp hb'] at hy hz
      rw [hx' y hy, hx' z hz]
  · obtain ⟨hblocks, -, hjoin⟩ := List.isChain_append.mp h.full_or_ne
    refine hblocks.append (List.isChain_singleton _) ?_
    intro b₁ hb₁ b' hb'
    obtain rfl : b ++ [x] = b' := by simpa using hb'
    rcases hjoin b₁ hb₁ b rfl with hfull | hne
    · exact Or.inl hfull
    · obtain ⟨y, l, rfl⟩ := List.exists_cons_of_ne_nil (h.ne_nil b (by simp))
      refine Or.inr (fun z hz w hw => ?_)
      rw [hx' w hw, ← hx y List.mem_cons_self]
      exact hne z hz y List.mem_cons_self

/-- Every list can be cut. -/
theorem exists_maximal {m : ℕ} (hm : 0 < m) (l : List ι) :
    ∃ blocks, Maximal m blocks ∧ blocks.flatten = l := by
  classical
  -- row by row: the last block grows, or a new one begins
  induction l using List.reverseRecOn with
  | nil => exact ⟨[], Maximal.nil m, rfl⟩
  | append_singleton l x ih =>
      obtain ⟨blocks, hblocks, rfl⟩ := ih
      by_cases hlast : ∀ b ∈ blocks.getLast?, b.length = m ∨ ∀ y ∈ b, y ≠ x
      · exact ⟨blocks ++ [[x]], hblocks.snoc hm hlast, by simp⟩
      · push Not at hlast
        obtain ⟨b, hb, hne, y, hy, rfl⟩ := hlast
        obtain ⟨before, rfl⟩ : ∃ before, blocks = before ++ [b] :=
          List.getLast?_eq_some_iff.mp hb
        have hmem : b ∈ before ++ [b] := by simp
        refine ⟨before ++ [b ++ [y]], hblocks.grow ?_ ?_, by simp⟩
        · exact Nat.lt_of_le_of_ne (hblocks.length_le b hmem) hne
        · exact fun z hz => hblocks.same b hmem z hz y hy

/-- The first block of a maximal cut is the longest that the list begins with. -/
theorem Maximal.head_length_le {m : ℕ} {b b' : List ι} {blocks blocks' : List (List ι)}
    (h : Maximal m (b :: blocks)) (h' : Maximal m (b' :: blocks'))
    (hflatten : b ++ blocks.flatten = b' ++ blocks'.flatten) : b'.length ≤ b.length := by
  by_contra hlt
  have hle := h'.length_le b' List.mem_cons_self
  have hpos := List.length_pos_of_ne_nil (h.ne_nil b List.mem_cons_self)
  have hat : (b ++ blocks.flatten)[b.length]? = some b'[b.length] := by
    rw [hflatten, List.getElem?_append_left (by omega), List.getElem?_eq_getElem (by omega)]
  cases blocks with
  | nil =>
      rw [List.flatten_nil, List.append_nil, List.getElem?_eq_none (Nat.le_refl _)] at hat
      cases hat
  | cons c rest =>
      obtain ⟨v, c', rfl⟩ := List.exists_cons_of_ne_nil
        (h.ne_nil c (List.mem_cons_of_mem b List.mem_cons_self))
      have hfirst : (b ++ blocks'.flatten)[0]? = some b[0] := by
        rw [List.getElem?_append_left hpos, List.getElem?_eq_getElem hpos]
      -- the entry behind the block is one of the other cut's first block
      have hv : v = b'[b.length] := by
        rw [List.getElem?_append_right (Nat.le_refl _), Nat.sub_self, List.flatten_cons,
          List.cons_append, List.getElem?_cons_zero] at hat
        exact Option.some.inj hat
      have hu : b[0] = b'[0] := by
        have hzero : (b ++ ((v :: c') :: rest).flatten)[0]? = some b'[0] := by
          rw [hflatten, List.getElem?_append_left (by omega), List.getElem?_eq_getElem (by omega)]
        rw [List.getElem?_append_left hpos, List.getElem?_eq_getElem hpos] at hzero
        exact Option.some.inj hzero
      rcases (List.isChain_cons_cons.mp h.full_or_ne).1 with hfull | hne
      · omega
      · refine hne b[0] (List.getElem_mem hpos) v List.mem_cons_self ?_
        rw [hu, hv]
        exact h'.same b' List.mem_cons_self _ (List.getElem_mem _) _ (List.getElem_mem _)

/-- **There is only one** maximal cut of a list. -/
theorem Maximal.unique {m : ℕ} {blocks blocks' : List (List ι)} (h : Maximal m blocks)
    (h' : Maximal m blocks') (hflatten : blocks.flatten = blocks'.flatten) : blocks = blocks' := by
  induction blocks generalizing blocks' with
  | nil =>
      cases blocks' with
      | nil => rfl
      | cons b' blocks' =>
          have hnil : b' ++ blocks'.flatten = [] := hflatten.symm
          exact absurd (List.append_eq_nil_iff.mp hnil).1 (h'.ne_nil b' List.mem_cons_self)
  | cons b blocks ih =>
      cases blocks' with
      | nil =>
          have hnil : b ++ blocks.flatten = [] := hflatten
          exact absurd (List.append_eq_nil_iff.mp hnil).1 (h.ne_nil b List.mem_cons_self)
      | cons b' blocks' =>
          have hsplit : b ++ blocks.flatten = b' ++ blocks'.flatten := hflatten
          have hlength : b.length = b'.length :=
            Nat.le_antisymm (h'.head_length_le h hsplit.symm) (h.head_length_le h' hsplit)
          obtain ⟨rfl, hrest⟩ := List.append_inj hsplit hlength
          rw [ih h.tail h'.tail hrest]

/-! ## Padding -/

/-- The blocks one after the other, each padded to a width. -/
def padded (width : ℕ) (zero : α) (blocks : List (List α)) : List α :=
  blocks.flatMap (fun b => b ++ List.replicate (width - b.length) zero)

/-- The entries of every stretch of the given width, up to the length of its block. -/
def unpadded (width : ℕ) : List ℕ → List α → List α
  | [], _ => []
  | n :: ns, l => l.take n ++ unpadded width ns (l.drop width)

theorem padded_cons (width : ℕ) (zero : α) (b : List α) (blocks : List (List α)) :
    padded width zero (b :: blocks)
      = b ++ List.replicate (width - b.length) zero ++ padded width zero blocks :=
  List.flatMap_cons

theorem length_padded {width : ℕ} (zero : α) {blocks : List (List α)}
    (hfit : ∀ b ∈ blocks, b.length ≤ width) :
    (padded width zero blocks).length = blocks.length * width := by
  induction blocks with
  | nil => simp [padded]
  | cons b blocks ih =>
      obtain ⟨hb, hblocks⟩ := List.forall_mem_cons.mp hfit
      rw [padded_cons, List.length_append, List.length_append, List.length_replicate, ih hblocks,
        List.length_cons, Nat.succ_mul]
      omega

/-- **What was padded is read off again**, every entry once and in order. -/
theorem unpadded_padded {width : ℕ} (zero : α) {blocks : List (List α)}
    (hfit : ∀ b ∈ blocks, b.length ≤ width) :
    unpadded width (blocks.map List.length) (padded width zero blocks) = blocks.flatten := by
  induction blocks with
  | nil => rfl
  | cons b blocks ih =>
      obtain ⟨hb, hblocks⟩ := List.forall_mem_cons.mp hfit
      have hwidth : (b ++ List.replicate (width - b.length) zero).length = width := by
        rw [List.length_append, List.length_replicate]
        omega
      rw [List.map_cons, unpadded, padded_cons, List.drop_left' hwidth, ih hblocks,
        List.append_assoc, List.take_left' rfl, List.flatten_cons]

/-- Where a block stands among the padded ones, and that only padding follows it. -/
theorem getElem?_padded {width : ℕ} (zero : α) {blocks : List (List α)}
    (hfit : ∀ b ∈ blocks, b.length ≤ width) {k t : ℕ} {b : List α} (hk : blocks[k]? = some b)
    (ht : t < width) :
    (padded width zero blocks)[k * width + t]? = some (b.getD t zero) := by
  induction blocks generalizing k with
  | nil => cases hk
  | cons b₀ blocks ih =>
      obtain ⟨hb₀, hblocks⟩ := List.forall_mem_cons.mp hfit
      have hwidth : (b₀ ++ List.replicate (width - b₀.length) zero).length = width := by
        rw [List.length_append, List.length_replicate]
        omega
      rw [padded_cons]
      cases k with
      | zero =>
          cases hk
          rw [Nat.zero_mul, Nat.zero_add, List.getElem?_append_left (by omega)]
          by_cases hlt : t < b.length
          · rw [List.getElem?_append_left hlt, List.getD_eq_getElem?_getD,
              List.getElem?_eq_getElem hlt]
            rfl
          · rw [List.getElem?_append_right (by omega), List.getElem?_replicate, if_pos (by omega),
              List.getD_eq_getElem?_getD, List.getElem?_eq_none (by omega)]
            rfl
      | succ k =>
          have hnext : (k + 1) * width + t = width + (k * width + t) := by
            rw [Nat.succ_mul]
            omega
          rw [hnext, List.getElem?_append_right (by omega), hwidth, Nat.add_sub_cancel_left]
          exact ih hblocks hk

end Blocks
