import Mate.Library.Fallible
import Mathlib.Data.List.Sort
import Mathlib.Tactic.Common

set_option autoImplicit false

/-! # Binary heaps over a comparison that may raise

The functions of `heapq`, for elements of any kind and a `<` that may raise. Where the elements
of a heap can be compared, and compare as their keys do (`Comparable`), nothing raises: `heappush`
keeps the heap in order, `heappop` returns one of its least elements, and what `popWhile` returns
comes in the order of the keys.

The invariants of the two loops leave out a position: `UpTo` the pairs above it, `Around` all
pairs it belongs to.
-/

namespace Heaps

open Fallible

variable {α κ ε : Type} (lt : α → α → Except ε Bool)

/-! ## The functions of `heapq` -/

/-- `_siftdown`: the element at `pos` moves towards the root. -/
def siftdown (heap : Array α) (start pos : ℕ) : Except ε (Array α) :=
  if h : start < pos ∧ pos < heap.size then do
    if ← lt heap[pos] heap[(pos - 1) / 2] then
      siftdown (heap.swap pos ((pos - 1) / 2)) start ((pos - 1) / 2)
    else
      return heap
  else .ok heap
termination_by pos

/-- The loop of `_siftup`: the element at `pos` moves to a leaf, below the smaller children. -/
def bubble (heap : Array α) (pos : ℕ) : Except ε (Array α × ℕ) :=
  if h : 2 * pos + 1 < heap.size then
    if hright : 2 * pos + 2 < heap.size then do
      if ← lt heap[2 * pos + 1] heap[2 * pos + 2] then
        bubble (heap.swap pos (2 * pos + 1)) (2 * pos + 1)
      else
        bubble (heap.swap pos (2 * pos + 2)) (2 * pos + 2)
    else bubble (heap.swap pos (2 * pos + 1)) (2 * pos + 1)
  else .ok (heap, pos)
termination_by heap.size - pos
decreasing_by
  all_goals
    rw [Array.size_swap]
    omega

/-- `_siftup`. -/
def siftup (heap : Array α) (pos : ℕ) : Except ε (Array α) := do
  let (heap, leaf) ← bubble lt heap pos
  siftdown lt heap pos leaf

def heappush (heap : Array α) (item : α) : Except ε (Array α) :=
  siftdown lt (heap.push item) 0 heap.size

def heappop (heap : Array α) (h : 0 < heap.size) : Except ε (α × Array α) :=
  let last := heap.back h
  if hrest : 0 < heap.pop.size then do
    let rest ← siftup lt (heap.pop.set 0 last) 0
    return (heap.pop[0], rest)
  else .ok (last, heap.pop)

/-! ## Nothing is lost -/

theorem siftdown_perm (heap : Array α) (start pos : ℕ) :
    Ensures (siftdown lt heap start pos) (fun heap' => heap'.Perm heap) := by
  induction heap, pos using siftdown.induct start with
  | case1 heap pos h ih =>
      rw [siftdown, dif_pos h]
      refine Ensures.bind (fun _ _ => trivial) (fun less _ => ?_)
      cases less with
      | true => exact ih.mono (fun heap' hperm => hperm.trans (Array.swap_perm _ _))
      | false => exact Ensures.pure (Array.Perm.refl heap)
  | case2 heap pos h =>
      rw [siftdown, dif_neg h]
      exact Ensures.pure (Array.Perm.refl heap)

theorem bubble_perm (heap : Array α) (pos : ℕ) :
    Ensures (bubble lt heap pos) (fun moved => moved.1.Perm heap) := by
  induction heap, pos using bubble.induct with
  | case1 heap pos h hright ihleft ihright =>
      rw [bubble, dif_pos h, dif_pos hright]
      refine Ensures.bind (fun _ _ => trivial) (fun less _ => ?_)
      cases less with
      | true => exact ihleft.mono (fun moved hperm => hperm.trans (Array.swap_perm _ _))
      | false => exact ihright.mono (fun moved hperm => hperm.trans (Array.swap_perm _ _))
  | case2 heap pos h hright ih =>
      rw [bubble, dif_pos h, dif_neg hright]
      exact ih.mono (fun moved hperm => hperm.trans (Array.swap_perm _ _))
  | case3 heap pos h =>
      rw [bubble, dif_neg h]
      exact Ensures.pure (Array.Perm.refl heap)

theorem siftup_perm (heap : Array α) (pos : ℕ) :
    Ensures (siftup lt heap pos) (fun heap' => heap'.Perm heap) :=
  (bubble_perm lt heap pos).bind (fun moved hmoved =>
    (siftdown_perm lt moved.1 pos moved.2).mono (fun _ hperm => hperm.trans hmoved))

theorem heappush_perm (heap : Array α) (item : α) :
    Ensures (heappush lt heap item) (fun heap' => heap'.toList.Perm (heap.toList ++ [item])) :=
  (siftdown_perm lt (heap.push item) 0 heap.size).mono (fun heap' hperm => by
    rw [← Array.toList_push]
    exact hperm.toList)

/-- The last element takes the place of the root. -/
theorem perm_replace_root (init : Array α) (last : α) (h : 0 < init.size) :
    (init[0] :: (init.set 0 last).toList).Perm (init.push last).toList := by
  rcases init with ⟨_ | ⟨root, rest⟩⟩
  · exact absurd h (Nat.lt_irrefl 0)
  · rw [Array.toList_push]
    exact (List.perm_append_singleton last rest).symm.cons root

theorem heappop_perm (heap : Array α) (h : 0 < heap.size) :
    Ensures (heappop lt heap h) (fun popped => (popped.1 :: popped.2.toList).Perm heap.toList) := by
  obtain ⟨init, last, rfl⟩ := Array.eq_push_of_size_ne_zero (Nat.ne_of_gt h)
  have hback : (init.push last).back h = last := by simp [Array.back]
  simp only [heappop, Array.pop_push, hback]
  split
  · rename_i hinit
    refine (siftup_perm lt _ 0).bind (fun rest hperm => Ensures.pure ?_)
    exact (hperm.toList.cons _).trans (perm_replace_root init last hinit)
  · refine Ensures.pure ?_
    rw [Array.toList_push]
    exact (List.perm_append_singleton last init.toList).symm

theorem size_lt_of_heappop {heap rest : Array α} {h : 0 < heap.size} {item : α}
    (hpop : heappop lt heap h = .ok (item, rest)) : rest.size < heap.size := by
  have hlength := (heappop_perm lt heap h _ hpop).length_eq
  simp only [List.length_cons, Array.length_toList] at hlength
  omega

/-- The elements are popped as long as the root satisfies `p`. -/
def popWhile (p : α → Bool) (heap : Array α) : Except ε (List α × Array α) :=
  if h : 0 < heap.size then
    if p heap[0] then
      match hpop : heappop lt heap h with
      | .error e => .error e
      | .ok (item, rest) => do
          let (items, rest) ← popWhile p rest
          return (item :: items, rest)
    else .ok ([], heap)
  else .ok ([], heap)
termination_by heap.size
decreasing_by exact size_lt_of_heappop lt hpop

/-! ## The order of a heap -/

variable [LinearOrder κ] (key : α → κ)

/-- The elements can be compared with each other, and compare as their keys. -/
def Comparable (heap : Array α) : Prop :=
  ∀ x ∈ heap, ∀ y ∈ heap, lt x y = .ok (decide (key x < key y))

/-- No element comes before its parent. -/
def Heaped (heap : Array α) : Prop :=
  ∀ j, ∀ _ : j < heap.size, 0 < j → key heap[(j - 1) / 2] ≤ key heap[j]

/-- A heap but for the element at `pos`, which may come before its parent. -/
structure UpTo (heap : Array α) (pos : ℕ) : Prop where
  pairs : ∀ j, ∀ _ : j < heap.size, 0 < j → j ≠ pos → key heap[(j - 1) / 2] ≤ key heap[j]
  across : ∀ j, ∀ _ : j < heap.size, 0 < pos → 0 < j → ∀ _ : (j - 1) / 2 = pos,
    key heap[(pos - 1) / 2] ≤ key heap[j]

/-- A heap but for the element at `pos`, which may be anything. -/
structure Around (heap : Array α) (pos : ℕ) : Prop where
  pairs : ∀ j, ∀ _ : j < heap.size, 0 < j → j ≠ pos → (j - 1) / 2 ≠ pos →
    key heap[(j - 1) / 2] ≤ key heap[j]
  across : ∀ j, ∀ _ : j < heap.size, 0 < pos → 0 < j → ∀ _ : (j - 1) / 2 = pos,
    key heap[(pos - 1) / 2] ≤ key heap[j]

variable {lt key}

theorem Comparable.of_subset {heap heap' : Array α} (h : Comparable lt key heap)
    (hsubset : ∀ x ∈ heap', x ∈ heap) : Comparable lt key heap' :=
  fun x hx y hy => h x (hsubset x hx) y (hsubset y hy)

theorem Comparable.perm {heap heap' : Array α} (h : Comparable lt key heap)
    (hperm : heap'.Perm heap) : Comparable lt key heap' :=
  h.of_subset (fun _ hx => hperm.mem_iff.mp hx)

/-- The root of a heap comes first. -/
theorem Heaped.root_le {heap : Array α} (h : Heaped key heap) (j : ℕ) (hj : j < heap.size) :
    key heap[0] ≤ key heap[j] := by
  induction j using Nat.strongRecOn with
  | ind j ih =>
      rcases Nat.eq_zero_or_pos j with rfl | hpos
      · exact le_refl _
      · exact (ih ((j - 1) / 2) (by omega) (by omega)).trans (h j hj hpos)

theorem UpTo.heaped {heap : Array α} {pos : ℕ} (h : UpTo key heap pos)
    (hpos : ∀ _ : pos < heap.size, 0 < pos → key heap[(pos - 1) / 2] ≤ key heap[pos]) :
    Heaped key heap := by
  intro j hj hzero
  by_cases hjpos : j = pos
  · subst hjpos
    exact hpos hj hzero
  · exact h.pairs j hj hzero hjpos

/-- The element at `pos` comes before its parent, and changes places with it. -/
theorem UpTo.swap {heap : Array α} {pos : ℕ} (h : UpTo key heap pos) (hpos : 0 < pos)
    (hlt : pos < heap.size) (hless : key heap[pos] < key heap[(pos - 1) / 2]) :
    UpTo key (heap.swap pos ((pos - 1) / 2)) ((pos - 1) / 2) := by
  constructor
  · intro j hj hzero hne
    rw [Array.size_swap] at hj
    by_cases hjpos : j = pos
    · subst hjpos
      rw [Array.getElem_swap_left, Array.getElem_swap_right]
      exact hless.le
    · rw [Array.getElem_swap_of_ne hjpos hne]
      by_cases hchild : (j - 1) / 2 = pos
      · -- a child of `pos` gets the old parent of `pos` for a parent
        simp only [hchild, Array.getElem_swap_left]
        exact h.across j hj hpos hzero hchild
      · by_cases hsibling : (j - 1) / 2 = (pos - 1) / 2
        · -- so does a sibling, which gets a smaller one
          simp only [hsibling, Array.getElem_swap_right]
          have hparent := h.pairs j hj hzero hjpos
          simp only [hsibling] at hparent
          exact hless.le.trans hparent
        · rw [Array.getElem_swap_of_ne hchild hsibling]
          exact h.pairs j hj hzero hjpos
  · intro j hj hgrand hzero hparent
    rw [Array.size_swap] at hj
    have hgrandparent := h.pairs ((pos - 1) / 2) (by omega) hgrand (by omega)
    rw [Array.getElem_swap_of_ne (by omega) (by omega)]
    by_cases hjpos : j = pos
    · subst hjpos
      rw [Array.getElem_swap_left]
      exact hgrandparent
    · rw [Array.getElem_swap_of_ne hjpos (by omega)]
      have hsibling := h.pairs j hj hzero hjpos
      simp only [hparent] at hsibling
      exact hgrandparent.trans hsibling

/-! ## What the functions do to the order -/

theorem siftdown_returns {heap : Array α} {pos : ℕ} (hcomparable : Comparable lt key heap)
    (h : UpTo key heap pos) : Returns (siftdown lt heap 0 pos) (Heaped key) := by
  induction heap, pos using siftdown.induct 0 with
  | case1 heap pos hpos ih =>
      rw [siftdown, dif_pos hpos, hcomparable _ (Array.getElem_mem _) _ (Array.getElem_mem _)]
      by_cases hless : key heap[pos] < key heap[(pos - 1) / 2]
      · rw [decide_eq_true hless]
        exact ih (hcomparable.perm (Array.swap_perm _ _)) (h.swap hpos.1 hpos.2 hless)
      · rw [decide_eq_false hless]
        exact Returns.pure (h.heaped (fun _ _ => not_lt.mp hless))
  | case2 heap pos hpos =>
      rw [siftdown, dif_neg hpos]
      exact Returns.pure (h.heaped (fun hlt hzero => absurd ⟨hzero, hlt⟩ hpos))

/-- The smaller child of `pos` changes places with it. -/
theorem Around.swap {heap : Array α} {pos child : ℕ} (h : Around key heap pos)
    (hlt : child < heap.size) (hzero : 0 < child) (hparent : (child - 1) / 2 = pos)
    (hleast : ∀ j, ∀ _ : j < heap.size, 0 < j → (j - 1) / 2 = pos → key heap[child] ≤ key heap[j]) :
    Around key (heap.swap pos child) child := by
  constructor
  · intro j hj hjzero hne hchild
    rw [Array.size_swap] at hj
    by_cases hjpos : j = pos
    · -- the child gets the parent of `pos` for a parent
      subst hjpos
      rw [Array.getElem_swap_left, Array.getElem_swap_of_ne (by omega) (by omega)]
      exact h.across child hlt hjzero hzero hparent
    · rw [Array.getElem_swap_of_ne hjpos hne]
      by_cases hsibling : (j - 1) / 2 = pos
      · simp only [hsibling, Array.getElem_swap_left]
        exact hleast j hj hjzero hsibling
      · rw [Array.getElem_swap_of_ne hsibling hchild]
        exact h.pairs j hj hjzero hjpos hsibling
  · intro j hj _ hjzero hjparent
    rw [Array.size_swap] at hj
    simp only [hparent, Array.getElem_swap_left]
    rw [Array.getElem_swap_of_ne (by omega) (by omega)]
    have hle := h.pairs j hj hjzero (by omega) (by omega)
    simp only [hjparent] at hle
    exact hle

/-- At a leaf, only the element itself may be out of order. -/
theorem Around.upTo {heap : Array α} {pos : ℕ} (h : Around key heap pos)
    (hleaf : heap.size ≤ 2 * pos + 1) : UpTo key heap pos := by
  constructor
  · intro j hj hzero hne
    exact h.pairs j hj hzero hne (by omega)
  · intro j hj hpos hzero hparent
    omega

theorem bubble_returns {heap : Array α} {pos : ℕ} (hcomparable : Comparable lt key heap)
    (h : Around key heap pos) :
    Returns (bubble lt heap pos)
      (fun moved => Comparable lt key moved.1 ∧ UpTo key moved.1 moved.2) := by
  induction heap, pos using bubble.induct with
  | case1 heap pos hleft hright ihleft ihright =>
      rw [bubble, dif_pos hleft, dif_pos hright,
        hcomparable _ (Array.getElem_mem _) _ (Array.getElem_mem _)]
      have hswap := fun child hchild => hcomparable.perm (Array.swap_perm (j := child) (by omega : pos < heap.size) hchild)
      by_cases hless : key heap[2 * pos + 1] < key heap[2 * pos + 2]
      · rw [decide_eq_true hless]
        refine ihleft (hswap _ _) (h.swap _ (by omega) (by omega) ?_)
        intro j hj hzero hparent
        obtain rfl | rfl : j = 2 * pos + 1 ∨ j = 2 * pos + 2 := by omega
        · exact le_refl _
        · exact hless.le
      · rw [decide_eq_false hless]
        refine ihright (hswap _ _) (h.swap _ (by omega) (by omega) ?_)
        intro j hj hzero hparent
        obtain rfl | rfl : j = 2 * pos + 1 ∨ j = 2 * pos + 2 := by omega
        · exact not_lt.mp hless
        · exact le_refl _
  | case2 heap pos hleft hright ih =>
      rw [bubble, dif_pos hleft, dif_neg hright]
      refine ih (hcomparable.perm (Array.swap_perm _ _)) (h.swap _ (by omega) (by omega) ?_)
      intro j hj hzero hparent
      obtain rfl : j = 2 * pos + 1 := by omega
      exact le_refl _
  | case3 heap pos hleaf =>
      rw [bubble, dif_neg hleaf]
      exact Returns.pure ⟨hcomparable, h.upTo (by omega)⟩

theorem siftup_returns {heap : Array α} (hcomparable : Comparable lt key heap)
    (h : Around key heap 0) : Returns (siftup lt heap 0) (Heaped key) :=
  (bubble_returns hcomparable h).bind (fun _ hmoved => siftdown_returns hmoved.1 hmoved.2)

theorem heappush_returns {heap : Array α} {item : α}
    (hcomparable : Comparable lt key (heap.push item)) (h : Heaped key heap) :
    Returns (heappush lt heap item) (Heaped key) := by
  refine siftdown_returns hcomparable ⟨?_, ?_⟩
  · intro j hj hzero hne
    rw [Array.size_push] at hj
    rw [Array.getElem_push_lt (by omega), Array.getElem_push_lt (by omega)]
    exact h j (by omega) hzero
  · intro j hj hpos hzero hparent
    rw [Array.size_push] at hj
    omega

/-- Pushing one element after the other. -/
theorem foldlM_heappush_returns (items : List α) {heap : Array α}
    (hcomparable : Comparable lt key (heap ++ items.toArray)) (h : Heaped key heap) :
    Returns (items.foldlM (heappush lt) heap)
      (fun heap' => heap'.toList.Perm (heap.toList ++ items) ∧ Heaped key heap') := by
  refine Returns.foldlM (fun done heap' => heap'.toList.Perm (heap.toList ++ done)
    ∧ Heaped key heap') items heap ⟨by simp, h⟩ ?_
  rintro done item rest heap' hitems ⟨hperm, hheap'⟩
  have hmem : ∀ x ∈ heap'.push item, x ∈ heap ++ items.toArray := by
    intro x hx
    rw [hitems]
    rcases Array.mem_push.mp hx with hx | rfl
    · have hx := hperm.mem_iff.mp (Array.mem_toList_iff.mpr hx)
      grind
    · simp
  obtain ⟨heap'', hpushed, hheap''⟩ := heappush_returns (hcomparable.of_subset hmem) hheap'
  refine ⟨heap'', hpushed, ?_, hheap''⟩
  have hpush := heappush_perm lt heap' item heap'' hpushed
  rw [← List.append_assoc]
  exact hpush.trans (hperm.append_right [item])

/-- `heappop` returns a least element, and leaves a heap. -/
theorem heappop_returns {heap : Array α} (hcomparable : Comparable lt key heap)
    (h : Heaped key heap) (hpos : 0 < heap.size) :
    Returns (heappop lt heap hpos) (fun popped => popped.1 = heap[0] ∧ Heaped key popped.2) := by
  obtain ⟨init, last, rfl⟩ := Array.eq_push_of_size_ne_zero (Nat.ne_of_gt hpos)
  have hback : (init.push last).back hpos = last := by simp [Array.back]
  have hinit : Heaped key init := by
    intro j hj hzero
    have hle := h j (by rw [Array.size_push]; omega) hzero
    rwa [Array.getElem_push_lt (by omega), Array.getElem_push_lt (by omega)] at hle
  simp only [heappop, Array.pop_push, hback]
  split
  · rename_i hrest
    rw [Array.getElem_push_lt hrest]
    refine Returns.bind (siftup_returns (hcomparable.of_subset fun x hx => ?_) ?_)
      (fun rest hrest => Returns.pure ⟨rfl, hrest⟩)
    · exact Array.mem_push.mpr (Array.mem_or_eq_of_mem_set hx)
    · constructor
      · intro j hj hzero hne hparent
        rw [Array.size_set] at hj
        rw [Array.getElem_set_ne _ _ (by omega), Array.getElem_set_ne _ _ (by omega)]
        exact hinit j hj hzero
      · intro j hj hpos
        exact absurd hpos (Nat.lt_irrefl 0)
  · rename_i hrest
    have hempty : init = #[] := Array.eq_empty_of_size_eq_zero (by omega)
    subst hempty
    exact Returns.pure ⟨rfl, hinit⟩

/-! ## Popping in order -/

omit [LinearOrder κ] in
/-- Two lists with the same keys, position by position. -/
theorem forall₂_of_map_key {R : α → α → Prop} {l l' : List α} (hkeys : l.map key = l'.map key)
    (hR : ∀ x ∈ l, ∀ y ∈ l', key x = key y → R x y) : List.Forall₂ R l l' := by
  have hlength : l.length = l'.length := by
    simpa using congrArg List.length hkeys
  refine List.forall₂_iff_get.mpr ⟨hlength, fun i hi hi' => ?_⟩
  refine hR _ (List.get_mem _ _) _ (List.get_mem _ _) ?_
  have hget := congrArg (fun keys => keys[i]?) hkeys
  simpa [hi, hi'] using hget

/-- Two permutations of a list that are both in order have the same keys. -/
theorem map_key_eq_of_perm {l l' : List α} (hperm : l.Perm l')
    (h : l.Pairwise (fun x y => key x ≤ key y)) (h' : l'.Pairwise (fun x y => key x ≤ key y)) :
    l.map key = l'.map key :=
  (hperm.map key).eq_of_pairwise (fun _ _ _ _ hle hge => le_antisymm hle hge)
    (List.pairwise_map.mpr h) (List.pairwise_map.mpr h')

/-- What is popped from a heap, and what is left of it. -/
structure Popped (key : α → κ) (p : α → Bool) (heap : Array α) (items : List α)
    (rest : Array α) : Prop where
  perm : (items ++ rest.toList).Perm heap.toList
  ordered : items.Pairwise (fun x y => key x ≤ key y)
  taken : ∀ x ∈ items, p x = true
  left : ∀ x ∈ rest.toList, p x = false
  heaped : Heaped key rest

theorem Popped.perm_filter {p : α → Bool} {heap rest : Array α} {items : List α}
    (h : Popped key p heap items rest) : items.Perm (heap.toList.filter p) := by
  have hperm := h.perm.filter p
  rw [List.filter_append, List.filter_eq_self.mpr h.taken,
    List.filter_eq_nil_iff.mpr (fun x hx => by simp [h.left x hx]), List.append_nil] at hperm
  exact hperm

theorem Popped.rest_perm_filter {p : α → Bool} {heap rest : Array α} {items : List α}
    (h : Popped key p heap items rest) : rest.toList.Perm (heap.toList.filter (fun x => !p x)) := by
  have hperm := h.perm.filter (fun x => !p x)
  rw [List.filter_append, List.filter_eq_nil_iff.mpr (fun x hx => by simp [h.taken x hx]),
    List.filter_eq_self.mpr (fun x hx => by simp [h.left x hx]), List.nil_append] at hperm
  exact hperm

theorem Heaped.root_le_of_mem {heap : Array α} (h : Heaped key heap) (hpos : 0 < heap.size) {x : α}
    (hx : x ∈ heap.toList) : key heap[0] ≤ key x := by
  obtain ⟨j, hj, rfl⟩ := List.mem_iff_getElem.mp hx
  rw [Array.length_toList] at hj
  exact h.root_le j hj

/-- **Popping** the elements that satisfy `p`, where these come first: they come in order, and
none is left. -/
theorem popWhile_returns {p : α → Bool} (hp : ∀ x y, key x ≤ key y → p y = true → p x = true)
    {heap : Array α} (hcomparable : Comparable lt key heap) (h : Heaped key heap) :
    Returns (popWhile lt p heap) (fun popped => Popped key p heap popped.1 popped.2) := by
  induction heap using popWhile.induct lt p with
  | case1 heap hpos hroot e hpop =>
      obtain ⟨popped, hreturned, -⟩ := heappop_returns hcomparable h hpos
      rw [hreturned] at hpop
      cases hpop
  | case2 heap hpos hroot item rest hpop ih =>
      obtain ⟨popped, hreturned, hitem, hheaped⟩ := heappop_returns hcomparable h hpos
      have hperm := heappop_perm lt heap hpos _ hreturned
      rw [hpop] at hreturned
      cases hreturned
      simp only at hitem hheaped hperm
      have hrest : ∀ x ∈ rest, x ∈ heap := by
        intro x hx
        exact Array.mem_toList_iff.mp (hperm.mem_iff.mp
          (List.mem_cons_of_mem _ (Array.mem_toList_iff.mpr hx)))
      obtain ⟨⟨items, rest'⟩, hitems, hpopped⟩ :=
        ih (hcomparable.of_subset hrest) hheaped
      refine ⟨(item :: items, rest'), ?_, ?_⟩
      · rw [popWhile, dif_pos hpos, if_pos hroot]
        split
        · rename_i e herror
          rw [hpop] at herror
          cases herror
        · rename_i item' rest'' hok
          rw [hpop] at hok
          cases hok
          rw [hitems]
          rfl
      · constructor
        · exact (hpopped.perm.cons item).trans hperm
        · refine List.pairwise_cons.mpr ⟨fun x hx => ?_, hpopped.ordered⟩
          -- what comes later was in the heap, and the root comes before all of it
          have hmem : x ∈ heap.toList := hperm.mem_iff.mp (List.mem_cons_of_mem _
            (hpopped.perm.mem_iff.mp (List.mem_append_left _ hx)))
          rw [hitem]
          exact h.root_le_of_mem hpos hmem
        · intro x hx
          rcases List.mem_cons.mp hx with rfl | hx
          · rw [hitem]
            exact hroot
          · exact hpopped.taken x hx
        · exact hpopped.left
        · exact hpopped.heaped
  | case3 heap hpos hroot =>
      rw [popWhile, dif_pos hpos, if_neg hroot]
      refine ⟨_, rfl, List.Perm.refl _, List.Pairwise.nil, by simp, fun x hx => ?_, h⟩
      by_contra hx'
      exact hroot (hp _ _ (h.root_le_of_mem hpos hx) (by simpa using hx'))
  | case4 heap hempty =>
      rw [popWhile, dif_neg hempty]
      have hnil : heap = #[] := Array.eq_empty_of_size_eq_zero (by omega)
      subst hnil
      exact ⟨_, rfl, List.Perm.refl _, List.Pairwise.nil, by simp, by simp, h⟩

end Heaps
