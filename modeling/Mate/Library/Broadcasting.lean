import Mathlib.Data.List.Forall2
import Mathlib.Data.Option.NAry
import Mathlib.Tactic.Common
import Mathlib.Logic.Equiv.Fin.Basic

set_option autoImplicit false

/-! # Axes of tensors

A tensor is a function of its indices. Reshaping may merge two neighbouring axes, and may split a
merged axis again; both keep the C order of the entries. What is computed along the merged axis
entry by entry is computed so along both axes (`splitAxis_map`).
-/

namespace Axes

variable {α β : Type*} {m n : ℕ}

/-- `[m, n, ..]` as `[m * n, ..]`. -/
def mergeAxes (x : Fin m → Fin n → α) : Fin (m * n) → α :=
  fun r => x (finProdFinEquiv.symm r).1 (finProdFinEquiv.symm r).2

/-- `[m * n, ..]` as `[m, n, ..]`. -/
def splitAxis (x : Fin (m * n) → α) : Fin m → Fin n → α := fun i j => x (finProdFinEquiv (i, j))

/-- The axes `[l, m, n]` as `[l, n, m]`. -/
def swapLast {l : ℕ} (x : Fin l → Fin m → Fin n → α) : Fin l → Fin n → Fin m → α :=
  fun i k j => x i j k

@[simp] theorem mergeAxes_apply (x : Fin m → Fin n → α) (i : Fin m) (j : Fin n) :
    mergeAxes x (finProdFinEquiv (i, j)) = x i j := by
  rw [mergeAxes, Equiv.symm_apply_apply]

@[simp] theorem splitAxis_mergeAxes (x : Fin m → Fin n → α) : splitAxis (mergeAxes x) = x := by
  funext i j
  exact mergeAxes_apply x i j

@[simp] theorem mergeAxes_splitAxis (x : Fin (m * n) → α) : mergeAxes (splitAxis x) = x := by
  funext r
  rw [mergeAxes, splitAxis, Prod.mk.eta, Equiv.apply_symm_apply]

/-- What is computed entry by entry does not depend on how the axes are laid out. -/
theorem splitAxis_map (f : α → β) (x : Fin m → Fin n → α) :
    splitAxis (fun r => f (mergeAxes x r)) = fun i j => f (x i j) := by
  funext i j
  exact congrArg f (mergeAxes_apply x i j)

end Axes

/-! # Broadcasting

An operation on the entries of two tensors lines their axes up from the last one on. Lined up axes
have the same length, or one of them has length one and is read at its only index all along; with
any other lengths the operation fails. Axes that only one tensor has are kept.
-/

namespace Broadcasting

/-- Axes and indices list the last axis first. -/
def Inside (index axes : List ℕ) : Prop := List.Forall₂ (· < ·) index axes

instance (index axes : List ℕ) : Decidable (Inside index axes) :=
  inferInstanceAs (Decidable (List.Forall₂ (· < ·) index axes))

structure Tensor (α : Type*) where
  axes : List ℕ
  entry : List ℕ → Option α
  entry_outside : ∀ index, ¬ Inside index axes → entry index = none

/-! ## Axes -/

def joinAxis (m n : ℕ) : Option ℕ :=
  if m = n then some m else if m = 1 then some n else if n = 1 then some m else none

def joinAxes : List ℕ → List ℕ → Option (List ℕ)
  | [], axes => some axes
  | axes, [] => some axes
  | m :: axes, n :: axes' => (joinAxis m n).bind fun k => (joinAxes axes axes').map (k :: ·)

/-- The index at which a tensor is read for an index of the result. -/
def pick : List ℕ → List ℕ → List ℕ
  | m :: axes, i :: index => (if m = 1 then 0 else i) :: pick axes index
  | _, _ => []

theorem joinAxis_eq_some_iff {m n k : ℕ} :
    joinAxis m n = some k ↔ m = k ∧ n = k ∨ m = 1 ∧ n = k ∨ n = 1 ∧ m = k := by
  unfold joinAxis
  by_cases h : m = n
  · rw [if_pos h, Option.some_inj]
    omega
  · rw [if_neg h]
    by_cases hm : m = 1
    · rw [if_pos hm, Option.some_inj]
      omega
    · rw [if_neg hm]
      by_cases hn : n = 1
      · rw [if_pos hn, Option.some_inj]
        omega
      · rw [if_neg hn]
        simp only [reduceCtorEq, false_iff]
        omega

@[simp] theorem joinAxis_self (m : ℕ) : joinAxis m m = some m := if_pos rfl

@[simp] theorem joinAxis_one (m : ℕ) : joinAxis m 1 = some m := by
  rw [joinAxis_eq_some_iff]
  simp

theorem joinAxes_cons_eq_some_iff {m n : ℕ} {axes axes' joined : List ℕ} :
    joinAxes (m :: axes) (n :: axes') = some joined ↔
      ∃ k rest, joinAxis m n = some k ∧ joinAxes axes axes' = some rest ∧ joined = k :: rest := by
  simp only [joinAxes, Option.bind_eq_some_iff, Option.map_eq_some_iff]
  constructor
  · rintro ⟨k, hk, rest, hrest, rfl⟩
    exact ⟨k, rest, hk, hrest, rfl⟩
  · rintro ⟨k, rest, hk, hrest, rfl⟩
    exact ⟨k, hk, rest, hrest, rfl⟩

theorem joinAxes_self (axes : List ℕ) : joinAxes axes axes = some axes := by
  induction axes with
  | nil => rfl
  | cons m axes ih => exact joinAxes_cons_eq_some_iff.mpr ⟨m, axes, joinAxis_self m, ih, rfl⟩

/-- A matrix is lined up with the last two axes. -/
theorem joinAxes_two_three_eq_some_iff {m n k l r : ℕ} {joined : List ℕ} :
    joinAxes [n, m] [k, l, r] = some joined ↔
      ∃ a b, joinAxis n k = some a ∧ joinAxis m l = some b ∧ joined = [a, b, r] := by
  rw [joinAxes_cons_eq_some_iff]
  constructor
  · rintro ⟨a, rest, ha, hrest, rfl⟩
    obtain ⟨b, rest', hb, hrest', rfl⟩ := joinAxes_cons_eq_some_iff.mp hrest
    cases hrest'
    exact ⟨a, b, ha, hb, rfl⟩
  · rintro ⟨a, b, ha, hb, rfl⟩
    exact ⟨a, [b, r], ha, joinAxes_cons_eq_some_iff.mpr ⟨b, [r], hb, rfl, rfl⟩, rfl⟩

theorem pick_one_cons (axes : List ℕ) (i : ℕ) (index : List ℕ) :
    pick (1 :: axes) (i :: index) = 0 :: pick axes index := by
  rw [pick, if_pos rfl]

/-- An index inside of the axes is read as it is. -/
theorem pick_cons {m i : ℕ} (h : i < m) (axes index : List ℕ) :
    pick (m :: axes) (i :: index) = i :: pick axes index := by
  by_cases hm : m = 1
  · have hi : i = 0 := by omega
    rw [hm, pick_one_cons, hi]
  · rw [pick, if_neg hm]

@[simp] theorem pick_nil (index : List ℕ) : pick [] index = [] := rfl

namespace Tensor

variable {α β γ : Type*}

theorem ext_inside {x y : Tensor α} (haxes : x.axes = y.axes)
    (hentry : ∀ index, Inside index x.axes → x.entry index = y.entry index) : x = y := by
  have hall : x.entry = y.entry := by
    funext index
    by_cases h : Inside index x.axes
    · exact hentry index h
    · rw [x.entry_outside index h, y.entry_outside index (haxes ▸ h)]
  cases x
  cases y
  cases haxes
  cases hall
  rfl

/-! ## Tensors with two and with three axes -/

def ofMatrix {m n : ℕ} (x : Fin m → Fin n → α) : Tensor α where
  axes := [n, m]
  entry
    | [j, i] => if h : i < m ∧ j < n then some (x ⟨i, h.1⟩ ⟨j, h.2⟩) else none
    | _ => none
  entry_outside index houtside := by
    split
    · rename_i j i
      exact dif_neg fun h => houtside (.cons h.2 (.cons h.1 .nil))
    · rfl

def ofCube {l m n : ℕ} (x : Fin l → Fin m → Fin n → α) : Tensor α where
  axes := [n, m, l]
  entry
    | [k, j, i] =>
        if h : i < l ∧ j < m ∧ k < n then some (x ⟨i, h.1⟩ ⟨j, h.2.1⟩ ⟨k, h.2.2⟩) else none
    | _ => none
  entry_outside index houtside := by
    split
    · rename_i k j i
      exact dif_neg fun h => houtside (.cons h.2.2 (.cons h.2.1 (.cons h.1 .nil)))
    · rfl

@[simp] theorem axes_ofMatrix {m n : ℕ} (x : Fin m → Fin n → α) : (ofMatrix x).axes = [n, m] := rfl

@[simp] theorem axes_ofCube {l m n : ℕ} (x : Fin l → Fin m → Fin n → α) :
    (ofCube x).axes = [n, m, l] := rfl

@[simp] theorem entry_ofMatrix {m n : ℕ} (x : Fin m → Fin n → α) (i : Fin m) (j : Fin n) :
    (ofMatrix x).entry [j, i] = some (x i j) :=
  dif_pos ⟨i.isLt, j.isLt⟩

@[simp] theorem entry_ofCube {l m n : ℕ} (x : Fin l → Fin m → Fin n → α) (i : Fin l) (j : Fin m)
    (k : Fin n) : (ofCube x).entry [k, j, i] = some (x i j k) :=
  dif_pos ⟨i.isLt, j.isLt, k.isLt⟩

theorem inside_cube {l m n : ℕ} {index : List ℕ} (h : Inside index [n, m, l]) :
    ∃ (i : Fin l) (j : Fin m) (k : Fin n), index = [k.val, j.val, i.val] := by
  cases h with
  | cons hk h =>
      cases h with
      | cons hj h =>
          cases h with
          | cons hi h =>
              cases h
              exact ⟨⟨_, hi⟩, ⟨_, hj⟩, ⟨_, hk⟩, rfl⟩

theorem inside_of_fin {l m n : ℕ} (i : Fin l) (j : Fin m) (k : Fin n) :
    Inside [k.val, j.val, i.val] [n, m, l] :=
  .cons k.isLt (.cons j.isLt (.cons i.isLt .nil))

/-- A tensor with three axes is given by its entries inside of them. -/
theorem eq_ofCube {l m n : ℕ} {x : Tensor α} {y : Fin l → Fin m → Fin n → α}
    (haxes : x.axes = [n, m, l])
    (hentry : ∀ (i : Fin l) (j : Fin m) (k : Fin n), x.entry [k, j, i] = some (y i j k)) :
    x = ofCube y := by
  refine ext_inside haxes fun index hinside => ?_
  rw [haxes] at hinside
  obtain ⟨i, j, k, rfl⟩ := inside_cube hinside
  rw [hentry, entry_ofCube]

/-! ## Operations on the entries of two tensors -/

/-- The entry that is read for an index of the result. -/
def read (x : Tensor α) (index : List ℕ) : Option α := x.entry (pick x.axes index)

def map₂ (f : α → β → γ) (x : Tensor α) (y : Tensor β) : Option (Tensor γ) :=
  (joinAxes x.axes y.axes).map fun axes =>
    { axes := axes
      entry := fun index =>
        if Inside index axes then Option.map₂ f (x.read index) (y.read index) else none
      entry_outside := fun _ houtside => if_neg houtside }

theorem read_ofMatrix {m n : ℕ} (x : Fin m → Fin n → α) (i : Fin m) (j : Fin n) (rest : List ℕ) :
    (ofMatrix x).read (j :: i :: rest) = some (x i j) := by
  rw [read, axes_ofMatrix, pick_cons j.isLt, pick_cons i.isLt, pick_nil, entry_ofMatrix]

theorem read_ofCube {l m n : ℕ} (x : Fin l → Fin m → Fin n → α) (i : Fin l) (j : Fin m)
    (k : Fin n) : (ofCube x).read [k, j, i] = some (x i j k) := by
  rw [read, axes_ofCube, pick_cons k.isLt, pick_cons j.isLt, pick_cons i.isLt, pick_nil,
    entry_ofCube]

/-- A last axis of length one is read at its only index. -/
theorem read_ofCube_one {l m : ℕ} (x : Fin l → Fin m → Fin 1 → α) (i : Fin l) (j : Fin m) (k : ℕ) :
    (ofCube x).read [k, j, i] = some (x i j 0) := by
  rw [read, axes_ofCube, pick_one_cons, pick_cons j.isLt, pick_cons i.isLt, pick_nil]
  exact entry_ofCube x i j 0

theorem map₂_eq_some (f : α → β → γ) (x : Tensor α) (y : Tensor β) {axes : List ℕ}
    (h : joinAxes x.axes y.axes = some axes) : ∃ z, map₂ f x y = some z ∧ z.axes = axes := by
  rw [map₂, h]
  exact ⟨_, rfl, rfl⟩

theorem axes_of_map₂_eq_some {f : α → β → γ} {x : Tensor α} {y : Tensor β} {z : Tensor γ}
    (h : map₂ f x y = some z) : joinAxes x.axes y.axes = some z.axes := by
  obtain ⟨axes, haxes, rfl⟩ := Option.map_eq_some_iff.mp h
  exact haxes

/-- An entry is made from the entries that are read. -/
theorem entry_of_map₂_eq_some {f : α → β → γ} {x : Tensor α} {y : Tensor β} {z : Tensor γ}
    (h : map₂ f x y = some z) {index : List ℕ} (hinside : Inside index z.axes) :
    z.entry index = Option.map₂ f (x.read index) (y.read index) := by
  obtain ⟨axes, haxes, rfl⟩ := Option.map_eq_some_iff.mp h
  exact if_pos hinside

/-- The last axis of one tensor has length one, all else agrees. -/
theorem map₂_ofCube_one {l m n : ℕ} (f : α → β → γ) (x : Fin l → Fin m → Fin n → α)
    (y : Fin l → Fin m → Fin 1 → β) :
    map₂ f (ofCube x) (ofCube y) = some (ofCube fun i j k => f (x i j k) (y i j 0)) := by
  have hjoin : joinAxes (ofCube x).axes (ofCube y).axes = some [n, m, l] :=
    joinAxes_cons_eq_some_iff.mpr ⟨n, [m, l], joinAxis_one n, joinAxes_self _, rfl⟩
  obtain ⟨z, hz, haxes⟩ := map₂_eq_some f (ofCube x) (ofCube y) hjoin
  rw [hz, Option.some_inj]
  refine eq_ofCube haxes fun i j k => ?_
  rw [entry_of_map₂_eq_some hz (haxes ▸ inside_of_fin i j k), read_ofCube, read_ofCube_one]
  rfl

/-- Tensors of the same shape. -/
theorem map₂_ofCube {l m n : ℕ} (f : α → β → γ) (x : Fin l → Fin m → Fin n → α)
    (y : Fin l → Fin m → Fin n → β) :
    map₂ f (ofCube x) (ofCube y) = some (ofCube fun i j k => f (x i j k) (y i j k)) := by
  have hjoin : joinAxes (ofCube x).axes (ofCube y).axes = some [n, m, l] := joinAxes_self _
  obtain ⟨z, hz, haxes⟩ := map₂_eq_some f (ofCube x) (ofCube y) hjoin
  rw [hz, Option.some_inj]
  refine eq_ofCube haxes fun i j k => ?_
  rw [entry_of_map₂_eq_some hz (haxes ▸ inside_of_fin i j k), read_ofCube, read_ofCube]
  rfl

end Tensor

end Broadcasting
