import Mathlib.Algebra.GroupWithZero.Nat
import Mathlib.Data.List.FinRange
import Mathlib.Data.List.OfFn
import Mathlib.Tactic.Common

set_option autoImplicit false

/-! # Fields of a flat vector

A vector is laid out as fields one after the other, and a field may itself consist of rows of
one width. `slice` cuts a field out and `everyNth` reads one column of its rows. Cutting at the
sums of the widths gives back the fields (`slice_flatten`), overwriting there replaces one
(`overwrite_flatten`), cutting within a field is the same
as cutting within the vector (`slice_slice`), and the rows of a field are found at the multiples
of their width (`slice_rows`, `everyNth_rows`).
-/

namespace Layout

variable {α : Type*}

/-! ## Slices -/

/-- The entries from `start` up to, and without, `stop`. -/
def slice (start stop : ℕ) (l : List α) : List α := (l.take stop).drop start

/-- The first entry and every `step`-th one after it. -/
def everyNth (step : ℕ) (l : List α) : List α :=
  (List.range l.length).filterMap (fun k => l[step * k]?)

theorem getElem?_slice (start stop k : ℕ) (l : List α) :
    (slice start stop l)[k]? = if start + k < stop then l[start + k]? else none := by
  rw [slice, List.getElem?_drop, List.getElem?_take]

/-- Cutting a field out of a vector, and a piece out of the field, is one cut. -/
theorem slice_slice {start stop a b : ℕ} (h : start + b ≤ stop) (l : List α) :
    slice a b (slice start stop l) = slice (start + a) (start + b) l := by
  apply List.ext_getElem?
  intro k
  rw [getElem?_slice, getElem?_slice, getElem?_slice]
  by_cases hk : a + k < b
  · rw [if_pos hk, if_pos (by omega), if_pos (by omega), Nat.add_assoc]
  · rw [if_neg hk, if_neg (by omega)]

/-- An entry of a field is an entry of the vector. -/
theorem getElem?_of_slice {start stop k : ℕ} (h : start + k < stop) (l : List α) :
    l[start + k]? = (slice start stop l)[k]? := by
  rw [getElem?_slice, if_pos h]

/-! ## Fields -/

/-- Where field `k` of fields of the given widths begins. -/
def offset (widths : List ℕ) (k : ℕ) : ℕ := (widths.take k).sum

theorem offset_cons (width : ℕ) (widths : List ℕ) (k : ℕ) :
    offset (width :: widths) (k + 1) = width + offset widths k := by
  rw [offset, List.take_succ_cons, List.sum_cons, offset]

/-- **Cutting at the sums of the widths** gives back the fields. -/
theorem slice_flatten (fields : List (List α)) (k : ℕ) (h : k < fields.length) :
    slice (offset (fields.map List.length) k) (offset (fields.map List.length) (k + 1))
      fields.flatten = fields[k] := by
  induction fields generalizing k with
  | nil => exact absurd h (Nat.not_lt_zero k)
  | cons field fields ih =>
      rw [List.map_cons, List.flatten_cons, offset_cons]
      cases k with
      | zero =>
          show slice 0 (field.length + 0) (field ++ fields.flatten) = field
          rw [slice, Nat.add_zero, List.take_left', List.drop_zero]
          rfl
      | succ k =>
          rw [offset_cons, slice, List.take_length_add_append, List.drop_append, List.getElem_cons_succ,
            ← ih k (Nat.lt_of_succ_lt_succ h)]
          have hdrop : field.drop (field.length + offset (fields.map List.length) k) = [] :=
            List.drop_eq_nil_of_le (Nat.le_add_right _ _)
          rw [hdrop, List.nil_append, Nat.add_sub_cancel_left]
          rfl

/-- `l` with the entries from `start` on replaced by the values. -/
def overwrite (start : ℕ) (values l : List α) : List α :=
  l.take start ++ values ++ l.drop (start + values.length)

/-- **Overwriting a field** with as many values replaces the field. -/
theorem overwrite_flatten (fields : List (List α)) (k : ℕ) (h : k < fields.length)
    {values : List α} (hvalues : values.length = fields[k].length) :
    overwrite (offset (fields.map List.length) k) values fields.flatten
      = (fields.set k values).flatten := by
  induction fields generalizing k with
  | nil => exact absurd h (Nat.not_lt_zero k)
  | cons field fields ih =>
      cases k with
      | zero =>
          have hlength : values.length = field.length := hvalues
          simp [overwrite, offset, hlength]
      | succ k =>
          have hrest := ih k (Nat.lt_of_succ_lt_succ h) hvalues
          rw [overwrite] at hrest ⊢
          rw [List.map_cons, List.flatten_cons, offset_cons, List.set_cons_succ, List.flatten_cons,
            ← hrest, Nat.add_assoc, List.take_length_add_append, List.drop_length_add_append,
            List.append_assoc, List.append_assoc, List.append_assoc]

/-- As many values leave the widths as they are. -/
theorem map_length_set {fields : List (List α)} {k : ℕ} (h : k < fields.length) {values : List α}
    (hvalues : values.length = fields[k].length) :
    (fields.set k values).map List.length = fields.map List.length := by
  rw [List.map_set, hvalues]
  refine List.ext_getElem? (fun m => ?_)
  by_cases hm : k = m
  · subst hm
    simp [h]
  · rw [List.getElem?_set_ne hm]

/-- An entry of the second of three fields. -/
theorem getElem?_middle {first second third : List α} {k : ℕ} (h : k < second.length) :
    (first ++ (second ++ third))[first.length + k]? = second[k]? := by
  rw [List.getElem?_append_right (Nat.le_add_right _ _), Nat.add_sub_cancel_left,
    List.getElem?_append_left h]

/-! ## Rows -/

section Rows

variable {n d : ℕ} {rows : Fin n → List α}

theorem length_rows (h : ∀ i, (rows i).length = d) :
    ((List.finRange n).flatMap rows).length = n * d := by
  rw [List.length_flatMap, List.map_congr_left (fun i _ => h i), List.map_const',
    List.sum_replicate_nat, List.length_finRange]

/-- Entry `k` of row `i`. -/
theorem getElem?_rows (h : ∀ i, (rows i).length = d) (i : Fin n) {k : ℕ} (hk : k < d) :
    ((List.finRange n).flatMap rows)[d * i + k]? = (rows i)[k]? := by
  induction n with
  | zero => exact i.elim0
  | succ n ih =>
      rw [List.finRange_succ, List.flatMap_cons, List.flatMap_map]
      refine Fin.cases ?_ (fun j => ?_) i
      · rw [Fin.val_zero, Nat.mul_zero, Nat.zero_add, List.getElem?_append_left (by rw [h]; exact hk)]
      · have hshift : d * (j.succ : ℕ) + k = d + (d * j + k) := by
          rw [Fin.val_succ, Nat.mul_succ]
          omega
        rw [hshift, List.getElem?_append_right (by rw [h]; omega), h, Nat.add_sub_cancel_left]
        exact @ih (fun j => rows j.succ) (fun j => h j.succ) j

/-- Rows that are all the same. -/
theorem getElem?_replicate {row : List α} (h : row.length = d) (i : Fin n) {k : ℕ} (hk : k < d) :
    (List.replicate n row).flatten[d * i + k]? = row[k]? := by
  have hrows : (List.replicate n row).flatten = (List.finRange n).flatMap (fun _ => row) := by
    rw [List.flatMap_def, List.map_const', List.length_finRange]
  rw [hrows]
  exact getElem?_rows (fun _ => h) i hk

/-- **A piece of a row** is found at the multiple of the width. -/
theorem slice_rows (h : ∀ i, (rows i).length = d) (i : Fin n) {a b : ℕ} (hb : b ≤ d) :
    slice (d * i + a) (d * i + b) ((List.finRange n).flatMap rows) = slice a b (rows i) := by
  apply List.ext_getElem?
  intro k
  rw [getElem?_slice, getElem?_slice]
  by_cases hk : a + k < b
  · rw [if_pos hk, if_pos (by omega), Nat.add_assoc, getElem?_rows h i (by omega)]
  · rw [if_neg hk, if_neg (by omega)]

/-- A list is read from the multiples of `step` that are filled. -/
theorem everyNth_eq_ofFn {step : ℕ} (hstep : 0 < step) {l : List α} {g : Fin n → α}
    (hfilled : ∀ i : Fin n, l[step * i]? = some (g i)) (hrest : ∀ k, n ≤ k → l[step * k]? = none) :
    everyNth step l = List.ofFn g := by
  have hle : n ≤ l.length := by
    cases n with
    | zero => exact Nat.zero_le _
    | succ n =>
        have hlast := (List.getElem?_eq_some_iff.mp (hfilled (Fin.last n))).1
        have := Nat.le_mul_of_pos_left n hstep
        rw [Fin.val_last] at hlast
        omega
  obtain ⟨r, hr⟩ := Nat.exists_eq_add_of_le hle
  rw [everyNth, hr, List.range_add, List.filterMap_append, List.filterMap_map]
  have hnone : (List.range r).filterMap ((fun k => l[step * k]?) ∘ fun k => n + k) = [] :=
    List.filterMap_eq_nil_iff.mpr (fun k _ => hrest (n + k) (Nat.le_add_right n k))
  rw [hnone, List.append_nil, List.ofFn_eq_map, ← List.map_coe_finRange_eq_range,
    List.filterMap_map, ← List.filterMap_eq_map]
  exact List.filterMap_congr (fun i _ => hfilled i)

/-- Reading every entry. -/
theorem everyNth_one (l : List α) : everyNth 1 l = l := by
  have hfilled : ∀ i : Fin l.length, l[1 * (i : ℕ)]? = some (l.get i) := by
    intro i
    rw [Nat.one_mul]
    exact List.getElem?_eq_getElem i.isLt
  have hrest : ∀ k, l.length ≤ k → l[1 * k]? = none := by
    intro k hk
    rw [Nat.one_mul]
    exact List.getElem?_eq_none hk
  rw [everyNth_eq_ofFn Nat.one_pos hfilled hrest, List.ofFn_get]

/-- What is read depends on the entries that are read, and on where the vector ends. -/
theorem everyNth_slice_congr {step start stop : ℕ} {l l' : List α} (hlength : l.length = l'.length)
    (h : ∀ k, start + step * k < stop → l[start + step * k]? = l'[start + step * k]?) :
    everyNth step (slice start stop l) = everyNth step (slice start stop l') := by
  have hslice : (slice start stop l).length = (slice start stop l').length := by
    rw [slice, slice, List.length_drop, List.length_drop, List.length_take, List.length_take, hlength]
  unfold everyNth
  rw [hslice]
  refine List.filterMap_congr (fun k _ => ?_)
  rw [getElem?_slice, getElem?_slice]
  split
  · exact h k ‹_›
  · rfl

/-- **A column of the rows**: the entries that are `d + 1` apart, beginning with entry `d`. -/
theorem everyNth_rows (h : ∀ i, (rows i).length = d + 1) {g : Fin n → α}
    (hg : ∀ i, (rows i)[d]? = some (g i)) :
    everyNth (d + 1) (((List.finRange n).flatMap rows).drop d) = List.ofFn g := by
  refine everyNth_eq_ofFn (Nat.succ_pos d) (fun i => ?_) (fun k hk => ?_)
  · rw [List.getElem?_drop, Nat.add_comm, getElem?_rows h i (Nat.lt_succ_self d), hg]
  · rw [List.getElem?_drop, List.getElem?_eq_none_iff, length_rows h]
    have hmul : n * (d + 1) ≤ k * (d + 1) := Nat.mul_le_mul_right _ hk
    rw [Nat.mul_comm (d + 1) k]
    omega

end Rows

/-! ## Bounds

A vector is bounded entry by entry by another one of the same length. -/

section Bounds

variable {β : Type*} {R : α → β → Prop}

/-- Rows with the same bounds. -/
theorem forall₂_rows {n : ℕ} {rows : Fin n → List α} {bounds : List β}
    (h : ∀ i, List.Forall₂ R (rows i) bounds) :
    List.Forall₂ R ((List.finRange n).flatMap rows) (List.replicate n bounds).flatten := by
  induction n with
  | zero => exact List.Forall₂.nil
  | succ n ih =>
      rw [List.finRange_succ, List.flatMap_cons, List.flatMap_map, List.replicate_succ,
        List.flatten_cons]
      exact List.rel_append (h 0) (ih (fun i => h i.succ))

/-- One entry is replaced by another that keeps to its bound. -/
theorem forall₂_set {l : List α} {bounds : List β} (h : List.Forall₂ R l bounds) {a : α} :
    ∀ {k : ℕ}, (∀ b, bounds[k]? = some b → R a b) → List.Forall₂ R (l.set k a) bounds := by
  induction h with
  | nil => exact fun _ => List.Forall₂.nil
  | cons hR hrest ih =>
      intro k hk
      cases k with
      | zero => exact List.Forall₂.cons (hk _ rfl) hrest
      | succ k => exact List.Forall₂.cons hR (ih (fun b hb => hk b hb))

end Bounds

/-! ## Entries that are written one after the other -/

section Writes

variable {κ X : Type*} [DecidableEq κ] (place : α → κ) (value : α → X)

/-- What is written nowhere stays. -/
theorem foldl_update_of_notMem {l : List α} {k : κ} (hk : k ∉ l.map place) (y : κ → X) :
    l.foldl (fun y a => Function.update y (place a) (value a)) y k = y k := by
  induction l generalizing y with
  | nil => rfl
  | cons a l ih =>
      rw [List.map_cons, List.mem_cons, not_or] at hk
      rw [List.foldl_cons, ih hk.2, Function.update_of_ne hk.1]

/-- What is written in one place stays there, if no place is written twice. -/
theorem foldl_update_of_mem {l : List α} (hnodup : (l.map place).Nodup) {a : α} (ha : a ∈ l)
    (y : κ → X) :
    l.foldl (fun y a => Function.update y (place a) (value a)) y (place a) = value a := by
  induction l generalizing y with
  | nil => exact absurd ha List.not_mem_nil
  | cons b l ih =>
      rw [List.map_cons, List.nodup_cons] at hnodup
      rw [List.foldl_cons]
      rcases List.mem_cons.mp ha with rfl | ha
      · rw [foldl_update_of_notMem place value hnodup.1, Function.update_self]
      · exact ih hnodup.2 ha _

end Writes

end Layout
