import Mathlib.Algebra.BigOperators.Group.List.Basic
import Mathlib.Tactic.Common

set_option autoImplicit false

/-! # Arrays with a shape

An array is a list of entries in C order, with a shape whose product is their number. To reshape it
keeps the entries. An unspecified dimension is worked out from the others, which fails when these are
zero together (`reshapeFront`, `reshapeBack`). `rows` are the entries along the first axis.
-/

namespace NdArrays

structure NdArray (α : Type) where
  shape : List ℕ
  data : List α
  length_data : data.length = shape.prod

/-- `count` pieces of length `k` from the front of a list. -/
def chunks {α : Type} (k : ℕ) : ℕ → List α → List (List α)
  | 0, _ => []
  | count + 1, l => l.take k :: chunks k count (l.drop k)

section

variable {α : Type} {k : ℕ}

@[simp] theorem length_chunks (k count : ℕ) (l : List α) : (chunks k count l).length = count := by
  induction count generalizing l with
  | zero => rfl
  | succ count ih => exact congrArg (· + 1) (ih _)

theorem length_of_mem_chunks {count : ℕ} {l : List α} (h : l.length = count * k) :
    ∀ piece ∈ chunks k count l, piece.length = k := by
  induction count generalizing l with
  | zero => exact fun piece hpiece => absurd hpiece List.not_mem_nil
  | succ count ih =>
      rw [Nat.succ_mul] at h
      have hrest : (l.drop k).length = count * k := by
        rw [List.length_drop]
        omega
      refine List.forall_mem_cons.mpr ⟨?_, ih hrest⟩
      rw [List.length_take]
      omega

theorem flatten_chunks {count : ℕ} {l : List α} (h : l.length = count * k) :
    (chunks k count l).flatten = l := by
  induction count generalizing l with
  | zero =>
      rw [Nat.zero_mul, List.length_eq_zero_iff] at h
      exact h.symm
  | succ count ih =>
      rw [Nat.succ_mul] at h
      have hrest : (l.drop k).length = count * k := by
        rw [List.length_drop]
        omega
      rw [chunks, List.flatten_cons, ih hrest, List.take_append_drop]

/-- Pieces of one length are found again. -/
theorem chunks_flatten {pieces : List (List α)} (h : ∀ piece ∈ pieces, piece.length = k) :
    chunks k pieces.length pieces.flatten = pieces := by
  induction pieces with
  | nil => rfl
  | cons piece pieces ih =>
      obtain ⟨hpiece, hrest⟩ := List.forall_mem_cons.mp h
      rw [List.length_cons, List.flatten_cons, chunks, List.take_left' hpiece,
        List.drop_left' hpiece, ih hrest]

theorem length_flatten {pieces : List (List α)} (h : ∀ piece ∈ pieces, piece.length = k) :
    pieces.flatten.length = pieces.length * k := by
  induction pieces with
  | nil => exact (Nat.zero_mul k).symm
  | cons piece pieces ih =>
      obtain ⟨hpiece, hrest⟩ := List.forall_mem_cons.mp h
      rw [List.flatten_cons, List.length_append, hpiece, ih hrest, List.length_cons, Nat.succ_mul,
        Nat.add_comm]

end

namespace NdArray

variable {α : Type}

/-- The entries along the first axis, one after the other. -/
def rows (self : NdArray α) : List (List α) :=
  chunks self.shape.tail.prod (self.shape.headD 0) self.data

/-- `reshape(-1, *dims)`. -/
def reshapeFront (self : NdArray α) (dims : List ℕ) : Option (NdArray α) :=
  if h : dims.prod ≠ 0 ∧ dims.prod ∣ self.data.length then
    some ⟨self.data.length / dims.prod :: dims, self.data, by
      rw [List.prod_cons, Nat.div_mul_cancel h.2]⟩
  else none

/-- `reshape(n, -1)`. -/
def reshapeBack (self : NdArray α) (n : ℕ) : Option (NdArray α) :=
  if h : n ≠ 0 ∧ n ∣ self.data.length then
    some ⟨[n, self.data.length / n], self.data, by
      rw [List.prod_cons, List.prod_singleton, Nat.mul_div_cancel' h.2]⟩
  else none

/-- `np.stack` of rows of `k` entries. -/
def stack (k : ℕ) (rows : List (List α)) (h : ∀ row ∈ rows, row.length = k) : NdArray α :=
  ⟨[rows.length, k], rows.flatten, by
    rw [length_flatten h, List.prod_cons, List.prod_singleton]⟩

/-- The array of the shape that has these rows. -/
def ofRows (shape : List ℕ) (rows : List (List α)) (h : ∀ row ∈ rows, row.length = shape.prod) :
    NdArray α :=
  ⟨rows.length :: shape, rows.flatten, by rw [length_flatten h, List.prod_cons]⟩

@[ext] theorem ext {x y : NdArray α} (hshape : x.shape = y.shape) (hdata : x.data = y.data) :
    x = y := by
  cases x
  cases y
  cases hshape
  cases hdata
  rfl

theorem rows_ofRows {shape : List ℕ} {rows : List (List α)}
    (h : ∀ row ∈ rows, row.length = shape.prod) : (ofRows shape rows h).rows = rows :=
  chunks_flatten h

section

variable {self : NdArray α} {n : ℕ} {shape : List ℕ}

theorem length_rows (h : self.shape = n :: shape) : self.rows.length = n := by
  rw [rows, length_chunks, h, List.headD_cons]

theorem length_of_mem_rows (h : self.shape = n :: shape) :
    ∀ row ∈ self.rows, row.length = shape.prod := by
  have hlength := self.length_data
  rw [h, List.prod_cons] at hlength
  unfold rows
  rw [h]
  exact length_of_mem_chunks hlength

/-- An array is that of its rows. -/
theorem eq_ofRows (h : self.shape = n :: shape) :
    self = ofRows shape self.rows (length_of_mem_rows h) := by
  have hlength := self.length_data
  rw [h, List.prod_cons] at hlength
  refine ext ?_ ?_
  · show self.shape = self.rows.length :: shape
    rw [length_rows h, h]
  · show self.data = self.rows.flatten
    unfold rows
    rw [h]
    exact (flatten_chunks hlength).symm

theorem data_eq_flatten (h : self.shape = n :: shape) : self.data = self.rows.flatten :=
  congrArg NdArray.data (eq_ofRows h)

/-- The rows of an array do not depend on how they are shaped. -/
theorem rows_reshapeBack (h : self.shape = n :: shape) (hn : 0 < n) :
    ∃ flat, self.reshapeBack n = some flat ∧ flat.rows = self.rows := by
  have hlength := self.length_data
  rw [h, List.prod_cons] at hlength
  have hdvd : n ∣ self.data.length := ⟨shape.prod, hlength⟩
  have hdiv : self.data.length / n = shape.prod := by
    rw [hlength, Nat.mul_div_cancel_left _ hn]
  refine ⟨_, dif_pos ⟨Nat.ne_of_gt hn, hdvd⟩, ?_⟩
  show chunks [self.data.length / n].prod n self.data = self.rows
  rw [hdiv, List.prod_singleton, rows, h]
  rfl

theorem reshapeBack_zero (self : NdArray α) : self.reshapeBack 0 = none :=
  dif_neg (fun h => h.1 rfl)

theorem reshapeFront_stack {k : ℕ} {rows : List (List α)} (hk : k = shape.prod)
    (hpos : 0 < shape.prod) (h : ∀ row ∈ rows, row.length = k) :
    (stack k rows h).reshapeFront shape
      = some (ofRows shape rows (fun row hrow => (h row hrow).trans hk)) := by
  have hlength : (stack k rows h).data.length = rows.length * shape.prod :=
    (length_flatten h).trans (congrArg _ hk)
  have hdvd : shape.prod ∣ (stack k rows h).data.length :=
    ⟨rows.length, hlength.trans (Nat.mul_comm _ _)⟩
  refine (dif_pos ⟨Nat.ne_of_gt hpos, hdvd⟩).trans (congrArg some (ext ?_ rfl))
  show (stack k rows h).data.length / shape.prod :: shape = rows.length :: shape
  rw [hlength, Nat.mul_div_cancel _ hpos]

theorem reshapeFront_empty (self : NdArray α) (h : shape.prod = 0) :
    self.reshapeFront shape = none :=
  dif_neg (fun hne => hne.1 h)

end

end NdArray

end NdArrays
