import Mathlib.Data.List.Rotate
import Mathlib.Data.List.TakeDrop
import Mathlib.Tactic.Common

set_option autoImplicit false

/-! # Ring buffers

A ring has a number of slots. It is filled first, and then the entry at its index is replaced, which is
the oldest one. Read from the index on, it holds the last entries that were pushed, in order
(`Holds.push`, `holds_foldl`). -/

namespace RingBuffer

variable {α : Type}

structure Slots (α : Type) where
  entries : List α
  index : ℕ

def Slots.push (slots : ℕ) (ring : Slots α) (x : α) : Slots α :=
  if 0 < slots then
    if ring.entries.length < slots then { ring with entries := ring.entries ++ [x] }
    else ⟨ring.entries.set ring.index x, (ring.index + 1) % slots⟩
  else ring

/-- The last `n` entries of a list, or all of them. -/
def lastOf (n : ℕ) (l : List α) : List α := l.drop (l.length - n)

theorem lastOf_of_length_le {n : ℕ} {l : List α} (h : l.length ≤ n) : lastOf n l = l := by
  rw [lastOf, Nat.sub_eq_zero_of_le h, List.drop_zero]

theorem length_lastOf (n : ℕ) (l : List α) : (lastOf n l).length = min n l.length := by
  rw [lastOf, List.length_drop]
  omega

/-- With a full list behind it, an entry takes the place of the oldest. -/
theorem lastOf_concat {n : ℕ} {l : List α} (h : n ≤ l.length) (hn : 0 < n) (x : α) :
    lastOf n (l ++ [x]) = (lastOf n l).drop 1 ++ [x] := by
  rw [lastOf, lastOf, List.length_append, List.length_singleton, List.drop_drop,
    List.drop_append_of_le_length (by omega)]
  congr 2
  omega

/-- The ring holds what is left of what was pushed. -/
structure Holds (slots : ℕ) (ring : Slots α) (history : List α) : Prop where
  index_lt : ring.index < slots
  index_eq : history.length < slots → ring.index = 0
  rotate_eq : ring.entries.rotate ring.index = lastOf slots history

theorem holds_empty {slots : ℕ} (h : 0 < slots) : Holds slots (⟨[], 0⟩ : Slots α) [] :=
  ⟨h, fun _ => rfl, by rw [List.rotate_nil, lastOf, List.drop_nil]⟩

theorem Holds.length_eq {slots : ℕ} {ring : Slots α} {history : List α} (h : Holds slots ring history) :
    ring.entries.length = min slots history.length := by
  rw [← List.length_rotate ring.entries ring.index, h.rotate_eq, length_lastOf]

/-- Replacing the entry at the index moves the index on by one. -/
theorem rotate_set {l : List α} {i : ℕ} (hi : i < l.length) (x : α) :
    (l.set i x).rotate (i + 1) = (l.rotate i).drop 1 ++ [x] := by
  have hdrop : (l.drop i ++ l.take i).drop 1 = l.drop (i + 1) ++ l.take i := by
    rw [List.drop_append_of_le_length (by rw [List.length_drop]; omega), List.drop_drop]
  have hset : l.set i x = (l.take i ++ [x]) ++ l.drop (i + 1) := by
    rw [List.set_eq_take_append_cons_drop, if_pos hi, List.append_assoc, List.singleton_append]
  have hlength : (l.take i ++ [x]).length = i + 1 := by
    rw [List.length_append, List.length_take, List.length_singleton]
    omega
  have hrotate : ((l.take i ++ [x]) ++ l.drop (i + 1)).rotate (i + 1)
      = l.drop (i + 1) ++ (l.take i ++ [x]) := by
    rw [← hlength]
    exact List.rotate_append_length_eq _ _
  rw [hset, hrotate, List.rotate_eq_drop_append_take hi.le, hdrop, List.append_assoc]

/-- **A push** keeps the ring up to date. -/
theorem Holds.push {slots : ℕ} {ring : Slots α} {history : List α} (h : Holds slots ring history)
    (x : α) : Holds slots (ring.push slots x) (history ++ [x]) := by
  have hslots : 0 < slots := Nat.lt_of_le_of_lt (Nat.zero_le _) h.index_lt
  have hlength := h.length_eq
  rw [Slots.push, if_pos hslots]
  by_cases hfull : ring.entries.length < slots
  · -- the index is where it was, at the oldest entry
    have hzero : ring.index = 0 := h.index_eq (by omega)
    have hrotate := h.rotate_eq
    rw [hzero, List.rotate_zero, lastOf_of_length_le (by omega)] at hrotate
    rw [if_pos hfull]
    refine ⟨h.index_lt, fun _ => hzero, ?_⟩
    show (ring.entries ++ [x]).rotate ring.index = _
    rw [hzero, List.rotate_zero, hrotate,
      lastOf_of_length_le (by rw [List.length_append, List.length_singleton]; omega)]
  · rw [if_neg hfull]
    refine ⟨Nat.mod_lt _ hslots, fun hlt => ?_, ?_⟩
    · rw [List.length_append, List.length_singleton] at hlt
      omega
    · show (ring.entries.set ring.index x).rotate ((ring.index + 1) % slots) = _
      have hset : (ring.entries.set ring.index x).length = slots := by
        rw [List.length_set]
        omega
      have hmod := List.rotate_mod (ring.entries.set ring.index x) (ring.index + 1)
      rw [hset] at hmod
      rw [hmod, rotate_set (by have := h.index_lt; omega), h.rotate_eq,
        lastOf_concat (by omega) hslots]

/-- **The ring after any pushes.** -/
theorem holds_foldl {slots : ℕ} (hslots : 0 < slots) (history : List α) :
    Holds slots (history.foldl (Slots.push slots) ⟨[], 0⟩) history := by
  induction history using List.reverseRecOn with
  | nil => exact holds_empty hslots
  | append_singleton history x ih =>
      rw [List.foldl_append]
      exact ih.push x

/-- What the ring holds, in whichever order. -/
theorem Holds.perm {slots : ℕ} {ring : Slots α} {history : List α} (h : Holds slots ring history) :
    ring.entries.Perm (lastOf slots history) := by
  rw [← h.rotate_eq]
  exact (List.rotate_perm _ _).symm

end RingBuffer
