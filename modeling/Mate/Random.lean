import Mate.Utils
import Mathlib.Data.Finset.Sort
import Mathlib.Logic.Equiv.Defs

set_option autoImplicit false

/-! # Random draws and the order of a set

The random number generators of numpy and the iteration order of a Python set are not code of
the repository. A generator is a state of any type with the draws below, each of which returns
a value in its documented range and the next state; a statement about every such type is a
statement about every sequence of draws.
-/

namespace Mate

/-- `np.iinfo(int).max`, the bound on a seed that is drawn. -/
def INT_MAX : ℕ := 2 ^ 63 - 1

theorem INT_MAX_pos : 0 < INT_MAX := by decide

class RandomState (G : Type) where
  /-- `seeding.np_random(seed)`. -/
  seed : ℕ → G
  /-- `randint(n)`. -/
  randint : (n : ℕ) → 0 < n → G → Fin n × G
  /-- `permutation(n)`. -/
  permutation : (n : ℕ) → G → Equiv.Perm (Fin n) × G
  /-- `random()`, in `[0, 1)`. -/
  random : G → Set.Ico (0 : ℝ) 1 × G
  /-- `binomial(1, p) != 0`. -/
  binomial : ℝ → G → Bool × G
  binomial_zero : ∀ g, (binomial 0 g).1 = false
  binomial_one : ∀ g, (binomial 1 g).1 = true

/-- The order in which a set of objects, known by their numbers, is iterated. -/
class SetOrder where
  toList : Finset ℕ → List ℕ
  nodup : ∀ s, (toList s).Nodup
  mem_toList : ∀ s i, i ∈ toList s ↔ i ∈ s

/-- The objects in the order of their numbers. -/
abbrev SetOrder.increasing : SetOrder where
  toList s := s.sort
  nodup s := s.sort_nodup _
  mem_toList s i := s.mem_sort _

namespace RandomState

variable {G : Type} [RandomState G] {α : Type}

/-- `uniform(low, high)`. -/
noncomputable def uniform (low high : ℝ) (g : G) : ℝ × G :=
  let (u, g) := random g
  (low + (high - low) * u, g)

/-- `choice(a)` for an array `a`. -/
def choice (a : List α) (g : G) : Except Error (α × G) :=
  if h : 0 < a.length then
    let (i, g) := randint a.length h g
    .ok (a.get i, g)
  else .error (.valueError "'a' cannot be empty unless no samples are taken")

/-- `choice(n, size=size, replace=False)` as a set of indices: the first `size` entries of a
permutation. -/
def choiceSet (n size : ℕ) (g : G) : (Fin n → Bool) × G :=
  let (σ, g) := permutation n g
  (fun i => decide ((σ.symm i : ℕ) < size), g)

/-- `choice(num_warehouses, size=2, replace=False)`. -/
def choicePair (g : G) : (Warehouse × Warehouse) × G :=
  let (σ, g) := permutation NUM_WAREHOUSES g
  ((σ 0, σ 1), g)

theorem choicePair_ne (g : G) : (choicePair g).1.1 ≠ (choicePair g).1.2 := by
  intro h
  have := (permutation NUM_WAREHOUSES g).1.injective h
  exact absurd this (by decide)

/-- A choice from an array that is not empty returns one of its entries. -/
theorem choice_mem {a : List α} (ha : a ≠ []) (g : G) :
    ∃ x g', choice a g = .ok (x, g') ∧ x ∈ a := by
  have hpos : 0 < a.length := List.length_pos_iff.mpr ha
  refine ⟨_, _, by rw [choice, dif_pos hpos], ?_⟩
  exact List.get_mem a _

end RandomState

end Mate
