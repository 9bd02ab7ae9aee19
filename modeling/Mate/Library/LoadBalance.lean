import Mate.Library.Machines
import Mathlib.Data.Fintype.Card
import Mathlib.Data.List.Count
import Mathlib.Data.List.MinMax
import Mathlib.Tactic.Common

set_option autoImplicit false

/-! # Greedy load balancing

Items are given to bins one after the other, each to a bin with the least load among the candidates
of the item. Where all bins are candidates of every item, the loads stay within one of each other
(`Greedy.balanced`). Items that go to an empty bin as long as one of their candidates is empty fill
as many bins as there can be (`Spreading.card`). A machine that keeps the loads is greedy if every
step of it is (`outputs_greedy`).
-/

namespace LoadBalance

variable {τ : Type*} [DecidableEq τ]

/-- A candidate with the least load. -/
structure Least (load : τ → ℕ) (candidate : τ → Prop) (t : τ) : Prop where
  mem : candidate t
  le : ∀ u, candidate u → load t ≤ load u

/-- The bins of the items so far, each with the least load at its time. -/
inductive Greedy (candidate : ℕ → τ → Prop) : List τ → Prop
  | nil : Greedy candidate []
  | snoc {bins : List τ} {t : τ} : Greedy candidate bins →
      Least (fun u => bins.count u) (candidate bins.length) t → Greedy candidate (bins ++ [t])

/-- No load is above another one by more than one. -/
def Balanced (load : τ → ℕ) : Prop := ∀ t u, load t ≤ load u + 1

theorem count_snoc (bins : List τ) (t u : τ) :
    (bins ++ [t]).count u = if u = t then bins.count u + 1 else bins.count u := by
  rw [List.count_append, List.count_singleton]
  by_cases h : u = t
  · simp [h]
  · have hne : t ≠ u := fun heq => h heq.symm
    simp [h, hne]

/-- One item on a bin with the least load of all keeps the balance. -/
theorem Balanced.snoc {bins : List τ} {t : τ} (h : Balanced (fun u => bins.count u))
    (hleast : ∀ u, bins.count t ≤ bins.count u) : Balanced (fun u => (bins ++ [t]).count u) := by
  intro u v
  have hu := h u v
  have hv := hleast v
  dsimp only at hu ⊢
  rw [count_snoc, count_snoc]
  -- only the bin that got the item has grown, and it was a least one
  by_cases hut : u = t
  · subst hut
    split_ifs <;> omega
  · rw [if_neg hut]
    split_ifs <;> omega

variable {candidate : ℕ → τ → Prop} {bins : List τ}

theorem Greedy.balanced (h : Greedy candidate bins) (hall : ∀ c < bins.length, ∀ t, candidate c t) :
    Balanced (fun t => bins.count t) := by
  induction h with
  | nil =>
      intro t u
      simp
  | snoc hbins hleast ih =>
      rw [List.length_append, List.length_singleton] at hall
      exact Balanced.snoc (ih (fun c hc => hall c (by omega)))
        (fun u => hleast.le u (hall _ (by omega) u))

/-- Every item went to a least loaded one of its candidates. -/
theorem Greedy.least (h : Greedy candidate bins) {c : ℕ} {t : τ} (hc : bins[c]? = some t) :
    Least (fun u => (bins.take c).count u) (candidate c) t := by
  induction h with
  | nil => simp at hc
  | @snoc bins s hbins hleast ih =>
      rcases Nat.lt_or_ge c bins.length with hlt | hge
      · rw [List.getElem?_append_left hlt] at hc
        rw [List.take_append_of_le_length (by omega)]
        exact ih hc
      · rw [List.getElem?_append_right hge] at hc
        have hzero : c - bins.length = 0 := by
          by_contra hne
          rw [List.getElem?_eq_none (by simp; omega)] at hc
          cases hc
        rw [hzero] at hc
        obtain rfl : s = t := Option.some.inj hc
        obtain rfl : c = bins.length := by omega
        rw [List.take_left']
        · exact hleast
        · rfl

/-- A rule that picks a least loaded candidate, whatever the loads are, does so for other candidates
only if they are the same. -/
theorem Least.forall_iff {candidate candidate' : τ → Prop} {pick : (τ → ℕ) → τ}
    (hpick : ∀ load, Least load candidate (pick load)) :
    (∀ load, Least load candidate' (pick load)) ↔ ∀ t, candidate t ↔ candidate' t := by
  constructor
  · intro hpick' t
    -- a bin that is the only empty one is picked if it is a candidate of either kind
    set load : τ → ℕ := fun u => if u = t then 0 else 1 with hload
    have hempty : ∀ {u}, load u ≤ load t → u = t := by
      intro u hu
      by_contra hne
      simp [hload, hne] at hu
    constructor
    · intro ht
      rw [← hempty ((hpick load).le t ht)]
      exact (hpick' load).mem
    · intro ht
      rw [← hempty ((hpick' load).le t ht)]
      exact (hpick load).mem
  · intro hsame load
    have hleast := hpick load
    exact ⟨(hsame _).mp hleast.mem, fun u hu => hleast.le u ((hsame u).mpr hu)⟩

/-! ## Machines that keep the loads -/

/-- The loads after one more item. -/
theorem update_count (bins : List τ) (t : τ) :
    Function.update (fun u => bins.count u) t (bins.count t + 1)
      = fun u => (bins ++ [t]).count u := by
  funext u
  rw [count_snoc]
  by_cases h : u = t
  · subst h
    rw [Function.update_self, if_pos rfl]
  · rw [Function.update_of_ne h, if_neg h]

section

open Fallible

variable {ε β τ : Type} [DecidableEq τ] {candidate : ℕ → τ → Prop} {output : τ → β}
  {f : (τ → ℕ) → ℕ → Except ε (β × (τ → ℕ))} {m : ℕ}
  (hstep : ∀ c < m, ∀ load, ∃ t, Least load (candidate c) t ∧
    f load c = .ok (output t, Function.update load t (load t + 1)))

include hstep

/-- The machine from item `bins.length` on, when the items before it went to `bins`. -/
theorem outputs_greedy_from (k : ℕ) (bins : List τ) (hlength : bins.length + k ≤ m)
    (hbins : Greedy candidate bins) :
    ∃ rest : List τ, rest.length = k ∧
      outputs f (fun u => bins.count u) (List.range' bins.length k) = .ok (rest.map output) ∧
      Greedy candidate (bins ++ rest) := by
  induction k generalizing bins with
  | zero => exact ⟨[], rfl, rfl, by rwa [List.append_nil]⟩
  | succ k ih =>
      obtain ⟨t, hleast, hone⟩ := hstep bins.length (by omega) (fun u => bins.count u)
      obtain ⟨rest, hrest, hrun, hgreedy⟩ := ih (bins ++ [t])
        (by rw [List.length_append, List.length_singleton]; omega) (.snoc hbins hleast)
      rw [List.append_assoc, List.singleton_append] at hgreedy
      rw [← update_count, List.length_append, List.length_singleton] at hrun
      refine ⟨t :: rest, congrArg (· + 1) hrest, ?_, hgreedy⟩
      rw [List.range'_succ]
      exact bind_eq_ok.mpr ⟨_, hone, bind_eq_ok.mpr ⟨_, hrun, rfl⟩⟩

/-- **A machine whose steps are greedy** balances the loads greedily. -/
theorem outputs_greedy : ∃ bins : List τ, bins.length = m ∧
    outputs f (fun _ => 0) (List.range m) = .ok (bins.map output) ∧ Greedy candidate bins := by
  obtain ⟨bins, hlength, hrun, hgreedy⟩ :=
    outputs_greedy_from hstep m [] (by rw [List.length_nil, Nat.zero_add]) .nil
  refine ⟨bins, hlength, ?_, hgreedy⟩
  rw [List.range_eq_range']
  exact hrun

end

/-! ## The first of the least loaded bins -/

/-- The first one of the candidates with the least load. -/
structure FirstLeast {τ : Type*} [LinearOrder τ] (load : τ → ℕ) (candidate : τ → Prop) (t : τ) :
    Prop extends Least load candidate t where
  first : ∀ u, candidate u → load u ≤ load t → t ≤ u

section

variable {τ : Type*} [LinearOrder τ] {load : τ → ℕ} {t u : τ}

/-- A search for the least load along an ascending list finds the first one. -/
theorem FirstLeast.of_argmin {l : List τ} (hsorted : l.Pairwise (· < ·))
    (h : l.argmin load = some t) : FirstLeast load (· ∈ l) t := by
  obtain ⟨hmem, hle, hfirst⟩ := List.argmin_eq_some_iff.mp h
  refine ⟨⟨hmem, hle⟩, fun u hu hload => ?_⟩
  have hindex := hfirst u hu hload
  have hit := List.getElem_idxOf (List.idxOf_lt_length_of_mem hmem)
  have hiu := List.getElem_idxOf (List.idxOf_lt_length_of_mem hu)
  rcases Nat.lt_or_eq_of_le hindex with hlt | heq
  · have hpos := List.pairwise_iff_getElem.mp hsorted _ _
      (List.idxOf_lt_length_of_mem hmem) (List.idxOf_lt_length_of_mem hu) hlt
    rw [hit, hiu] at hpos
    exact hpos.le
  · simp only [heq] at hit
    exact (hit.symm.trans hiu).le

theorem FirstLeast.unique {candidate : τ → Prop} (ht : FirstLeast load candidate t)
    (hu : FirstLeast load candidate u) : t = u :=
  le_antisymm (ht.first u hu.mem (hu.le t ht.mem)) (hu.first t ht.mem (ht.le u hu.mem))

theorem FirstLeast.congr {candidate candidate' : τ → Prop} (h : ∀ u, candidate u ↔ candidate' u)
    (ht : FirstLeast load candidate t) : FirstLeast load candidate' t where
  mem := (h t).mp ht.mem
  le := fun u hu => ht.le u ((h u).mpr hu)
  first := fun u hu => ht.first u ((h u).mpr hu)

end

/-! ## Filling empty bins first -/

/-- An item goes to a bin that has an item only if all its candidates have one. -/
def Spreading (candidate : ℕ → τ → Prop) (bins : List τ) : Prop :=
  ∀ (c : ℕ) t, bins[c]? = some t → t ∈ bins.take c → ∀ u, candidate c u → u ∈ bins.take c

omit [DecidableEq τ] in
theorem Spreading.of_snoc {t : τ} (h : Spreading candidate (bins ++ [t])) :
    Spreading candidate bins := by
  intro c s hc hs u hu
  have hlt : c < bins.length := (List.getElem?_eq_some_iff.mp hc).1
  have htake : (bins ++ [t]).take c = bins.take c := List.take_append_of_le_length (by omega)
  have hget : (bins ++ [t])[c]? = some s := by rw [List.getElem?_append_left hlt, hc]
  have := h c s hget
  rw [htake] at this
  exact this hs u hu

/-- Where all bins are candidates of every item, the number of bins that have an item is as large as
it can be. -/
theorem Spreading.card [Fintype τ] (h : Spreading candidate bins)
    (hall : ∀ c < bins.length, ∀ t, candidate c t) :
    bins.toFinset.card = min bins.length (Fintype.card τ) := by
  induction bins using List.reverseRecOn with
  | nil => simp
  | append_singleton bins t ih =>
      rw [List.length_append, List.length_singleton] at hall
      have hcard := ih h.of_snoc (fun c hc => hall c (by omega))
      have hfinset : (bins ++ [t]).toFinset = insert t bins.toFinset := by
        ext u
        simp
      rw [hfinset, List.length_append, List.length_singleton]
      by_cases ht : t ∈ bins.toFinset
      · -- the bin has an item already, so all bins have
        have hspread := h bins.length t (by simp)
        rw [List.take_left' rfl] at hspread
        have hfull : bins.toFinset = Finset.univ := by
          ext u
          simpa using hspread (List.mem_toFinset.mp ht) u (hall _ (by omega) u)
        rw [Finset.insert_eq_of_mem ht]
        rw [hfull, Finset.card_univ] at hcard ⊢
        omega
      · have hlt : bins.toFinset.card < Fintype.card τ := by
          rw [← Finset.card_univ]
          refine Finset.card_lt_card ⟨Finset.subset_univ _, fun hsub => ht (hsub ?_)⟩
          exact Finset.mem_univ t
        rw [Finset.card_insert_of_notMem ht]
        omega

end LoadBalance
