import Mathlib.Data.List.Pairwise
import Mathlib.Data.List.Perm.Basic
import Mathlib.Order.Lattice
import Mathlib.Tactic

set_option autoImplicit false

/-! # Tables of least values

Samples are pairs of a key and a value, in any order and with repeated keys. Their table has each
key once, in increasing order, with the least of its values (`IsLeastTable`). It depends on which
samples there are and not on their order (`IsLeastTable.unique`).
-/

variable {κ ν : Type*} [LinearOrder κ] [LinearOrder ν]

/-- `table` has the least value of every key of the samples. -/
structure IsLeastTable (samples table : List (κ × ν)) : Prop where
  increasing : table.Pairwise (fun p q => p.1 < q.1)
  sample : ∀ p ∈ table, p ∈ samples
  covers : ∀ q ∈ samples, ∃ p ∈ table, p.1 = q.1 ∧ p.2 ≤ q.2

omit [LinearOrder ν] in
/-- A key occurs once in an increasing table. -/
theorem eq_of_increasing {table : List (κ × ν)} (h : table.Pairwise (fun p q => p.1 < q.1))
    {p q : κ × ν} (hp : p ∈ table) (hq : q ∈ table) (hkey : p.1 = q.1) : p = q := by
  induction table with
  | nil => cases hp
  | cons a table ih =>
      rw [List.pairwise_cons] at h
      rcases List.mem_cons.mp hp with rfl | hp'
      · rcases List.mem_cons.mp hq with rfl | hq'
        · rfl
        · exact absurd hkey (h.1 q hq').ne
      · rcases List.mem_cons.mp hq with rfl | hq'
        · exact absurd hkey (h.1 p hp').ne'
        · exact ih h.2 hp' hq'

namespace IsLeastTable

variable {samples samples' table table' : List (κ × ν)}

theorem le (h : IsLeastTable samples table) {p q : κ × ν} (hp : p ∈ table) (hq : q ∈ samples)
    (hkey : p.1 = q.1) : p.2 ≤ q.2 := by
  obtain ⟨r, hr, hrq, hle⟩ := h.covers q hq
  have heq := eq_of_increasing h.increasing hp hr (hkey.trans hrq.symm)
  rwa [heq]

/-- The entries of the table are the samples of least value. -/
theorem mem_iff (h : IsLeastTable samples table) (p : κ × ν) :
    p ∈ table ↔ p ∈ samples ∧ ∀ q ∈ samples, p.1 = q.1 → p.2 ≤ q.2 := by
  constructor
  · exact fun hp => ⟨h.sample p hp, fun q hq => h.le hp hq⟩
  · rintro ⟨hp, hleast⟩
    obtain ⟨r, hr, hrp, hle⟩ := h.covers p hp
    have heq : r = p := Prod.ext hrp (le_antisymm hle (hleast r (h.sample r hr) hrp.symm))
    rwa [← heq]

/-- Samples of no smaller value may be added at keys that there are. -/
theorem of_subset (h : IsLeastTable samples table) (hsub : samples ⊆ samples')
    (hcover : ∀ q ∈ samples', ∃ p ∈ samples, p.1 = q.1 ∧ p.2 ≤ q.2) :
    IsLeastTable samples' table where
  increasing := h.increasing
  sample p hp := hsub (h.sample p hp)
  covers q hq := by
    obtain ⟨r, hr, hrq, hle⟩ := hcover q hq
    obtain ⟨p, hp, hpr, hle'⟩ := h.covers r hr
    exact ⟨p, hp, hpr.trans hrq, hle'.trans hle⟩

/-- A sample may be added at the key of one that is no greater. -/
theorem of_dominated (h : IsLeastTable samples table) {p q : κ × ν} (hp : p ∈ samples)
    (hkey : p.1 = q.1) (hle : p.2 ≤ q.2) (hsamples : ∀ r, r ∈ samples' ↔ r = q ∨ r ∈ samples) :
    IsLeastTable samples' table := by
  refine h.of_subset (fun r hr => (hsamples r).mpr (.inr hr)) (fun r hr => ?_)
  rcases (hsamples r).mp hr with rfl | hmem
  · exact ⟨p, hp, hkey, hle⟩
  · exact ⟨r, hmem, rfl, le_rfl⟩

/-- **The order of the samples does not matter.** -/
theorem unique (h : IsLeastTable samples table) (h' : IsLeastTable samples' table')
    (hsame : ∀ p, p ∈ samples ↔ p ∈ samples') : table = table' := by
  have hperm : table.Perm table' := by
    have hne : ∀ {l : List (κ × ν)}, l.Pairwise (fun p q => p.1 < q.1) → l.Nodup :=
      fun hl => hl.imp (fun hlt heq => absurd (congrArg Prod.fst heq) hlt.ne)
    apply (List.perm_ext_iff_of_nodup (hne h.increasing) (hne h'.increasing)).mpr
    intro p
    rw [h.mem_iff, h'.mem_iff]
    simp only [hsame]
  exact hperm.eq_of_pairwise (fun p q _ _ hpq hqp => absurd (hpq.trans hqp) (lt_irrefl _))
    h.increasing h'.increasing

end IsLeastTable
