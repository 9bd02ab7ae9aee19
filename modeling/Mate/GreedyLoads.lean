import Mate.Library.LoadBalance
import Mate.Rllib.Hitmac

set_option autoImplicit false

/-! # The loads of a greedy assignment

`_GreedyAssigner` gives every camera one target: of those that the camera sees, or of all if it sees
none, one that the fewest cameras before it were given. That is greedy load balancing
(`assign_greedy`), so the loads stay within one of each other when all cameras see all targets, or
none sees any (`assign_balances`).
-/

namespace Mate.Rllib.GreedyAssigner

open Fallible LoadBalance

variable {numTargets : ℕ} {assigner : GreedyAssigner} {rows : List (List ℝ)}

/-! ## One camera -/

/-- Target `t` is visible in row `c`. -/
noncomputable def visible (assigner : GreedyAssigner) (rows : List (List ℝ)) (c : ℕ)
    (t : Fin numTargets) : Bool :=
  isVisible assigner.targetViewMaskSlice (rows.getD c []) t

/-- The targets that camera `c` may be given. -/
def Candidate (visible : ℕ → Fin numTargets → Bool) (c : ℕ) (t : Fin numTargets) : Prop :=
  visible c t = true ∨ ∀ u, visible c u = false

theorem leastCovered_eq_ok (targetCoverage : Fin numTargets → ℕ) {indices : List (Fin numTargets)}
    (h : indices ≠ []) : ∃ t, leastCovered targetCoverage indices = .ok t ∧
      Least targetCoverage (fun u => u ∈ indices) t := by
  unfold leastCovered
  cases hmin : indices.argmin targetCoverage with
  | none => exact absurd (List.argmin_eq_none.mp hmin) h
  | some t => exact ⟨t, rfl, List.argmin_mem hmin, fun u hu => List.le_of_mem_argmin hu hmin⟩

/-- A camera that has a row is assigned one target, a least covered candidate. -/
theorem assignOne_eq_ok (hpos : 0 < numTargets) {c : ℕ} (hc : c < rows.length)
    (targetCoverage : Fin numTargets → ℕ) :
    ∃ t, assigner.assignOne rows targetCoverage c = .ok (fun u => decide (u = t),
        Function.update targetCoverage t (targetCoverage t + 1)) ∧
      Least targetCoverage (Candidate (assigner.visible rows) c) t := by
  have hread : readRow rows c = .ok rows[c] := by
    rw [readRow, List.getElem?_eq_getElem hc]
  have hrow : rows.getD c [] = rows[c] := by
    rw [List.getD_eq_getElem?_getD, List.getElem?_eq_getElem hc, Option.getD_some]
  have hvisible : ∀ u : Fin numTargets, assigner.visible rows c u
      = isVisible assigner.targetViewMaskSlice rows[c] u := by
    intro u
    rw [visible, hrow]
  set indices := (List.finRange numTargets).filter
    (isVisible assigner.targetViewMaskSlice rows[c]) with hindices
  have hmem : ∀ u, u ∈ indices ↔ assigner.visible rows c u = true := by
    intro u
    rw [hindices, List.mem_filter, hvisible]
    simp
  by_cases hempty : indices = []
  · -- it sees no one, so all targets are candidates
    have hnone : ∀ u : Fin numTargets, assigner.visible rows c u = false := by
      intro u
      by_contra hu
      have hin := (hmem u).mpr (by simpa using hu)
      rw [hempty] at hin
      cases hin
    have hall : List.finRange numTargets ≠ [] :=
      List.ne_nil_of_mem (List.mem_finRange ⟨0, hpos⟩)
    obtain ⟨t, ht, hleast⟩ := leastCovered_eq_ok targetCoverage hall
    refine ⟨t, ?_, Or.inr hnone, fun u _ => hleast.le u (List.mem_finRange u)⟩
    refine bind_eq_ok.mpr ⟨rows[c], hread, ?_⟩
    show (if indices.isEmpty = true then _ else _ : Except Error _) = _
    rw [hempty, List.isEmpty_nil, if_pos rfl]
    exact bind_eq_ok.mpr ⟨t, ht, rfl⟩
  · -- it sees someone, and only these are candidates
    obtain ⟨t, ht, hleast⟩ := leastCovered_eq_ok targetCoverage hempty
    have hsees := (hmem t).mp hleast.mem
    refine ⟨t, ?_, Or.inl hsees, fun u hu => ?_⟩
    · refine bind_eq_ok.mpr ⟨rows[c], hread, ?_⟩
      show (if indices.isEmpty = true then _ else _ : Except Error _) = _
      rw [if_neg (mt List.isEmpty_iff.mp hempty)]
      exact bind_eq_ok.mpr ⟨t, ht, rfl⟩
    · rcases hu with hu | hu
      · exact hleast.le u ((hmem u).mpr hu)
      · rw [hu t] at hsees
        cases hsees

/-! ## All cameras -/

/-- **The assigner is greedy.** -/
theorem assign_greedy (hpos : 0 < numTargets) (h : rows.length = assigner.numCameras) :
    ∃ bins : List (Fin numTargets), bins.length = assigner.numCameras ∧
      assign numTargets assigner rows = .ok (bins.map (fun t u => decide (u = t))) ∧
      Greedy (Candidate (assigner.visible rows)) bins := by
  refine outputs_greedy (fun c hc targetCoverage => ?_)
  obtain ⟨t, hone, hleast⟩ := assigner.assignOne_eq_ok hpos (h ▸ hc) targetCoverage
  exact ⟨t, hleast, hone⟩

/-- How many cameras are assigned a target. -/
def load (assignments : List (Fin numTargets → Bool)) (t : Fin numTargets) : ℕ :=
  assignments.countP (fun assignment => assignment t)

theorem load_map (bins : List (Fin numTargets)) (t : Fin numTargets) :
    load (bins.map (fun s u => decide (u = s))) t = bins.count t := by
  rw [load, List.countP_map, List.count]
  refine List.countP_congr (fun s _ => ?_)
  show decide (t = s) = true ↔ (s == t) = true
  rw [decide_eq_true_iff, beq_iff_eq]
  exact eq_comm

/-- Every camera is assigned one target, a visible one if it sees any, and one of its candidates that
the fewest cameras before it were assigned. -/
structure Balances (visible : ℕ → Fin numTargets → Bool)
    (assignments : List (Fin numTargets → Bool)) : Prop where
  one : ∀ (c : ℕ) assignment, assignments[c]? = some assignment → ∃! t, assignment t = true
  sees : ∀ (c : ℕ) assignment, assignments[c]? = some assignment → (∃ u, visible c u = true) →
    ∀ t, assignment t = true → visible c t = true
  least : ∀ (c : ℕ) assignment, assignments[c]? = some assignment → ∀ t, assignment t = true →
    ∀ u, Candidate visible c u → load (assignments.take c) t ≤ load (assignments.take c) u
  balanced : (∀ c < assignments.length, ∀ t, visible c t = true) ∨
      (∀ c < assignments.length, ∀ t, visible c t = false) →
    ∀ t u, load assignments t ≤ load assignments u + 1

theorem Balances.of_greedy {visible : ℕ → Fin numTargets → Bool} {bins : List (Fin numTargets)}
    (h : Greedy (Candidate visible) bins) : Balances visible (bins.map (fun t u => decide (u = t))) := by
  -- the assignment of a camera is its one target
  have hbin : ∀ {c : ℕ} {assignment : Fin numTargets → Bool},
      (bins.map (fun t u => decide (u = t)))[c]? = some assignment →
      ∃ s, bins[c]? = some s ∧ ∀ t, assignment t = true ↔ t = s := by
    intro c assignment hc
    rw [List.getElem?_map, Option.map_eq_some_iff] at hc
    obtain ⟨s, hs, rfl⟩ := hc
    exact ⟨s, hs, fun t => decide_eq_true_iff⟩
  constructor
  · intro c assignment hc
    obtain ⟨s, -, hassigned⟩ := hbin hc
    exact ⟨s, (hassigned s).mpr rfl, fun t ht => (hassigned t).mp ht⟩
  · rintro c assignment hc ⟨u, hu⟩ t ht
    obtain ⟨s, hs, hassigned⟩ := hbin hc
    obtain rfl := (hassigned t).mp ht
    rcases (h.least hs).mem with ht | hnone
    · exact ht
    · rw [hnone u] at hu
      cases hu
  · intro c assignment hc t ht u hu
    obtain ⟨s, hs, hassigned⟩ := hbin hc
    obtain rfl := (hassigned t).mp ht
    rw [← List.map_take, load_map, load_map]
    exact (h.least hs).le u hu
  · intro hall t u
    rw [load_map, load_map]
    refine h.balanced (fun c hc v => ?_) t u
    rw [List.length_map] at hall
    rcases hall with hall | hnone
    · exact Or.inl (hall c hc v)
    · exact Or.inr (hnone c hc)

/-- **The assigner balances loads.** -/
theorem assign_balances (hpos : 0 < numTargets) (h : rows.length = assigner.numCameras) :
    ∃ assignments, assign numTargets assigner rows = .ok assignments ∧
      assignments.length = assigner.numCameras ∧
      Balances (assigner.visible rows) assignments := by
  obtain ⟨bins, hlength, hassign, hgreedy⟩ := assign_greedy hpos h
  exact ⟨_, hassign, by rw [List.length_map, hlength], Balances.of_greedy hgreedy⟩

/-- Two cameras that see both targets are assigned one each. -/
theorem assign_balances_two :
    let assigner : GreedyAssigner := ⟨2, ⟨0, 2, 1⟩⟩
    ∃ assignments, assign 2 assigner [[1, 1], [1, 1]] = .ok assignments ∧
      assignments.length = 2 ∧ Balances (assigner.visible [[1, 1], [1, 1]]) assignments := by
  intro assigner
  exact assign_balances (by decide) rfl

end Mate.Rllib.GreedyAssigner
