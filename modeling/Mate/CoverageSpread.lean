import Mate.GreedyLoads
import Mate.Rllib.HierarchicalCameraV2

set_option autoImplicit false

/-! # How a coverage assignment spreads the cameras

`GreedyCoverageAssigner` counts once which targets are seen by how many cameras, and does not
count what it assigns. So every camera gets the first of its rarest targets, whatever the cameras
before it got (`assignAll_rarest`), and cameras that see the same targets get the same one.
-/

namespace Mate.Rllib.GreedyCoverageAssigner

open Fallible LoadBalance GreedyAssigner

variable {numTargets : ℕ} {visibilityMatrix : List (Fin numTargets → Bool)}

/-! ## One camera -/

/-- The targets that a camera may be assigned. -/
def Candidate (visible : Fin numTargets → Bool) (t : Fin numTargets) : Prop :=
  visible t = true ∨ ∀ u, visible u = false

/-- The first one of the targets that are seen by the fewest cameras, among those that a camera may
be assigned. -/
def Rarest (visibilityMatrix : List (Fin numTargets → Bool)) (visible : Fin numTargets → Bool)
    (t : Fin numTargets) : Prop :=
  FirstLeast (fun u => visibilityMatrix.countP (fun row => row u)) (Candidate visible) t

theorem leastCovered_eq_ok_iff {count : Fin numTargets → ℕ} {p : Fin numTargets → Bool}
    {t : Fin numTargets} (h : leastCovered count ((List.finRange numTargets).filter p) = .ok t) :
    FirstLeast count (fun u => p u = true) t := by
  have hsorted : ((List.finRange numTargets).filter p).Pairwise (· < ·) :=
    (List.pairwise_lt_finRange numTargets).filter p
  unfold leastCovered at h
  cases hmin : ((List.finRange numTargets).filter p).argmin count with
  | none =>
      rw [hmin] at h
      cases h
  | some u =>
      rw [hmin] at h
      cases h
      exact (FirstLeast.of_argmin hsorted hmin).congr (by simp)

variable (visibilityMatrix) in
/-- A camera is assigned its rarest target. -/
theorem assignOne_eq_ok (hpos : 0 < numTargets) (visible : Fin numTargets → Bool) :
    ∃ t, assignOne (coverageCount visibilityMatrix) visible = .ok (fun u => decide (u = t)) ∧
      Rarest visibilityMatrix visible t := by
  have hfind : ∀ p : Fin numTargets → Bool, (∃ u, p u = true) →
      ∃ t, leastCovered (coverageCount visibilityMatrix) ((List.finRange numTargets).filter p)
        = .ok t := by
    rintro p ⟨u, hu⟩
    have hne : (List.finRange numTargets).filter p ≠ [] :=
      List.ne_nil_of_mem (List.mem_filter.mpr ⟨List.mem_finRange u, hu⟩)
    obtain ⟨t, ht, -⟩ := GreedyAssigner.leastCovered_eq_ok
      (coverageCount visibilityMatrix) hne
    exact ⟨t, ht⟩
  by_cases hsees : ∃ u, visible u = true
  · -- the search goes over what it sees
    obtain ⟨t, ht⟩ := hfind visible hsees
    have hnonempty : ((List.finRange numTargets).filter visible).isEmpty = false := by
      obtain ⟨u, hu⟩ := hsees
      rw [List.isEmpty_eq_false_iff]
      exact List.ne_nil_of_mem (List.mem_filter.mpr ⟨List.mem_finRange u, hu⟩)
    refine ⟨t, ?_, (leastCovered_eq_ok_iff ht).congr (fun u => ?_)⟩
    · simp only [assignOne, hnonempty, Bool.false_eq_true, if_false, ht]
      rfl
    · constructor
      · exact Or.inl
      · rintro (hu | hnone)
        · exact hu
        · obtain ⟨u', hu'⟩ := hsees
          simp [hnone u'] at hu'
  · -- it sees no one, so the search goes over all targets
    have hnone : ∀ u, visible u = false := by
      intro u
      simpa using fun hu => hsees ⟨u, hu⟩
    have hempty : ((List.finRange numTargets).filter visible).isEmpty = true := by
      simp [hnone]
    have hall : (List.finRange numTargets).filter (fun _ => true) = List.finRange numTargets := by
      simp
    obtain ⟨t, ht⟩ := hfind (fun _ => true) ⟨⟨0, hpos⟩, rfl⟩
    refine ⟨t, ?_, (leastCovered_eq_ok_iff ht).congr (fun u => ?_)⟩
    · rw [hall] at ht
      simp only [assignOne, hempty, if_true, ht]
      rfl
    · simp [Candidate, hnone]

theorem Rarest.unique {visible : Fin numTargets → Bool} {t u : Fin numTargets}
    (ht : Rarest visibilityMatrix visible t) (hu : Rarest visibilityMatrix visible u) : t = u :=
  FirstLeast.unique ht hu

/-! ## All cameras -/

/-- What cameras were assigned: a target each. -/
def Chosen (targets : List (Fin numTargets)) : List (Fin numTargets → Bool) :=
  targets.map (fun t u => decide (u = t))

variable (visibilityMatrix) in
/-- **Every camera is assigned its rarest target**, whatever the others are. -/
theorem assignAll_rarest (hpos : 0 < numTargets ∨ visibilityMatrix = []) :
    ∃ targets : List (Fin numTargets), assignAll visibilityMatrix = .ok (Chosen targets) ∧
      List.Forall₂ (Rarest visibilityMatrix) visibilityMatrix targets := by
  rcases hpos with hpos | rfl
  · choose chosen hassign hrarest using
      assignOne_eq_ok visibilityMatrix hpos
    refine ⟨visibilityMatrix.map chosen, ?_, ?_⟩
    · rw [assignAll, mapM_eq_ok (fun visible _ => hassign visible), Chosen, List.map_map]
      rfl
    · rw [List.forall₂_map_right_iff, List.forall₂_same]
      exact fun visible _ => hrarest visible
  · exact ⟨[], rfl, .nil⟩

/-- Some of the cameras are assigned the target. -/
def Covered (assignments : List (Fin numTargets → Bool)) (t : Fin numTargets) : Prop :=
  ∃ assignment ∈ assignments, assignment t = true

instance (assignments : List (Fin numTargets → Bool)) : DecidablePred (Covered assignments) :=
  fun _ => inferInstanceAs (Decidable (∃ _ ∈ _, _))

theorem covered_chosen {targets : List (Fin numTargets)} {t : Fin numTargets} :
    Covered (Chosen targets) t ↔ t ∈ targets := by
  simp [Covered, Chosen]

/-- The cameras are spread over the targets: every camera is assigned one target, a visible one if
it sees any, and none that a camera before it was assigned while it sees one that no one was. -/
structure Spreads (visibilityMatrix : List (Fin numTargets → Bool))
    (assignments : List (Fin numTargets → Bool)) : Prop where
  length_eq : assignments.length = visibilityMatrix.length
  one : ∀ assignment ∈ assignments, ∃! t, assignment t = true
  sees : ∀ (c : ℕ) visible assignment, visibilityMatrix[c]? = some visible →
    assignments[c]? = some assignment → (∃ u, visible u = true) →
    ∀ t, assignment t = true → visible t = true
  fresh : ∀ (c : ℕ) visible assignment, visibilityMatrix[c]? = some visible →
    assignments[c]? = some assignment → ∀ t, assignment t = true → Covered (assignments.take c) t →
    ∀ u, visible u = true → Covered (assignments.take c) u
  covers : (∀ visible ∈ visibilityMatrix, ∀ t, visible t = true) →
    (Finset.univ.filter (Covered assignments)).card = min visibilityMatrix.length numTargets

/-- A camera sees a target. -/
def SeesAt (visibilityMatrix : List (Fin numTargets → Bool)) (c : ℕ) (u : Fin numTargets) : Prop :=
  ∃ visible, visibilityMatrix[c]? = some visible ∧ visible u = true

/-- A target is the rarest one of a camera before camera `c`. -/
def RarestBefore (visibilityMatrix : List (Fin numTargets → Bool)) (c : ℕ) (t : Fin numTargets) :
    Prop :=
  ∃ visible ∈ visibilityMatrix.take c, Rarest visibilityMatrix visible t

/-- Where the rarest target of a camera is also that of a camera before it, so are all targets that
the camera sees. -/
def Uncontested (visibilityMatrix : List (Fin numTargets → Bool)) : Prop :=
  ∀ (c : ℕ) visible, visibilityMatrix[c]? = some visible → ∀ t,
    Rarest visibilityMatrix visible t → RarestBefore visibilityMatrix c t →
    ∀ u, visible u = true → RarestBefore visibilityMatrix c u

section

variable {targets : List (Fin numTargets)}
  (h : List.Forall₂ (Rarest visibilityMatrix) visibilityMatrix targets)

include h

theorem rarestBefore_iff {c : ℕ} {t : Fin numTargets} :
    RarestBefore visibilityMatrix c t ↔ t ∈ targets.take c := by
  have htake := List.forall₂_take c h
  constructor
  · rintro ⟨visible, hmem, hrarest⟩
    obtain ⟨k, hk, rfl⟩ := List.mem_iff_getElem.mp hmem
    have hk' : k < (targets.take c).length := htake.length_eq ▸ hk
    rw [hrarest.unique (htake.get hk hk')]
    exact List.getElem_mem hk'
  · intro hmem
    obtain ⟨k, hk, rfl⟩ := List.mem_iff_getElem.mp hmem
    have hk' : k < (visibilityMatrix.take c).length := htake.length_eq.symm ▸ hk
    exact ⟨_, List.getElem_mem hk', htake.get hk' hk⟩

theorem rarest_at {c : ℕ} {visible : Fin numTargets → Bool} {t : Fin numTargets}
    (hvisible : visibilityMatrix[c]? = some visible) (ht : targets[c]? = some t) :
    Rarest visibilityMatrix visible t := by
  obtain ⟨hc, rfl⟩ := List.getElem?_eq_some_iff.mp hvisible
  obtain ⟨hc', rfl⟩ := List.getElem?_eq_some_iff.mp ht
  exact h.get hc hc'

theorem getElem?_of_visible {c : ℕ} {visible : Fin numTargets → Bool}
    (hvisible : visibilityMatrix[c]? = some visible) : ∃ t, targets[c]? = some t := by
  have hc : c < targets.length := h.length_eq ▸ (List.getElem?_eq_some_iff.mp hvisible).1
  exact ⟨_, List.getElem?_eq_getElem hc⟩

/-- The rarest targets are contested by no one if they fill the targets first that have no camera.
-/
theorem uncontested_iff : Uncontested visibilityMatrix ↔
    Spreading (SeesAt visibilityMatrix) targets := by
  constructor
  · rintro hfree c t ht hbefore u ⟨visible, hvisible, hu⟩
    have hrarest := rarest_at h hvisible ht
    rw [← rarestBefore_iff h] at hbefore ⊢
    exact hfree c visible hvisible t hrarest hbefore u hu
  · intro hspread c visible hvisible t hrarest hbefore u hu
    obtain ⟨t', ht'⟩ := getElem?_of_visible h hvisible
    obtain rfl := hrarest.unique (rarest_at h hvisible ht')
    rw [rarestBefore_iff h] at hbefore ⊢
    exact hspread c _ ht' hbefore u ⟨visible, hvisible, hu⟩

/-- The rarest targets spread the cameras if they fill the targets first that have no camera. -/
theorem spreads_iff : Spreads visibilityMatrix (Chosen targets) ↔
    Spreading (SeesAt visibilityMatrix) targets := by
  -- the assignment of a camera is its one target
  have hat : ∀ {c : ℕ} {assignment : Fin numTargets → Bool},
      (Chosen targets)[c]? = some assignment →
      ∃ s, targets[c]? = some s ∧ ∀ t, assignment t = true ↔ t = s := by
    intro c assignment hc
    rw [Chosen, List.getElem?_map, Option.map_eq_some_iff] at hc
    obtain ⟨s, hs, rfl⟩ := hc
    exact ⟨s, hs, fun t => decide_eq_true_iff⟩
  have htake : ∀ c, (Chosen targets).take c = Chosen (targets.take c) :=
    fun c => List.map_take.symm
  constructor
  · rintro hspreads c t ht hbefore u ⟨visible, hvisible, hu⟩
    have hassigned : (Chosen targets)[c]? = some (fun u => decide (u = t)) := by
      rw [Chosen, List.getElem?_map, ht]
      rfl
    have := hspreads.fresh c visible _ hvisible hassigned t (by simp)
    rw [htake, covered_chosen] at this
    exact covered_chosen.mp (this hbefore u hu)
  · intro hspread
    constructor
    · rw [Chosen, List.length_map, h.length_eq]
    · intro assignment hmem
      obtain ⟨c, hc⟩ := List.mem_iff_getElem?.mp hmem
      obtain ⟨s, -, hassigned⟩ := hat hc
      exact ⟨s, (hassigned s).mpr rfl, fun t ht => (hassigned t).mp ht⟩
    · rintro c visible assignment hvisible hc ⟨u, hu⟩ t ht
      obtain ⟨s, hs, hassigned⟩ := hat hc
      obtain rfl := (hassigned t).mp ht
      rcases (rarest_at h hvisible hs).mem with hsees | hnone
      · exact hsees
      · simp [hnone u] at hu
    · intro c visible assignment hvisible hc t ht hbefore u hu
      obtain ⟨s, hs, hassigned⟩ := hat hc
      obtain rfl := (hassigned t).mp ht
      rw [htake, covered_chosen] at hbefore ⊢
      exact hspread c t hs hbefore u ⟨visible, hvisible, hu⟩
    · intro hall
      -- where all is seen, one target more is covered with every camera
      have hcard := hspread.card (fun c hc t => by
        rw [← h.length_eq] at hc
        exact ⟨visibilityMatrix[c], List.getElem?_eq_getElem hc, hall _ (List.getElem_mem hc) t⟩)
      rw [Fintype.card_fin, ← h.length_eq] at hcard
      rw [← hcard]
      congr 1
      ext t
      simp [covered_chosen]

end

/-! ## The assigner -/

/-- Which targets the cameras see, according to the observations of all cameras. -/
noncomputable def seenIn (numTargets : ℕ) (observations : List (List ℝ)) :
    List (Fin numTargets → Bool) :=
  observations.map (isVisible (opponentMaskSlice observations.length numTargets))

theorem visibilityMatrix_eq_ok (numTargets : ℕ) (observations : List (List ℝ)) :
    GreedyCoverageAssigner.visibilityMatrix observations.length numTargets observations
      = .ok (seenIn numTargets observations) := by
  set slice := opponentMaskSlice observations.length numTargets with hslice
  have hrows : ∀ c ∈ List.range observations.length,
      (do
        let row ← readRow observations c
        return (isVisible slice row : Fin numTargets → Bool) : Except Error _)
        = .ok (isVisible slice (observations.getD c [])) := by
    intro c hc
    have hlt := List.mem_range.mp hc
    rw [readRow, List.getElem?_eq_getElem hlt, List.getD_eq_getElem?_getD,
      List.getElem?_eq_getElem hlt]
    rfl
  rw [GreedyCoverageAssigner.visibilityMatrix, mapM_eq_ok hrows, seenIn, ← hslice]
  congr 1
  refine List.ext_getElem (by simp) (fun c hc hc' => ?_)
  rw [List.length_map, List.length_range] at hc
  simp [hc]

theorem assign_eq (numTargets : ℕ) (observations : List (List ℝ)) :
    assign observations.length numTargets observations
      = assignAll (seenIn numTargets observations) := by
  rw [assign, visibilityMatrix_eq_ok]
  rfl

/-- The assigner spreads the cameras at their observations. -/
def SpreadsAt (numTargets : ℕ) (observations : List (List ℝ)) : Prop :=
  ∃ assignments, assign observations.length numTargets observations = .ok assignments ∧
    Spreads (seenIn numTargets observations) assignments

/-- **When the assigner spreads the cameras**: there is a target to assign, and where the rarest
target of a camera is that of a camera before it, so are all targets that it sees. -/
theorem spreadsAt_iff (numTargets : ℕ) (observations : List (List ℝ)) :
    SpreadsAt numTargets observations ↔ (0 < numTargets ∨ observations = []) ∧
      Uncontested (seenIn numTargets observations) := by
  have hassigned : (0 < numTargets ∨ observations = []) → ∃ targets : List (Fin numTargets),
      assign observations.length numTargets observations = .ok (Chosen targets) ∧
      List.Forall₂ (Rarest (seenIn numTargets observations)) (seenIn numTargets observations)
        targets := by
    intro hpos
    obtain ⟨targets, htargets, hrarest⟩ :=
      assignAll_rarest (seenIn numTargets observations)
        (hpos.imp_right (fun hnil => by rw [hnil, seenIn, List.map_nil]))
    exact ⟨targets, (assign_eq numTargets observations).trans htargets, hrarest⟩
  constructor
  · rintro ⟨assignments, hok, hspreads⟩
    have hpos : 0 < numTargets ∨ observations = [] := by
      -- without targets, a camera would not be assigned one
      by_cases hnil : observations = []
      · exact Or.inr hnil
      · have hlt : 0 < assignments.length := by
          rw [hspreads.length_eq, seenIn, List.length_map]
          exact List.length_pos_iff.mpr hnil
        obtain ⟨t, -⟩ := hspreads.one _ (List.getElem_mem hlt)
        exact Or.inl (Fin.pos t)
    obtain ⟨targets, htargets, hrarest⟩ := hassigned hpos
    rw [htargets] at hok
    cases hok
    exact ⟨hpos, (uncontested_iff hrarest).mpr ((spreads_iff hrarest).mp hspreads)⟩
  · rintro ⟨hpos, hfree⟩
    obtain ⟨targets, htargets, hrarest⟩ := hassigned hpos
    exact ⟨_, htargets, (spreads_iff hrarest).mpr ((uncontested_iff hrarest).mp hfree)⟩

/-- Two cameras that see both targets are assigned the first one. -/
theorem not_spreadsAt_two : ¬ SpreadsAt 2 [List.replicate 46 1, List.replicate 46 1] := by
  have hseen : seenIn 2 [List.replicate 46 1, List.replicate 46 1]
      = [fun _ => true, fun _ => true] := by
    have hvisible : (isVisible (opponentMaskSlice 2 2) (List.replicate 46 1) : Fin 2 → Bool)
        = fun _ => true := by
      have hread : (opponentMaskSlice 2 2).read (List.replicate 46 (1 : ℝ)) = [1, 1] := by
        rfl
      funext t
      rw [isVisible, hread]
      fin_cases t <;> simp
    exact congrArg (fun visible => [visible, visible]) hvisible
  rintro ⟨assignments, hok, hspreads⟩
  rw [assign_eq, hseen] at hok
  cases hok
  rw [hseen] at hspreads
  exact absurd (hspreads.covers (by simp)) (by decide)

end Mate.Rllib.GreedyCoverageAssigner
