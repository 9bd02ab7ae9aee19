import Mathlib.Algebra.BigOperators.Group.List.Basic
import Mathlib.Algebra.Order.Group.Basic
import Mathlib.Tactic.Common

set_option autoImplicit false

/-! # Runs of a labelled transition relation

`Run step s₀ ls s` says that the labels `ls`, taken in order from `s₀`, lead to `s`. What a
single step preserves holds after a run (`Run.invariant`), what every step gains at most is
bounded by the change of a potential (`Run.sum_le`), a run of one system is a run of any system
it maps onto (`Run.map`), a run can be cut at every label (`Run.split`), and runs of a
deterministic system with the same inputs are the same (`Run.unique`).
-/

namespace Runs

variable {S T L M : Type}

/-- The runs of `step` from `s₀`: the labels taken and the state reached. -/
inductive Run (step : S → L → S → Prop) (s₀ : S) : List L → S → Prop
  | nil : Run step s₀ [] s₀
  | snoc {ls : List L} {s s' : S} {l : L} :
      Run step s₀ ls s → step s l s' → Run step s₀ (ls ++ [l]) s'

variable {step : S → L → S → Prop} {s₀ s s' : S} {ls ls' rest : List L}

/-- What holds at the start and is preserved by every step holds after every run. -/
theorem Run.invariant (I : S → Prop) (h₀ : I s₀) (hstep : ∀ s l s', I s → step s l s' → I s')
    (h : Run step s₀ ls s) : I s := by
  induction h with
  | nil => exact h₀
  | snoc _ hl ih => exact hstep _ _ _ ih hl

/-- The rule with the labels in view: an invariant of the labels taken and the state. -/
theorem Run.induct (I : List L → S → Prop) (h₀ : I [] s₀)
    (hstep : ∀ ls s l s', I ls s → step s l s' → I (ls ++ [l]) s')
    (h : Run step s₀ ls s) : I ls s := by
  induction h with
  | nil => exact h₀
  | snoc _ hl ih => exact hstep _ _ _ _ ih hl

/-- What the steps gain adds up to no more than the potential has grown, if no step gains more
than it adds to the potential. -/
theorem Run.sum_le {A : Type} [AddCommGroup A] [PartialOrder A] [IsOrderedAddMonoid A]
    (I : S → Prop) (gain : L → A) (potential : S → A) (h₀ : I s₀)
    (hstep : ∀ s l s', I s → step s l s' → I s' ∧ potential s + gain l ≤ potential s')
    (h : Run step s₀ ls s) : potential s₀ + (ls.map gain).sum ≤ potential s := by
  have hboth : I s ∧ potential s₀ + (ls.map gain).sum ≤ potential s := by
    induction h with
    | nil => exact ⟨h₀, by simp⟩
    | snoc _ hl ih =>
        obtain ⟨hI, hle⟩ := hstep _ _ _ ih.1 hl
        refine ⟨hI, ?_⟩
        rw [List.map_append, List.sum_append, List.map_singleton, List.sum_singleton, ← add_assoc]
        exact (add_le_add_left ih.2 _).trans hle
  exact hboth.2

theorem Run.single {l : L} (h : step s l s') : Run step s [l] s' :=
  Run.snoc Run.nil h

theorem Run.trans (h : Run step s₀ ls s) (h' : Run step s ls' s') :
    Run step s₀ (ls ++ ls') s' := by
  induction h' with
  | nil => rwa [List.append_nil]
  | snoc _ hl ih =>
      rw [← List.append_assoc]
      exact ih.snoc hl

/-- Where a label of an extended list is: it is the last one, or one of the list. -/
theorem snoc_eq_append_cons {l l' : L} (h : ls ++ [l'] = ls' ++ l :: rest) :
    rest = [] ∧ ls = ls' ∧ l' = l ∨ ∃ init, rest = init ++ [l'] ∧ ls = ls' ++ l :: init := by
  rcases List.eq_nil_or_concat rest with rfl | ⟨init, last, rfl⟩
  · obtain ⟨rfl, hlast⟩ := List.append_inj' h rfl
    exact .inl ⟨rfl, rfl, List.singleton_inj.mp hlast⟩
  · rw [List.concat_eq_append, ← List.cons_append, ← List.append_assoc] at h
    obtain ⟨hinit, hlast⟩ := List.append_inj' h rfl
    rw [List.concat_eq_append, List.singleton_inj.mp hlast]
    exact .inr ⟨init, rfl, hinit⟩

/-- A run cut at a label: the run before it, the step it took, and the run after it. -/
theorem Run.split {l : L} (h : Run step s₀ (ls ++ l :: ls') s') :
    ∃ a b, Run step s₀ ls a ∧ step a l b ∧ Run step b ls' s' := by
  generalize hall : ls ++ l :: ls' = all at h
  induction h generalizing ls' with
  | nil => simp at hall
  | @snoc ks t t' k hr hk ih =>
      rcases snoc_eq_append_cons hall.symm with ⟨rfl, rfl, rfl⟩ | ⟨init, rfl, rfl⟩
      · exact ⟨t, t', hr, hk, Run.nil⟩
      · obtain ⟨a, b, ha, hl, hb⟩ := ih rfl
        exact ⟨a, b, ha, hl, hb.snoc hk⟩

/-- The beginning of a run. -/
theorem Run.initial (h : Run step s₀ ls s) (hinitial : ls' <+: ls) : ∃ a, Run step s₀ ls' a := by
  obtain ⟨rest, rfl⟩ := hinitial
  cases rest with
  | nil =>
      rw [List.append_nil] at h
      exact ⟨s, h⟩
  | cons l rest =>
      obtain ⟨a, -, ha, -⟩ := h.split
      exact ⟨a, ha⟩

theorem Run.mono {step' : S → L → S → Prop} (hstep : ∀ s l s', step s l s' → step' s l s')
    (h : Run step s₀ ls s) : Run step' s₀ ls s := by
  induction h with
  | nil => exact Run.nil
  | snoc _ hl ih => exact ih.snoc (hstep _ _ _ hl)

/-- Simulation: when every step of one system is a step of another under `f` and `g`, so is
every run. -/
theorem Run.map {step' : T → M → T → Prop} (f : S → T) (g : L → M)
    (hstep : ∀ s l s', step s l s' → step' (f s) (g l) (f s')) (h : Run step s₀ ls s) :
    Run step' (f s₀) (ls.map g) (f s) := by
  induction h with
  | nil => exact Run.nil
  | snoc _ hl ih =>
      rw [List.map_append]
      exact ih.snoc (hstep _ _ _ hl)

/-- In a system where a label and the next state are determined by the `input` of the label,
runs with the same inputs are the same. -/
theorem Run.unique {s₁ s₂ : S} {ls₁ ls₂ : List L} (input : L → M)
    (hdet : ∀ s l₁ s₁ l₂ s₂, step s l₁ s₁ → step s l₂ s₂ → input l₁ = input l₂ → l₁ = l₂ ∧ s₁ = s₂)
    (h₁ : Run step s₀ ls₁ s₁) (h₂ : Run step s₀ ls₂ s₂) (hinput : ls₁.map input = ls₂.map input) :
    ls₁ = ls₂ ∧ s₁ = s₂ := by
  induction h₁ generalizing ls₂ s₂ with
  | nil =>
      cases h₂ with
      | nil => exact ⟨rfl, rfl⟩
      | snoc _ _ => simp at hinput
  | snoc _ hl₁ ih =>
      cases h₂ with
      | nil => simp at hinput
      | snoc h₂ hl₂ =>
          rw [List.map_append, List.map_append] at hinput
          obtain ⟨hinit, hlast⟩ := List.append_inj' hinput rfl
          obtain ⟨rfl, rfl⟩ := ih h₂ hinit
          obtain ⟨rfl, rfl⟩ := hdet _ _ _ _ _ hl₁ hl₂ (List.singleton_inj.mp hlast)
          exact ⟨rfl, rfl⟩

end Runs

/-! # The rounds of a run

Some labels of a run end a round. `rounds` cuts the labels after each of these: the labels of
every finished round, without the one that ends it; `since` has the labels after the last end.
`Run.rounds_invariant` is the induction rule: an invariant of the finished rounds, of the round
that is open, and of the state.
-/

namespace Runs

variable {S L : Type} (ends : L → Bool)

/-- The finished rounds, and the open one. -/
def cut (ls : List L) : List (List L) × List L :=
  ls.foldl (fun r l => if ends l then (r.1 ++ [r.2], []) else (r.1, r.2 ++ [l])) ([], [])

/-- The labels of every finished round. -/
def rounds (ls : List L) : List (List L) := (cut ends ls).1

/-- The labels since the last end of a round. -/
def since (ls : List L) : List L := (cut ends ls).2

variable {ends}

@[simp] theorem rounds_nil : rounds ends [] = [] := rfl

@[simp] theorem since_nil : since ends [] = [] := rfl

theorem cut_snoc (ls : List L) (l : L) :
    cut ends (ls ++ [l]) = if ends l then (rounds ends ls ++ [since ends ls], [])
      else (rounds ends ls, since ends ls ++ [l]) := by
  rw [cut, List.foldl_append]
  rfl

theorem rounds_snoc_of_ends {l : L} (hl : ends l = true) (ls : List L) :
    rounds ends (ls ++ [l]) = rounds ends ls ++ [since ends ls] := by
  rw [rounds, cut_snoc, if_pos hl]

theorem rounds_snoc {l : L} (hl : ends l = false) (ls : List L) :
    rounds ends (ls ++ [l]) = rounds ends ls := by
  rw [rounds, cut_snoc, hl, if_neg Bool.false_ne_true]

theorem since_snoc_of_ends {l : L} (hl : ends l = true) (ls : List L) :
    since ends (ls ++ [l]) = [] := by
  rw [since, cut_snoc, if_pos hl]

theorem since_snoc {l : L} (hl : ends l = false) (ls : List L) :
    since ends (ls ++ [l]) = since ends ls ++ [l] := by
  rw [since, cut_snoc, hl, if_neg Bool.false_ne_true]

/-- The induction rule for a run whose labels satisfy `P`. -/
theorem Run.rounds_invariant {step : S → L → S → Prop} {s₀ s : S} {ls : List L} {P : L → Prop}
    (I : List (List L) → List L → S → Prop) (h₀ : I [] [] s₀)
    (hend : ∀ done current s l s', ends l = true → P l → I done current s → step s l s' →
      I (done ++ [current]) [] s')
    (hgo : ∀ done current s l s', ends l = false → P l → I done current s → step s l s' →
      I done (current ++ [l]) s')
    (h : Run step s₀ ls s) (hP : ∀ l ∈ ls, P l) : I (rounds ends ls) (since ends ls) s := by
  induction h with
  | nil => exact h₀
  | @snoc ls s s' l _ hl ih =>
      have hI := ih (fun l hl => hP l (List.mem_append_left _ hl))
      have hPl := hP l (List.mem_append_right _ (List.mem_singleton.mpr rfl))
      cases hends : ends l with
      | true =>
          rw [rounds_snoc_of_ends hends, since_snoc_of_ends hends]
          exact hend _ _ _ _ _ hends hPl hI hl
      | false =>
          rw [rounds_snoc hends, since_snoc hends]
          exact hgo _ _ _ _ _ hends hPl hI hl

end Runs
