import Mate.Rllib.RecurrentAgent

set_option autoImplicit false

/-! # The histories behind unrolled outputs

`unroll_current_and_next` runs one recurrence along the current observations. At each step it branches
off to the next observation, and does not come back. Where the next observation is the current one
of the next step, the branch computes what the recurrence computes there (`next_eq_current`). Nothing
depends on what comes later (`current_congr`, `next_congr`).
-/

namespace Mate.Rllib.RecurrentAgent

open Nets

variable {shape : AgentShape} (model : RecurrentAgent shape)

/-- The next observation of each step is the observation of the step after it. -/
def Aligned (sequence : List (Transition shape)) : Prop :=
  ∀ t, t + 1 < sequence.length →
    (sequence.map Transition.nextObs)[t]? = (sequence.map Transition.obs)[t + 1]?

/-- Two sequences have the same observations up to step `t` and the same actions before it. -/
def SameHistory (t : ℕ) (sequence sequence' : List (Transition shape)) : Prop :=
  (sequence.map Transition.obs).take (t + 1) = (sequence'.map Transition.obs).take (t + 1) ∧
    (sequence.map Transition.actions).take t = (sequence'.map Transition.actions).take t

/-- They also have the same next observation and action at step `t`. -/
def SameBranch (t : ℕ) (sequence sequence' : List (Transition shape)) : Prop :=
  (sequence.map Transition.nextObs)[t]? = (sequence'.map Transition.nextObs)[t]? ∧
    (sequence.map Transition.actions)[t]? = (sequence'.map Transition.actions)[t]?

theorem Aligned.tail {tr : Transition shape} {rest : List (Transition shape)}
    (h : Aligned (tr :: rest)) : Aligned rest := by
  intro t ht
  have hlength : t + 1 + 1 < (tr :: rest).length := by simpa using ht
  simpa using h (t + 1) hlength

theorem SameHistory.head {t : ℕ} {tr tr' : Transition shape} {rest rest' : List (Transition shape)}
    (h : SameHistory t (tr :: rest) (tr' :: rest')) : tr.obs = tr'.obs := by
  have hobs := h.1
  simp only [List.map_cons, List.take_succ_cons, List.cons.injEq] at hobs
  exact hobs.1

theorem SameHistory.tail {t : ℕ} {tr tr' : Transition shape} {rest rest' : List (Transition shape)}
    (h : SameHistory (t + 1) (tr :: rest) (tr' :: rest')) :
    tr.actions = tr'.actions ∧ SameHistory t rest rest' := by
  obtain ⟨hobs, hactions⟩ := h
  simp only [List.map_cons, List.take_succ_cons, List.cons.injEq] at hobs hactions
  exact ⟨hactions.1, hobs.2, hactions.2⟩

/-- Neither sequence reaches step `t`, or both do. -/
theorem SameHistory.cases {t : ℕ} {sequence sequence' : List (Transition shape)}
    (h : SameHistory t sequence sequence') : sequence = [] ∧ sequence' = [] ∨
      ∃ tr rest tr' rest', sequence = tr :: rest ∧ sequence' = tr' :: rest' := by
  have hlength := congrArg List.length h.1
  simp only [List.length_take, List.length_map] at hlength
  cases sequence with
  | nil =>
      left
      have hnil : sequence'.length = 0 := by
        rw [List.length_nil] at hlength
        omega
      exact ⟨rfl, List.length_eq_zero_iff.mp hnil⟩
  | cons tr rest =>
      right
      cases sequence' with
      | nil =>
          rw [List.length_cons, List.length_nil] at hlength
          omega
      | cons tr' rest' => exact ⟨tr, rest, tr', rest', rfl, rfl⟩

variable (hidden : shape.Hidden) (previous : Fin shape.nAgents → Fin shape.nActions → ℝ)

/-- The branch of a step is the step after it, where the observations are the same. -/
theorem unrollFrom_next_eq_current {sequence : List (Transition shape)} (h : Aligned sequence) {t : ℕ}
    (ht : t + 1 < sequence.length) :
    ((model.unrollFrom hidden previous sequence).map Unrolled.next)[t]?
      = ((model.unrollFrom hidden previous sequence).map Unrolled.current)[t + 1]? := by
  induction sequence generalizing hidden previous t with
  | nil => exact absurd ht (Nat.not_lt_zero _)
  | cons tr rest ih =>
      cases t with
      | zero =>
          have halign := h 0 ht
          cases rest with
          | nil => simp at ht
          | cons following rest =>
              simp only [List.map_cons, List.getElem?_cons_zero, List.getElem?_cons_succ,
                Option.some.injEq] at halign
              simp only [unrollFrom, List.map_cons, List.getElem?_cons_zero,
                List.getElem?_cons_succ, halign]
      | succ t =>
          simp only [unrollFrom, List.map_cons, List.getElem?_cons_succ]
          exact ih _ _ h.tail (by simpa using ht)

/-- Outputs and hidden states are those of the history. Both recurrences have consumed the same
observations and actions when they reach step `t`, so they are in the same state. -/
theorem unrollFrom_congr {sequence sequence' : List (Transition shape)} {t : ℕ}
    (h : SameHistory t sequence sequence') :
    ((model.unrollFrom hidden previous sequence).map Unrolled.current)[t]?
        = ((model.unrollFrom hidden previous sequence').map Unrolled.current)[t]? ∧
      ((model.unrollFrom hidden previous sequence).map Unrolled.hidden)[t]?
        = ((model.unrollFrom hidden previous sequence').map Unrolled.hidden)[t]? ∧
      (SameBranch t sequence sequence' →
        ((model.unrollFrom hidden previous sequence).map Unrolled.next)[t]?
          = ((model.unrollFrom hidden previous sequence').map Unrolled.next)[t]?) := by
  induction t generalizing hidden previous sequence sequence' with
  | zero =>
      rcases h.cases with ⟨rfl, rfl⟩ | ⟨tr, rest, tr', rest', rfl, rfl⟩
      · exact ⟨rfl, rfl, fun _ => rfl⟩
      · simp only [unrollFrom, List.map_cons, List.getElem?_cons_zero, h.head]
        refine ⟨trivial, trivial, fun hbranch => ?_⟩
        obtain ⟨hnext, hactions⟩ := hbranch
        simp only [List.map_cons, List.getElem?_cons_zero, Option.some.injEq] at hnext hactions
        rw [hnext, hactions]
  | succ t ih =>
      rcases h.cases with ⟨rfl, rfl⟩ | ⟨tr, rest, tr', rest', rfl, rfl⟩
      · exact ⟨rfl, rfl, fun _ => rfl⟩
      · obtain ⟨hactions, htail⟩ := h.tail
        simp only [unrollFrom, List.map_cons, List.getElem?_cons_succ, h.head, hactions]
        obtain ⟨hcurrent, hhidden, hnext⟩ := ih _ _ htail
        refine ⟨hcurrent, hhidden, fun hbranch => hnext ?_⟩
        simpa [SameBranch] using hbranch

/-- **Unrolled outputs are consistent with the recurrent history**, in every sequence of a batch. -/
theorem unrollCurrentAndNext_history {ι : Type} (batch batch' : ι → List (Transition shape)) (b : ι)
    (t : ℕ) :
    (Aligned (batch b) → t + 1 < (batch b).length →
      ((model.unrollCurrentAndNext (batch b)).map Unrolled.next)[t]?
        = ((model.unrollCurrentAndNext (batch b)).map Unrolled.current)[t + 1]?) ∧
    (SameHistory t (batch b) (batch' b) →
      ((model.unrollCurrentAndNext (batch b)).map Unrolled.current)[t]?
          = ((model.unrollCurrentAndNext (batch' b)).map Unrolled.current)[t]? ∧
        ((model.unrollCurrentAndNext (batch b)).map Unrolled.hidden)[t]?
          = ((model.unrollCurrentAndNext (batch' b)).map Unrolled.hidden)[t]? ∧
        (SameBranch t (batch b) (batch' b) →
          ((model.unrollCurrentAndNext (batch b)).map Unrolled.next)[t]?
            = ((model.unrollCurrentAndNext (batch' b)).map Unrolled.next)[t]?)) :=
  ⟨fun h ht => model.unrollFrom_next_eq_current _ _ h ht, fun h => model.unrollFrom_congr _ _ h⟩

end Mate.Rllib.RecurrentAgent
