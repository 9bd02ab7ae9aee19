import Mate.Library.Runs
import Mathlib.Logic.Function.Basic

set_option autoImplicit false

/-! # Parts of a system that share a cell

Every part of the system has a state of its own, and all of them share one cell. Some actions
claim the cell: they overwrite it, whatever it holds. All others find it as it is and leave it
alone. A part is disturbed by the others if one of its actions finds the cell different from
what its own last claim has left there; up to that, a run of the whole system is, for each of its
parts, a run of the part alone (`run_alone`).
-/

namespace Interference

open Runs

/-- A part: its actions on the cell and on its own state. `agrees s a r r'` says that the action
`a` cannot tell the contents `r` and `r'` of the cell apart. -/
structure Part (R S A : Type) where
  act : R × S → A → R × S → Prop
  claims : A → Bool
  agrees : S → A → R → R → Prop
  agrees_refl : ∀ s a r, agrees s a r r
  act_claim : ∀ {r s a r' s'}, act (r, s) a (r', s') → claims a = true →
    ∀ r₂, act (r₂, s) a (r', s')
  act_use : ∀ {r s a r' s'}, act (r, s) a (r', s') → claims a = false →
    r' = r ∧ ∀ r₂, agrees s a r r₂ → act (r₂, s) a (r₂, s')

/-- The state of the system. What the last claim of every part has left in the cell is history:
no action looks at it. -/
structure Shared {ι : Type} (R : Type) (S : ι → Type) where
  cell : R
  left : ι → R
  parts : ∀ i, S i

variable {ι R : Type} [DecidableEq ι] {S A : ι → Type} (part : ∀ i, Part R (S i) (A i))

/-- One action of one part. -/
inductive Step : Shared R S → (Σ i, A i) → Shared R S → Prop
  | act {s : Shared R S} (i : ι) (a : A i) {r : R} {t : S i} :
      (part i).act (s.cell, s.parts i) a (r, t) →
      Step s ⟨i, a⟩
        ⟨r, if (part i).claims a then Function.update s.left i r else s.left,
          Function.update s.parts i t⟩

/-- If the action is one of part `i` that does not claim the cell, it cannot tell what it finds
there from what the last claim of `i` has left. -/
def Undisturbed (i : ι) (s : Shared R S) (l : Σ i, A i) : Prop :=
  ∀ a, l = ⟨i, a⟩ → (part i).claims a = false → (part i).agrees (s.parts i) a s.cell (s.left i)

/-- The actions of part `i` among those of a list. -/
def own (i : ι) (ls : List (Σ i, A i)) : List (A i) :=
  ls.filterMap (fun l => if h : l.1 = i then some (h ▸ l.2) else none)

theorem own_snoc_self (i : ι) (ls : List (Σ i, A i)) (a : A i) :
    own i (ls ++ [⟨i, a⟩]) = own i ls ++ [a] := by
  simp [own]

theorem own_snoc_of_ne {i j : ι} (h : j ≠ i) (ls : List (Σ i, A i)) (a : A j) :
    own i (ls ++ [⟨j, a⟩]) = own i ls := by
  simp [own, h]

variable {part}

/-- What the others do changes neither the state of `i` nor what its last claim has left. -/
theorem Step.other {i : ι} {s s' : Shared R S} {l : Σ i, A i} (h : Step part s l s')
    (hl : l.1 ≠ i) : s'.parts i = s.parts i ∧ s'.left i = s.left i := by
  cases h with
  | act j a hact =>
      refine ⟨Function.update_of_ne (Ne.symm hl) _ _, ?_⟩
      show (if (part j).claims a then Function.update s.left j _ else s.left) i = s.left i
      split
      · exact Function.update_of_ne (Ne.symm hl) _ _
      · rfl

omit [DecidableEq ι] in
/-- As long as the cell is what the last claim of `i` has left, nothing of `i` is disturbed. -/
theorem undisturbed_of_eq {i : ι} {s : Shared R S} (h : s.cell = s.left i) (l : Σ i, A i) :
    Undisturbed part i s l := by
  intro a _ _
  rw [h]
  exact (part i).agrees_refl _ _ _

/-- Only a claim of another part makes them different. -/
theorem Step.cell_eq_left {i : ι} {s s' : Shared R S} {l : Σ i, A i} (h : Step part s l s')
    (hl : l.1 ≠ i → (part l.1).claims l.2 = false) (hs : s.cell = s.left i) :
    s'.cell = s'.left i := by
  cases h with
  | @act j a r t hact =>
      show r = (if (part j).claims a then Function.update s.left j r else s.left) i
      cases hclaims : (part j).claims a with
      | true =>
          have hj : j = i := by
            by_contra hne
            rw [hl hne] at hclaims
            cases hclaims
          subst hj
          rw [if_pos rfl, Function.update_self]
      | false =>
          rw [if_neg Bool.false_ne_true, ((part j).act_use hact hclaims).1]
          exact hs

/-- A run in which no other part claims the cell does not disturb `i`. -/
theorem run_undisturbed {i : ι} {s₀ s : Shared R S} {ls : List (Σ i, A i)}
    (hstart : s₀.left i = s₀.cell)
    (h : Run (fun s l s' => Step part s l s' ∧ (l.1 ≠ i → (part l.1).claims l.2 = false)) s₀ ls s) :
    Run (fun s l s' => Step part s l s' ∧ Undisturbed part i s l) s₀ ls s := by
  refine (h.induct (fun ls s => s.cell = s.left i
    ∧ Run (fun s l s' => Step part s l s' ∧ Undisturbed part i s l) s₀ ls s)
    ⟨hstart.symm, Run.nil⟩ ?_).2
  rintro ls s l s' ⟨heq, hrun⟩ ⟨hstep, hl⟩
  exact ⟨hstep.cell_eq_left hl heq, hrun.snoc ⟨hstep, undisturbed_of_eq heq l⟩⟩

/-- **The run of a part alone.** If no action of `i` is disturbed, its actions are a run of `i`
without the others. -/
theorem run_alone (i : ι) {s₀ s : Shared R S} {ls : List (Σ i, A i)}
    (hstart : s₀.left i = s₀.cell)
    (h : Run (fun s l s' => Step part s l s' ∧ Undisturbed part i s l) s₀ ls s) :
    Run (part i).act (s₀.cell, s₀.parts i) (own i ls) (s.left i, s.parts i) := by
  refine h.induct (fun ls s => Run (part i).act (s₀.cell, s₀.parts i) (own i ls)
    (s.left i, s.parts i)) ?_ ?_
  · rw [hstart]
    exact Run.nil
  · rintro ls s l s' ih ⟨hstep, hund⟩
    by_cases hl : l.1 = i
    · cases hstep with
      | act j a hact =>
          cases hl
          rw [own_snoc_self]
          refine ih.snoc ?_
          show (part j).act _ a ((if (part j).claims a then Function.update s.left j _
            else s.left) j, Function.update s.parts j _ j)
          rw [Function.update_self]
          cases hclaims : (part j).claims a with
          | true =>
              -- the cell is overwritten, whatever it holds
              rw [if_pos rfl, Function.update_self]
              exact (part j).act_claim hact hclaims (s.left j)
          | false =>
              rw [if_neg Bool.false_ne_true]
              exact ((part j).act_use hact hclaims).2 (s.left j) (hund a rfl hclaims)
    · obtain ⟨hparts, hleft⟩ := hstep.other hl
      rw [hparts, hleft]
      obtain ⟨j, a⟩ := l
      rw [own_snoc_of_ne hl]
      exact ih

end Interference
