import Mate.Library.Nets
import Mathlib.Order.Filter.Extr

set_option autoImplicit false

/-! # Decentralised maximisation

Agents `ι` choose from actions `α`, each by a utility of its own. A value of joint actions satisfies
*Individual-Global-Max* (`Igm`) when the joint action that is put together from each agent's best
allowed action is best among all allowed joint actions. Monotone values of the utilities satisfy it
(`Igm.of_monotone`), as do values that subtract a non-negative multiple of what an agent misses
(`Igm.of_advantage`), and a correction that is nowhere positive and vanishes at the greedy joint
action preserves it (`isMaxOn_add_correction`).
-/

namespace Mixing

variable {ι α β γ : Type*}

/-- Every agent plays an allowed action. -/
def Allowed (allowed : ι → Set α) (a : ι → α) : Prop := ∀ i, a i ∈ allowed i

/-- Every agent plays an allowed action that is best by its own utility. -/
def Greedy [Preorder β] (allowed : ι → Set α) (utility : ι → α → β) (a : ι → α) : Prop :=
  Allowed allowed a ∧ ∀ i, IsMaxOn (utility i) (allowed i) (a i)

/-- Individual-Global-Max. -/
def Igm [Preorder β] [Preorder γ] (allowed : ι → Set α) (utility : ι → α → β)
    (joint : (ι → α) → γ) : Prop :=
  ∀ a, Greedy allowed utility a → IsMaxOn joint {b | Allowed allowed b} a

section

variable [Preorder β] {allowed : ι → Set α} {utility : ι → α → β} {a b : ι → α}

theorem Greedy.le (ha : Greedy allowed utility a) (hb : Allowed allowed b) (i : ι) :
    utility i (b i) ≤ utility i (a i) :=
  ha.2 i (hb i)

theorem Igm.of_monotone [Preorder γ] (allowed : ι → Set α) (utility : ι → α → β)
    {mix : (ι → β) → γ} (h : Monotone mix) :
    Igm allowed utility (fun a => mix (fun i => utility i (a i))) := by
  intro a ha b hb
  exact h (fun i => ha.le hb i)

/-- What an agent adds to all its utilities does not change what is greedy. -/
theorem Igm.add_left {δ : Type*} [Preorder δ] {utility : ι → α → ℝ} {joint : (ι → α) → δ}
    (h : Igm allowed utility joint) (c : ι → ℝ) :
    Igm allowed (fun i k => c i + utility i k) joint := by
  intro a ha
  refine h a ⟨ha.1, fun i k hk => ?_⟩
  exact (add_le_add_iff_left (c i)).mp (ha.2 i hk)

/-- A correction that only lowers, and not at `a`, leaves `a` best. -/
theorem isMaxOn_add_correction {δ : Type*} {main correction : δ → ℝ} {s : Set δ} {x : δ}
    (hmain : IsMaxOn main s x) (hcorrection : ∀ y, correction y ≤ 0) (hx : correction x = 0) :
    IsMaxOn (fun y => main y + correction y) s x := by
  intro y hy
  calc main y + correction y
      ≤ main y := add_le_of_nonpos_right (hcorrection y)
    _ ≤ main x := hmain hy
    _ = main x + correction x := by rw [hx, add_zero]

end

/-- What the agents miss of their best utilities, with weights that depend on the whole joint
action. -/
theorem Igm.of_advantage [Fintype ι] {allowed : ι → Set α} {utility : ι → α → ℝ} {best : ι → ℝ}
    (hle : ∀ i, ∀ k ∈ allowed i, utility i k ≤ best i)
    (hbest : ∀ i, ∃ k ∈ allowed i, utility i k = best i)
    {weight : (ι → α) → ι → ℝ} (hweight : ∀ a i, 0 ≤ weight a i) (c : ℝ) :
    Igm allowed utility
      (fun a => c + ∑ i, weight a i * (utility i (a i) - best i)) := by
  intro a ha b hb
  have hzero : ∀ i, utility i (a i) = best i := by
    intro i
    obtain ⟨k, hk, heq⟩ := hbest i
    exact le_antisymm (hle i _ (ha.1 i)) (heq ▸ ha.2 i hk)
  have hgreedy : ∑ i, weight a i * (utility i (a i) - best i) = 0 :=
    Finset.sum_eq_zero (fun i _ => by rw [hzero i, sub_self, mul_zero])
  have hother : ∑ i, weight b i * (utility i (b i) - best i) ≤ 0 :=
    Finset.sum_nonpos (fun i _ =>
      mul_nonpos_of_nonneg_of_nonpos (hweight b i) (sub_nonpos.mpr (hle i _ (hb i))))
  show c + _ ≤ c + _
  rw [hgreedy]
  exact add_le_add le_rfl hother

/-! ## Masked utilities -/

section Masked

open Nets

variable {n : ℕ}

/-- Utilities with minus infinity for what is not available. -/
def masked (available : Fin n → Bool) (q : Fin n → ℝ) : Fin n → WithBot ℝ :=
  fun k => if available k then (q k : WithBot ℝ) else ⊥

/-- The first best available action. -/
noncomputable def maskedArgmax (hn : 0 < n) (available : Fin n → Bool) (q : Fin n → ℝ) : Fin n :=
  argmax hn (masked available q)

variable {hn : 0 < n} {available : Fin n → Bool} {q : Fin n → ℝ}

theorem masked_of_available {k : Fin n} (h : available k = true) :
    masked available q k = (q k : WithBot ℝ) := if_pos h

theorem available_maskedArgmax (h : ∃ k, available k = true) :
    available (maskedArgmax hn available q) = true := by
  obtain ⟨k, hk⟩ := h
  by_contra hnot
  have hle := le_argmax hn (masked available q) k
  rw [masked_of_available hk, show masked available q (argmax hn _) = ⊥ from if_neg hnot] at hle
  exact absurd (le_bot_iff.mp hle) WithBot.coe_ne_bot

theorem le_maskedArgmax {k : Fin n} (hk : available k = true) :
    q k ≤ q (maskedArgmax hn available q) := by
  have hle := le_argmax hn (masked available q) k
  rw [masked_of_available hk] at hle
  have hbest : available (maskedArgmax hn available q) = true := available_maskedArgmax ⟨k, hk⟩
  rw [show masked available q (argmax hn _) = _ from masked_of_available hbest] at hle
  exact WithBot.coe_le_coe.mp hle

/-- The masked greedy joint action is greedy. -/
theorem greedy_maskedArgmax {m : ℕ} (hn : 0 < n) {available : Fin m → Fin n → Bool}
    (h : ∀ i, ∃ k, available i k = true) (q : Fin m → Fin n → ℝ) :
    Greedy (fun i => {k | available i k = true}) q
      (fun i => maskedArgmax hn (available i) (q i)) :=
  ⟨fun i => available_maskedArgmax (h i), fun _ _ hk => le_maskedArgmax hk⟩

end Masked

end Mixing
