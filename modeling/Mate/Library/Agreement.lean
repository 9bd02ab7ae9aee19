import Mathlib.Order.Bounds.Basic
import Mathlib.Tactic.Common
import Mathlib.Data.Set.Lattice
import Mathlib.Logic.Function.Basic
import Mathlib.Order.Basic

set_option autoImplicit false

/-! # Gossip about facts that stay true

Facts come to hold and never cease to. Agents learn facts from evidence, which shows only facts
that hold when it arises, and from messages, which carry what their sender knew. Messages may be
delayed, lost, duplicated and reordered: a message that was sent may be read at any time by
anybody. Whatever an agent knows, or a message says, holds (`Step.sound`, `Sound.mono`).
-/

namespace Gossip

variable {A F : Type*}

/-- The facts that hold, those that evidence shows, those each agent knows, and what the messages
say that were sent. -/
structure State (A F : Type*) where
  holds : Set F
  shown : Set F
  known : A → Set F
  sent : Set (Set F)

/-- Knowledge and evidence are true. -/
structure Sound (s : State A F) : Prop where
  shown : s.shown ⊆ s.holds
  known : ∀ i, s.known i ⊆ s.holds
  sent : ∀ m ∈ s.sent, m ⊆ s.holds

/-- What may happen. Forgetting is allowed throughout. -/
structure Step (s s' : State A F) : Prop where
  holds : s.holds ⊆ s'.holds
  shown : s'.shown ⊆ s.shown ∪ s'.holds
  known : ∀ i, s'.known i ⊆ s.known i ∪ s.shown ∪ ⋃₀ s.sent
  sent : ∀ m ∈ s'.sent, m ∈ s.sent ∨ ∃ i, m ⊆ s.known i

/-- **Gossip is sound**: a step keeps knowledge true. -/
theorem Step.sound {s s' : State A F} (h : Step s s') (hs : Sound s) : Sound s' where
  shown := by
    intro f hf
    rcases h.shown hf with hold | hnew
    · exact h.holds (hs.shown hold)
    · exact hnew
  known := by
    intro i f hf
    apply h.holds
    rcases h.known i hf with (hold | hseen) | htold
    · exact hs.known i hold
    · exact hs.shown hseen
    · obtain ⟨m, hm, hfm⟩ := htold
      exact hs.sent m hm hfm
  sent := by
    intro m hm f hf
    apply h.holds
    rcases h.sent m hm with hold | ⟨i, hknown⟩
    · exact hs.sent m hold hf
    · exact hs.known i (hknown hf)

end Gossip

/-! # Agreement on a meet after one round of broadcasts

Parties hold elements of a meet semilattice, which only get smaller. A party is *dirty* when its
element has got smaller since the last round. In a round every dirty party broadcasts its element
once, to everybody, and everybody takes the meet of what it holds and what it hears. The others
need not speak, since everybody is below what they hold; so after the round everybody holds the
meet of all that was held before it (`Settled.isGLB_hear`).
-/

namespace Agreement

variable {ι α : Type*} [SemilatticeInf α]

/-- What a party holds after it has heard the elements of a list. -/
def hear (held : α) (heard : List α) : α := heard.foldl (· ⊓ ·) held

theorem hear_le_held (held : α) (heard : List α) : hear held heard ≤ held := by
  induction heard generalizing held with
  | nil => exact le_refl held
  | cons a rest ih => exact (ih (held ⊓ a)).trans inf_le_left

theorem hear_le_of_mem {held a : α} {heard : List α} (h : a ∈ heard) : hear held heard ≤ a := by
  induction heard generalizing held with
  | nil => exact absurd h List.not_mem_nil
  | cons b rest ih =>
      rcases List.mem_cons.mp h with rfl | hrest
      · exact (hear_le_held (held ⊓ a) rest).trans inf_le_right
      · exact ih hrest

theorem le_hear {held b : α} {heard : List α} (hheld : b ≤ held) (h : ∀ a ∈ heard, b ≤ a) :
    b ≤ hear held heard := by
  induction heard generalizing held with
  | nil => exact hheld
  | cons a rest ih =>
      apply ih
      · exact le_inf hheld (h a List.mem_cons_self)
      · exact fun a' ha' => h a' (List.mem_cons_of_mem a ha')

/-- Everybody is below `base`, which all clean parties hold. -/
structure Settled (held : ι → α) (dirty : ι → Bool) (base : α) : Prop where
  le_base : ∀ i, held i ≤ base
  clean : ∀ i, dirty i = false → held i = base

/-- Some parties learn something, and are dirty from then on; the others learn nothing. -/
theorem Settled.learn {held held' : ι → α} {dirty dirty' : ι → Bool} {base : α}
    (h : Settled held dirty base)
    (hlearn : ∀ i, held' i ≤ held i ∧ dirty' i = true ∨ held' i = held i ∧ dirty' i = dirty i) :
    Settled held' dirty' base where
  le_base := by
    intro i
    rcases hlearn i with ⟨hle, -⟩ | ⟨hsame, -⟩
    · exact hle.trans (h.le_base i)
    · rw [hsame]
      exact h.le_base i
  clean := by
    intro i hclean
    rcases hlearn i with ⟨-, hdirty⟩ | ⟨hsame, hdirty⟩
    · rw [hdirty] at hclean
      cases hclean
    · rw [hsame]
      exact h.clean i (hdirty ▸ hclean)

/-- **Agreement**: hearing the elements of the dirty parties, everybody ends up with the meet of
all elements. -/
theorem Settled.isGLB_hear {held : ι → α} {dirty : ι → Bool} {base : α}
    (h : Settled held dirty base) {heard : List α}
    (hheard : ∀ a, a ∈ heard ↔ ∃ i, dirty i = true ∧ held i = a) (i : ι) :
    IsGLB (Set.range held) (hear (held i) heard) := by
  constructor
  · rintro a ⟨j, rfl⟩
    cases hdirty : dirty j with
    | true => exact hear_le_of_mem ((hheard (held j)).mpr ⟨j, hdirty, rfl⟩)
    | false =>
        -- a clean party holds `base`, and everybody is below that
        calc hear (held i) heard ≤ held i := hear_le_held _ _
          _ ≤ base := h.le_base i
          _ = held j := (h.clean j hdirty).symm
  · intro b hb
    apply le_hear
    · exact hb (Set.mem_range_self i)
    · intro a ha
      obtain ⟨j, -, rfl⟩ := (hheard a).mp ha
      exact hb (Set.mem_range_self j)

/-- After the round nobody is dirty, and everybody holds the same. -/
theorem Settled.round {held : ι → α} {dirty : ι → Bool} {base : α}
    (h : Settled held dirty base) {heard : List α}
    (hheard : ∀ a, a ∈ heard ↔ ∃ i, dirty i = true ∧ held i = a) :
    ∃ base', Settled (fun i => hear (held i) heard) (fun _ => false) base' := by
  by_cases hsome : Nonempty ι
  · obtain ⟨i⟩ := hsome
    refine ⟨hear (held i) heard, fun j => ?_, fun j _ => ?_⟩
    · exact ((h.isGLB_hear hheard j).unique (h.isGLB_hear hheard i)).le
    · exact (h.isGLB_hear hheard j).unique (h.isGLB_hear hheard i)
  · exact ⟨base, fun j => absurd ⟨j⟩ hsome, fun j => absurd ⟨j⟩ hsome⟩

end Agreement
