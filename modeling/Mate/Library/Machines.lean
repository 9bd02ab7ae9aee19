import Mate.Library.Fallible
import Mathlib.Data.List.Forall2
import Mathlib.Data.List.Induction
import Mathlib.Tactic.Common

set_option autoImplicit false

/-! # Machines that may fail

A machine takes an input in a state, and returns an output and the next state, or raises.
`outputs` runs it along a list of inputs. Two machines that are run side by side give related
outputs when each pair of steps does (`Alike.outputs`).
-/

namespace Fallible

variable {ε σ τ α α' β β' : Type}

/-- The outputs of the machine `f` along its inputs. -/
def outputs (f : σ → α → Except ε (β × σ)) : σ → List α → Except ε (List β)
  | _, [] => pure []
  | s, a :: l => do
      let result ← f s a
      let rest ← outputs f result.2 l
      return result.1 :: rest

/-- What every step preserves keeps the machine from failing. -/
theorem Returns.outputs {f : σ → α → Except ε (β × σ)} {I : σ → Prop} {P : β → Prop} :
    ∀ (l : List α) (s : σ), I s →
      (∀ s, ∀ a ∈ l, I s → Returns (f s a) (fun r => P r.1 ∧ I r.2)) →
      Returns (outputs f s l) (fun bs => bs.length = l.length ∧ ∀ b ∈ bs, P b)
  | [], s, _, _ => by
      apply Returns.pure
      exact ⟨rfl, fun b hb => absurd hb List.not_mem_nil⟩
  | a :: l, s, hs, hf => by
      refine (hf s a List.mem_cons_self hs).bind (fun r hr => ?_)
      refine (Returns.outputs l r.2 hr.2
        (fun s b hb => hf s b (List.mem_cons_of_mem a hb))).bind (fun bs hbs => ?_)
      apply Returns.pure
      refine ⟨by rw [List.length_cons, List.length_cons, hbs.1], fun b hb => ?_⟩
      rcases List.mem_cons.mp hb with rfl | hb
      · exact hr.1
      · exact hbs.2 b hb

/-- A machine with an invariant of the steps that were taken, and what it puts out at each. -/
theorem outputs_eq_ok {f : σ → α → Except ε (β × σ)} (I : ℕ → σ → Prop) (Q : ℕ → β → Prop)
    (l : List α) (s : σ) (hs : I 0 s)
    (hf : ∀ t a s, l[t]? = some a → I t s → ∃ b s', f s a = .ok (b, s') ∧ Q t b ∧ I (t + 1) s') :
    ∃ bs, outputs f s l = .ok bs ∧ bs.length = l.length ∧ ∀ t b, bs[t]? = some b → Q t b := by
  induction l generalizing I Q s with
  | nil => exact ⟨[], rfl, rfl, fun t b hb => absurd hb (by simp)⟩
  | cons a l ih =>
      obtain ⟨b, s', hstep, hb, hs'⟩ := hf 0 a s rfl hs
      obtain ⟨bs, hbs, hlength, hall⟩ := ih (fun t => I (t + 1)) (fun t => Q (t + 1)) s' hs'
        (fun t a s ha hI => hf (t + 1) a s ha hI)
      refine ⟨b :: bs, ?_, congrArg (· + 1) hlength, ?_⟩
      · exact bind_eq_ok.mpr ⟨(b, s'), hstep, bind_eq_ok.mpr ⟨bs, hbs, rfl⟩⟩
      · intro t b' hb'
        cases t with
        | zero =>
            cases hb'
            exact hb
        | succ t => exact hall t b' hb'

/-- The first output is that of the first step. -/
theorem head_outputs {f : σ → α → Except ε (β × σ)} {s : σ} {a : α} {l : List α} {bs : List β}
    (h : outputs f s (a :: l) = .ok bs) : ∃ r, f s a = .ok r ∧ bs.head? = some r.1 := by
  obtain ⟨r, hr, h⟩ := bind_eq_ok.mp h
  obtain ⟨rest, -, h⟩ := bind_eq_ok.mp h
  cases h
  exact ⟨r, hr, rfl⟩

/-- Two machines side by side, the second one on an image of the inputs of the first. -/
theorem Alike.outputs {f : σ → α → Except ε (β × σ)} {g : τ → α' → Except ε (β' × τ)}
    {R : σ → τ → Prop} {Q : β → β' → Prop} (view : α → α') :
    ∀ (l : List α) (s : σ) (t : τ), R s t →
      (∀ s t, ∀ a ∈ l, R s t →
        Alike (fun r r' => Q r.1 r'.1 ∧ R r.2 r'.2) (f s a) (g t (view a))) →
      Alike (List.Forall₂ Q) (outputs f s l) (outputs g t (l.map view))
  | [], _, _, _, _ => Alike.pure List.Forall₂.nil
  | a :: l, s, t, hst, hfg => by
      refine (hfg s t a List.mem_cons_self hst).bind (fun r r' hr => ?_)
      refine (Alike.outputs view l r.2 r'.2 hr.2
        (fun s t b hb => hfg s t b (List.mem_cons_of_mem a hb))).bind (fun bs bs' hbs => ?_)
      exact Alike.pure (List.Forall₂.cons hr.1 hbs)

/-- Outputs that are related by a function are the image of the first ones. -/
theorem Alike.eq_map {view : β → β'} {x : Except ε (List β)} {y : Except ε (List β')}
    (h : Alike (List.Forall₂ (fun b b' => b' = view b)) x y) : y = x.map (List.map view) := by
  cases x with
  | error e =>
      cases y with
      | error e' => exact congrArg Except.error h.symm
      | ok bs' => exact h.elim
  | ok bs =>
      cases y with
      | error e' => exact h.elim
      | ok bs' =>
          apply congrArg Except.ok
          have hall : List.Forall₂ (fun b b' => b' = view b) bs bs' := h
          induction hall with
          | nil => rfl
          | cons hb _ ih => rw [List.map_cons, hb, ih ‹_›]

end Fallible

/-! # Machines with a hidden state

A machine reads one input after the other and puts out something for each. `after` is the state
that a sequence of inputs leads to, and `last` the last output. A machine can remember all that it
has read, so two sequences have the same last output under every machine only if they are equal
(`last_eq_iff`).
-/

namespace Mealy

structure Machine (σ α β : Type) where
  start : σ
  step : α → σ → β × σ

namespace Machine

variable {σ α β γ : Type} (m : Machine σ α β)

/-- The state after the inputs. -/
def after (inputs : List α) : σ := inputs.foldl (fun s a => (m.step a s).2) m.start

/-- The output for the last input. -/
def last (inputs : List α) : Option β :=
  inputs.getLast?.map (fun a => (m.step a (m.after inputs.dropLast)).1)

@[simp] theorem after_nil : m.after [] = m.start := rfl

@[simp] theorem last_nil : m.last [] = none := rfl

theorem after_concat (inputs : List α) (a : α) :
    m.after (inputs ++ [a]) = (m.step a (m.after inputs)).2 := by
  rw [after, List.foldl_append]
  rfl

theorem last_concat (inputs : List α) (a : α) :
    m.last (inputs ++ [a]) = some (m.step a (m.after inputs)).1 := by
  rw [last, List.getLast?_concat, List.dropLast_concat, Option.map_some]

theorem exists_last {inputs : List α} (h : inputs ≠ []) : ∃ b, m.last inputs = some b := by
  rcases List.eq_nil_or_concat inputs with rfl | ⟨init, a, rfl⟩
  · exact absurd rfl h
  · rw [List.concat_eq_append]
    exact ⟨_, m.last_concat init a⟩

end Machine

/-! ## A machine that remembers -/

open Classical in
/-- It puts out `b` after exactly these inputs, and `b'` after any others. -/
noncomputable def remembering {α β : Type} (inputs : List α) (b b' : β) :
    Machine (List α) α β where
  start := []
  step a s := (if s ++ [a] = inputs then b else b', s ++ [a])

section

variable {α β γ : Type} {inputs : List α} {b b' : β}

theorem after_remembering (l : List α) : (remembering inputs b b').after l = l := by
  induction l using List.reverseRecOn with
  | nil => rfl
  | append_singleton l a ih =>
      rw [Machine.after_concat, ih]
      rfl

open Classical in
theorem last_remembering {l : List α} (hl : l ≠ []) :
    (remembering inputs b b').last l = some (if l = inputs then b else b') := by
  rcases List.eq_nil_or_concat l with rfl | ⟨init, a, rfl⟩
  · exact absurd rfl hl
  · rw [List.concat_eq_append, Machine.last_concat, after_remembering]
    rfl

/-- **Sequences are told apart** by what the machines put out last, if that is not always looked
at in the same way. -/
theorem last_eq_iff (g : β → γ) (hg : ∃ b b', g b ≠ g b') (l l' : List α) :
    (∀ (σ : Type) (m : Machine σ α β), (m.last l).map g = (m.last l').map g) ↔ l = l' := by
  obtain ⟨b, b', hne⟩ := hg
  constructor
  · intro h
    by_contra hll'
    have hlast := h _ (remembering l b b')
    by_cases hl : l = []
    · -- nothing is put out for the one, and something for the other
      subst hl
      rw [last_remembering (Ne.symm hll'), Machine.last_nil] at hlast
      cases hlast
    · by_cases hl' : l' = []
      · subst hl'
        rw [last_remembering hl, Machine.last_nil] at hlast
        cases hlast
      · rw [last_remembering hl, last_remembering hl', if_pos rfl, if_neg (Ne.symm hll')] at hlast
        exact hne (Option.some.inj hlast)
  · rintro rfl σ m
    rfl

end

end Mealy
