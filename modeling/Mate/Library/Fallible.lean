import Mathlib.Tactic.Common

set_option autoImplicit false

/-! # Postconditions of fallible programs

A program that may raise is an `Except` computation. `Ensures x Q` says that every value
`x` returns satisfies `Q` (nothing is said of a run that raises), and `Returns x Q` says that
`x` does return, with a value satisfying `Q`. Both are closed under `bind` and under the loop
`List.foldlM`, where the postcondition becomes an invariant of the loop. `Raises x P` bounds the
errors instead, and `Alike R x y` compares two programs run side by side.
-/

namespace Fallible

variable {ε α β σ : Type}

/-- Every value returned by `x` satisfies `Q`. -/
def Ensures (x : Except ε α) (Q : α → Prop) : Prop := ∀ a, x = .ok a → Q a

/-- `x` returns a value, and that value satisfies `Q`. -/
def Returns (x : Except ε α) (Q : α → Prop) : Prop := ∃ a, x = .ok a ∧ Q a

/-- A returned value of a sequence is returned by its second half, run on a value returned by
its first half. -/
theorem bind_eq_ok {x : Except ε α} {f : α → Except ε β} {b : β} :
    x >>= f = .ok b ↔ ∃ a, x = .ok a ∧ f a = .ok b := by
  cases x with
  | error e =>
      constructor
      · intro h; cases h
      · rintro ⟨a, h, -⟩; cases h
  | ok a =>
      constructor
      · intro h; exact ⟨a, rfl, h⟩
      · rintro ⟨a', h, hb⟩; cases h; exact hb

/-! ## Partial correctness -/

theorem Ensures.pure {a : α} {Q : α → Prop} (h : Q a) :
    Ensures (Pure.pure a : Except ε α) Q := by
  intro b hb
  cases hb
  exact h

theorem Ensures.mono {x : Except ε α} {P Q : α → Prop} (hx : Ensures x P)
    (h : ∀ a, P a → Q a) : Ensures x Q :=
  fun a ha => h a (hx a ha)

theorem Ensures.bind {x : Except ε α} {f : α → Except ε β} {P : α → Prop} {Q : β → Prop}
    (hx : Ensures x P) (hf : ∀ a, P a → Ensures (f a) Q) : Ensures (x >>= f) Q := by
  intro b hb
  obtain ⟨a, ha, hab⟩ := bind_eq_ok.mp hb
  exact hf a (hx a ha) b hab

/-- The rule of sequence where nothing needs to be known of the first program. -/
theorem Ensures.andThen {x : Except ε α} {f : α → Except ε β} {Q : β → Prop}
    (hf : ∀ a, Ensures (f a) Q) : Ensures (x >>= f) Q := by
  intro b hb
  obtain ⟨a, -, hab⟩ := bind_eq_ok.mp hb
  exact hf a b hab

/-- The loop rule: what every iteration preserves holds when the loop ends. -/
theorem Ensures.foldlM {f : σ → α → Except ε σ} {I : σ → Prop} :
    ∀ (l : List α) (s : σ), I s → (∀ s, ∀ a ∈ l, I s → Ensures (f s a) I) →
      Ensures (l.foldlM f s) I
  | [], s, hs, _ => by
      rw [List.foldlM_nil]
      exact Ensures.pure hs
  | a :: l, s, hs, hf => by
      rw [List.foldlM_cons]
      refine (hf s a List.mem_cons_self hs).bind (fun s' hs' => ?_)
      exact Ensures.foldlM l s' hs' (fun s b hb => hf s b (List.mem_cons_of_mem a hb))

/-- The loop rule with an invariant of the elements that are left. -/
theorem Ensures.foldlM_rest {f : σ → α → Except ε σ} (I : List α → σ → Prop)
    (hf : ∀ a rest s, I (a :: rest) s → Ensures (f s a) (I rest)) :
    ∀ (l : List α) (s : σ), I l s → Ensures (l.foldlM f s) (I [])
  | [], s, hs => by
      rw [List.foldlM_nil]
      exact Ensures.pure hs
  | a :: rest, s, hs => by
      rw [List.foldlM_cons]
      exact (hf a rest s hs).bind (fun s' hs' => Ensures.foldlM_rest I hf rest s' hs')

/-- The rule of a loop that treats the entries of an array one after the other. -/
theorem Ensures.foldlM_each {ι X : Type} {f : σ → ι → Except ε σ} (entry : σ → ι → X)
    (x₀ : ι → X) (R : ι → X → Prop)
    (hf : ∀ s i, entry s i = x₀ i →
      Ensures (f s i) (fun s' => R i (entry s' i) ∧ ∀ j, j ≠ i → entry s' j = entry s j))
    {l : List ι} (hnodup : l.Nodup) (s : σ) (hs : ∀ i, entry s i = x₀ i) :
    Ensures (l.foldlM f s) (fun s' => ∀ i ∈ l, R i (entry s' i)) := by
  -- the entries that are left are as they were, the others are treated
  refine (Ensures.foldlM_rest (fun rest s => rest.Nodup ∧ (∀ i ∈ rest, entry s i = x₀ i)
    ∧ ∀ i ∈ l, i ∉ rest → R i (entry s i)) ?_ l s
    ⟨hnodup, fun i _ => hs i, fun i hi hnot => absurd hi hnot⟩).mono
    (fun s' h i hi => h.2.2 i hi List.not_mem_nil)
  rintro i rest s ⟨hnodup, hleft, hdone⟩ s' hs'
  obtain ⟨hnotin, hrest⟩ := List.nodup_cons.mp hnodup
  obtain ⟨hR, hother⟩ := hf s i (hleft i List.mem_cons_self) s' hs'
  have hne : ∀ j ∈ rest, j ≠ i := fun j hj h => hnotin (h ▸ hj)
  refine ⟨hrest, fun j hj => ?_, fun j hj hnot => ?_⟩
  · rw [hother j (hne j hj)]
    exact hleft j (List.mem_cons_of_mem i hj)
  · by_cases h : j = i
    · exact h ▸ hR
    · rw [hother j h]
      exact hdone j hj (fun hmem => (List.mem_cons.mp hmem).elim h hnot)

/-- A loop whose body acts on an image as another body does on the source. -/
theorem foldlM_map {τ : Type} {f : τ → α → Except ε τ} {f' : σ → α → Except ε σ} (g : σ → τ)
    (h : ∀ s a, f (g s) a = (f' s a).map g) :
    ∀ (l : List α) (s : σ), l.foldlM f (g s) = (l.foldlM f' s).map g
  | [], s => by
      rw [List.foldlM_nil, List.foldlM_nil]
      rfl
  | a :: l, s => by
      rw [List.foldlM_cons, List.foldlM_cons, h]
      cases f' s a with
      | error e => rfl
      | ok s' => exact foldlM_map g h l s'

/-! ## Total correctness -/

theorem Returns.ensures {x : Except ε α} {Q : α → Prop} (h : Returns x Q) : Ensures x Q := by
  obtain ⟨a, rfl, hQ⟩ := h
  intro b hb
  cases hb
  exact hQ

theorem Returns.pure {a : α} {Q : α → Prop} (h : Q a) :
    Returns (Pure.pure a : Except ε α) Q :=
  ⟨a, rfl, h⟩

theorem Returns.mono {x : Except ε α} {P Q : α → Prop} (hx : Returns x P)
    (h : ∀ a, P a → Q a) : Returns x Q := by
  obtain ⟨a, ha, hP⟩ := hx
  exact ⟨a, ha, h a hP⟩

theorem Returns.bind {x : Except ε α} {f : α → Except ε β} {P : α → Prop} {Q : β → Prop}
    (hx : Returns x P) (hf : ∀ a, P a → Returns (f a) Q) : Returns (x >>= f) Q := by
  obtain ⟨a, rfl, hP⟩ := hx
  exact hf a hP

/-- The loop rule of total correctness. The invariant may mention the elements processed so
far, so that it can say what happens once to each of them. -/
theorem Returns.foldlM {f : σ → α → Except ε σ} (I : List α → σ → Prop) (l : List α) (s : σ)
    (hs : I [] s)
    (hf : ∀ done a rest s, l = done ++ a :: rest → I done s → Returns (f s a) (I (done ++ [a]))) :
    Returns (l.foldlM f s) (I l) := by
  have key : ∀ (rest done : List α) (s : σ), l = done ++ rest → I done s →
      Returns (rest.foldlM f s) (I l) := by
    intro rest
    induction rest with
    | nil =>
        intro done s hl hI
        rw [List.foldlM_nil]
        rw [List.append_nil] at hl
        exact Returns.pure (hl ▸ hI)
    | cons a rest ih =>
        intro done s hl hI
        rw [List.foldlM_cons]
        refine (hf done a rest s hl hI).bind (fun s' hs' => ?_)
        exact ih (done ++ [a]) s' (by rw [hl, List.append_assoc, List.singleton_append]) hs'
  exact key l [] s rfl hs

/-! ## Lists -/

/-- A program that returns on all elements of a list. -/
theorem mapM_eq_ok {f : α → Except ε β} {g : α → β} :
    ∀ {l : List α}, (∀ a ∈ l, f a = .ok (g a)) → l.mapM f = .ok (l.map g)
  | [], _ => by
      rw [List.mapM_nil]
      rfl
  | a :: l, h => by
      rw [List.mapM_cons, h a List.mem_cons_self,
        mapM_eq_ok (fun b hb => h b (List.mem_cons_of_mem a hb))]
      rfl

theorem length_of_mapM {f : α → Except ε β} :
    ∀ {l : List α} {bs : List β}, l.mapM f = .ok bs → bs.length = l.length
  | [], bs, h => by
      rw [List.mapM_nil] at h
      cases h
      rfl
  | a :: l, bs, h => by
      rw [List.mapM_cons] at h
      obtain ⟨b, -, h⟩ := bind_eq_ok.mp h
      obtain ⟨rest, hrest, h⟩ := bind_eq_ok.mp h
      cases h
      exact congrArg (· + 1) (length_of_mapM hrest)

/-- The results belong to the elements in turn. -/
theorem forall₂_of_mapM {f : α → Except ε β} :
    ∀ {l : List α} {bs : List β}, l.mapM f = .ok bs → List.Forall₂ (fun a b => f a = .ok b) l bs
  | [], bs, h => by
      rw [List.mapM_nil] at h
      cases h
      exact .nil
  | a :: l, bs, h => by
      rw [List.mapM_cons] at h
      obtain ⟨b, hb, h⟩ := bind_eq_ok.mp h
      obtain ⟨rest, hrest, h⟩ := bind_eq_ok.mp h
      cases h
      exact .cons hb (forall₂_of_mapM hrest)

theorem filterAuxM_eq_ok {f : α → Except ε Bool} {g : α → Bool} :
    ∀ {l : List α} (acc : List α), (∀ a ∈ l, f a = .ok (g a)) →
      l.filterAuxM f acc = .ok ((l.filter g).reverse ++ acc)
  | [], acc, _ => rfl
  | a :: l, acc, h => by
      have hrest : ∀ b ∈ l, f b = .ok (g b) := fun b hb => h b (List.mem_cons_of_mem a hb)
      have hhead : (a :: l).filterAuxM f acc = l.filterAuxM f (bif g a then a :: acc else acc) := by
        show (f a >>= fun b => l.filterAuxM f (bif b then a :: acc else acc)) = _
        rw [h a List.mem_cons_self]
        rfl
      rw [hhead, filterAuxM_eq_ok _ hrest]
      cases hg : g a with
      | true => rw [List.filter_cons_of_pos hg, List.reverse_cons, List.append_assoc]; rfl
      | false => rw [List.filter_cons_of_neg (hg ▸ Bool.false_ne_true)]; rfl

/-- A test that returns on all elements of a list. -/
theorem filterM_eq_ok {f : α → Except ε Bool} {g : α → Bool} {l : List α}
    (h : ∀ a ∈ l, f a = .ok (g a)) : l.filterM f = .ok (l.filter g) := by
  show (l.filterAuxM f [] >>= fun as => pure as.reverse) = _
  rw [filterAuxM_eq_ok [] h, List.append_nil]
  show Except.ok ((l.filter g).reverse.reverse) = _
  rw [List.reverse_reverse]

/-- What holds of every result holds of all of them. -/
theorem Ensures.mapM {f : α → Except ε β} {P : β → Prop} :
    ∀ {l : List α}, (∀ a ∈ l, Ensures (f a) P) → Ensures (l.mapM f) (fun bs => ∀ b ∈ bs, P b)
  | [], _ => by
      rw [List.mapM_nil]
      exact Ensures.pure (fun b hb => absurd hb List.not_mem_nil)
  | a :: l, h => by
      rw [List.mapM_cons]
      refine (h a List.mem_cons_self).bind (fun b hb => ?_)
      refine (Ensures.mapM (fun a' ha' => h a' (List.mem_cons_of_mem a ha'))).bind (fun bs hbs => ?_)
      exact Ensures.pure (List.forall_mem_cons.mpr ⟨hb, hbs⟩)

/-! ## Errors -/

/-- Every error raised by `x` satisfies `P`. -/
def Raises (x : Except ε α) (P : ε → Prop) : Prop := ∀ e, x = .error e → P e

theorem Raises.pure {a : α} {P : ε → Prop} : Raises (Pure.pure a : Except ε α) P := by
  intro e h
  cases h

theorem Raises.bind {x : Except ε α} {f : α → Except ε β} {P : ε → Prop} (hx : Raises x P)
    (hf : ∀ a, Raises (f a) P) : Raises (x >>= f) P := by
  intro e h
  cases x with
  | error e' =>
      cases h
      exact hx e rfl
  | ok a => exact hf a e h

theorem Raises.foldlM {f : σ → α → Except ε σ} {P : ε → Prop} (hf : ∀ s a, Raises (f s a) P) :
    ∀ (l : List α) (s : σ), Raises (l.foldlM f s) P
  | [], s => by
      rw [List.foldlM_nil]
      exact Raises.pure
  | a :: l, s => by
      rw [List.foldlM_cons]
      exact (hf s a).bind (fun s' => Raises.foldlM hf l s')

/-! ## Two programs side by side -/

/-- Both return, with values related by `R`, or both raise the same error. -/
def Alike (R : α → β → Prop) : Except ε α → Except ε β → Prop
  | .ok a, .ok b => R a b
  | .error e, .error e' => e = e'
  | _, _ => False

theorem Alike.pure {R : α → β → Prop} {a : α} {b : β} (h : R a b) :
    Alike R (Pure.pure a : Except ε α) (Pure.pure b) :=
  h

theorem Alike.of_eq {R : α → α → Prop} (hR : ∀ a, R a a) {x y : Except ε α} (h : x = y) :
    Alike R x y := by
  subst h
  cases x with
  | error e => exact rfl
  | ok a => exact hR a

/-- Equal up to what `g` forgets. -/
theorem Alike.of_map_eq {γ : Type} {x : Except ε α} {y : Except ε β} {g : α → γ} {g' : β → γ}
    (h : x.map g = y.map g') : Alike (fun a b => g a = g' b) x y := by
  cases x with
  | error e =>
      cases y with
      | error e' => cases h; exact rfl
      | ok b => cases h
  | ok a =>
      cases y with
      | error e' => cases h
      | ok b => exact Except.ok.inj h

theorem Alike.eq {x y : Except ε α} (h : Alike Eq x y) : x = y := by
  cases x with
  | error e =>
      cases y with
      | error e' => exact congrArg Except.error h
      | ok b => exact h.elim
  | ok a =>
      cases y with
      | error e' => exact h.elim
      | ok b => exact congrArg Except.ok h

theorem Alike.mono {R R' : α → β → Prop} {x : Except ε α} {y : Except ε β} (h : Alike R x y)
    (hR : ∀ a b, R a b → R' a b) : Alike R' x y := by
  cases x with
  | error e =>
      cases y with
      | error e' => exact h
      | ok b => exact h
  | ok a =>
      cases y with
      | error e' => exact h
      | ok b => exact hR a b h

theorem Alike.and_ensures {R : α → β → Prop} {x : Except ε α} {y : Except ε β} {P : α → Prop}
    {Q : β → Prop} (h : Alike R x y) (hx : Ensures x P) (hy : Ensures y Q) :
    Alike (fun a b => R a b ∧ P a ∧ Q b) x y := by
  cases x with
  | error e =>
      cases y with
      | error e' => exact h
      | ok b => exact h
  | ok a =>
      cases y with
      | error e' => exact h
      | ok b => exact ⟨h, hx a rfl, hy b rfl⟩

theorem Alike.bind {α' β' : Type} {R : α → β → Prop} {R' : α' → β' → Prop} {x : Except ε α}
    {y : Except ε β} {f : α → Except ε α'} {g : β → Except ε β'} (h : Alike R x y)
    (hfg : ∀ a b, R a b → Alike R' (f a) (g b)) : Alike R' (x >>= f) (y >>= g) := by
  cases x with
  | error e =>
      cases y with
      | error e' => exact h
      | ok b => exact h.elim
  | ok a =>
      cases y with
      | error e' => exact h.elim
      | ok b => exact hfg a b h

/-- Two programs on all elements of a list. -/
theorem Alike.mapM {α' β' : Type} {R : α' → β' → Prop} {f : α → Except ε α'} {g : α → Except ε β'} :
    ∀ {l : List α}, (∀ a ∈ l, Alike R (f a) (g a)) → Alike (List.Forall₂ R) (l.mapM f) (l.mapM g)
  | [], _ => by
      rw [List.mapM_nil, List.mapM_nil]
      exact Alike.pure List.Forall₂.nil
  | a :: l, h => by
      rw [List.mapM_cons, List.mapM_cons]
      refine (h a List.mem_cons_self).bind (fun b b' hb => ?_)
      refine (Alike.mapM (fun a' ha' => h a' (List.mem_cons_of_mem a ha'))).bind (fun bs bs' hbs => ?_)
      exact Alike.pure (List.Forall₂.cons hb hbs)

/-- Two loops over one list. The relation may mention the elements processed so far. -/
theorem Alike.foldlM {τ : Type} {f : σ → α → Except ε σ} {g : τ → α → Except ε τ}
    (R : List α → σ → τ → Prop) (l : List α) {s : σ} {t : τ} (hst : R [] s t)
    (hfg : ∀ done a s t, R done s t → Alike (R (done ++ [a])) (f s a) (g t a)) :
    Alike (R l) (l.foldlM f s) (l.foldlM g t) := by
  have key : ∀ (rest done : List α) (s : σ) (t : τ), R done s t →
      Alike (R (done ++ rest)) (rest.foldlM f s) (rest.foldlM g t) := by
    intro rest
    induction rest with
    | nil =>
        intro done s t hR
        rw [List.append_nil, List.foldlM_nil, List.foldlM_nil]
        exact Alike.pure hR
    | cons a rest ih =>
        intro done s t hR
        rw [List.foldlM_cons, List.foldlM_cons, List.append_cons]
        refine (hfg done a s t hR).bind (fun s' t' hR' => ?_)
        exact ih (done ++ [a]) s' t' hR'
  exact key l [] s t hst

end Fallible
