import Mate.Library.Fallible

set_option autoImplicit false

/-! # Dictionaries and passes over their entries

A dictionary keeps its entries in the order in which their keys were first set. A `Pass` looks at
one entry, puts another in its place and may raise. A sequence of passes acts on every entry as
the passes of its key do (`run_get?`), so what it returns is left alone by a second run as soon as
the passes of one key get along with each other (`run_idempotent`).
-/

namespace Dicts

open Fallible

structure Dict (K V : Type) where
  entries : List (K × V)

namespace Dict

variable {K V ε : Type} [DecidableEq K]

/-! ## Looking up and setting -/

def lookup (key : K) : List (K × V) → Option V
  | [] => none
  | (k, v) :: rest => if k = key then some v else lookup key rest

def insert (key : K) (value : V) : List (K × V) → List (K × V)
  | [] => [(key, value)]
  | (k, v) :: rest => if k = key then (key, value) :: rest else (k, v) :: insert key value rest

def get? (d : Dict K V) (key : K) : Option V := lookup key d.entries

def set (d : Dict K V) (key : K) (value : V) : Dict K V := ⟨insert key value d.entries⟩

def erase (d : Dict K V) (key : K) : Dict K V := ⟨d.entries.filter (fun e => e.1 ≠ key)⟩

/-- Make `value` the value of the key, where `none` stands for no entry. -/
def put (d : Dict K V) (key : K) : Option V → Dict K V
  | none => d.erase key
  | some value => d.set key value

/-- Put several entries, one after the other. -/
def putAll (d : Dict K V) (entries : List (K × Option V)) : Dict K V :=
  entries.foldl (fun d e => d.put e.1 e.2) d

theorem lookup_insert (key : K) (value : V) (l : List (K × V)) (key' : K) :
    lookup key' (insert key value l) = if key' = key then some value else lookup key' l := by
  induction l with
  | nil => simp only [insert, lookup, eq_comm]
  | cons e rest ih =>
      obtain ⟨k, v⟩ := e
      by_cases hk : k = key
      · subst hk
        rw [insert, if_pos rfl, lookup, lookup]
        simp only [eq_comm]
        split <;> rfl
      · rw [insert, if_neg hk, lookup, lookup, ih]
        by_cases hk' : k = key'
        · rw [if_pos hk', if_pos hk', if_neg (fun h => hk (hk'.trans h))]
        · rw [if_neg hk', if_neg hk']

theorem lookup_filter (key : K) (l : List (K × V)) (key' : K) :
    lookup key' (l.filter (fun e => e.1 ≠ key)) = if key' = key then none else lookup key' l := by
  induction l with
  | nil => simp only [List.filter_nil, lookup, ite_self]
  | cons e rest ih =>
      obtain ⟨k, v⟩ := e
      by_cases hk : k = key
      · rw [List.filter_cons_of_neg (by simpa using hk), ih, lookup]
        by_cases hk' : key' = key
        · rw [if_pos hk', if_pos hk']
        · rw [if_neg hk', if_neg hk', if_neg (fun h => hk' (h.symm.trans hk))]
      · rw [List.filter_cons_of_pos (by simpa using hk), lookup, lookup, ih]
        by_cases hk' : k = key'
        · rw [if_pos hk', if_pos hk', if_neg (fun h => hk (hk'.trans h))]
        · rw [if_neg hk', if_neg hk']

/-- What a dictionary holds after an entry has been put. -/
theorem get?_put (d : Dict K V) (key : K) (value : Option V) (key' : K) :
    (d.put key value).get? key' = if key' = key then value else d.get? key' := by
  cases value with
  | none => exact lookup_filter key d.entries key'
  | some value => exact lookup_insert key value d.entries key'

@[simp] theorem get?_put_self (d : Dict K V) (key : K) (value : Option V) :
    (d.put key value).get? key = value := by
  rw [get?_put, if_pos rfl]

theorem get?_put_of_ne (d : Dict K V) {key key' : K} (h : key' ≠ key) (value : Option V) :
    (d.put key value).get? key' = d.get? key' := by
  rw [get?_put, if_neg h]

theorem insert_of_lookup {key : K} {value : V} {l : List (K × V)} (h : lookup key l = some value) :
    insert key value l = l := by
  induction l with
  | nil => cases h
  | cons e rest ih =>
      obtain ⟨k, v⟩ := e
      rw [lookup] at h
      by_cases hk : k = key
      · rw [if_pos hk] at h
        cases h
        rw [insert, if_pos hk, hk]
      · rw [if_neg hk] at h
        rw [insert, if_neg hk, ih h]

theorem filter_of_lookup {key : K} {l : List (K × V)} (h : lookup key l = none) :
    l.filter (fun e => e.1 ≠ key) = l := by
  induction l with
  | nil => rfl
  | cons e rest ih =>
      obtain ⟨k, v⟩ := e
      rw [lookup] at h
      by_cases hk : k = key
      · rw [if_pos hk] at h
        cases h
      · rw [if_neg hk] at h
        rw [List.filter_cons_of_pos (by simpa using hk), ih h]

/-- To put what is there changes nothing, the order of the entries included. -/
theorem put_get? (d : Dict K V) (key : K) : d.put key (d.get? key) = d := by
  obtain ⟨l⟩ := d
  cases h : (⟨l⟩ : Dict K V).get? key with
  | none => exact congrArg Dict.mk (filter_of_lookup h)
  | some value => exact congrArg Dict.mk (insert_of_lookup h)

end Dict

/-! ## Passes -/

/-- What is done to the entry of a key. -/
structure Pass (K V ε : Type) where
  key : K
  apply : Option V → Except ε (Option V)

namespace Dict

variable {K V ε : Type} [DecidableEq K]

def entry (p : Pass K V ε) (d : Dict K V) : Except ε (Dict K V) := do
  let value ← p.apply (d.get? p.key)
  return d.put p.key value

/-- The passes of a list, one after the other. -/
def run (passes : List (Pass K V ε)) (d : Dict K V) : Except ε (Dict K V) :=
  passes.foldlM (fun d p => entry p d) d

/-- The pass leaves the entry of its key as it is. -/
def Fixed (p : Pass K V ε) (d : Dict K V) : Prop :=
  p.apply (d.get? p.key) = .ok (d.get? p.key)

theorem entry_eq_ok {p : Pass K V ε} {d d' : Dict K V} :
    entry p d = .ok d' ↔ ∃ value, p.apply (d.get? p.key) = .ok value ∧ d' = d.put p.key value := by
  rw [entry, bind_eq_ok]
  constructor
  · rintro ⟨value, hvalue, h⟩
    cases h
    exact ⟨value, hvalue, rfl⟩
  · rintro ⟨value, hvalue, rfl⟩
    exact ⟨value, hvalue, rfl⟩

theorem entry_of_fixed {p : Pass K V ε} {d : Dict K V} (h : Fixed p d) : entry p d = .ok d :=
  entry_eq_ok.mpr ⟨_, h, (d.put_get? p.key).symm⟩

theorem run_cons_eq_ok {p : Pass K V ε} {rest : List (Pass K V ε)} {d d'' : Dict K V} :
    run (p :: rest) d = .ok d'' ↔ ∃ d', entry p d = .ok d' ∧ run rest d' = .ok d'' := by
  rw [run, List.foldlM_cons, bind_eq_ok]
  rfl

/-- The run leaves alone what all its passes leave alone. -/
theorem run_of_fixed {passes : List (Pass K V ε)} {d : Dict K V} (h : ∀ p ∈ passes, Fixed p d) :
    run passes d = .ok d := by
  induction passes with
  | nil => rfl
  | cons p rest ih =>
      exact run_cons_eq_ok.mpr ⟨d, entry_of_fixed (h p List.mem_cons_self),
        ih (fun q hq => h q (List.mem_cons_of_mem _ hq))⟩

/-- **The entry of a key** goes through the passes of that key. -/
theorem run_get? {passes : List (Pass K V ε)} {d d' : Dict K V} (h : run passes d = .ok d')
    (key : K) :
    (passes.filter (fun p => p.key = key)).foldlM (fun value p => p.apply value) (d.get? key)
      = .ok (d'.get? key) := by
  induction passes generalizing d with
  | nil =>
      cases h
      rfl
  | cons p rest ih =>
      obtain ⟨d₁, hentry, hrest⟩ := run_cons_eq_ok.mp h
      obtain ⟨value, hvalue, rfl⟩ := entry_eq_ok.mp hentry
      by_cases hkey : p.key = key
      · subst hkey
        rw [List.filter_cons_of_pos (by simp), List.foldlM_cons, hvalue]
        have hrest := ih hrest
        rwa [get?_put_self] at hrest
      · rw [List.filter_cons_of_neg (by simpa using hkey)]
        have hrest := ih hrest
        rwa [get?_put_of_ne d (fun h => hkey h.symm)] at hrest

/-- When the passes of every key return, so does the run. -/
theorem run_returns {passes : List (Pass K V ε)} {d : Dict K V} {values : K → Option V}
    (h : ∀ key, (passes.filter (fun p => p.key = key)).foldlM (fun value p => p.apply value)
      (d.get? key) = .ok (values key)) :
    Returns (run passes d) (fun d' => ∀ key, d'.get? key = values key) := by
  induction passes generalizing d with
  | nil => exact ⟨d, rfl, fun key => Except.ok.inj (h key)⟩
  | cons p rest ih =>
      have hfirst := h p.key
      rw [List.filter_cons_of_pos (by simp), List.foldlM_cons] at hfirst
      obtain ⟨value, hvalue, hmine⟩ := bind_eq_ok.mp hfirst
      have hrest : ∀ key, (rest.filter (fun p => p.key = key)).foldlM
          (fun value p => p.apply value) ((d.put p.key value).get? key) = .ok (values key) := by
        intro key
        by_cases hkey : p.key = key
        · subst hkey
          rwa [get?_put_self]
        · rw [get?_put_of_ne d (fun h => hkey h.symm)]
          have hother := h key
          rwa [List.filter_cons_of_neg (by simpa using hkey)] at hother
      obtain ⟨d', hrun, hd'⟩ := ih hrest
      exact ⟨d', run_cons_eq_ok.mpr ⟨_, entry_eq_ok.mpr ⟨value, hvalue, rfl⟩, hrun⟩, hd'⟩

/-- Entries without a pass stay. -/
theorem run_get?_of_notMem {passes : List (Pass K V ε)} {d d' : Dict K V}
    (h : run passes d = .ok d') {key : K} (hkey : key ∉ passes.map Pass.key) :
    d'.get? key = d.get? key := by
  have hget := run_get? h key
  have hnone : passes.filter (fun p => p.key = key) = [] := by
    rw [List.filter_eq_nil_iff]
    intro p hp
    have hne : p.key ≠ key := fun h => hkey (h ▸ List.mem_map_of_mem hp)
    simpa using hne
  rw [hnone] at hget
  exact (Except.ok.inj hget).symm

theorem filter_key_eq_singleton {passes : List (Pass K V ε)}
    (hnodup : (passes.map Pass.key).Nodup) {p : Pass K V ε} (hp : p ∈ passes) :
    passes.filter (fun q => q.key = p.key) = [p] := by
  induction passes with
  | nil => cases hp
  | cons q rest ih =>
      rw [List.map_cons, List.nodup_cons] at hnodup
      rcases List.mem_cons.mp hp with rfl | hp
      · rw [List.filter_cons_of_pos (by simp), List.filter_eq_nil_iff.mpr]
        intro q hq
        have hne : q.key ≠ p.key := fun h => hnodup.1 (h ▸ List.mem_map_of_mem hq)
        simpa using hne
      · have hne : q.key ≠ p.key := fun h => hnodup.1 (h ▸ List.mem_map_of_mem hp)
        rw [List.filter_cons_of_neg (by simpa using hne)]
        exact ih hnodup.2 hp

/-- When every key has one pass, the entry of a key is what its pass makes of it. -/
theorem run_get?_of_mem {passes : List (Pass K V ε)} (hnodup : (passes.map Pass.key).Nodup)
    {p : Pass K V ε} (hp : p ∈ passes) {d d' : Dict K V} (h : run passes d = .ok d') :
    p.apply (d.get? p.key) = .ok (d'.get? p.key) := by
  have hget := run_get? h p.key
  rw [filter_key_eq_singleton hnodup hp, List.foldlM_cons] at hget
  obtain ⟨value, hvalue, hget⟩ := bind_eq_ok.mp hget
  cases hget
  exact hvalue

/-- When every key has one pass, and that returns, so does the run. -/
theorem run_returns_of_nodup {passes : List (Pass K V ε)} (hnodup : (passes.map Pass.key).Nodup)
    {d : Dict K V} (h : ∀ p ∈ passes, ∃ value, p.apply (d.get? p.key) = .ok value) :
    ∃ d', run passes d = .ok d' := by
  induction passes generalizing d with
  | nil => exact ⟨d, rfl⟩
  | cons p rest ih =>
      rw [List.map_cons, List.nodup_cons] at hnodup
      obtain ⟨value, hvalue⟩ := h p List.mem_cons_self
      have hrest : ∀ q ∈ rest, ∃ value', q.apply ((d.put p.key value).get? q.key) = .ok value' := by
        intro q hq
        have hne : q.key ≠ p.key := fun h => hnodup.1 (h ▸ List.mem_map_of_mem hq)
        rw [get?_put_of_ne d hne]
        exact h q (List.mem_cons_of_mem _ hq)
      obtain ⟨d', hd'⟩ := ih hnodup.2 hrest
      exact ⟨d', run_cons_eq_ok.mpr ⟨_, entry_eq_ok.mpr ⟨value, hvalue, rfl⟩, hd'⟩⟩

/-- Passes over other keys do not disturb what a run leaves alone. -/
theorem run_of_disjoint {passes others : List (Pass K V ε)} (hnodup : (passes.map Pass.key).Nodup)
    (hdisjoint : ∀ p ∈ passes, p.key ∉ others.map Pass.key) {d d' : Dict K V}
    (hd : run passes d = .ok d) (h : run others d = .ok d') : run passes d' = .ok d' := by
  refine run_of_fixed (fun p hp => ?_)
  have hfixed := run_get?_of_mem hnodup hp hd
  unfold Fixed
  rwa [run_get?_of_notMem h (hdisjoint p hp)]

/-! ## Idempotence -/

/-- The pass leaves alone what it returns, and keeps what is known of the entries. -/
def Settles (I : K → Option V → Prop) (p : Pass K V ε) : Prop :=
  ∀ value value', I p.key value → p.apply value = .ok value' →
    I p.key value' ∧ p.apply value' = .ok value'

/-- Given what `f` leaves alone, `g` returns what `f` leaves alone. -/
def Along (J : Option V → Prop) (f g : Option V → Except ε (Option V)) : Prop :=
  ∀ value value', J value → f value = .ok value → g value = .ok value' → f value' = .ok value'

/-- The pass `q` gets along with `p`, should they have one key. -/
def Respects (I : K → Option V → Prop) (p q : Pass K V ε) : Prop :=
  p.key = q.key → Along (I p.key) p.apply q.apply

variable {I : K → Option V → Prop}

theorem Settles.entry {p : Pass K V ε} (hp : Settles I p) {d d' : Dict K V}
    (hI : ∀ key, I key (d.get? key)) (h : entry p d = .ok d') :
    (∀ key, I key (d'.get? key)) ∧ Fixed p d' := by
  obtain ⟨value, hvalue, rfl⟩ := entry_eq_ok.mp h
  obtain ⟨hkept, hfixed⟩ := hp _ _ (hI p.key) hvalue
  refine ⟨fun key => ?_, ?_⟩
  · rw [get?_put]
    split
    · rename_i hkey
      exact hkey ▸ hkept
    · exact hI key
  · unfold Fixed
    rw [get?_put_self]
    exact hfixed

/-- What a pass leaves alone, the later ones may change only into what it leaves alone, too. -/
theorem Fixed.run {p : Pass K V ε} {passes : List (Pass K V ε)}
    (hsettles : ∀ q ∈ passes, Settles I q) (hrespects : ∀ q ∈ passes, Respects I p q)
    {d d' : Dict K V} (hI : ∀ key, I key (d.get? key)) (hp : Fixed p d)
    (h : run passes d = .ok d') : Fixed p d' := by
  induction passes generalizing d with
  | nil =>
      cases h
      exact hp
  | cons q rest ih =>
      obtain ⟨d₁, hentry, hrest⟩ := run_cons_eq_ok.mp h
      have hI₁ := ((hsettles q List.mem_cons_self).entry hI hentry).1
      refine ih (fun q' hq' => hsettles q' (List.mem_cons_of_mem _ hq'))
        (fun q' hq' => hrespects q' (List.mem_cons_of_mem _ hq')) hI₁ ?_ hrest
      obtain ⟨value, hvalue, rfl⟩ := entry_eq_ok.mp hentry
      unfold Fixed
      by_cases hkey : p.key = q.key
      · rw [hkey, get?_put_self]
        rw [← hkey] at hvalue
        exact hrespects q List.mem_cons_self hkey _ _ (hI p.key) hp hvalue
      · rw [get?_put_of_ne d hkey]
        exact hp

/-- All passes leave alone what their run returns. -/
theorem fixed_run {passes : List (Pass K V ε)} (hsettles : ∀ p ∈ passes, Settles I p)
    (hrespects : passes.Pairwise (Respects I)) {d d' : Dict K V}
    (hI : ∀ key, I key (d.get? key)) (h : run passes d = .ok d') : ∀ p ∈ passes, Fixed p d' := by
  induction passes generalizing d with
  | nil => exact fun p hp => absurd hp List.not_mem_nil
  | cons p rest ih =>
      obtain ⟨d₁, hentry, hrest⟩ := run_cons_eq_ok.mp h
      obtain ⟨hp, hpairs⟩ := List.pairwise_cons.mp hrespects
      have hothers : ∀ q ∈ rest, Settles I q := fun q hq => hsettles q (List.mem_cons_of_mem _ hq)
      obtain ⟨hI₁, hfixed⟩ := (hsettles p List.mem_cons_self).entry hI hentry
      intro q hq
      rcases List.mem_cons.mp hq with rfl | hq
      · exact hfixed.run hothers hp hI₁ hrest
      · exact ih hothers hpairs hI₁ hrest q hq

/-- **Idempotence.** A second run changes nothing. -/
theorem run_idempotent {passes : List (Pass K V ε)} (hsettles : ∀ p ∈ passes, Settles I p)
    (hrespects : passes.Pairwise (Respects I)) {d d' : Dict K V}
    (hI : ∀ key, I key (d.get? key)) (h : run passes d = .ok d') : run passes d' = .ok d' :=
  run_of_fixed (fixed_run hsettles hrespects hI h)

omit [DecidableEq K] in
/-- Passes of different keys get along with each other. -/
theorem respects_of_nodup {passes : List (Pass K V ε)} (hnodup : (passes.map Pass.key).Nodup) :
    passes.Pairwise (Respects I) :=
  (List.pairwise_map.mp hnodup).imp (fun hne hkey => absurd hkey hne)

end Dict

end Dicts
