import Mate.Rllib.Losses

set_option autoImplicit false

/-! # The history of the bootstrapped utilities

The losses of QPLEX-FOCUS, DuelMIX and SPECTra unroll the next observations from a hidden state of
zeros, as if an episode started with its second observation: the first one is not consumed. So the
utilities that choose the next action at step `t` are not the ones that are computed for step
`t + 1`, unless there is no hidden state to tell them apart (`refines_iff`).
-/

namespace Mate.Rllib

open Nets

/-! ## Two unrollings, shifted by a step -/

section Shift

variable {α ξ σ ο : Type*} (step : ξ → σ → ο × σ)

/-- Inputs that each step takes over from the step before it. -/
theorem take_map_shift {f g : α → ξ} {a : α} {rest : List α}
    (h : ∀ t b b', (a :: rest)[t]? = some b → (a :: rest)[t + 1]? = some b' → g b = f b') :
    ((a :: rest).map g).take rest.length = rest.map f := by
  induction rest generalizing a with
  | nil => rfl
  | cons a' rest ih =>
      have htail := ih (fun t => h (t + 1))
      have hhead := h 0 a a' rfl rfl
      rw [List.map_cons, List.length_cons, List.take_succ_cons, htail, hhead, List.map_cons]

/-- Where there is only one state, the shifted unrolling gives the same outputs. -/
theorem getElem?_unroll_shift [Subsingleton σ] (s : σ) {f g : α → ξ} {sequence : List α}
    (h : ∀ t a a', sequence[t]? = some a → sequence[t + 1]? = some a' → g a = f a') {t : ℕ}
    (ht : t + 1 < sequence.length) :
    (unroll step s (sequence.map g))[t]? = (unroll step s (sequence.map f))[t + 1]? := by
  cases sequence with
  | nil => exact absurd ht (Nat.not_lt_zero _)
  | cons a rest =>
      have hall : (rest.map f).take rest.length = rest.map f := by
        rw [← List.length_map f, List.take_length]
      have htake := (take_map_shift h).trans hall.symm
      rw [List.length_cons] at ht
      exact getElem?_unroll_of_subsingleton step s (step (f a) s).2 htake
        (Nat.lt_of_succ_lt_succ ht)

/-- A machine that counts: its first output after a skipped input is behind. -/
theorem unroll_counting_ne (s : σ) (meter : ο → ℝ) (count : σ → ℝ) (hstart : count s = 0)
    (hmeter : ∀ x s, meter (step x s).1 = (Real.tanh 1 + count s) / 2)
    (hcount : ∀ x s, count (step x s).2 = (Real.tanh 1 + count s) / 2) (x y y' : ξ)
    (xs ys : List ξ) :
    ((unroll step s (x :: xs))[0]?).map meter
      ≠ ((unroll step s (y :: y' :: ys))[1]?).map meter := by
  intro h
  rw [unroll, unroll, unroll, List.getElem?_cons_zero, List.getElem?_cons_succ,
    List.getElem?_cons_zero, Option.map_some, Option.map_some, hmeter, hmeter, hcount,
    hstart] at h
  have hpos := tanh_pos one_pos
  have heq := Option.some.inj h
  linarith

end Shift

/-! ## What the losses promise -/

namespace LossShape

variable {shape : LossShape}

/-- Each step observes what the step before it saw next. -/
def ConsecutiveObs (sequence : List shape.Transition) : Prop :=
  ∀ t tr tr', sequence[t]? = some tr → sequence[t + 1]? = some tr' → tr.nextObs = tr'.obs

/-- Each step is told the actions of the step before it. -/
def ConsecutiveActions (sequence : List shape.Transition) : Prop :=
  ∀ t tr tr', sequence[t]? = some tr → sequence[t + 1]? = some tr' →
    tr'.prevActions = tr.actions

/-- In sequences of length `T`, the utilities that choose the next action at a step are the ones
that are computed for the next step: for QPLEX-FOCUS. -/
def FocusRefines (shape : LossShape) (T : ℕ) : Prop :=
  ∀ (model : shape.RNNModel) (sequence : List shape.Transition), sequence.length = T →
    ConsecutiveObs sequence → ∀ t, t + 1 < T →
      (focusMacOutTp1 model sequence)[t]? = (focusMacOut model sequence)[t + 1]?

/-- For DuelMIX. -/
def DuelMixRefines (shape : LossShape) (T : ℕ) : Prop :=
  ∀ (model : DualStreamRNNModel shape) (sequence : List shape.Transition), sequence.length = T →
    ConsecutiveObs sequence → ConsecutiveActions sequence → ∀ t, t + 1 < T →
      ((model.tp1 sequence)[t]?).map DualStreamRNNModel.Output.q
        = ((model.current sequence)[t + 1]?).map DualStreamRNNModel.Output.q

end LossShape

/-- For SPECTra. -/
def SpectraShape.SpectraRefines (shape : SpectraShape) (T : ℕ) : Prop :=
  ∀ (model : SPECTraRNNModel shape) (sequence : List shape.Transition), sequence.length = T →
    LossShape.ConsecutiveObs sequence → ∀ t, t + 1 < T →
      (model.macOutTp1 sequence)[t]? = (model.macOut sequence)[t + 1]?

/-! ## Where there is no history -/

namespace LossShape

variable (shape : LossShape)

theorem subsingleton_hidden (h : shape.nAgents = 0 ∨ shape.rnnHiddenDim = 0) :
    Subsingleton shape.Hidden := by
  constructor
  intro s s'
  funext i k
  rcases h with h | h
  · exact absurd i.2 (by omega)
  · exact absurd k.2 (by omega)

theorem focusMacOut_eq (model : shape.RNNModel) (obs : List shape.Obs) :
    unrollMac model obs = unroll (mac model) (fun _ _ => 0) obs := by
  unfold unrollMac
  generalize (fun _ _ => 0 : shape.Hidden) = h
  induction obs generalizing h with
  | nil => rfl
  | cons o rest ih => rw [unrollMacFrom, unroll, ih]

variable {shape}

theorem focusRefines_of (h : shape.nAgents = 0 ∨ shape.rnnHiddenDim = 0) (T : ℕ) :
    shape.FocusRefines T := by
  intro model sequence hlength hobs t ht
  have := shape.subsingleton_hidden h
  rw [focusMacOutTp1, focusMacOut, focusMacOut_eq, focusMacOut_eq]
  exact getElem?_unroll_shift _ _ hobs (hlength ▸ ht)

theorem duelMixRefines_of (h : shape.nAgents = 0 ∨ shape.rnnHiddenDim = 0) (T : ℕ) :
    shape.DuelMixRefines T := by
  intro model sequence hlength hobs hactions t ht
  have := shape.subsingleton_hidden h
  have hinput : ∀ t tr tr', sequence[t]? = some tr → sequence[t + 1]? = some tr' →
      (tr.nextObs, tr.actions) = (tr'.obs, tr'.prevActions) := by
    intro t tr tr' htr htr'
    rw [hobs t tr tr' htr htr', hactions t tr tr' htr htr']
  exact congrArg _ (getElem?_unroll_shift _ _ hinput (hlength ▸ ht))

theorem spectraRefines_of {shape : SpectraShape}
    (h : shape.nAgents = 0 ∨ shape.rnnHiddenDim = 0) (T : ℕ) : shape.SpectraRefines T := by
  intro model sequence hlength hobs t ht
  have := shape.toLossShape.subsingleton_hidden h
  exact getElem?_unroll_shift _ _ hobs (hlength ▸ ht)

/-! ## Where there is one -/

/-- A sequence of equal steps. -/
def stillTransition (shape : LossShape) : shape.Transition where
  obs := fun _ _ => 0
  nextObs := fun _ _ => 0
  prevActions := fun _ => ⟨0, shape.nActions_pos⟩
  actions := fun _ => ⟨0, shape.nActions_pos⟩

/-- The sequence of `n + 2` equal steps. -/
def stillSequence (shape : LossShape) (n : ℕ) : List shape.Transition :=
  shape.stillTransition :: shape.stillTransition :: List.replicate n shape.stillTransition

theorem length_stillSequence (n : ℕ) : (shape.stillSequence n).length = n + 2 := by
  rw [stillSequence, List.length_cons, List.length_cons, List.length_replicate]

theorem eq_stillTransition {n t : ℕ} {tr : shape.Transition}
    (h : (shape.stillSequence n)[t]? = some tr) : tr = shape.stillTransition := by
  have hmem := List.mem_of_getElem? h
  rw [stillSequence] at hmem
  simp only [List.mem_cons, List.mem_replicate] at hmem
  tauto

theorem consecutiveObs_stillSequence (n : ℕ) : ConsecutiveObs (shape.stillSequence n) := by
  intro t tr tr' htr htr'
  rw [eq_stillTransition htr, eq_stillTransition htr']
  rfl

theorem consecutiveActions_stillSequence (n : ℕ) :
    ConsecutiveActions (shape.stillSequence n) := by
  intro t tr tr' htr htr'
  rw [eq_stillTransition htr, eq_stillTransition htr']
  rfl

/-- Agents of QPLEX-FOCUS that count their steps, and value an action by the count. -/
def countingRNN (shape : LossShape) (j : Fin shape.rnnHiddenDim) : shape.RNNModel where
  fc1 := ⟨0, 0⟩
  rnn := GRUCell.counting
  fc2 := Linear.reading j ⟨0, shape.nActions_pos⟩

theorem focus_counting_ne (i : Fin shape.nAgents) (j : Fin shape.rnnHiddenDim) (n : ℕ) :
    (focusMacOutTp1 (shape.countingRNN j) (shape.stillSequence n))[0]?
      ≠ (focusMacOut (shape.countingRNN j) (shape.stillSequence n))[1]? := by
  intro h
  rw [focusMacOutTp1, focusMacOut, focusMacOut_eq, focusMacOut_eq] at h
  refine unroll_counting_ne (mac (shape.countingRNN j)) _
    (fun q => q i ⟨0, shape.nActions_pos⟩) (fun s => s i j) rfl ?_ ?_ _ _ _ _ _
    (congrArg (Option.map _) h)
  · intro x s
    exact (Linear.reading_apply_self j _ _).trans (GRUCell.counting_apply _ _ _)
  · exact fun x s => GRUCell.counting_apply _ _ _

/-- Agents of DuelMIX that count their steps in their values. -/
def countingDualStream (shape : LossShape) (j : Fin shape.rnnHiddenDim) :
    DualStreamRNNModel shape where
  fc1 := ⟨0, 0⟩
  rnn := GRUCell.counting
  vHead := Linear.reading j 0
  aHead := ⟨0, 0⟩

theorem duelMix_counting_ne (i : Fin shape.nAgents) (j : Fin shape.rnnHiddenDim) (n : ℕ) :
    (((shape.countingDualStream j).tp1 (shape.stillSequence n))[0]?).map
        DualStreamRNNModel.Output.q
      ≠ (((shape.countingDualStream j).current (shape.stillSequence n))[1]?).map
        DualStreamRNNModel.Output.q := by
  intro h
  have hmap := congrArg (Option.map (fun q : shape.Utilities => q i ⟨0, shape.nActions_pos⟩)) h
  rw [Option.map_map, Option.map_map] at hmap
  refine unroll_counting_ne (shape.countingDualStream j).mac _
    (fun out => out.q i ⟨0, shape.nActions_pos⟩) (fun s => s i j) rfl ?_ ?_ _ _ _ _ _ hmap
  · intro x s
    have hv : ((shape.countingDualStream j).mac x s).1.v i = (Real.tanh 1 + s i j) / 2 :=
      (Linear.reading_apply_self j _ _).trans (GRUCell.counting_apply _ _ _)
    have hzero : ∀ next, (shape.countingDualStream j).aHead.apply next = 0 :=
      Linear.zero_apply
    have hcentred : ∀ next k, (shape.countingDualStream j).aHead.apply next k
        - mean ((shape.countingDualStream j).aHead.apply next) = 0 := by
      intro next k
      rw [hzero, mean]
      simp
    have ha : ((shape.countingDualStream j).mac x s).1.a i ⟨0, shape.nActions_pos⟩ = 0 :=
      hcentred _ _
    rw [DualStreamRNNModel.Output.q, hv, ha, add_zero]
  · exact fun x s => GRUCell.counting_apply _ _ _

/-- Agents of SPECTra that count their steps. -/
def countingSpectra (shape : SpectraShape) (j : Fin shape.rnnHiddenDim) :
    SPECTraRNNModel shape where
  saqa := ⟨⟨0, 0⟩, ⟨0, 0⟩, ⟨0, 0⟩, ⟨0, 0⟩, ⟨0, 0⟩, ⟨0, 0⟩, ⟨0, 0⟩⟩
  fc1Saqa := ⟨0, 0⟩
  fc1Flat := ⟨0, 0⟩
  rnn := GRUCell.counting
  fc2 := Linear.reading j ⟨0, shape.nActions_pos⟩

theorem spectra_counting_ne {shape : SpectraShape} (i : Fin shape.nAgents)
    (j : Fin shape.rnnHiddenDim) (n : ℕ) :
    ((countingSpectra shape j).macOutTp1 (shape.stillSequence n))[0]?
      ≠ ((countingSpectra shape j).macOut (shape.stillSequence n))[1]? := by
  intro h
  refine unroll_counting_ne (countingSpectra shape j).mac _
    (fun q => q i ⟨0, shape.nActions_pos⟩) (fun s => s i j) rfl ?_ ?_ _ _ _ _ _
    (congrArg (Option.map _) h)
  · intro x s
    exact (Linear.reading_apply_self j _ _).trans (GRUCell.counting_apply _ _ _)
  · exact fun x s => GRUCell.counting_apply _ _ _

end LossShape

namespace LossShape

/-- One agent with one hidden unit. -/
def oneUnit : LossShape where
  nAgents := 1
  nActions := 2
  obsSize := 1
  rnnHiddenDim := 1
  nActions_pos := Nat.two_pos

/-- The same sizes for SPECTra, without attention. -/
def oneUnitSpectra : SpectraShape where
  toLossShape := oneUnit
  ownDim := 1
  entityDim := 1
  embedDim := 1
  nHeads := 1
  useSaqa := false
  ownDim_le := le_rfl
  entityDim_pos := Nat.one_pos
  nHeads_dvd := dvd_rfl
  ownDim_eq := fun _ => rfl

/-- In a sequence of two steps the utilities that choose the next action at the first step are not
those of the second step, for any of the three losses. -/
theorem not_refines_oneUnit :
    ¬ oneUnit.FocusRefines 2 ∧ ¬ oneUnit.DuelMixRefines 2 ∧ ¬ oneUnitSpectra.SpectraRefines 2 := by
  have i : Fin oneUnit.nAgents := ⟨0, one_pos⟩
  have j : Fin oneUnit.rnnHiddenDim := ⟨0, one_pos⟩
  refine ⟨fun h => ?_, fun h => ?_, fun h => ?_⟩
  · exact focus_counting_ne i j 0 (h _ _ rfl (consecutiveObs_stillSequence 0) 0 (by decide))
  · exact duelMix_counting_ne i j 0 (h _ _ rfl (consecutiveObs_stillSequence 0)
      (consecutiveActions_stillSequence 0) 0 (by decide))
  · exact @spectra_counting_ne oneUnitSpectra i j 0
      (h _ _ rfl (consecutiveObs_stillSequence 0) 0 (by decide))

/-- Sequences of at most one step have no next step to speak of. -/
theorem refines_of_le_one {shape : LossShape} {T : ℕ} (h : T ≤ 1) :
    shape.FocusRefines T ∧ shape.DuelMixRefines T := by
  constructor
  · intro model sequence hlength hobs t ht
    exact absurd ht (by omega)
  · intro model sequence hlength hobs hactions t ht
    exact absurd ht (by omega)

/-- **When the bootstrapped utilities belong to the same history**: for each of the three losses,
exactly when sequences have at most one step, or there are no agents, or they have no hidden
state. -/
theorem refines_iff (shape : LossShape) (spectra : SpectraShape) (T : ℕ) :
    (shape.FocusRefines T ↔ T ≤ 1 ∨ shape.nAgents = 0 ∨ shape.rnnHiddenDim = 0)
    ∧ (shape.DuelMixRefines T ↔ T ≤ 1 ∨ shape.nAgents = 0 ∨ shape.rnnHiddenDim = 0)
    ∧ (spectra.SpectraRefines T ↔ T ≤ 1 ∨ spectra.nAgents = 0 ∨ spectra.rnnHiddenDim = 0) := by
  -- for each loss, a network that counts its calls tells the two apart
  refine ⟨⟨fun h => ?_, ?_⟩, ⟨fun h => ?_, ?_⟩, ⟨fun h => ?_, ?_⟩⟩
  · by_contra hnot
    simp only [not_or, not_le] at hnot
    obtain ⟨n, rfl⟩ := Nat.exists_eq_add_of_le' hnot.1
    exact focus_counting_ne ⟨0, Nat.pos_of_ne_zero hnot.2.1⟩ ⟨0, Nat.pos_of_ne_zero hnot.2.2⟩ n
      (h _ _ (length_stillSequence n) (consecutiveObs_stillSequence n) 0 (by omega))
  · rintro (hT | h)
    · exact (refines_of_le_one hT).1
    · exact focusRefines_of h T
  · by_contra hnot
    simp only [not_or, not_le] at hnot
    obtain ⟨n, rfl⟩ := Nat.exists_eq_add_of_le' hnot.1
    exact duelMix_counting_ne ⟨0, Nat.pos_of_ne_zero hnot.2.1⟩ ⟨0, Nat.pos_of_ne_zero hnot.2.2⟩ n
      (h _ _ (length_stillSequence n) (consecutiveObs_stillSequence n)
        (consecutiveActions_stillSequence n) 0 (by omega))
  · rintro (hT | h)
    · exact (refines_of_le_one hT).2
    · exact duelMixRefines_of h T
  · by_contra hnot
    simp only [not_or, not_le] at hnot
    obtain ⟨n, rfl⟩ := Nat.exists_eq_add_of_le' hnot.1
    exact spectra_counting_ne ⟨0, Nat.pos_of_ne_zero hnot.2.1⟩ ⟨0, Nat.pos_of_ne_zero hnot.2.2⟩ n
      (h _ _ (length_stillSequence n) (consecutiveObs_stillSequence n) 0 (by omega))
  · rintro (hT | h)
    · intro model sequence hlength hobs t ht
      exact absurd ht (by omega)
    · exact spectraRefines_of h T

end LossShape

end Mate.Rllib
