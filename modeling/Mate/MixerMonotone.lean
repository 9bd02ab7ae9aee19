import Mate.Rllib.ResQ

set_option autoImplicit false

/-! # The residual of ResQ and greedy acting

A residual that is never positive, and is switched off at the greedy joint action, cannot make any
other joint action better. Ties do not matter: the mixture of the main utilities is monotone, so
another joint action of best actions has at most the greedy one's main value.
-/

namespace Mate.Rllib.ResQ

open Nets Mixing

variable {shape : ResQShape} (policy : ResQ shape)

theorem length_currentUtilities (model : RecurrentAgent shape.toAgentShape)
    (sequence : List (ResQStep shape)) :
    (currentUtilities model sequence).length = sequence.length := by
  rw [currentUtilities, List.length_map, RecurrentAgent.length_unrollCurrentAndNext,
    List.length_map]

/-- The greedy joint action is best by the main value alone. -/
theorem isMaxOn_main (mainQ : shape.Utilities)
    {mask : Fin shape.nAgents → Fin shape.nActions → Bool} (hmask : ∀ i, ∃ k, mask i k = true)
    (states : shape.State) :
    IsMaxOn (fun actions => policy.mixer.forward (chosen mainQ actions) states)
      {actions | Allowed (fun i => {k | mask i k = true}) actions} (currentGreedy mainQ mask) := by
  have hgate : ∀ g ∈ policy.mixer.gate, 0 ≤ g := by
    rw [policy.ungated]
    exact fun g hg => absurd hg (Option.not_mem_none g)
  have higm := Igm.of_monotone (fun i => {k | mask i k = true}) mainQ
    (policy.mixer.monotone_forward hgate states)
  exact higm _ (greedy_maskedArgmax shape.nActions_pos hmask mainQ)

theorem isMaxOn_jointValue (hneg : shape.residualNegativeAbs = true)
    (mainQ residualQ : shape.Utilities) {mask : Fin shape.nAgents → Fin shape.nActions → Bool}
    (hmask : ∀ i, ∃ k, mask i k = true) (states : shape.State) :
    IsMaxOn (policy.jointValue mainQ residualQ mask states)
      {actions | Allowed (fun i => {k | mask i k = true}) actions} (currentGreedy mainQ mask) := by
  apply isMaxOn_add_correction (policy.isMaxOn_main mainQ hmask states)
  · intro actions
    exact mul_nonpos_of_nonneg_of_nonpos (residualWeight_nonneg mainQ mask actions)
      (policy.residualTotal_nonpos hneg _ states)
  · rw [(residualWeight_eq_zero_iff mainQ mask _).mpr rfl, zero_mul]

/-- What the loss fits at step `t` is the joint value of the sampled joint action. -/
theorem learnSequence_getElem {sequence : List (ResQStep shape)} {totals : List ℝ}
    (hok : policy.learnSequence sequence = .ok totals) {t : ℕ} {step : ResQStep shape}
    (hstep : sequence[t]? = some step) :
    ∃ mainQ residualQ, (currentUtilities policy.model sequence)[t]? = some mainQ
      ∧ (currentUtilities policy.residualModel sequence)[t]? = some residualQ
      ∧ totals[t]? = some (policy.jointValue mainQ residualQ step.safeMask step.state
        step.transition.actions) := by
  obtain ⟨ht, -⟩ := List.getElem?_eq_some_iff.mp hstep
  have hlt : ∀ model, t < (currentUtilities model sequence).length := by
    intro model
    rw [length_currentUtilities]
    exact ht
  refine ⟨_, _, List.getElem?_eq_getElem (hlt _), List.getElem?_eq_getElem (hlt _), ?_⟩
  unfold learnSequence at hok
  split at hok
  · cases hok
  · cases hok
    rw [List.getElem?_zipWith, hstep, List.zip, List.getElem?_zipWith,
      List.getElem?_eq_getElem (hlt policy.model),
      List.getElem?_eq_getElem (hlt policy.residualModel)]

/-- **The greedy joint action has the largest joint value**, whatever the networks are: for any
utilities, state and mask that leaves an action to each agent. The weight of the residual is zero
at that joint action and one elsewhere, and along a sampled sequence the loss fits this value at
the sampled joint actions. -/
theorem resq_greedy (shape : ResQShape) (policy : ResQ shape)
    (hneg : shape.residualNegativeAbs = true) :
    (∀ (mainQ residualQ : shape.Utilities) (mask : Fin shape.nAgents → Fin shape.nActions → Bool)
      (states : shape.State), (∀ i, ∃ k, mask i k = true) →
      (∀ actions, residualWeight mainQ mask actions
        = if actions = currentGreedy mainQ mask then 0 else 1)
      ∧ Greedy (fun i => {k | mask i k = true}) mainQ (currentGreedy mainQ mask)
      ∧ IsMaxOn (policy.jointValue mainQ residualQ mask states)
        {actions | Allowed (fun i => {k | mask i k = true}) actions}
        (currentGreedy mainQ mask))
    ∧ ∀ (sequence : List (ResQStep shape)) (totals : List ℝ),
      policy.learnSequence sequence = .ok totals →
      ∀ (t : ℕ) (step : ResQStep shape), sequence[t]? = some step → step.active = true →
      ∃ mainQ residualQ, (currentUtilities policy.model sequence)[t]? = some mainQ
        ∧ (currentUtilities policy.residualModel sequence)[t]? = some residualQ
        ∧ totals[t]? = some (policy.jointValue mainQ residualQ step.actionMask step.state
          step.transition.actions) := by
  constructor
  · intro mainQ residualQ mask states hmask
    exact ⟨fun _ => rfl, greedy_maskedArgmax shape.nActions_pos hmask mainQ,
      policy.isMaxOn_jointValue hneg mainQ residualQ hmask states⟩
  · intro sequence totals hok t step hstep hactive
    have h := policy.learnSequence_getElem hok hstep
    rwa [step.safeMask_of_active hactive] at h

/-- Two agents with two actions each. -/
def twoResidual : ResQShape where
  obsDim := 1
  nActions := 2
  nAgents := 2
  hiddenDim := 1
  outputDim := 2
  includeLastAction := true
  includeAgentId := true
  nActions_pos := Nat.two_pos
  stateDim := 1
  mixingEmbedDim := 1
  hypernetEmbed := 1
  centralMixingEmbedDim := 1
  residualNegativeAbs := true
  outputDim_eq := rfl

/-- All parameters zero. -/
def zeroPolicy : ResQ twoResidual where
  model := RecurrentAgent.zeros
  residualModel := RecurrentAgent.zeros
  mixer := ⟨.one ⟨0, 0⟩, .one ⟨0, 0⟩, ⟨0, 0⟩, ⟨⟨0, 0⟩, ⟨0, 0⟩⟩, false, none⟩
  residualMixer := ⟨⟨0, 0⟩, ⟨0, 0⟩, ⟨⟨0, 0⟩, ⟨0, 0⟩⟩, ⟨⟨0, 0⟩, ⟨0, 0⟩⟩⟩
  ungated := rfl

theorem resq_greedy_zeroPolicy :
    IsMaxOn (zeroPolicy.jointValue (fun _ k => (k.val : ℝ)) (fun _ k => (k.val : ℝ))
        (fun _ _ => true) (fun _ => 0))
      {actions | Allowed (fun _ => {_k | true = true}) actions}
      (currentGreedy (fun _ k => (k.val : ℝ)) (fun _ _ => true)) :=
  ((resq_greedy twoResidual zeroPolicy rfl).1 _ _ _ _ (fun _ => ⟨⟨0, by decide⟩, rfl⟩)).2.2

end Mate.Rllib.ResQ

/-! ## Where the monotonic mixer is monotone

The weights of `MonotonicMixer` are absolute values, but its gate is a parameter like any other. With
a negative gate what is mixed falls where a utility rises, at most as fast as it does where all
activations are linear (`sub_mixed_le`, `exists_sub_mixed_eq`). So the mixer is monotone exactly if the
skip connection makes up for that (`monotone_forward_iff`).
-/

namespace Mate.Rllib.MonotonicMixer

open Finset Nets Mixing

variable {shape : ResQShape} (mixer : MonotonicMixer shape) (states : shape.State)

/-- What is mixed, before the gate. -/
noncomputable def mixed (agentQs : shape.Row) : ℝ :=
  ∑ e, mixer.hidden agentQs states e * |mixer.hyperWFinal.apply states e|

/-- How fast what is mixed rises with the utility of an agent, at most. -/
noncomputable def slope (i : Fin shape.nAgents) : ℝ :=
  ∑ e, |mixer.hyperW1.apply states (i, e)| * |mixer.hyperWFinal.apply states e|

/-- How fast the skip connection rises. -/
def skipSlope : ℝ := if mixer.skipConnections then 1 else 0

/-- The mixer with a gate. -/
theorem forward_of_gate {g : ℝ} (hgate : mixer.gate = some g) (agentQs : shape.Row) :
    mixer.forward agentQs states = mixer.mixed states agentQs * g + mixer.v.apply states 0
      + mixer.skipSlope * ∑ i, agentQs i := by
  unfold forward mixed skipSlope
  rw [hgate]
  dsimp only
  by_cases hskip : mixer.skipConnections = true
  · rw [if_pos hskip, if_pos hskip, one_mul]
  · rw [if_neg hskip, if_neg hskip, zero_mul, add_zero]

/-! ## How fast it rises -/

theorem sub_hidden_le {q q' : shape.Row} (h : q ≤ q') (e : Fin shape.mixingEmbedDim) :
    mixer.hidden q' states e - mixer.hidden q states e
      ≤ ∑ i, (q' i - q i) * |mixer.hyperW1.apply states (i, e)| := by
  have hle : ∑ i, q i * |mixer.hyperW1.apply states (i, e)|
      ≤ ∑ i, q' i * |mixer.hyperW1.apply states (i, e)| :=
    sum_le_sum (fun i _ => mul_le_mul_of_nonneg_right (h i) (abs_nonneg _))
  have helu := elu_sub_le (add_le_add_left hle (mixer.hyperB1.apply states e))
  simp only [sub_mul, sum_sub_distrib]
  unfold hidden
  linarith

theorem sub_mixed_le {q q' : shape.Row} (h : q ≤ q') :
    mixer.mixed states q' - mixer.mixed states q ≤ ∑ i, (q' i - q i) * mixer.slope states i := by
  calc mixer.mixed states q' - mixer.mixed states q
      = ∑ e, (mixer.hidden q' states e - mixer.hidden q states e)
          * |mixer.hyperWFinal.apply states e| := by
        simp only [mixed, sub_mul, sum_sub_distrib]
    _ ≤ ∑ e, (∑ i, (q' i - q i) * |mixer.hyperW1.apply states (i, e)|)
          * |mixer.hyperWFinal.apply states e| :=
        sum_le_sum (fun e _ =>
          mul_le_mul_of_nonneg_right (mixer.sub_hidden_le states h e) (abs_nonneg _))
    _ = ∑ i, (q' i - q i) * mixer.slope states i := by
        simp only [slope, sum_mul, mul_sum, mul_assoc]
        exact sum_comm

/-- A utility so high that the activations it moves are linear. -/
theorem exists_linear (i : Fin shape.nAgents) : ∃ c : ℝ, ∀ e,
    |mixer.hyperW1.apply states (i, e)| = 0 ∨
      0 < c * |mixer.hyperW1.apply states (i, e)| + mixer.hyperB1.apply states e := by
  set need := fun e =>
    (|mixer.hyperB1.apply states e| + 1) / |mixer.hyperW1.apply states (i, e)| with hneed
  have hnonneg : ∀ e, 0 ≤ need e := fun e => by positivity
  refine ⟨∑ e, need e, fun e => ?_⟩
  by_cases hzero : |mixer.hyperW1.apply states (i, e)| = 0
  · exact .inl hzero
  · right
    have hpos : 0 < |mixer.hyperW1.apply states (i, e)| := lt_of_le_of_ne (abs_nonneg _) (Ne.symm hzero)
    have hle : need e ≤ ∑ e, need e := single_le_sum (fun e _ => hnonneg e) (mem_univ e)
    have hmul := mul_le_mul_of_nonneg_right hle hpos.le
    have hcancel : need e * |mixer.hyperW1.apply states (i, e)| = |mixer.hyperB1.apply states e| + 1 :=
      div_mul_cancel₀ _ hzero
    linarith [neg_abs_le (mixer.hyperB1.apply states e)]

/-- Somewhere what is mixed rises as fast as it can. -/
theorem exists_sub_mixed_eq (i : Fin shape.nAgents) : ∃ c : ℝ,
    mixer.mixed states (Pi.single i (c + 1)) - mixer.mixed states (Pi.single i c)
      = mixer.slope states i := by
  obtain ⟨c, hc⟩ := mixer.exists_linear states i
  refine ⟨c, ?_⟩
  have hsum : ∀ (x : ℝ) e, ∑ j, (Pi.single i x : shape.Row) j * |mixer.hyperW1.apply states (j, e)|
      = x * |mixer.hyperW1.apply states (i, e)| := by
    intro x e
    rw [sum_eq_single i (fun j _ hj => by rw [Pi.single_eq_of_ne hj, zero_mul])
      (fun hi => absurd (mem_univ i) hi), Pi.single_eq_same]
  have hhidden : ∀ e, mixer.hidden (Pi.single i (c + 1)) states e
      - mixer.hidden (Pi.single i c) states e = |mixer.hyperW1.apply states (i, e)| := by
    intro e
    unfold hidden
    rw [hsum, hsum]
    rcases hc e with hzero | hpos
    · rw [hzero, mul_zero, mul_zero, sub_self]
    · have hnext : 0 < (c + 1) * |mixer.hyperW1.apply states (i, e)| + mixer.hyperB1.apply states e := by
        linarith [abs_nonneg (mixer.hyperW1.apply states (i, e))]
      rw [elu_of_pos hpos, elu_of_pos hnext]
      ring
  simp only [mixed, slope, ← sum_sub_distrib, ← sub_mul, hhidden]

/-! ## The condition -/

/-- The skip connection makes up for a negative gate. -/
def Compensated : Prop :=
  ∀ g ∈ mixer.gate, ∀ i, 0 ≤ mixer.skipSlope + g * mixer.slope states i

theorem monotone_of_compensated (h : mixer.Compensated states) :
    Monotone (fun agentQs => mixer.forward agentQs states) := by
  by_cases hgate : ∀ g ∈ mixer.gate, 0 ≤ g
  · exact mixer.monotone_forward hgate states
  · push Not at hgate
    obtain ⟨g, hg, hneg⟩ := hgate
    intro q q' hq
    show mixer.forward q states ≤ mixer.forward q' states
    rw [mixer.forward_of_gate states hg, mixer.forward_of_gate states hg]
    have hfall := mul_le_mul_of_nonpos_right (mixer.sub_mixed_le states hq) hneg.le
    -- what falls is made up for agent by agent
    have hrise : 0 ≤ ∑ i, (q' i - q i) * (mixer.skipSlope + g * mixer.slope states i) :=
      sum_nonneg (fun i _ => mul_nonneg (sub_nonneg.mpr (hq i)) (h g hg i))
    have hsplit : ∑ i, (q' i - q i) * (mixer.skipSlope + g * mixer.slope states i)
        = mixer.skipSlope * (∑ i, q' i - ∑ i, q i)
          + (∑ i, (q' i - q i) * mixer.slope states i) * g := by
      rw [← sum_sub_distrib, mul_sum, sum_mul, ← sum_add_distrib]
      exact sum_congr rfl (fun i _ => by ring)
    rw [hsplit] at hrise
    linarith

theorem compensated_of_monotone (h : Monotone (fun agentQs => mixer.forward agentQs states)) :
    mixer.Compensated states := by
  intro g hg i
  obtain ⟨c, hc⟩ := mixer.exists_sub_mixed_eq states i
  have hle : (Pi.single i c : shape.Row) ≤ Pi.single i (c + 1) :=
    Pi.single_le_single.mpr (by linarith)
  have hrise : mixer.forward (Pi.single i c) states ≤ mixer.forward (Pi.single i (c + 1)) states := h hle
  rw [mixer.forward_of_gate states hg, mixer.forward_of_gate states hg, sum_pi_single',
    sum_pi_single'] at hrise
  simp only [mem_univ, if_true] at hrise
  rw [← hc]
  linarith

theorem monotone_forward_iff :
    Monotone (fun agentQs => mixer.forward agentQs states) ↔ mixer.Compensated states :=
  ⟨mixer.compensated_of_monotone states, mixer.monotone_of_compensated states⟩

/-- **When the monotonic mixer is monotone**, for all constructor options and parameters. Then the
agents find the best joint action one by one. -/
theorem monotonicMixer_iff :
    (Monotone (fun agentQs => mixer.forward agentQs states) ∧
      ∀ (α : Type) (allowed : Fin shape.nAgents → Set α) (utility : Fin shape.nAgents → α → ℝ),
        Igm allowed utility (fun a => mixer.forward (fun i => utility i (a i)) states)) ↔
      mixer.Compensated states := by
  rw [← monotone_forward_iff]
  exact ⟨fun h => h.1, fun h => ⟨h, fun α allowed utility => Igm.of_monotone allowed utility h⟩⟩

/-! ## A gate that has been learned -/

/-- One agent with two actions. -/
def oneAgent : ResQShape := { ResQ.twoResidual with nAgents := 1 }

/-- All weights are one, and the gate is negative. -/
def negativeGate : MonotonicMixer oneAgent where
  hyperW1 := .one ⟨0, 1⟩
  hyperWFinal := .one ⟨0, 1⟩
  hyperB1 := ⟨0, 0⟩
  v := ⟨⟨0, 0⟩, ⟨0, 0⟩⟩
  skipConnections := false
  gate := some (-1)

theorem not_monotone_negativeGate :
    ¬ ∀ states, Monotone (fun agentQs => negativeGate.forward agentQs states) := by
  intro h
  have hcompensated := (negativeGate.monotone_forward_iff 0).mp (h 0) (-1) rfl (0 : Fin 1)
  have hslope : negativeGate.slope 0 (0 : Fin 1) = 1 := by
    show ∑ e : Fin 1, |∑ i : Fin 1, (0 : ℝ) * 0 + 1| * |∑ i : Fin 1, (0 : ℝ) * 0 + 1| = 1
    simp
  have hskip : negativeGate.skipSlope = 0 := rfl
  rw [hslope, hskip] at hcompensated
  norm_num at hcompensated

end Mate.Rllib.MonotonicMixer
