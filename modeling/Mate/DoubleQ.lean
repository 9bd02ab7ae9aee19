import Mate.Rllib.Bootstrap

set_option autoImplicit false

/-! # Double-Q bootstrapping

`DuelMixLoss` takes the maxima for the advantages of the next joint action from the target agents.
`QPLEXFocusLoss` passes the chosen values as their own maxima, so that the advantages vanish: what
it bootstraps is the joint value only where the chosen actions are best for the target agents too
(`bootstraps_iff`).
-/

namespace Mate.Rllib

open Nets Mixing

theorem maskedWhere_true {n m : ℕ} (mask : Fin n → Fin m → Bool) : maskedWhere true mask = mask :=
  rfl

/-! ## What the mixer of QPLEX-FOCUS adds for advantages -/

namespace FocusDuelMixer

variable {shape : FocusShape} (mixer : FocusDuelMixer shape)

/-- The weights of the advantages. -/
noncomputable def advWeight (states : shape.State) (actions : shape.Utilities)
    (rho : Option shape.Row) : shape.Row :=
  fun i => if shape.isMinusOne then mixer.lambdaWeights states actions rho i - 1
    else mixer.lambdaWeights states actions rho i

theorem forwardA_eq (agentQs : shape.Row) (states : shape.State) (actions : shape.Utilities)
    (maxActionVals : shape.Row) (rho : Option shape.Row) :
    mixer.forwardA agentQs states actions maxActionVals rho
      = ∑ i, mixer.advWeight states actions rho i * mixer.wFinal agentQs states i
        * (agentQs i - maxActionVals i) := by
  unfold forwardA calcAdv advWeight
  by_cases h : shape.isMinusOne = true
  · simp only [if_pos h]
    exact Finset.sum_congr rfl (fun i _ => by ring)
  · simp only [if_neg h]
    exact Finset.sum_congr rfl (fun i _ => by ring)

/-- Values that are their own maxima have no advantage. -/
theorem forwardA_self (agentQs : shape.Row) (states : shape.State) (actions : shape.Utilities)
    (rho : Option shape.Row) : mixer.forwardA agentQs states actions agentQs rho = 0 := by
  rw [forwardA_eq]
  exact Finset.sum_eq_zero (fun i _ => by rw [sub_self, mul_zero])

/-- Where all weights of advantages are positive, no advantage means no miss. -/
theorem eq_of_forwardA_eq_zero {agentQs maxActionVals : shape.Row} {states : shape.State}
    {actions : shape.Utilities} {rho : Option shape.Row}
    (hweight : ∀ i, 0 < mixer.advWeight states actions rho i)
    (hle : ∀ i, agentQs i ≤ maxActionVals i)
    (h : mixer.forwardA agentQs states actions maxActionVals rho = 0) (i : Fin shape.nAgents) :
    agentQs i = maxActionVals i := by
  have hfactor : ∀ i, 0 < mixer.advWeight states actions rho i * mixer.wFinal agentQs states i :=
    fun i => mul_pos (hweight i) (mixer.wFinal_pos agentQs states i)
  have hterm : ∀ i ∈ Finset.univ, mixer.advWeight states actions rho i
      * mixer.wFinal agentQs states i * (agentQs i - maxActionVals i) ≤ 0 :=
    fun i _ => mul_nonpos_of_nonneg_of_nonpos (hfactor i).le (sub_nonpos.mpr (hle i))
  rw [forwardA_eq] at h
  have hzero := (Finset.sum_eq_zero_iff_of_nonpos hterm).mp h i (Finset.mem_univ i)
  rcases mul_eq_zero.mp hzero with h0 | h0
  · exact absurd h0 (hfactor i).ne'
  · exact sub_eq_zero.mp h0

/-! ## A mixer with large weights -/

/-- The mixer whose keys are `2 * n` for `n` agents; all else is zero. -/
def keen (shape : FocusShape) : FocusDuelMixer shape where
  attentionWeight :=
    { selectorExtractors := fun _ => ⟨⟨0, 0⟩, 0⟩
      keyExtractors := fun _ => 0
      hyperWHead := ⟨⟨0, 0⟩, ⟨0, 0⟩⟩
      v := ⟨⟨0, 0⟩, ⟨0, 0⟩⟩ }
  siWeight :=
    { keyExtractors := fun _ => .one ⟨0, fun _ => 2 * shape.nAgents⟩
      agentsExtractors := fun _ => .one ⟨0, 0⟩
      actionExtractors := fun _ => .one ⟨0, 0⟩ }

theorem one_lt_lambdaWeights_keen (states : shape.State) (actions : shape.Utilities)
    (i : Fin shape.nAgents) : 1 < (keen shape).lambdaWeights states actions none i := by
  have hn : (0 : ℝ) < shape.nAgents := by
    have := shape.two_le_nAgents
    exact_mod_cast (by omega : 0 < shape.nAgents)
  have hH : (1 : ℝ) ≤ shape.numKernel := by exact_mod_cast shape.numKernel_pos
  have hkey : ∀ head, (keen shape).siWeight.xKey states head = 2 * shape.nAgents + 1e-10 := by
    intro head
    have hbias : ((keen shape).siWeight.keyExtractors head).apply states 0 = 2 * shape.nAgents :=
      congrFun (Linear.apply_bias rfl states) 0
    refine (congrArg (fun x : ℝ => |x| + 1e-10) hbias).trans ?_
    rw [abs_of_pos (by linarith)]
  have hprior : ∀ head, (keen shape).siWeight.xAgents states head i = 1 / shape.nAgents := by
    intro head
    have hzero : ∀ j, ((keen shape).siWeight.agentsExtractors head).apply states j = 0 :=
      fun j => congrFun (Linear.zero_apply states) j
    unfold LamdaWeight.xAgents softmax
    simp [hzero]
  have haction : ∀ head, (keen shape).siWeight.xAction states actions head i = 1 := by
    intro head
    have hzero : ((keen shape).siWeight.actionExtractors head).apply
        (Sum.elim states (fun c => actions c.1 c.2)) i = 0 :=
      congrFun (Linear.zero_apply _) i
    unfold LamdaWeight.xAction
    rw [hzero, Real.tanh_zero, zero_add]
  -- so that every head adds at least two
  have hterm : ∀ head, 2 ≤ (keen shape).siWeight.xKey states head
      * ((keen shape).siWeight.xAgents states head i
        * (keen shape).siWeight.xAction states actions head i) := by
    intro head
    rw [hkey, hprior, haction, mul_one, mul_one_div, le_div_iff₀ hn]
    linarith
  calc (1 : ℝ) < 2 * shape.numKernel := by linarith
    _ = ∑ _head : Fin shape.numKernel, (2 : ℝ) := by
        rw [Finset.sum_const, Finset.card_univ, Fintype.card_fin, nsmul_eq_mul, mul_comm]
    _ ≤ (keen shape).lambdaWeights states actions none i := Finset.sum_le_sum (fun h _ => hterm h)

theorem advWeight_keen_pos (states : shape.State) (actions : shape.Utilities)
    (i : Fin shape.nAgents) : 0 < (keen shape).advWeight states actions none i := by
  have h := one_lt_lambdaWeights_keen states actions i
  unfold advWeight
  split
  · linarith
  · linarith

end FocusDuelMixer

/-! ## The next joint action and its value -/

namespace FocusStep

variable {shape : FocusShape} {obsSize rnnHiddenDim : ℕ}
  (step : FocusStep shape obsSize rnnHiddenDim)

/-- The target networks' joint value of the joint action that the online agents choose among what
is available next. -/
noncomputable def targetJointValue (targetMixer : FocusDuelMixer shape) : ℝ :=
  targetMixer.jointValue step.2.targetMacOut step.1.nextActionMask step.1.nextState none
    (curMaxActions step.1.nextActionMask step.2.macOutTp1)

/-- The actions that the online agents choose next are best for the target agents too. -/
def Matched : Prop :=
  ∀ i k, step.1.nextActionMask i k = true →
    step.2.targetMacOut i k
      ≤ step.2.targetMacOut i (curMaxActions step.1.nextActionMask step.2.macOutTp1 i)

variable {step}

theorem available_of_not_rejected (hactive : step.1.active = true) (h : ¬ Rejected step)
    (i : Fin shape.nAgents) :
    step.1.nextActionMask i (curMaxActions step.1.nextActionMask step.2.macOutTp1 i) = true := by
  by_contra hnot
  apply h
  refine ⟨i, if_neg ?_⟩
  rw [curMax, availableTp1, hactive, maskedWhere_true]
  exact hnot

theorem curMax_eq (hactive : step.1.active = true) :
    curMax step = curMaxActions step.1.nextActionMask step.2.macOutTp1 := by
  rw [curMax, availableTp1, hactive, maskedWhere_true]

/-- What is missing is the advantage. -/
theorem targetJointValue_eq (hactive : step.1.active = true) (targetMixer : FocusDuelMixer shape) :
    targetJointValue step targetMixer = bootstrap step targetMixer
      + targetMixer.forwardA (MixerShape.chosen step.2.targetMacOut (curMax step))
        step.1.nextState (MixerShape.onehot (curMax step))
        (MixerShape.maxActionVals step.1.nextActionMask step.2.targetMacOut) none := by
  rw [targetJointValue, bootstrap, FocusDuelMixer.jointValue, FocusDuelMixer.forwardA_self,
    add_zero, curMax_eq hactive]

/-- The mixer with large weights shows every miss. -/
theorem matched_of_keen (hactive : step.1.active = true) (hvalid : ¬ Rejected step)
    (h : bootstrap step (FocusDuelMixer.keen shape)
      = targetJointValue step (FocusDuelMixer.keen shape)) : Matched step := by
  intro i k hk
  have hle : ∀ j, MixerShape.chosen step.2.targetMacOut (curMax step) j
      ≤ MixerShape.maxActionVals step.1.nextActionMask step.2.targetMacOut j := by
    intro j
    rw [curMax_eq hactive]
    exact le_maskedArgmax (available_of_not_rejected hactive hvalid j)
  rw [targetJointValue_eq hactive] at h
  have heq := FocusDuelMixer.eq_of_forwardA_eq_zero _ (FocusDuelMixer.advWeight_keen_pos _ _) hle
    (left_eq_add.mp h) i
  rw [curMax_eq hactive] at heq
  exact (le_maskedArgmax hk).trans heq.ge

/-- Whatever the target mixer is, the joint value is bootstrapped, exactly when nothing is
missed. -/
theorem forall_bootstrap_iff (hactive : step.1.active = true) (hvalid : ¬ Rejected step) :
    (∀ targetMixer, bootstrap step targetMixer = targetJointValue step targetMixer)
      ↔ Matched step := by
  constructor
  · exact fun h => matched_of_keen hactive hvalid (h _)
  · intro h targetMixer
    have havailable := available_of_not_rejected hactive hvalid
    have hself : MixerShape.maxActionVals step.1.nextActionMask step.2.targetMacOut
        = MixerShape.chosen step.2.targetMacOut (curMax step) := by
      funext i
      rw [curMax_eq hactive]
      refine le_antisymm (h i _ (available_maskedArgmax ⟨_, havailable i⟩)) ?_
      exact le_maskedArgmax (havailable i)
    rw [targetJointValue_eq hactive, hself, FocusDuelMixer.forwardA_self, add_zero]

end FocusStep

/-- The target networks' joint value of the joint action that the online agents of DuelMIX choose
among what is available next. -/
noncomputable def DuelStep.targetJointValue {shape : MixerShape} {obsSize rnnHiddenDim : ℕ}
    (step : DuelStep shape obsSize rnnHiddenDim) (targetMixer : DuelMixMixer shape) : ℝ :=
  targetMixer.jointValue step.2.target.v step.2.target.a step.1.nextActionMask step.1.nextState
    (curMaxActions step.1.nextActionMask step.2.tp1.q)

theorem DuelStep.bootstrap_eq {shape : MixerShape} {obsSize rnnHiddenDim : ℕ}
    {step : DuelStep shape obsSize rnnHiddenDim} (hactive : step.1.active = true)
    (hlive : step.1.terminated = false) (targetMixer : DuelMixMixer shape) :
    DuelStep.bootstrap step targetMixer = DuelStep.targetJointValue step targetMixer := by
  have hmask : safeNextActionMask step = step.1.nextActionMask := by
    rw [safeNextActionMask, bootstrapActive, hactive, hlive]
    rfl
  rw [bootstrap, targetJointValue, DuelMixMixer.jointValue, curMax, hmask]

/-! ## Batches -/

section Batches

variable {obsSize rnnHiddenDim : ℕ}

/-- Values that are joint values at every unpadded step that is not terminal. -/
def JointValues {shape : MixerShape} {δ : Type}
    (value : BatchStep shape obsSize rnnHiddenDim × δ → ℝ)
    (steps : List (List (BatchStep shape obsSize rnnHiddenDim × δ))) (values : List (List ℝ)) :
    Prop :=
  List.Forall₂ (List.Forall₂ (fun step v =>
    step.1.active = true → step.1.terminated = false → v = value step)) steps values

/-- `QPLEXFocusLoss` bootstraps the joint value of the online agents' joint action, at every
unpadded step of the batch that is not terminal. -/
def FocusBootstraps {shape : FocusShape}
    (model targetModel : (shape.agents obsSize rnnHiddenDim).RNNModel)
    (targetMixer : FocusDuelMixer shape)
    (batch : List (List (BatchStep shape.toMixerShape obsSize rnnHiddenDim))) : Prop :=
  ∀ values, focusForward model targetModel targetMixer batch = .ok values →
    JointValues (fun step => FocusStep.targetJointValue step targetMixer)
      (batch.map (focusSteps model targetModel)) values

/-- So does `DuelMixLoss`. -/
def DuelMixBootstraps {shape : MixerShape}
    (model targetModel : DualStreamRNNModel (shape.agents obsSize rnnHiddenDim))
    (targetMixer : DuelMixMixer shape)
    (batch : List (List (BatchStep shape obsSize rnnHiddenDim))) : Prop :=
  ∀ values, duelForward model targetModel targetMixer batch = .ok values →
    JointValues (fun step => DuelStep.targetJointValue step targetMixer)
      (batch.map (duelSteps model targetModel)) values

/-- The batch leaves the target agents a value for each next action that is chosen. -/
def FocusAccepted {shape : FocusShape}
    (model targetModel : (shape.agents obsSize rnnHiddenDim).RNNModel)
    (batch : List (List (BatchStep shape.toMixerShape obsSize rnnHiddenDim))) : Prop :=
  ∀ row ∈ batch, ∀ step ∈ focusSteps model targetModel row, ¬ FocusStep.Rejected step

theorem jointValues_map_iff {shape : MixerShape} {δ : Type}
    {value f : BatchStep shape obsSize rnnHiddenDim × δ → ℝ}
    {steps : List (List (BatchStep shape obsSize rnnHiddenDim × δ))} :
    JointValues value steps (steps.map (List.map f)) ↔ ∀ row ∈ steps, ∀ step ∈ row,
      step.1.active = true → step.1.terminated = false → f step = value step := by
  unfold JointValues
  rw [List.forall₂_map_right_iff, List.forall₂_same]
  refine forall₂_congr (fun row _ => ?_)
  rw [List.forall₂_map_right_iff, List.forall₂_same]

theorem focusForward_eq_ok {shape : FocusShape}
    {model targetModel : (shape.agents obsSize rnnHiddenDim).RNNModel}
    {batch : List (List (BatchStep shape.toMixerShape obsSize rnnHiddenDim))}
    (h : FocusAccepted model targetModel batch) (targetMixer : FocusDuelMixer shape) :
    focusForward model targetModel targetMixer batch
      = .ok ((batch.map (focusSteps model targetModel)).map
        (List.map (fun step => FocusStep.bootstrap step targetMixer))) := by
  have hnot : ¬ ∃ row ∈ batch, ∃ step ∈ focusSteps model targetModel row,
      FocusStep.Rejected step := by
    rintro ⟨row, hrow, step, hstep, hrejected⟩
    exact h row hrow step hstep hrejected
  rw [focusForward, if_neg hnot, List.map_map]
  rfl

/-- A batch that is not accepted has no bootstrapped values. -/
theorem accepted_of_focusForward {shape : FocusShape}
    {model targetModel : (shape.agents obsSize rnnHiddenDim).RNNModel}
    {batch : List (List (BatchStep shape.toMixerShape obsSize rnnHiddenDim))}
    {targetMixer : FocusDuelMixer shape} {values : List (List ℝ)}
    (h : focusForward model targetModel targetMixer batch = .ok values) :
    FocusAccepted model targetModel batch := by
  intro row hrow step hstep hrejected
  rw [focusForward, if_pos ⟨row, hrow, step, hstep, hrejected⟩] at h
  cases h

theorem duelMixBootstraps {shape : MixerShape}
    (model targetModel : DualStreamRNNModel (shape.agents obsSize rnnHiddenDim))
    (targetMixer : DuelMixMixer shape)
    (batch : List (List (BatchStep shape obsSize rnnHiddenDim))) :
    DuelMixBootstraps model targetModel targetMixer batch := by
  intro values h
  unfold duelForward at h
  dsimp only at h
  split at h
  · cases h
  · split at h
    · cases h
    · cases h
      exact jointValues_map_iff.mpr (fun row _ step _ hactive hlive =>
        DuelStep.bootstrap_eq hactive hlive targetMixer)

/-- For every target mixer the values of an accepted batch are joint values, exactly when no step
that counts misses anything. -/
theorem forall_focusBootstraps_iff {shape : FocusShape}
    {model targetModel : (shape.agents obsSize rnnHiddenDim).RNNModel}
    {batch : List (List (BatchStep shape.toMixerShape obsSize rnnHiddenDim))}
    (haccepted : FocusAccepted model targetModel batch) :
    (∀ targetMixer, FocusBootstraps model targetModel targetMixer batch)
      ↔ ∀ row ∈ batch, ∀ step ∈ focusSteps model targetModel row, step.1.active = true →
        step.1.terminated = false → FocusStep.Matched step := by
  have hvalues : ∀ targetMixer, FocusBootstraps model targetModel targetMixer batch
      ↔ ∀ row ∈ batch, ∀ step ∈ focusSteps model targetModel row, step.1.active = true →
        step.1.terminated = false →
        FocusStep.bootstrap step targetMixer = FocusStep.targetJointValue step targetMixer := by
    intro targetMixer
    unfold FocusBootstraps
    rw [focusForward_eq_ok haccepted]
    constructor
    · intro h row hrow
      exact jointValues_map_iff.mp (h _ rfl) _ (List.mem_map_of_mem hrow)
    · rintro h values ⟨⟩
      refine jointValues_map_iff.mpr (fun steps hsteps => ?_)
      obtain ⟨row, hrow, rfl⟩ := List.mem_map.mp hsteps
      exact h row hrow
  constructor
  · intro h row hrow step hstep hactive hlive
    exact (FocusStep.forall_bootstrap_iff hactive (haccepted row hrow step hstep)).mp
      (fun targetMixer => (hvalues targetMixer).mp (h targetMixer) row hrow step hstep hactive hlive)
  · intro h targetMixer
    refine (hvalues targetMixer).mpr (fun row hrow step hstep hactive hlive => ?_)
    exact (FocusStep.forall_bootstrap_iff hactive (haccepted row hrow step hstep)).mpr
      (h row hrow step hstep hactive hlive) targetMixer

/-- Agents that value actions by `q`, whatever they see. -/
def constantRNN {shape : LossShape} (q : Fin shape.nActions → ℝ) : shape.RNNModel where
  fc1 := ⟨0, 0⟩
  rnn := ⟨⟨0, 0⟩, ⟨0, 0⟩, ⟨0, 0⟩, ⟨0, 0⟩, ⟨0, 0⟩, ⟨0, 0⟩⟩
  fc2 := ⟨0, q⟩

theorem focusMacOutTp1_constantRNN {shape : LossShape} (q : Fin shape.nActions → ℝ)
    (tr : shape.Transition) : focusMacOutTp1 (constantRNN q) [tr] = [fun _ => q] := by
  have hmac : ∀ (obs : shape.Obs) h, (mac (constantRNN q) obs h).1 = fun _ => q :=
    fun obs h => funext fun i => Linear.apply_bias rfl _
  exact congrArg (fun x => [x]) (hmac _ _)

/-- Online agents that prefer action `1`. -/
def preferOne : (twoAgents.agents 1 1).RNNModel := constantRNN (fun k => (k.val : ℝ))

/-- Target agents that prefer action `0`. -/
def preferZero : (twoAgents.agents 1 1).RNNModel := constantRNN (fun k => 1 - (k.val : ℝ))

/-- A step of the two agents at which both actions are available. -/
def openStep : BatchStep twoAgents.toMixerShape 1 1 where
  transition := ⟨fun _ _ => 0, fun _ _ => 0, fun _ => ⟨0, by decide⟩, fun _ => ⟨0, by decide⟩⟩
  actionMask := fun _ _ => true
  nextActionMask := fun _ _ => true
  nextState := fun _ => 0
  active := true
  terminated := false

/-- The step with its utilities. -/
def openFocusStep : FocusStep twoAgents 1 1 :=
  (openStep, ⟨fun _ k => (k.val : ℝ), fun _ k => 1 - (k.val : ℝ)⟩)

theorem focusSteps_openStep : focusSteps preferOne preferZero [openStep] = [openFocusStep] := by
  unfold focusSteps focusUtilities preferOne preferZero
  dsimp only
  rw [List.map_singleton, focusMacOutTp1_constantRNN, focusMacOutTp1_constantRNN]
  rfl

theorem not_rejected_openFocusStep : ¬ FocusStep.Rejected openFocusStep := by
  rintro ⟨i, hi⟩
  exact absurd hi WithBot.coe_ne_bot

/-- The value of the one step of this batch is not the joint value: the online agents choose what
is worth least to the target agents. -/
theorem not_focusBootstraps_openStep :
    ¬ FocusBootstraps preferOne preferZero (FocusDuelMixer.keen twoAgents) [[openStep]] := by
  intro h
  have haccepted : FocusAccepted preferOne preferZero [[openStep]] := by
    intro row hrow step hstep
    rw [List.mem_singleton.mp hrow, focusSteps_openStep] at hstep
    rw [List.mem_singleton.mp hstep]
    exact not_rejected_openFocusStep
  have hvalues := jointValues_map_iff.mp (h _ (focusForward_eq_ok haccepted _))
  rw [List.map_singleton, focusSteps_openStep] at hvalues
  have hvalue := hvalues _ (List.mem_singleton_self _) _ (List.mem_singleton_self _) rfl rfl
  have hmatched := FocusStep.matched_of_keen rfl not_rejected_openFocusStep hvalue
    ⟨0, by decide⟩ ⟨0, by decide⟩ rfl
  have honline : openFocusStep.2.macOutTp1 ⟨0, by decide⟩ ⟨1, by decide⟩
      ≤ openFocusStep.2.macOutTp1 ⟨0, by decide⟩ (curMaxActions
        openFocusStep.1.nextActionMask openFocusStep.2.macOutTp1 ⟨0, by decide⟩) :=
    le_maskedArgmax rfl
  -- action `1` is chosen, and action `0` would be worth more
  generalize curMaxActions openFocusStep.1.nextActionMask openFocusStep.2.macOutTp1
    ⟨0, by decide⟩ = k at hmatched honline
  simp only [openFocusStep, Nat.cast_zero, Nat.cast_one, sub_zero] at hmatched honline
  linarith

/-- **When the bootstrapped values are joint values**: for DuelMIX always; for QPLEX-FOCUS, whatever
the target mixer is, exactly when at every unpadded step that is not terminal each agent's next
action, which is best by the online utilities, is best by the target utilities too. -/
theorem bootstraps_iff :
    (∀ {shape : FocusShape} (model targetModel : (shape.agents obsSize rnnHiddenDim).RNNModel)
      (batch : List (List (BatchStep shape.toMixerShape obsSize rnnHiddenDim))),
      (∀ targetMixer, FocusBootstraps model targetModel targetMixer batch)
        ↔ (FocusAccepted model targetModel batch → ∀ row ∈ batch,
          ∀ step ∈ focusSteps model targetModel row, step.1.active = true →
            step.1.terminated = false → FocusStep.Matched step))
    ∧ ∀ {shape : MixerShape}
      (model targetModel : DualStreamRNNModel (shape.agents obsSize rnnHiddenDim))
      (targetMixer : DuelMixMixer shape)
      (batch : List (List (BatchStep shape obsSize rnnHiddenDim))),
      DuelMixBootstraps model targetModel targetMixer batch := by
  constructor
  · intro shape model targetModel batch
    constructor
    · intro h haccepted
      exact (forall_focusBootstraps_iff haccepted).mp h
    · intro h targetMixer values hvalues
      have haccepted := accepted_of_focusForward hvalues
      exact (forall_focusBootstraps_iff haccepted).mpr (h haccepted) targetMixer values hvalues
  · intro shape model targetModel targetMixer batch
    exact duelMixBootstraps model targetModel targetMixer batch

end Batches

end Mate.Rllib
