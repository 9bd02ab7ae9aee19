import Mate.Library.Runs
import Mate.Responsibilities
import Mate.Rllib.FocusPolicies

set_option autoImplicit false

/-! # The trust gate over the life of a policy

The gate of the belief lives in the loss: a count of the updates of the learner, which the schedule of
the blend reads, and the averages of the errors. `GroupedCTDEPolicy` tells the estimator the count at
every batch, `QPLEXFocusTorchPolicy` never does, so its schedule does not leave the warmup
(`learnOnBatch_schedule_iff`). And while the grouped policies save the gate, the state of a QPLEX policy
leaves it out: a restore keeps it if and only if nothing was ever averaged (`setState_getState_iff`).
-/

namespace Mate.Rllib.Focus

open Fallible Runs

/-! ## What stays as it was configured -/

section Constants

variable {D H J O : ℕ}

/-- The constants of the normalizer, and the mode of the module. -/
def BeliefNet.constants (self : BeliefNet D H J O) : Option (ℚ × ℚ) × Bool :=
  (self.inputNormalizer.map (fun normalizer => (normalizer.clip, normalizer.eps)), self.training)

/-- What the configuration says about a model, and no call changes. -/
def OccupancyModel.constants :
    OccupancyModel D H J → (ℚ × ℚ ⊕ CategoricalGrid) × (Option (ℚ × ℚ) × Bool)
  | .gaussian model => (.inl (model.maxDelta, model.minStd), model.beliefNet.constants)
  | .categorical model => (.inr model.grid, model.beliefNet.constants)

theorem BeliefNet.constants_observe {B T : ℕ} (self : BeliefNet D H J O)
    (states : Fin B → Fin T → Fin D → ℝ) : (self.observe states).constants = self.constants := by
  rcases self with ⟨_ | normalizer, training, net⟩
  · rfl
  · cases training with
    | false => rfl
    | true => exact congrArg (fun c => (some c, true)) (normalizer.constants_update states)

theorem OccupancyModel.constants_observe {B T : ℕ} (self : OccupancyModel D H J)
    (states : Fin B → Fin T → Fin D → ℝ) : (self.observe states).constants = self.constants := by
  cases self with
  | gaussian model => exact congrArg (Prod.mk _) (model.beliefNet.constants_observe states)
  | categorical model => exact congrArg (Prod.mk _) (model.beliefNet.constants_observe states)

theorem OccupancyModel.constants_withNet (self : OccupancyModel D H J)
    (net : (O : ℕ) → Net D H J O) : (self.withNet net).constants = self.constants := by
  cases self with
  | gaussian model => rfl
  | categorical model => rfl

theorem BeliefNet.constants_loadStateDict (self : BeliefNet D H J O) (dict : BeliefDict D H J O)
    (strict : Bool) :
    Ensures (self.loadStateDict dict strict) (fun loaded => loaded.constants = self.constants) := by
  rcases self with ⟨_ | normalizer, training, net⟩
  · rcases dict with ⟨net', _ | scale⟩
    · exact Ensures.pure rfl
    · cases strict with
      | false => exact Ensures.pure rfl
      | true => exact fun _ h => absurd h (by simp [BeliefNet.loadStateDict])
  · rcases dict with ⟨net', _ | scale⟩
    · cases strict with
      | false => exact Ensures.pure rfl
      | true => exact fun _ h => absurd h (by simp [BeliefNet.loadStateDict])
    · exact Ensures.pure rfl

theorem OccupancyModel.constants_loadStateDict (self : OccupancyModel D H J)
    (dict : OccupancyDict D H J) (strict : Bool) :
    Ensures (self.loadStateDict dict strict) (fun loaded => loaded.constants = self.constants) := by
  cases self with
  | gaussian model =>
      cases dict with
      | gaussian dict =>
          refine (model.beliefNet.constants_loadStateDict dict strict).bind (fun loaded h => ?_)
          exact Ensures.pure (congrArg (Prod.mk _) h)
      | categorical numCells dict => exact fun _ h => absurd h (by simp [OccupancyModel.loadStateDict])
  | categorical model =>
      cases dict with
      | gaussian dict => exact fun _ h => absurd h (by simp [OccupancyModel.loadStateDict])
      | categorical numCells dict =>
          unfold OccupancyModel.loadStateDict
          dsimp only
          split
          · refine (model.beliefNet.constants_loadStateDict _ strict).bind (fun loaded h => ?_)
            exact Ensures.pure (congrArg (Prod.mk _) h)
          · exact fun _ h => absurd h (by simp)

/-- A model of the same configuration that loads a state dictionary is the model that was saved. -/
theorem BeliefNet.loadStateDict_stateDict {self saved : BeliefNet D H J O}
    (h : self.constants = saved.constants) (strict : Bool) :
    self.loadStateDict saved.stateDict strict = .ok saved := by
  rcases self with ⟨normalizer, training, net⟩
  rcases saved with ⟨normalizer', training', net'⟩
  obtain ⟨hnormalizer, htraining⟩ := Prod.mk.inj h
  dsimp only at hnormalizer htraining
  subst htraining
  cases normalizer with
  | none =>
      cases normalizer' with
      | none => rfl
      | some normalizer' => cases hnormalizer
  | some normalizer =>
      cases normalizer' with
      | none => cases hnormalizer
      | some normalizer' =>
          rcases normalizer with ⟨clip, eps, mean, variance, count⟩
          rcases normalizer' with ⟨clip', eps', mean', variance', count'⟩
          cases hnormalizer
          rfl

theorem OccupancyModel.loadStateDict_stateDict {self saved : OccupancyModel D H J}
    (h : self.constants = saved.constants) (strict : Bool) :
    self.loadStateDict saved.stateDict strict = .ok saved := by
  obtain ⟨hmodel, hnet⟩ := Prod.mk.inj h
  cases self with
  | gaussian model =>
      cases saved with
      | categorical saved => cases hmodel
      | gaussian saved =>
          rcases model with ⟨beliefNet, maxDelta, minStd⟩
          rcases saved with ⟨beliefNet', maxDelta', minStd'⟩
          cases hmodel
          unfold OccupancyModel.loadStateDict OccupancyModel.stateDict
          dsimp only
          rw [BeliefNet.loadStateDict_stateDict hnet]
          rfl
  | categorical model =>
      cases saved with
      | gaussian saved => cases hmodel
      | categorical saved =>
          rcases model with ⟨grid, beliefNet⟩
          rcases saved with ⟨grid', beliefNet'⟩
          cases hmodel
          unfold OccupancyModel.loadStateDict OccupancyModel.stateDict
          dsimp only
          rw [dif_pos rfl]
          show (beliefNet.loadStateDict beliefNet'.stateDict strict
            >>= fun net => pure (OccupancyModel.categorical ⟨grid, net⟩)) = _
          rw [BeliefNet.loadStateDict_stateDict hnet strict]
          rfl

def FocusLoss.constants (self : FocusLoss D H J) :
    Option ((ℚ × ℚ ⊕ CategoricalGrid) × (Option (ℚ × ℚ) × Bool)) :=
  self.occupancyModel.map OccupancyModel.constants

theorem FocusLoss.constants_forward {B T : ℕ} (self : FocusLoss D H J)
    (states : Fin B → Fin T → Fin D → ℝ) : (self.forward states).constants = self.constants := by
  unfold FocusLoss.constants FocusLoss.forward
  rw [Option.map_map]
  exact congrArg (fun f => self.occupancyModel.map f)
    (funext (fun model => model.constants_observe states))

theorem constants_map_withNet (model : Option (OccupancyModel D H J)) (net : (O : ℕ) → Net D H J O) :
    (model.map (fun model => model.withNet net)).map OccupancyModel.constants
      = model.map OccupancyModel.constants := by
  cases model with
  | none => rfl
  | some model => exact congrArg some (model.constants_withNet net)

theorem occupancyModel_ne_none {loss loss' : FocusLoss D H J}
    (h : loss'.constants = loss.constants) :
    loss'.occupancyModel ≠ none ↔ loss.occupancyModel ≠ none := by
  have hsome := congrArg Option.isSome h
  unfold FocusLoss.constants at hsome
  rw [Option.isSome_map, Option.isSome_map] at hsome
  rw [← Option.isSome_iff_ne_none, ← Option.isSome_iff_ne_none, hsome]

end Constants

/-! ## What a call of the estimator does to it -/

section Estimator

variable (cfg : FocusConfig) {D H n : ℕ}

/-- The call gets to the learned belief. -/
structure Reaches (loss : FocusLoss D H cfg.nTargets) (batch : FocusBatch D n) : Prop where
  learned : cfg.beliefMode = "learned"
  dim : requiredDim n cfg.nTargets ≤ D
  model : loss.occupancyModel ≠ none
  state : batch.state ≠ none
  nextState : batch.nextState ≠ none

/-- The effect of a call on the estimator, and what it reports. -/
structure Effect (loss : FocusLoss D H cfg.nTargets) (batch : FocusBatch D n) (updateBeliefEma : Bool)
    (schedule : Option ℚ) (loss' : FocusLoss D H cfg.nTargets) : Prop where
  reported : Reaches cfg loss batch → schedule = some (loss.gate.beliefBlendSchedule cfg)
  unreported : ¬ Reaches cfg loss batch → schedule = none
  fed : Reaches cfg loss batch → (∃ b t, 0 < batch.mask b t) → updateBeliefEma = true →
    cfg.beliefPerformanceGate = true → ∃ modelError baselineError,
      loss'.gate = loss.gate.updateBeliefErrorEma cfg modelError baselineError
  unfed : ¬ (Reaches cfg loss batch ∧ (∃ b t, 0 < batch.mask b t) ∧ updateBeliefEma = true ∧
    cfg.beliefPerformanceGate = true) → loss'.gate = loss.gate
  constants : loss'.constants = loss.constants

variable {cfg}

/-- A call that does not get to the belief leaves the estimator as it is. -/
theorem Effect.unreached {loss : FocusLoss D H cfg.nTargets} {batch : FocusBatch D n}
    (h : ¬ Reaches cfg loss batch) (updateBeliefEma : Bool) :
    Effect cfg loss batch updateBeliefEma none loss where
  reported := fun hreach => absurd hreach h
  unreported := fun _ => rfl
  fed := fun hreach => absurd hreach h
  unfed := fun _ => rfl
  constants := rfl

/-- Forward passes and new networks around the call change nothing about its effect. -/
theorem Effect.around {loss before after loss' : FocusLoss D H cfg.nTargets}
    {batch : FocusBatch D n} {updateBeliefEma : Bool} {schedule : Option ℚ}
    (h : Effect cfg before batch updateBeliefEma schedule after)
    (hbefore : before.constants = loss.constants) (hgate : before.gate = loss.gate)
    (hafter : loss'.constants = after.constants) (hgate' : loss'.gate = after.gate) :
    Effect cfg loss batch updateBeliefEma schedule loss' := by
  have hreach : Reaches cfg loss batch ↔ Reaches cfg before batch := by
    constructor
    · rintro ⟨hlearned, hdim, hmodel, hstate, hnext⟩
      exact ⟨hlearned, hdim, (occupancyModel_ne_none hbefore).mpr hmodel, hstate, hnext⟩
    · rintro ⟨hlearned, hdim, hmodel, hstate, hnext⟩
      exact ⟨hlearned, hdim, (occupancyModel_ne_none hbefore).mp hmodel, hstate, hnext⟩
  constructor
  · rw [hreach, ← hgate]
    exact h.reported
  · rw [hreach]
    exact h.unreported
  · rw [hreach, ← hgate, hgate']
    exact h.fed
  · rw [hreach, ← hgate, hgate']
    exact h.unfed
  · rw [hafter, h.constants, hbefore]

section Commit

variable {B T : ℕ} {model : OccupancyModel D H cfg.nTargets}
  {state nextState : Fin B → Fin T → Fin D → ℝ} {mask : Fin B → Fin T → ℝ} {gate : FocusGate}
  {updateBeliefEma : Bool}

/-- The errors of a batch are averaged into the gate. -/
theorem commitErrors_fed (hmask : ∃ b t, 0 < mask b t) (hupdate : updateBeliefEma = true)
    (hgate : cfg.beliefPerformanceGate = true) : ∃ modelError baselineError,
      commitErrors cfg gate updateBeliefEma
          (supervise cfg model n state nextState mask).pendingBeliefEma
        = gate.updateBeliefErrorEma cfg modelError baselineError := by
  rw [supervise_pendingBeliefEma, if_pos hmask]
  unfold commitErrors
  dsimp only
  rw [hupdate, hgate]
  exact ⟨_, _, rfl⟩

theorem commitErrors_unfed (h : ¬ ((∃ b t, 0 < mask b t) ∧ updateBeliefEma = true ∧
    cfg.beliefPerformanceGate = true)) :
    commitErrors cfg gate updateBeliefEma
      (supervise cfg model n state nextState mask).pendingBeliefEma = gate := by
  unfold commitErrors
  split
  · rename_i modelError baselineError hpending
    rw [if_neg]
    intro hboth
    rw [Bool.and_eq_true] at hboth
    refine h ⟨?_, hboth⟩
    by_contra hmask
    rw [supervise_pendingBeliefEma, if_neg hmask] at hpending
    cases hpending
  · rfl

end Commit

variable (cfg) [Quadrature]

theorem focusCreditTarget_effect (nActions : ℤ) (loss : FocusLoss D H cfg.nTargets)
    (batch : FocusBatch D n) (updateBeliefEma : Bool) :
    Ensures (focusCreditTarget cfg nActions loss batch updateBeliefEma)
      (fun r => Effect cfg loss batch updateBeliefEma r.1.blendSchedule r.2) := by
  -- every early return of the source is this one: no schedule, and the loss as it was
  have huniform : ¬ Reaches cfg loss batch → Ensures (do
      return (← uniformTarget batch.B batch.T n cfg.nTargets, loss))
      (fun r => Effect cfg loss batch updateBeliefEma r.1.blendSchedule r.2) := by
    intro hreach
    refine Ensures.bind (P := fun target => target.blendSchedule = none) ?_ (fun target htarget => ?_)
    · unfold uniformTarget
      split
      · exact fun _ h => absurd h (by simp)
      · exact Ensures.pure rfl
    · refine Ensures.pure ?_
      rw [htarget]
      exact Effect.unreached hreach updateBeliefEma
  unfold focusCreditTarget
  split
  · rename_i hstate
    exact huniform (fun hreach => hreach.state hstate)
  · rename_i state hstate
    by_cases hdim : D < requiredDim n cfg.nTargets
    · rw [if_pos hdim]
      exact huniform (fun hreach => absurd hreach.dim (not_le.mpr hdim))
    · rw [if_neg hdim]
      by_cases hlearned : cfg.beliefMode = "learned"
      · rw [if_pos hlearned]
        split
        · rename_i model nextState hmodel hnext
          -- the only path on which errors are committed
          have hreach : Reaches cfg loss batch :=
            ⟨hlearned, not_lt.mp hdim, by simp [hmodel], by simp [hstate], by simp [hnext]⟩
          refine Ensures.andThen (fun _ => ?_)
          refine Ensures.andThen (fun selection => ?_)
          refine Ensures.andThen (fun g => ?_)
          refine Ensures.pure ⟨fun _ => rfl, fun hnot => absurd hreach hnot, ?_, ?_,
            ?_⟩
          · intro _ hmask hupdate hgate
            exact commitErrors_fed hmask hupdate hgate
          · intro hnot
            exact commitErrors_unfed (fun hfed => hnot ⟨hreach, hfed⟩)
          · unfold FocusLoss.constants
            rw [hmodel]
            exact congrArg some (model.constants_observe state)
        · rename_i hnone
          refine huniform (fun hreach => ?_)
          cases hmodel : loss.occupancyModel with
          | none => exact hreach.model hmodel
          | some model =>
              cases hnext : batch.nextState with
              | none => exact hreach.nextState hnext
              | some nextState => exact hnone model nextState hmodel hnext
      · have hunreached : ¬ Reaches cfg loss batch := fun hreach => hlearned hreach.learned
        rw [if_neg hlearned]
        split
        · split
          · exact fun _ h => absurd h (by simp)
          · refine Ensures.andThen (fun _ => ?_)
            refine Ensures.andThen (fun selection => ?_)
            exact Ensures.pure (Effect.unreached hunreached updateBeliefEma)
        · exact fun _ h => absurd h (by simp)

end Estimator

/-! ## New policies -/

section New

variable (cfg : FocusConfig) (belief : BeliefConfig) {D H J : ℕ}

/-- Two models of one configuration have the same constants, whatever their networks are. -/
theorem buildOccupancyModel_constants (net net' : (O : ℕ) → Net D H J O) :
    (buildOccupancyModel cfg belief net).map OccupancyModel.constants
      = (buildOccupancyModel cfg belief net').map OccupancyModel.constants := by
  unfold buildOccupancyModel
  dsimp only
  split
  · rfl
  · split
    · cases newGrid cfg belief with
      | error e => rfl
      | ok grid => rfl
    · rfl

theorem newOccupancyModel_spec (net net' : (O : ℕ) → Net D H J O) :
    Ensures (newOccupancyModel cfg belief net) (fun model =>
      (model ≠ none ↔ cfg.enabled = true ∧ cfg.beliefMode = "learned") ∧
      Ensures (newOccupancyModel cfg belief net') (fun model' =>
        model'.map OccupancyModel.constants = model.map OccupancyModel.constants)) := by
  unfold newOccupancyModel
  by_cases hused : cfg.enabled = true ∧ cfg.beliefMode = "learned"
  · rw [if_pos hused, if_pos hused]
    have hconstants := buildOccupancyModel_constants cfg belief net net'
    cases hbuild : buildOccupancyModel cfg belief net with
    | error e => exact fun _ h => absurd h (by simp)
    | ok model =>
        refine Ensures.pure ⟨⟨fun _ => hused, fun _ => by simp⟩, ?_⟩
        cases hbuild' : buildOccupancyModel cfg belief net' with
        | error e => exact fun _ h => absurd h (by simp)
        | ok model' =>
            rw [hbuild, hbuild'] at hconstants
            exact Ensures.pure (congrArg some (Except.ok.inj hconstants).symm)
  · rw [if_neg hused, if_neg hused]
    exact Ensures.pure ⟨⟨fun h => absurd rfl h, fun h => absurd h hused⟩, Ensures.pure rfl⟩

end New

/-! ## Calls of a QPLEX policy -/

namespace QPLEXFocusTorchPolicy

variable (cfg : FocusConfig) {M : Modules} {S : Type} {D H n : ℕ}

section Forward

variable {B T J : ℕ} (policy : QPLEXFocusTorchPolicy M D H J)
  (states : Option (Fin B → Fin T → Fin D → ℝ))

theorem constants_forward : (policy.forward states).loss.constants = policy.loss.constants := by
  cases states with
  | none => rfl
  | some states => exact policy.loss.constants_forward states

theorem gate_forward : (policy.forward states).loss.gate = policy.loss.gate := by
  cases states with
  | none => rfl
  | some states => rfl

end Forward

theorem new_loss (belief : BeliefConfig) (initial : Optimised M D H cfg.nTargets) :
    Ensures (new cfg belief initial) (fun policy => policy.loss.gate = FocusGate.init ∧
      newOccupancyModel cfg belief initial.net = .ok policy.loss.occupancyModel) := by
  intro policy hnew
  obtain ⟨model, hmodel, hpolicy⟩ := bind_eq_ok.mp hnew
  cases hpolicy
  exact ⟨rfl, hmodel⟩

/-- The policy has an occupancy model where the constructor makes one. -/
def Built (policy : QPLEXFocusTorchPolicy M D H cfg.nTargets) : Prop :=
  policy.loss.occupancyModel ≠ none ↔ cfg.enabled = true ∧ cfg.beliefMode = "learned"

theorem new_built {belief : BeliefConfig} {initial : Optimised M D H cfg.nTargets}
    {policy : QPLEXFocusTorchPolicy M D H cfg.nTargets} (h : new cfg belief initial = .ok policy) :
    Built cfg policy :=
  (newOccupancyModel_spec cfg belief initial.net initial.net _ (new_loss cfg belief initial policy h).2).1

theorem new_constants {belief : BeliefConfig} {initial initial' : Optimised M D H cfg.nTargets}
    {policy policy' : QPLEXFocusTorchPolicy M D H cfg.nTargets}
    (h : new cfg belief initial = .ok policy) (h' : new cfg belief initial' = .ok policy') :
    policy'.loss.constants = policy.loss.constants :=
  (newOccupancyModel_spec cfg belief initial.net initial'.net _
    (new_loss cfg belief initial policy h).2).2 _ (new_loss cfg belief initial' policy' h').2

variable [Quadrature] (learner : QplexLearner M S D H n cfg.nTargets)
  (policy : QPLEXFocusTorchPolicy M D H cfg.nTargets)

omit learner policy in
theorem focusTarget_effect (nActions : ℤ) (loss : FocusLoss D H cfg.nTargets)
    (batch : FocusBatch D n) : Ensures (focusTarget cfg nActions loss batch) (fun r =>
      (cfg.enabled = true → Effect cfg loss batch true (r.1.bind CreditTarget.blendSchedule) r.2) ∧
      (cfg.enabled = false → r.1 = none ∧ r.2 = loss)) := by
  unfold focusTarget
  by_cases henabled : cfg.enabled = true
  · rw [if_pos henabled]
    refine (focusCreditTarget_effect cfg nActions loss batch true).bind (fun r h => ?_)
    exact Ensures.pure ⟨fun _ => h, fun hdisabled => by rw [henabled] at hdisabled; cases hdisabled⟩
  · rw [if_neg henabled]
    exact Ensures.pure ⟨fun h => absurd h henabled, fun _ => ⟨rfl, rfl⟩⟩

theorem learnOnBatch_effect (samples : S) : Ensures (learnOnBatch cfg learner policy samples)
    (fun r =>
      (cfg.enabled = true →
        Effect cfg policy.loss (learner.sequences samples) true r.1 r.2.loss) ∧
      (cfg.enabled = false → r.1 = none ∧ r.2.loss.gate = policy.loss.gate ∧
        r.2.loss.constants = policy.loss.constants)) := by
  unfold learnOnBatch
  dsimp only
  -- the forward pass before the target only bootstraps the confidence
  generalize hbefore : (if learner.bootstrapsConfidence samples = true then
    policy.forward (learner.sequences samples).nextState else policy) = before
  have hconstants : before.loss.constants = policy.loss.constants := by
    rw [← hbefore]
    split
    · exact policy.constants_forward _
    · rfl
  have hgate : before.loss.gate = policy.loss.gate := by
    rw [← hbefore]
    split
    · exact policy.gate_forward _
    · rfl
  refine (focusTarget_effect cfg learner.nActions before.loss _).bind ?_
  · rintro ⟨target, loss⟩ ⟨henabled, hdisabled⟩
    dsimp only at henabled hdisabled ⊢
    -- and the one behind it only distils the confidence
    generalize hafter : (if learner.distillsConfidence samples = true then
      ({ before with loss := loss } : QPLEXFocusTorchPolicy M D H cfg.nTargets).forward
        (learner.sequences samples).state else { before with loss := loss }) = after
    have hconstants' : after.loss.constants = loss.constants := by
      rw [← hafter]
      split
      · exact constants_forward _ _
      · rfl
    have hgate' : after.loss.gate = loss.gate := by
      rw [← hafter]
      split
      · exact gate_forward _ _
      · rfl
    refine Ensures.andThen (fun optimised => ?_)
    have hlearned := constants_map_withNet after.loss.occupancyModel optimised.net
    refine Ensures.pure ⟨fun h => ?_, fun h => ?_⟩
    · exact (henabled h).around hconstants hgate (hlearned.trans hconstants') hgate'
    · obtain ⟨rfl, rfl⟩ := hdisabled h
      exact ⟨rfl, hgate'.trans hgate, (hlearned.trans hconstants').trans hconstants⟩

/-! ### What a call does to the gate -/

omit [Quadrature] in
theorem constants_loadOccupancyModel {J : ℕ} (model : Option (OccupancyModel D H J))
    (dict : Option (OccupancyDict D H J)) : Ensures (loadOccupancyModel model dict) (fun loaded =>
      loaded.map OccupancyModel.constants = model.map OccupancyModel.constants) := by
  cases model with
  | none => exact Ensures.pure rfl
  | some model =>
      cases dict with
      | none => exact Ensures.pure rfl
      | some dict =>
          refine Ensures.bind (model.constants_loadStateDict dict false) (fun loaded h => ?_)
          exact Ensures.pure (congrArg some h)

omit [Quadrature] in
theorem setWeights_loss {J : ℕ} (policy : QPLEXFocusTorchPolicy M D H J) (weights : Weights M D H J) :
    Ensures (policy.setWeights weights) (fun policy' => policy'.loss.gate = policy.loss.gate ∧
      policy'.loss.constants = policy.loss.constants) :=
  (constants_loadOccupancyModel policy.loss.occupancyModel weights.occupancyModel).bind
    (fun _ h => Ensures.pure ⟨rfl, h⟩)

omit [Quadrature] learner policy in
/-- A batch that has errors for the gate. -/
structure HasErrors (batch : FocusBatch D n) : Prop where
  enabled : cfg.enabled = true
  performanceGate : cfg.beliefPerformanceGate = true
  learned : cfg.beliefMode = "learned"
  dim : requiredDim n cfg.nTargets ≤ D
  state : batch.state ≠ none
  nextState : batch.nextState ≠ none
  mask : ∃ b t, 0 < batch.mask b t

/-- The call averages errors into the gate. -/
def Call.Feeds : Call M S D H cfg.nTargets → Prop
  | .learnOnBatch samples => HasErrors cfg (learner.sequences samples)
  | _ => False

/-- What a call does to the gate. -/
theorem call_gate (hbuilt : Built cfg policy) (c : Call M S D H cfg.nTargets) :
    Ensures (call cfg learner policy c) (fun policy' =>
      policy'.loss.constants = policy.loss.constants ∧
      (c.Feeds cfg learner → ∃ modelError baselineError, policy'.loss.gate
        = policy.loss.gate.updateBeliefErrorEma cfg modelError baselineError) ∧
      (¬ c.Feeds cfg learner → policy'.loss.gate = policy.loss.gate)) := by
  cases c with
  | learnOnBatch samples =>
      refine (learnOnBatch_effect cfg learner policy samples).bind (fun r h => Ensures.pure ?_)
      by_cases henabled : cfg.enabled = true
      · have heffect := h.1 henabled
        refine ⟨heffect.constants, fun hfeeds => ?_, fun hfeeds => heffect.unfed (fun hfed => ?_)⟩
        · exact heffect.fed ⟨hfeeds.learned, hfeeds.dim, hbuilt.mpr ⟨henabled, hfeeds.learned⟩,
            hfeeds.state, hfeeds.nextState⟩ hfeeds.mask rfl hfeeds.performanceGate
        · obtain ⟨hreach, hmask, -, hgate⟩ := hfed
          exact hfeeds ⟨henabled, hgate, hreach.learned, hreach.dim, hreach.state, hreach.nextState,
            hmask⟩
      · obtain ⟨-, hgate, hconstants⟩ := h.2 (Bool.eq_false_iff.mpr henabled)
        exact ⟨hconstants, fun hfeeds => absurd hfeeds.enabled henabled, fun _ => hgate⟩
  | computeActions rows states =>
      exact Ensures.pure ⟨constants_forward policy states, False.elim, fun _ =>
        gate_forward policy states⟩
  | updateTarget => exact Ensures.pure ⟨rfl, False.elim, fun _ => rfl⟩
  | setEpsilon epsilon => exact Ensures.pure ⟨rfl, False.elim, fun _ => rfl⟩
  | setWeights weights =>
      exact (setWeights_loss policy weights).mono (fun _ h => ⟨h.2, False.elim, fun _ => h.1⟩)
  | setState state =>
      refine (setWeights_loss policy state.weights).bind (fun policy' h => ?_)
      exact Ensures.pure ⟨h.2, False.elim, fun _ => h.1⟩

/-! ### Over a run -/

/-- The step relation of a policy. -/
def Step (policy : QPLEXFocusTorchPolicy M D H cfg.nTargets) (c : Call M S D H cfg.nTargets)
    (policy' : QPLEXFocusTorchPolicy M D H cfg.nTargets) : Prop :=
  call cfg learner policy c = .ok policy'

/-- The gate of a policy after some calls. -/
structure GateAfter (policy₀ : QPLEXFocusTorchPolicy M D H cfg.nTargets)
    (calls : List (Call M S D H cfg.nTargets)) (policy : QPLEXFocusTorchPolicy M D H cfg.nTargets) :
    Prop where
  constants : policy.loss.constants = policy₀.loss.constants
  learnerUpdate : policy.loss.gate.learnerUpdate = 0
  unfed : (∀ c ∈ calls, ¬ c.Feeds cfg learner) → policy.loss.gate = FocusGate.init
  fed : (∃ c ∈ calls, c.Feeds cfg learner) → 0 < policy.loss.gate.beliefErrorEmaUpdates

theorem run_gate {policy₀ policy : QPLEXFocusTorchPolicy M D H cfg.nTargets}
    {calls : List (Call M S D H cfg.nTargets)} (hbuilt : Built cfg policy₀)
    (hgate : policy₀.loss.gate = FocusGate.init)
    (hrun : Run (Step cfg learner) policy₀ calls policy) :
    GateAfter cfg learner policy₀ calls policy := by
  refine hrun.induct (GateAfter cfg learner policy₀) ?_ ?_
  · refine ⟨rfl, by rw [hgate]; rfl, fun _ => hgate, ?_⟩
    rintro ⟨c, hc, -⟩
    cases hc
  · intro calls policy c policy' h hstep
    have hbuilt' : Built cfg policy := (occupancyModel_ne_none h.constants).trans hbuilt
    obtain ⟨hconstants, hfed, hunfed⟩ := call_gate cfg learner policy hbuilt' c policy' hstep
    by_cases hfeeds : c.Feeds cfg learner
    · obtain ⟨modelError, baselineError, hupdate⟩ := hfed hfeeds
      refine ⟨hconstants.trans h.constants, ?_, fun hnone => ?_, fun _ => ?_⟩
      · rw [hupdate, FocusGate.learnerUpdate_updateBeliefErrorEma]
        exact h.learnerUpdate
      · exact absurd hfeeds (hnone c (List.mem_append_right calls List.mem_cons_self))
      · rw [hupdate, FocusGate.beliefErrorEmaUpdates_updateBeliefErrorEma]
        exact Nat.succ_pos _
    · have hsame := hunfed hfeeds
      refine ⟨hconstants.trans h.constants, by rw [hsame]; exact h.learnerUpdate, fun hnone => ?_, ?_⟩
      · rw [hsame]
        exact h.unfed (fun c' hc' => hnone c' (List.mem_append_left [c] hc'))
      · rintro ⟨c', hc', hfeeds'⟩
        rw [hsame]
        rcases List.mem_append.mp hc' with hc' | hc'
        · exact h.fed ⟨c', hc', hfeeds'⟩
        · rw [List.mem_singleton.mp hc'] at hfeeds'
          exact absurd hfeeds' hfeeds

end QPLEXFocusTorchPolicy

/-! ## Calls of a grouped policy -/

namespace GroupedCTDEPolicy

variable (cfg : FocusConfig) {N O S : Type} {D H n : ℕ} [Quadrature]
  (learner : GroupedLearner N O S D H n cfg.nTargets)
  (policy : GroupedCTDEPolicy N O D H cfg.nTargets)

/-- The engine of the policy after it has been told the number of updates. -/
def told (engine : FocusLoss D H cfg.nTargets) : FocusLoss D H cfg.nTargets :=
  { engine with gate := engine.gate.setFocusLearnerUpdate policy.learnerUpdates }

theorem focusOutput_effect (batch : FocusBatch D n) :
    Ensures (focusOutput cfg learner policy batch) (fun r =>
      r.2.learnerUpdates = policy.learnerUpdates ∧
      (∀ engine, policy.focusEngine = some engine → ∃ engine', r.2.focusEngine = some engine' ∧
        Effect cfg (told cfg policy engine) batch true (r.1.bind CreditTarget.blendSchedule)
          engine') ∧
      (policy.focusEngine = none → r.1 = none ∧ r.2.focusEngine = none)) := by
  unfold focusOutput
  cases hengine : policy.focusEngine with
  | none =>
      refine Ensures.pure ⟨rfl, fun engine h => ?_, fun _ => ⟨rfl, hengine⟩⟩
      cases h
  | some engine =>
      refine (focusCreditTarget_effect cfg learner.nActions (told cfg policy engine) batch true).bind
        (fun r h => Ensures.pure ⟨rfl, fun engine' h' => ?_, fun hnone => ?_⟩)
      · cases h'
        exact ⟨r.2, rfl, h⟩
      · cases hnone

theorem learnOnBatch_effect (samples : S) : Ensures (learnOnBatch cfg learner policy samples)
    (fun r => r.2.learnerUpdates = policy.learnerUpdates + 1 ∧
      (∀ engine, policy.focusEngine = some engine → ∃ engine', r.2.focusEngine = some engine' ∧
        Effect cfg (told cfg policy engine) (learner.sequences samples) true r.1 engine') ∧
      (policy.focusEngine = none → r.1 = none ∧ r.2.focusEngine = none)) := by
  refine (focusOutput_effect cfg learner policy (learner.sequences samples)).bind ?_
  rintro ⟨target, after⟩ ⟨hupdates, hsome, hnone⟩
  refine Ensures.andThen (fun optimised => ?_)
  refine Ensures.pure ⟨congrArg Nat.succ hupdates, fun engine h => ?_, fun h => ?_⟩
  · obtain ⟨engine', hengine', heffect⟩ := hsome engine h
    refine ⟨_, congrArg (Option.map _) hengine', heffect.around rfl rfl ?_ rfl⟩
    exact constants_map_withNet engine'.occupancyModel optimised.2.1
  · obtain ⟨htarget, hengine⟩ := hnone h
    dsimp only at htarget hengine ⊢
    rw [htarget, hengine]
    exact ⟨rfl, rfl⟩

/-! ### Over a run -/

/-- The step relation of a policy. -/
def Step (policy : GroupedCTDEPolicy N O D H cfg.nTargets) (c : Call N O S D H cfg.nTargets)
    (policy' : GroupedCTDEPolicy N O D H cfg.nTargets) : Prop :=
  call cfg learner policy c = .ok policy'

omit [Quadrature] in
theorem constants_loadEngine {J : ℕ} (engine : Option (FocusLoss D H J))
    (dict : Option (EngineDict D H J)) : Ensures (loadEngine engine dict) (fun loaded =>
      loaded.map FocusLoss.constants = engine.map FocusLoss.constants) := by
  rcases engine with _ | ⟨_ | model, gate⟩
  · exact Ensures.pure rfl
  · rcases dict with _ | ⟨_ | dict, gate'⟩
    · exact Ensures.pure rfl
    · exact Ensures.pure rfl
    · exact fun _ h => absurd h (by simp [loadEngine])
  · rcases dict with _ | ⟨_ | dict, gate'⟩
    · exact Ensures.pure rfl
    · exact fun _ h => absurd h (by simp [loadEngine])
    · refine (model.constants_loadStateDict dict true).bind (fun loaded h => Ensures.pure ?_)
      exact congrArg (fun c => some (some c)) h

omit [Quadrature] in
theorem setWeights_engine {J : ℕ} (policy : GroupedCTDEPolicy N O D H J) (weights : Weights N D H J) :
    Ensures (policy.setWeights weights) (fun policy' =>
      policy'.focusEngine.map FocusLoss.constants = policy.focusEngine.map FocusLoss.constants) :=
  (constants_loadEngine policy.focusEngine weights.focusEngine).bind (fun _ h => Ensures.pure h)

/-- No call changes what is configured. -/
theorem call_constants (c : Call N O S D H cfg.nTargets) :
    Ensures (call cfg learner policy c) (fun policy' =>
      policy'.focusEngine.map FocusLoss.constants = policy.focusEngine.map FocusLoss.constants) := by
  cases c with
  | learnOnBatch samples =>
      refine (learnOnBatch_effect cfg learner policy samples).bind (fun r h => Ensures.pure ?_)
      obtain ⟨-, hsome, hnone⟩ := h
      cases hengine : policy.focusEngine with
      | none =>
          rw [(hnone hengine).2]
      | some engine =>
          obtain ⟨engine', hengine', heffect⟩ := hsome engine hengine
          rw [hengine']
          exact congrArg some heffect.constants
  | computeActions epsilon => exact Ensures.pure rfl
  | setEpsilon epsilon => exact Ensures.pure rfl
  | setWeights weights => exact setWeights_engine policy weights
  | setState state =>
      refine (setWeights_engine policy state.weights).bind (fun policy' h => Ensures.pure ?_)
      rw [← h]
      cases policy'.focusEngine with
      | none => rfl
      | some engine => rfl

theorem run_constants {policy₀ policy : GroupedCTDEPolicy N O D H cfg.nTargets}
    {calls : List (Call N O S D H cfg.nTargets)}
    (hrun : Run (Step cfg learner) policy₀ calls policy) :
    policy.focusEngine.map FocusLoss.constants = policy₀.focusEngine.map FocusLoss.constants :=
  hrun.invariant (fun policy => policy.focusEngine.map FocusLoss.constants
      = policy₀.focusEngine.map FocusLoss.constants) rfl
    (fun policy c policy' h hstep => (call_constants cfg learner policy c policy' hstep).trans h)

omit [Quadrature] in
theorem new_constants {belief : BeliefConfig} {modules modules' : N}
    {net net' : (O : ℕ) → Net D H cfg.nTargets O} {optimizers optimizers' : O} {epsilon epsilon' : ℚ}
    {policy policy' : GroupedCTDEPolicy N O D H cfg.nTargets}
    (h : new cfg belief modules net optimizers epsilon = .ok policy)
    (h' : new cfg belief modules' net' optimizers' epsilon' = .ok policy') :
    policy'.focusEngine.map FocusLoss.constants = policy.focusEngine.map FocusLoss.constants := by
  obtain ⟨model, hmodel, hpolicy⟩ := bind_eq_ok.mp h
  obtain ⟨model', hmodel', hpolicy'⟩ := bind_eq_ok.mp h'
  have hconstants := (newOccupancyModel_spec cfg belief net net' _ hmodel).2 _ hmodel'
  cases hpolicy
  cases hpolicy'
  dsimp only
  split
  · exact congrArg some hconstants
  · rfl

omit [Quadrature] in
/-- An engine of the same configuration that loads what was saved is the engine that was saved. -/
theorem loadEngine_save {J : ℕ} {fresh engine : Option (FocusLoss D H J)}
    (h : fresh.map FocusLoss.constants = engine.map FocusLoss.constants) :
    loadEngine fresh (engine.map (fun engine =>
      ⟨engine.occupancyModel.map OccupancyModel.stateDict, engine.gate⟩)) = .ok engine := by
  rcases engine with _ | ⟨_ | model, gate⟩
  · rcases fresh with _ | fresh
    · rfl
    · cases h
  · rcases fresh with _ | ⟨_ | model', gate'⟩
    · cases h
    · rfl
    · cases h
  · rcases fresh with _ | ⟨_ | model', gate'⟩
    · cases h
    · cases h
    · have hconstants : model'.constants = model.constants :=
        Option.some.inj (Option.some.inj h)
      exact bind_eq_ok.mpr ⟨model, OccupancyModel.loadStateDict_stateDict hconstants true, rfl⟩

omit [Quadrature] in
/-- A restore brings back the engine as it was saved. -/
theorem setState_getState {J : ℕ} {fresh policy : GroupedCTDEPolicy N O D H J}
    (h : fresh.focusEngine.map FocusLoss.constants = policy.focusEngine.map FocusLoss.constants) :
    Returns (fresh.setState policy.getState) (fun restored =>
      restored.focusEngine = policy.focusEngine) := by
  refine ⟨_, bind_eq_ok.mpr ⟨_, bind_eq_ok.mpr ⟨_, loadEngine_save h, rfl⟩, rfl⟩, ?_⟩
  cases hengine : policy.focusEngine with
  | none => rfl
  | some engine =>
      dsimp only [getState]
      rw [hengine]
      rfl

end GroupedCTDEPolicy

/-! ## The schedule of the blend -/

/-- The documented blend for a batch after `updates` updates: none up to the warmup, then rising
linearly over the ramp. -/
def documentedSchedule (warmup ramp updates : ℕ) : ℚ :=
  if updates ≤ warmup then 0
  else if ramp = 0 then 1
  else min (((updates : ℚ) - warmup) / ramp) 1

theorem documentedSchedule_eq_zero {warmup ramp updates : ℕ} :
    documentedSchedule warmup ramp updates = 0 ↔ updates ≤ warmup := by
  unfold documentedSchedule
  constructor
  · intro h
    by_contra hlt
    rw [if_neg hlt] at h
    have hrise : (0 : ℚ) < (updates : ℚ) - warmup := by
      rw [sub_pos]
      exact_mod_cast not_le.mp hlt
    split at h
    · exact absurd h one_ne_zero
    · rename_i hramp
      have hpos : (0 : ℚ) < ramp := by exact_mod_cast Nat.pos_of_ne_zero hramp
      exact (lt_min (div_pos hrise hpos) one_pos).ne' h
  · intro h
    rw [if_pos h]

section Schedule

variable (cfg : FocusConfig) (hblend : cfg.beliefProgressiveBlend = true)

include hblend

/-- The code of the schedule is right about the count that it is told. -/
theorem beliefBlendSchedule_eq (gate : FocusGate) :
    gate.beliefBlendSchedule cfg = documentedSchedule cfg.beliefBlendWarmupUpdates.toNat
      cfg.beliefBlendRampUpdates.toNat gate.learnerUpdate := by
  unfold FocusGate.beliefBlendSchedule documentedSchedule
  rw [hblend, if_neg (by decide)]
  dsimp only
  by_cases hwarmup : gate.learnerUpdate ≤ cfg.beliefBlendWarmupUpdates.toNat
  · rw [if_pos hwarmup, if_pos hwarmup]
  · have hrise : (0 : ℚ) ≤ (gate.learnerUpdate : ℚ) - cfg.beliefBlendWarmupUpdates.toNat := by
      rw [sub_nonneg]
      exact_mod_cast (not_le.mp hwarmup).le
    unfold clip01
    rw [if_neg hwarmup, if_neg hwarmup,
      max_eq_left (div_nonneg hrise (Nat.cast_nonneg cfg.beliefBlendRampUpdates.toNat))]

end Schedule

section Reported

variable (cfg : FocusConfig) {D H n : ℕ} {loss loss' : FocusLoss D H cfg.nTargets}
  {batch : FocusBatch D n} {updateBeliefEma : Bool} {s : ℚ}

/-- What a call reports is the schedule of the gate that it starts with. -/
theorem Effect.eq_of_reported (h : Effect cfg loss batch updateBeliefEma (some s) loss') :
    s = loss.gate.beliefBlendSchedule cfg := by
  by_cases hreach : Reaches cfg loss batch
  · exact Option.some.inj (h.reported hreach)
  · cases h.unreported hreach

end Reported

/-- Whether a call learns. -/
def QPLEXFocusTorchPolicy.Call.isLearn {M : Modules} {S : Type} {D H J : ℕ} :
    Call M S D H J → Bool
  | .learnOnBatch _ => true
  | _ => false

/-- The step relation of a grouped policy that only learns. -/
def GroupedCTDEPolicy.LearnStep [Quadrature] (cfg : FocusConfig) {N O S : Type} {D H n : ℕ}
    (learner : GroupedLearner N O S D H n cfg.nTargets)
    (policy : GroupedCTDEPolicy N O D H cfg.nTargets) (samples : S)
    (policy' : GroupedCTDEPolicy N O D H cfg.nTargets) : Prop :=
  ∃ schedule, learnOnBatch cfg learner policy samples = .ok (schedule, policy')

/-- A grouped policy counts its updates. -/
theorem GroupedCTDEPolicy.learnerUpdates_run [Quadrature] (cfg : FocusConfig) {N O S : Type} {D H n : ℕ}
    (learner : GroupedLearner N O S D H n cfg.nTargets)
    {policy₀ policy : GroupedCTDEPolicy N O D H cfg.nTargets} {samples : List S}
    (h₀ : policy₀.learnerUpdates = 0) (hrun : Run (LearnStep cfg learner) policy₀ samples policy) :
    policy.learnerUpdates = samples.length := by
  refine hrun.induct (fun samples policy => policy.learnerUpdates = samples.length) h₀ ?_
  rintro samples policy sample policy' hlength ⟨schedule, hlearn⟩
  rw [(learnOnBatch_effect cfg learner policy sample _ hlearn).1, hlength, List.length_append,
    List.length_singleton]

/-- **The blend of a QPLEX policy follows its documented schedule up to the end of the warmup, and no
further**: after any calls, the schedule of the gate, and the schedule that the next batch reports, are
the documented ones if and only if the learner has not made more updates than the warmup has. In
`GroupedCTDEPolicy` the schedule of a batch is the documented one always. -/
theorem learnOnBatch_schedule_iff [Quadrature] (cfg : FocusConfig) (hblend : cfg.beliefProgressiveBlend = true)
    (belief : BeliefConfig) (D H n : ℕ) (S : Type) :
    let warmup := cfg.beliefBlendWarmupUpdates.toNat
    let ramp := cfg.beliefBlendRampUpdates.toNat
    (∀ (M : Modules) (learner : QplexLearner M S D H n cfg.nTargets) initial policy₀ calls policy,
      QPLEXFocusTorchPolicy.new cfg belief initial = .ok policy₀ →
      Run (QPLEXFocusTorchPolicy.Step cfg learner) policy₀ calls policy →
      let updates := calls.countP QPLEXFocusTorchPolicy.Call.isLearn
      (policy.loss.gate.beliefBlendSchedule cfg = documentedSchedule warmup ramp updates ↔
        updates ≤ warmup) ∧
      ∀ samples s policy', policy.learnOnBatch cfg learner samples = .ok (some s, policy') →
        (s = documentedSchedule warmup ramp updates ↔ updates ≤ warmup)) ∧
    ∀ (N O : Type) (learner : GroupedLearner N O S D H n cfg.nTargets) modules net optimizers epsilon
      policy₀ samples policy,
      GroupedCTDEPolicy.new cfg belief modules net optimizers epsilon = .ok policy₀ →
      Run (GroupedCTDEPolicy.LearnStep cfg learner) policy₀ samples policy →
      ∀ sample s policy', policy.learnOnBatch cfg learner sample = .ok (some s, policy') →
        s = documentedSchedule warmup ramp samples.length := by
  intro warmup ramp
  constructor
  · intro M learner initial policy₀ calls policy hnew hrun updates
    have hgate := QPLEXFocusTorchPolicy.run_gate cfg learner
      (QPLEXFocusTorchPolicy.new_built cfg hnew)
      (QPLEXFocusTorchPolicy.new_loss cfg belief initial policy₀ hnew).1 hrun
    -- nothing tells the estimator about the updates, so it stays in the warmup
    have hzero : policy.loss.gate.beliefBlendSchedule cfg = 0 := by
      rw [beliefBlendSchedule_eq cfg hblend, hgate.learnerUpdate]
      exact documentedSchedule_eq_zero.mpr (Nat.zero_le _)
    have hiff : 0 = documentedSchedule warmup ramp updates ↔ updates ≤ warmup :=
      eq_comm.trans documentedSchedule_eq_zero
    refine ⟨by rwa [hzero], fun samples s policy' hlearn => ?_⟩
    obtain ⟨henabled, hdisabled⟩ :=
      QPLEXFocusTorchPolicy.learnOnBatch_effect cfg learner policy samples _ hlearn
    by_cases hon : cfg.enabled = true
    · rwa [(henabled hon).eq_of_reported, hzero]
    · cases (hdisabled (Bool.eq_false_iff.mpr hon)).1
  · intro N O learner modules net optimizers epsilon policy₀ samples policy hnew hrun sample s policy'
      hlearn
    obtain ⟨model, -, hpolicy₀⟩ := bind_eq_ok.mp hnew
    have h₀ : policy₀.learnerUpdates = 0 := by
      cases hpolicy₀
      rfl
    have hupdates := GroupedCTDEPolicy.learnerUpdates_run cfg learner h₀ hrun
    obtain ⟨-, hsome, hnone⟩ :=
      GroupedCTDEPolicy.learnOnBatch_effect cfg learner policy sample _ hlearn
    cases hengine : policy.focusEngine with
    | none => cases (hnone hengine).1
    | some engine =>
        obtain ⟨engine', -, heffect⟩ := hsome engine hengine
        rw [heffect.eq_of_reported, beliefBlendSchedule_eq cfg hblend, ← hupdates]
        rfl

/-! ### A policy on batches of one step -/

/-- One camera and one target, with all safeguards of the belief and no warmup. -/
def zeroEmaBlend : FocusConfig where
  nTargets := 1
  integralMode := "sigma"
  beliefProgressiveBlend := true
  beliefPerformanceGate := true

/-- Modules with nothing to learn. -/
def unitModules : Modules := ⟨Unit, Unit, Unit, Unit, Unit⟩

/-- Networks that forecast that nothing moves. -/
def unitNetworks : Optimised unitModules (requiredDim 1 1) 1 1 :=
  ⟨(), (), none, (), (), fun _ _ _ _ _ => 0⟩

/-- A learner whose samples are one step in which nothing moves. -/
noncomputable def unitLearner : QplexLearner unitModules Unit (requiredDim 1 1) 1 1 1 where
  nActions := 2
  sequences := fun _ =>
    ⟨1, 1, some (fun _ _ _ => 0), some (fun _ _ _ => 0), fun _ _ _ => 0, fun _ _ => 1⟩
  bootstrapsConfidence := fun _ => false
  distillsConfidence := fun _ => false
  optimise := fun _ _ _ => .ok unitNetworks

namespace QPLEXFocusTorchPolicy

/-- The policy is constructed, and every call of it returns. -/
theorem unit_new : ∃ policy, new zeroEmaBlend {} unitNetworks = .ok policy := by
  have hgaussian : (BeliefConfig.beliefDistribution {}).toLower = "gaussian" := by decide +kernel
  unfold new newOccupancyModel buildOccupancyModel
  rw [if_pos ⟨rfl, rfl⟩]
  dsimp only
  rw [if_pos (Or.inl hgaussian)]
  exact ⟨_, rfl⟩

theorem unit_returns (policy : QPLEXFocusTorchPolicy unitModules (requiredDim 1 1) 1 1) :
    ∃ schedule policy', @learnOnBatch zeroEmaBlend _ _ _ _ _ oneNode unitLearner policy ()
      = .ok (schedule, policy') := by
  obtain ⟨⟨target, loss⟩, hcredit, -⟩ := @focusCreditTarget_returns zeroEmaBlend _ _ _ oneNode
    policy.loss (Or.inr ⟨rfl, Or.inl (.legacy rfl (by decide +kernel))⟩) 2 (unitLearner.sequences ())
    true (by decide) (by decide) (fun _ _ => by decide) (by simp [unitLearner])
  have htarget : @focusTarget zeroEmaBlend _ _ _ oneNode 2 policy.loss (unitLearner.sequences ())
      = .ok (some target, loss) := by
    unfold focusTarget
    refine (if_pos (rfl : zeroEmaBlend.enabled = true)).trans ?_
    exact bind_eq_ok.mpr ⟨_, hcredit, rfl⟩
  refine ⟨_, _, bind_eq_ok.mpr ⟨_, htarget, rfl⟩⟩

theorem unit_hasErrors : HasErrors zeroEmaBlend (unitLearner.sequences ()) :=
  ⟨rfl, rfl, rfl, le_rfl, by simp [unitLearner], by simp [unitLearner], (0 : Fin 1),
    (0 : Fin 1), zero_lt_one⟩

/-- Every call reports the schedule, and feeds the gate. -/
theorem unit_learn {policy : QPLEXFocusTorchPolicy unitModules (requiredDim 1 1) 1 1}
    (hbuilt : Built zeroEmaBlend policy) (hzero : policy.loss.gate.learnerUpdate = 0) :
    ∃ policy', @learnOnBatch zeroEmaBlend _ _ _ _ _ oneNode unitLearner policy ()
        = .ok (some 0, policy') ∧ Built zeroEmaBlend policy' ∧
      policy'.loss.gate.learnerUpdate = 0 ∧
      policy'.loss.gate.beliefErrorEmaUpdates = policy.loss.gate.beliefErrorEmaUpdates + 1 := by
  obtain ⟨schedule, policy', hlearn⟩ := unit_returns policy
  have heffect := (@learnOnBatch_effect zeroEmaBlend _ _ _ _ _ oneNode unitLearner policy () _
    hlearn).1 rfl
  have herrors := unit_hasErrors
  have hreach : Reaches zeroEmaBlend policy.loss (unitLearner.sequences ()) :=
    ⟨herrors.learned, herrors.dim, hbuilt.mpr ⟨rfl, rfl⟩, herrors.state, herrors.nextState⟩
  have hschedule : policy.loss.gate.beliefBlendSchedule zeroEmaBlend = 0 := by
    rw [beliefBlendSchedule_eq zeroEmaBlend rfl, hzero]
    exact documentedSchedule_eq_zero.mpr (Nat.zero_le _)
  have hreported := heffect.reported hreach
  rw [hschedule] at hreported
  dsimp only at hreported
  subst hreported
  obtain ⟨modelError, baselineError, hgate⟩ := heffect.fed hreach herrors.mask rfl rfl
  refine ⟨policy', hlearn, (occupancyModel_ne_none heffect.constants).trans hbuilt, ?_, ?_⟩
  · exact (congrArg FocusGate.learnerUpdate hgate).trans
      ((FocusGate.learnerUpdate_updateBeliefErrorEma _ _).trans hzero)
  · exact (congrArg FocusGate.beliefErrorEmaUpdates hgate).trans
      (FocusGate.beliefErrorEmaUpdates_updateBeliefErrorEma _ _)

end QPLEXFocusTorchPolicy

open QPLEXFocusTorchPolicy in
/-- Without a warmup and a ramp the belief is to be trusted in full after the first batch. The second
batch still reports a blend of zero. -/
theorem learnOnBatch_schedule_stays : ∃ policy₀ policy policy' schedule,
    QPLEXFocusTorchPolicy.new zeroEmaBlend {} unitNetworks = .ok policy₀ ∧
      @learnOnBatch zeroEmaBlend _ _ _ _ _ oneNode unitLearner policy₀ () = .ok (schedule, policy) ∧
      @learnOnBatch zeroEmaBlend _ _ _ _ _ oneNode unitLearner policy () = .ok (some 0, policy') ∧
      documentedSchedule 0 0 1 = 1 := by
  obtain ⟨policy₀, hnew⟩ := unit_new
  have hgate := (QPLEXFocusTorchPolicy.new_loss zeroEmaBlend {} unitNetworks policy₀ hnew).1
  obtain ⟨policy, hfirst, hbuilt, hzero, -⟩ := unit_learn (new_built zeroEmaBlend hnew)
    (by rw [hgate]; rfl)
  obtain ⟨policy', hsecond, -⟩ := unit_learn hbuilt hzero
  exact ⟨policy₀, policy, policy', _, hnew, hfirst, hsecond, rfl⟩

open QPLEXFocusTorchPolicy in
theorem learnOnBatch_schedule_iff_unit : ∃ policy₀ policy schedule,
    QPLEXFocusTorchPolicy.new zeroEmaBlend {} unitNetworks = .ok policy₀ ∧
      @learnOnBatch zeroEmaBlend _ _ _ _ _ oneNode unitLearner policy₀ () = .ok (schedule, policy) ∧
      (policy.loss.gate.beliefBlendSchedule zeroEmaBlend = documentedSchedule 0 0 1 ↔ 1 ≤ 0) := by
  obtain ⟨policy₀, hnew⟩ := unit_new
  obtain ⟨schedule, policy, hlearn⟩ := unit_returns policy₀
  have hstep : @Step zeroEmaBlend _ _ _ _ _ oneNode unitLearner policy₀ (.learnOnBatch ()) policy :=
    bind_eq_ok.mpr ⟨_, hlearn, rfl⟩
  exact ⟨policy₀, policy, schedule, hnew, hlearn,
    ((@learnOnBatch_schedule_iff oneNode zeroEmaBlend rfl {} (requiredDim 1 1) 1 1 Unit).1
      unitModules unitLearner unitNetworks policy₀ [.learnOnBatch ()] policy hnew
      (Run.single hstep)).1⟩

/-! ## Restores -/

section Restore

variable (cfg : FocusConfig) {D H : ℕ}

/-- Two estimators with the same trust in the belief, and the same credits for every batch. -/
structure SameTrust [Quadrature] (n : ℕ) (before after : FocusLoss D H cfg.nTargets) : Prop where
  performanceGate :
    after.gate.beliefPerformanceGate cfg = before.gate.beliefPerformanceGate cfg
  blendSchedule : after.gate.beliefBlendSchedule cfg = before.gate.beliefBlendSchedule cfg
  modelErrorEma : after.gate.beliefModelErrorEma = before.gate.beliefModelErrorEma
  baselineErrorEma : after.gate.beliefBaselineErrorEma = before.gate.beliefBaselineErrorEma
  errorEmaUpdates : after.gate.beliefErrorEmaUpdates = before.gate.beliefErrorEmaUpdates
  learnerUpdate : after.gate.learnerUpdate = before.gate.learnerUpdate
  credits : ∀ (nActions : ℤ) (batch : FocusBatch D n) (updateBeliefEma : Bool),
    (focusCreditTarget cfg nActions after batch updateBeliefEma).map Prod.fst
      = (focusCreditTarget cfg nActions before batch updateBeliefEma).map Prod.fst

theorem SameTrust.refl [Quadrature] (n : ℕ) (loss : FocusLoss D H cfg.nTargets) :
    SameTrust cfg n loss loss :=
  ⟨rfl, rfl, rfl, rfl, rfl, rfl, fun _ _ _ => rfl⟩

/-- A QPLEX policy restores the model as it was saved, and leaves the gate as it is. -/
theorem QPLEXFocusTorchPolicy.setState_getState {M : Modules} {J : ℕ}
    {fresh policy : QPLEXFocusTorchPolicy M D H J}
    (h : fresh.loss.constants = policy.loss.constants) :
    Returns (fresh.setState policy.getState) (fun restored =>
      restored.loss = { policy.loss with gate := fresh.loss.gate }) := by
  have hload : loadOccupancyModel fresh.loss.occupancyModel
      (policy.loss.occupancyModel.map OccupancyModel.stateDict) = .ok policy.loss.occupancyModel := by
    unfold FocusLoss.constants at h
    cases hsaved : policy.loss.occupancyModel with
    | none =>
        cases hfresh : fresh.loss.occupancyModel with
        | none => rfl
        | some model =>
            rw [hsaved, hfresh] at h
            cases h
    | some model =>
        cases hfresh : fresh.loss.occupancyModel with
        | none =>
            rw [hsaved, hfresh] at h
            cases h
        | some model' =>
            rw [hsaved, hfresh] at h
            exact bind_eq_ok.mpr
              ⟨model, OccupancyModel.loadStateDict_stateDict (Option.some.inj h) false, rfl⟩
  exact ⟨_, bind_eq_ok.mpr ⟨_, bind_eq_ok.mpr ⟨_, hload, rfl⟩, rfl⟩, rfl⟩

end Restore

/-- **A restored QPLEX policy has the trust of the policy that was saved if and only if no batch has ever
been averaged into it.** A grouped policy restores its engine as it was, always. -/
theorem setState_getState_iff [Quadrature] (cfg : FocusConfig) (belief : BeliefConfig) (D H n : ℕ)
    (S : Type) :
    (∀ (M : Modules) (learner : QplexLearner M S D H n cfg.nTargets) initial initial' policy₀ calls
      policy fresh,
      QPLEXFocusTorchPolicy.new cfg belief initial = .ok policy₀ →
      Run (QPLEXFocusTorchPolicy.Step cfg learner) policy₀ calls policy →
      QPLEXFocusTorchPolicy.new cfg belief initial' = .ok fresh →
      ∃ restored, fresh.setState policy.getState = .ok restored ∧
        (SameTrust cfg n policy.loss restored.loss ↔ ∀ c ∈ calls, ¬ c.Feeds cfg learner)) ∧
    ∀ (N O : Type) (learner : GroupedLearner N O S D H n cfg.nTargets) modules modules' net net'
      optimizers optimizers' epsilon epsilon' policy₀ calls policy fresh,
      GroupedCTDEPolicy.new cfg belief modules net optimizers epsilon = .ok policy₀ →
      Run (GroupedCTDEPolicy.Step cfg learner) policy₀ calls policy →
      GroupedCTDEPolicy.new cfg belief modules' net' optimizers' epsilon' = .ok fresh →
      ∃ restored, fresh.setState policy.getState = .ok restored ∧
        restored.focusEngine = policy.focusEngine := by
  constructor
  · intro M learner initial initial' policy₀ calls policy fresh hnew hrun hfresh
    -- the number of updates is what a run leaves in the gate
    have hgate := QPLEXFocusTorchPolicy.run_gate cfg learner
      (QPLEXFocusTorchPolicy.new_built cfg hnew)
      (QPLEXFocusTorchPolicy.new_loss cfg belief initial policy₀ hnew).1 hrun
    have hinit := (QPLEXFocusTorchPolicy.new_loss cfg belief initial' fresh hfresh).1
    obtain ⟨restored, hrestored, hloss⟩ := QPLEXFocusTorchPolicy.setState_getState
      ((QPLEXFocusTorchPolicy.new_constants cfg hnew hfresh).trans hgate.constants.symm)
    rw [hinit] at hloss
    refine ⟨restored, hrestored, fun hsame c hc hfeeds => ?_, fun hnone => ?_⟩
    · have hupdates := hsame.errorEmaUpdates
      rw [hloss] at hupdates
      exact (hgate.fed ⟨c, hc, hfeeds⟩).ne hupdates
    · have heq : restored.loss = policy.loss := by
        rw [hloss, ← hgate.unfed hnone]
      rw [heq]
      exact SameTrust.refl cfg n policy.loss
  · intro N O learner modules modules' net net' optimizers optimizers' epsilon epsilon' policy₀ calls
      policy fresh hnew hrun hfresh
    exact GroupedCTDEPolicy.setState_getState ((GroupedCTDEPolicy.new_constants cfg hnew hfresh).trans
      (GroupedCTDEPolicy.run_constants cfg learner hrun).symm)

open QPLEXFocusTorchPolicy in
/-- A policy has learned from one batch, and its gate has averaged the errors of it. The policy that
its state is restored into has averaged none. -/
theorem setState_getState_forgets : ∃ policy₀ policy fresh restored schedule,
    QPLEXFocusTorchPolicy.new zeroEmaBlend {} unitNetworks = .ok policy₀ ∧
      @learnOnBatch zeroEmaBlend _ _ _ _ _ oneNode unitLearner policy₀ () = .ok (schedule, policy) ∧
      QPLEXFocusTorchPolicy.new zeroEmaBlend {} unitNetworks = .ok fresh ∧
      fresh.setState policy.getState = .ok restored ∧
      policy.loss.gate.beliefErrorEmaUpdates = 1 ∧
      restored.loss.gate.beliefErrorEmaUpdates = 0 := by
  obtain ⟨policy₀, hnew⟩ := unit_new
  have hgate := (QPLEXFocusTorchPolicy.new_loss zeroEmaBlend {} unitNetworks policy₀ hnew).1
  have hzero : policy₀.loss.gate.learnerUpdate = 0 := by
    rw [hgate]
    rfl
  obtain ⟨policy, hlearn, -, -, hupdates⟩ := unit_learn (new_built zeroEmaBlend hnew) hzero
  have heffect := (@learnOnBatch_effect zeroEmaBlend _ _ _ _ _ oneNode unitLearner policy₀ () _
    hlearn).1 rfl
  obtain ⟨restored, hrestored, hloss⟩ := QPLEXFocusTorchPolicy.setState_getState
    (heffect.constants.symm : policy₀.loss.constants = policy.loss.constants)
  rw [hgate] at hupdates hloss
  exact ⟨policy₀, policy, policy₀, restored, _, hnew, hlearn, hnew, hrestored, hupdates,
    congrArg (fun loss => loss.gate.beliefErrorEmaUpdates) hloss⟩

end Mate.Rllib.Focus
