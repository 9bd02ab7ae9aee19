import Mate.BeliefBlend
import Mate.Library.Runs
import Mate.Rllib.FocusPolicies

set_option autoImplicit false

/-! # Beliefs that start from persistence

With `belief_persistence_initialization` the last layer of a belief network is zeroed, whatever the
layers below it are. Until its first update such a belief forecasts that no target moves: its errors
are those of the baseline, so that the performance gate stays shut as long as the targets do move,
and the credits depend on neither the blend nor the network (`credits_from_persistence`).
-/

namespace Mate.Rllib.Focus

open Finset Nets Fallible Runs

/-! ## The last layer -/

/-- `_initialize_as_persistence_forecast`. -/
def Architecture.initializeAsPersistenceForecast {D H J O : ℕ} :
    Architecture D H J O → Architecture D H J O
  | mlp first second _ => mlp first second ⟨0, 0⟩
  | lstm first rest _ => lstm first rest ⟨0, 0⟩

/-- The network of a constructor, when `persistence_initialization` is or is not asked for. -/
noncomputable def Architecture.newNet {D H J : ℕ} (persistenceInitialization : Bool)
    (arch : (O : ℕ) → Architecture D H J O) (O : ℕ) : Net D H J O :=
  if persistenceInitialization then (arch O).initializeAsPersistenceForecast.net else (arch O).net

theorem Architecture.net_initializeAsPersistenceForecast {D H J O : ℕ} (arch : Architecture D H J O)
    (states : List (Fin D → ℝ)) : arch.initializeAsPersistenceForecast.net states = 0 := by
  cases arch with
  | mlp first second last =>
      funext h j o
      exact congrFun (Linear.zero_apply _) (h, j, o)
  | lstm first rest head =>
      funext h j o
      exact congrFun (Linear.zero_apply _) (h, j, o)

/-! ## Two beliefs at their start -/

section Models

variable {D H J B T : ℕ}

/-- Two models whose outputs are zero, with the same constants behind them. -/
inductive FromPersistence : OccupancyModel D H J → OccupancyModel D H J → Prop
  | gaussian {model model' : LearnedOccupancyModel D H J}
      (hnet : ∀ states, model.beliefNet.net states = 0)
      (hnet' : ∀ states, model'.beliefNet.net states = 0) (hstd : model.minStd = model'.minStd) :
      FromPersistence (.gaussian model) (.gaussian model')
  | categorical {grid : CategoricalGrid} {net net' : BeliefNet D H J grid.numCells}
      (hnet : ∀ states, net.net states = 0) (hnet' : ∀ states, net'.net states = 0) :
      FromPersistence (.categorical ⟨grid, net⟩) (.categorical ⟨grid, net'⟩)

variable {model model' : OccupancyModel D H J}

theorem FromPersistence.observe (h : FromPersistence model model')
    (state state' : Fin B → Fin T → Fin D → ℝ) :
    FromPersistence (model.observe state) (model'.observe state') := by
  cases h with
  | gaussian hnet hnet' hstd => exact .gaussian hnet hnet' hstd
  | categorical hnet hnet' => exact .categorical hnet hnet'

theorem FromPersistence.observe_left (h : FromPersistence model model')
    (state : Fin B → Fin T → Fin D → ℝ) : FromPersistence (model.observe state) model' := by
  cases h with
  | gaussian hnet hnet' hstd => exact .gaussian hnet hnet' hstd
  | categorical hnet hnet' => exact .categorical hnet hnet'

theorem output_of_net {O : ℕ} {net : BeliefNet D H J O} (hnet : ∀ states, net.net states = 0)
    (state : Fin T → Fin D → ℝ) (t : Fin T) : net.output state t = 0 :=
  hnet _

/-- A displacement of zero. -/
theorem LearnedOccupancyModel.mean_zero (model : LearnedOccupancyModel D H J)
    (currentPos : Fin J → ℂ) (h : Fin H) : model.mean 0 currentPos h = currentPos := by
  funext j
  show currentPos j + ⟨Real.tanh 0 * model.maxDelta, Real.tanh 0 * model.maxDelta⟩ = currentPos j
  rw [Real.tanh_zero, zero_mul]
  exact add_zero _

/-- The cells of the prior. -/
theorem CategoricalGrid.mean_persistence (grid : CategoricalGrid) (currentPosition : Fin J → ℂ) :
    grid.mean (fun _ => softmax grid.persistencePriorLogits) currentPosition = currentPosition := by
  funext j
  show currentPosition j + grid.expectedDelta (softmax grid.persistencePriorLogits)
    = currentPosition j
  rw [expectedDelta_persistence, add_zero]

/-- The errors of a forecast that moves nothing. -/
theorem FromPersistence.stepErrors (h : FromPersistence model model') (nAgents : ℕ)
    (state : Fin T → Fin D → ℝ) (t : Fin T) (horizon : Fin H) (target : Fin J → ℂ) :
    model.stepErrors nAgents state t horizon target = model'.stepErrors nAgents state t horizon target
      ∧ (model.stepErrors nAgents state t horizon target).positionError
        = (model.stepErrors nAgents state t horizon target).baselinePositionError := by
  cases h with
  | @gaussian model model' hnet hnet' hstd =>
      unfold OccupancyModel.stepErrors
      dsimp only
      rw [output_of_net hnet, output_of_net hnet']
      unfold LearnedOccupancyModel.stepErrors
      dsimp only
      rw [model.mean_zero, model'.mean_zero]
      have hdeviation : model.std (0 : Fin H → Fin J → Fin 4 → ℝ) horizon = model'.std 0 horizon := by
        unfold LearnedOccupancyModel.std
        rw [hstd]
      rw [hdeviation]
      exact ⟨rfl, rfl⟩
  | @categorical grid net net' hnet hnet' =>
      unfold OccupancyModel.stepErrors
      dsimp only
      rw [output_of_net hnet, output_of_net hnet']
      refine ⟨rfl, ?_⟩
      show positionError target (grid.mean (fun j => softmax (fun k =>
        (0 : ℝ) + grid.persistencePriorLogits k)) _) = positionError target _
      simp only [zero_add]
      rw [grid.mean_persistence]

theorem FromPersistence.nll (h : FromPersistence model model') (nAgents : ℕ)
    (state nextState : Fin B → Fin T → Fin D → ℝ) :
    model.nll nAgents state nextState = model'.nll nAgents state nextState := by
  funext b t horizon
  unfold OccupancyModel.nll
  split
  · exact (h.stepErrors nAgents _ _ _ _).1
  · rfl

theorem FromPersistence.positionError_eq (h : FromPersistence model model') (nAgents : ℕ)
    (state nextState : Fin B → Fin T → Fin D → ℝ) (b : Fin B) (t : Fin T) (horizon : Fin H) :
    (model.nll nAgents state nextState b t horizon).positionError
      = (model.nll nAgents state nextState b t horizon).baselinePositionError := by
  unfold OccupancyModel.nll
  split
  · exact (h.stepErrors nAgents _ _ _ _).2
  · rfl

/-! ## Their forecasts -/

theorem forecast_gaussian {model : LearnedOccupancyModel D H J}
    (hnet : ∀ states, model.beliefNet.net states = 0) (nAgents : ℕ)
    (state : Fin B → Fin T → Fin D → ℝ) :
    (OccupancyModel.gaussian model).forecast nAgents state
      = .gaussian (fun step _ j => targetPosition (state step.1 step.2) nAgents j)
          (fun _ => model.std 0) := by
  unfold OccupancyModel.forecast
  dsimp only
  have houtput : ∀ step : Fin B × Fin T, model.beliefNet.output (state step.1) step.2 = 0 :=
    fun step => output_of_net hnet _ _
  simp only [houtput]
  exact congrArg (fun mean => Belief.gaussian mean (fun _ => model.std 0))
    (funext (fun step => funext (fun h => model.mean_zero _ h)))

theorem forecast_categorical {grid : CategoricalGrid} {net : BeliefNet D H J grid.numCells}
    (hnet : ∀ states, net.net states = 0) (nAgents : ℕ) (state : Fin B → Fin T → Fin D → ℝ) :
    (OccupancyModel.categorical ⟨grid, net⟩).forecast nAgents state
      = .categorical grid (fun _ _ _ => softmax grid.persistencePriorLogits) := by
  unfold OccupancyModel.forecast
  dsimp only
  have houtput : ∀ step : Fin B × Fin T, net.output (state step.1) step.2 = 0 :=
    fun step => output_of_net hnet _ _
  simp only [houtput, Pi.zero_apply, zero_add]

theorem blendMean_self (blend : ℝ) (currentPosition : Fin J → ℂ) :
    blendMean blend (fun _ : Fin H => currentPosition) currentPosition
      = fun _ => currentPosition := by
  funext h j
  unfold blendMean
  rw [sub_self, mul_zero, add_zero]

theorem blendProbabilities_self (blend : ℝ) (grid : CategoricalGrid) :
    blendProbabilities blend grid (fun (_ : Fin H) (_ : Fin J) => softmax grid.persistencePriorLogits)
      = fun _ _ => softmax grid.persistencePriorLogits := by
  funext h j k
  unfold blendProbabilities
  dsimp only
  rw [sub_self, mul_zero, add_zero]

end Models

/-! ## Their credits -/

section Credits

variable {cfg : FocusConfig} {D H n : ℕ} [Quadrature]

/-- Neither the blend nor the network has a say in the gains. -/
theorem FromPersistence.learnedGains {B T : ℕ} {model model' : OccupancyModel D H cfg.nTargets}
    (h : FromPersistence model model') (blend blend' : ℝ) (state : Fin B → Fin T → Fin D → ℝ)
    (selection : Fin B × Fin T → Selection n cfg.nTargets) :
    learnedGains cfg blend (model.forecast n state) (fun step => state step.1 step.2) selection
      = learnedGains cfg blend' (model'.forecast n state) (fun step => state step.1 step.2)
          selection := by
  cases h with
  | @gaussian model model' hnet hnet' hstd =>
      have hdeviation : model.std (0 : Fin H → Fin cfg.nTargets → Fin 4 → ℝ) = model'.std 0 := by
        unfold LearnedOccupancyModel.std
        rw [hstd]
      rw [forecast_gaussian hnet, forecast_gaussian hnet', hdeviation]
      unfold Focus.learnedGains
      simp only [blendMean_self]
  | categorical hnet hnet' =>
      rw [forecast_categorical hnet, forecast_categorical hnet']
      unfold Focus.learnedGains
      simp only [blendProbabilities_self]

/-- What two calls have in common that differ in the network and the gate. -/
def SameCredits {B T : ℕ} (r r' : CreditTarget B T n cfg.nTargets × FocusLoss D H cfg.nTargets) :
    Prop :=
  r.1.steps = r'.1.steps ∧ r.1.supervision = r'.1.supervision

theorem FromPersistence.focusCreditTarget {model model' : OccupancyModel D H cfg.nTargets}
    (h : FromPersistence model model') (gate gate' : FocusGate) (nActions : ℤ)
    (batch : FocusBatch D n) (updateBeliefEma updateBeliefEma' : Bool) :
    Alike SameCredits (focusCreditTarget cfg nActions ⟨some model, gate⟩ batch updateBeliefEma)
      (focusCreditTarget cfg nActions ⟨some model', gate'⟩ batch updateBeliefEma') := by
  have huniform : Alike SameCredits
      (do return (← uniformTarget batch.B batch.T n cfg.nTargets, ⟨some model, gate⟩))
      (do return (← uniformTarget batch.B batch.T n cfg.nTargets, ⟨some model', gate'⟩)) :=
    Alike.bind (R := Eq) (Alike.of_eq (fun _ => rfl) rfl) (fun r r' hr => ⟨hr ▸ rfl, hr ▸ rfl⟩)
  unfold Focus.focusCreditTarget
  cases hstate : batch.state with
  | none => exact huniform
  | some state =>
      dsimp only
      by_cases hdim : D < requiredDim n cfg.nTargets
      · rw [if_pos hdim, if_pos hdim]
        exact huniform
      · rw [if_neg hdim, if_neg hdim]
        by_cases hlearned : cfg.beliefMode = "learned"
        · rw [if_pos hlearned, if_pos hlearned]
          cases hnext : batch.nextState with
          | none => exact huniform
          | some nextState =>
              dsimp only
              have hobserved := h.observe state state
              refine Alike.bind (R := Eq) (Alike.of_eq (fun _ => rfl) rfl) (fun _ _ _ => ?_)
              refine Alike.bind (R := Eq) (Alike.of_eq (fun _ => rfl) rfl) ?_
              rintro selection _ rfl
              rw [hobserved.learnedGains _ (gate'.effectiveBlend cfg)]
              refine Alike.bind (R := Eq) (Alike.of_eq (fun _ => rfl) rfl) ?_
              rintro g _ rfl
              refine ⟨rfl, ?_⟩
              show supervise cfg _ n state nextState batch.mask
                = supervise cfg _ n state nextState batch.mask
              unfold supervise
              rw [hobserved.nll]
        · rw [if_neg hlearned, if_neg hlearned]
          split
          · cases hnext : batch.nextState with
            | none => exact rfl
            | some nextState =>
                dsimp only
                refine Alike.bind (R := Eq) (Alike.of_eq (fun _ => rfl) rfl) (fun _ _ _ => ?_)
                refine Alike.bind (R := Eq) (Alike.of_eq (fun _ => rfl) rfl) ?_
                rintro selection _ rfl
                exact ⟨rfl, rfl⟩
          · exact rfl

/-! ## The gate -/

/-- The averages of a gate that has only seen errors which are those of the baseline. -/
structure EvenAverages (gate : FocusGate) : Prop where
  averages_eq : gate.beliefModelErrorEma = gate.beliefBaselineErrorEma
  none_iff : gate.beliefBaselineErrorEma = none ↔ gate.beliefErrorEmaUpdates = 0

omit [Quadrature] in
theorem EvenAverages.updateBeliefErrorEma {gate : FocusGate} (h : EvenAverages gate) (error : ℝ) :
    EvenAverages (gate.updateBeliefErrorEma cfg error error) := by
  unfold FocusGate.updateBeliefErrorEma
  dsimp only
  by_cases hfirst : gate.beliefErrorEmaUpdates = 0
  · rw [if_pos hfirst]
    exact ⟨rfl, by simp⟩
  · rw [if_neg hfirst]
    refine ⟨by dsimp only; rw [h.averages_eq], ?_⟩
    have hsome : gate.beliefBaselineErrorEma ≠ none := fun hnone => hfirst (h.none_iff.mp hnone)
    simp [hsome]

omit [Quadrature] in
/-- The gate is shut, unless the targets hardly move. -/
theorem EvenAverages.gate_eq_zero_iff {gate : FocusGate} (h : EvenAverages gate)
    (hgate : cfg.beliefPerformanceGate = true) :
    gate.beliefPerformanceGate cfg = 0 ↔ ∀ error ∈ gate.beliefBaselineErrorEma,
      (cfg.eps : ℝ) * (1 - (max cfg.beliefGateMargin 0 : ℚ)) ≤ error := by
  have heps : (0 : ℝ) < cfg.eps := by exact_mod_cast cfg.eps_pos
  have hmargin : (0 : ℝ) ≤ (max cfg.beliefGateMargin 0 : ℚ) := by
    exact_mod_cast le_max_right cfg.beliefGateMargin 0
  have hfull : (0 : ℝ) < (max cfg.beliefGateFullImprovement cfg.eps : ℚ) := by
    exact_mod_cast lt_max_of_lt_right cfg.eps_pos
  unfold FocusGate.beliefPerformanceGate
  rw [if_neg (by simp [hgate]), h.averages_eq]
  cases hbaseline : gate.beliefBaselineErrorEma with
  | none => simp
  | some error =>
      have hupdates : ¬ gate.beliefErrorEmaUpdates ≤ 0 := fun hle => by
        rw [h.none_iff.mpr (Nat.le_zero.mp hle)] at hbaseline
        cases hbaseline
      dsimp only
      rw [if_neg hupdates]
      have hpos : (0 : ℝ) < max error cfg.eps := lt_max_of_lt_right heps
      have hclip : ∀ x : ℝ, clip01 x = 0 ↔ x ≤ 0 := by
        intro x
        unfold clip01
        constructor
        · intro h
          rcases min_choice (max x 0) 1 with hmin | hmin
          · exact (le_max_left x 0).trans_eq (hmin.symm.trans h)
          · exact absurd (hmin.symm.trans h) one_ne_zero
        · intro h
          rw [max_eq_right h, min_eq_left zero_le_one]
      rw [hclip, div_le_iff₀ hfull, zero_mul, div_le_iff₀ hpos, zero_mul, sub_nonpos]
      simp only [Option.mem_def, Option.some.injEq, forall_eq']
      rcases le_total (cfg.eps : ℝ) error with hle | hle
      · -- the baseline is the average, and there is no improvement
        rw [max_eq_left hle]
        refine ⟨fun _ => ?_, fun _ => ?_⟩
        · exact (mul_le_of_le_one_right heps.le (by linarith)).trans hle
        · exact mul_le_of_le_one_right (heps.le.trans hle) (by linarith)
      · rw [max_eq_right hle]

/-! ## Before the first update of the belief -/

/-- What a loss is used for. -/
inductive StartUse (D n : ℕ)
  | credit (batch : FocusBatch D n) (updateBeliefEma : Bool)
  | setFocusLearnerUpdate (learnerUpdate : ℤ)
  | restore

/-- A use of the loss, without an update of its belief. -/
inductive StartStep (nActions : ℤ) : FocusLoss D H cfg.nTargets → StartUse D n →
    FocusLoss D H cfg.nTargets → Prop
  | credit {loss loss' : FocusLoss D H cfg.nTargets} {batch : FocusBatch D n} {updateBeliefEma : Bool}
      {target : CreditTarget batch.B batch.T n cfg.nTargets}
      (h : focusCreditTarget cfg nActions loss batch updateBeliefEma = .ok (target, loss')) :
      StartStep nActions loss (.credit batch updateBeliefEma) loss'
  | setFocusLearnerUpdate {loss : FocusLoss D H cfg.nTargets} {learnerUpdate : ℤ} :
      StartStep nActions loss (.setFocusLearnerUpdate learnerUpdate)
        { loss with gate := loss.gate.setFocusLearnerUpdate learnerUpdate }
  | restore {loss : FocusLoss D H cfg.nTargets} :
      StartStep nActions loss .restore
        { loss with gate := .setFocusRuntimeState loss.gate.getFocusRuntimeState }

/-- What a call leaves of the loss: all of it, or a model that has seen the batch and a gate that
has seen its errors. -/
theorem loss_focusCreditTarget {loss loss' : FocusLoss D H cfg.nTargets} {nActions : ℤ}
    {batch : FocusBatch D n} {updateBeliefEma : Bool}
    {target : CreditTarget batch.B batch.T n cfg.nTargets}
    (h : focusCreditTarget cfg nActions loss batch updateBeliefEma = .ok (target, loss')) :
    loss' = loss ∨ ∃ model state nextState, loss.occupancyModel = some model ∧
      loss' = ⟨some (model.observe state), commitErrors cfg loss.gate updateBeliefEma
        (supervise cfg (model.observe state) n state nextState batch.mask).pendingBeliefEma⟩ := by
  unfold Focus.focusCreditTarget at h
  split at h
  · obtain ⟨uniform, -, h⟩ := bind_eq_ok.mp h
    cases h
    exact Or.inl rfl
  · rename_i state hstate
    split at h
    · obtain ⟨uniform, -, h⟩ := bind_eq_ok.mp h
      cases h
      exact Or.inl rfl
    · split at h
      · split at h
        · rename_i model nextState hmodel hnext
          obtain ⟨-, -, h⟩ := bind_eq_ok.mp h
          obtain ⟨selection, -, h⟩ := bind_eq_ok.mp h
          obtain ⟨g, -, h⟩ := bind_eq_ok.mp h
          cases h
          exact Or.inr ⟨model, state, nextState, hmodel, rfl⟩
        · obtain ⟨uniform, -, h⟩ := bind_eq_ok.mp h
          cases h
          exact Or.inl rfl
      · split at h
        · split at h
          · cases h
          · obtain ⟨-, -, h⟩ := bind_eq_ok.mp h
            obtain ⟨selection, -, h⟩ := bind_eq_ok.mp h
            cases h
            exact Or.inl rfl
        · cases h

omit [Quadrature] in
/-- The two errors of a batch are the same number. -/
theorem FromPersistence.pendingBeliefEma {B T : ℕ} {model model' : OccupancyModel D H cfg.nTargets}
    (h : FromPersistence model model') (state nextState : Fin B → Fin T → Fin D → ℝ)
    (mask : Fin B → Fin T → ℝ) {errors : ℝ × ℝ}
    (herrors : (supervise cfg model n state nextState mask).pendingBeliefEma = some errors) :
    errors.1 = errors.2 := by
  have hweighted : weightedError cfg model n StepErrors.positionError state nextState
      = weightedError cfg model n StepErrors.baselinePositionError state nextState := by
    funext b t
    exact Finset.sum_congr rfl (fun horizon _ => by rw [h.positionError_eq])
  rw [supervise_pendingBeliefEma, hweighted] at herrors
  split at herrors
  · cases herrors
    rfl
  · cases herrors

/-- The belief of a loss has not been updated, and its errors were those of the baseline. -/
structure AtStart (model' : OccupancyModel D H cfg.nTargets) (loss : FocusLoss D H cfg.nTargets) :
    Prop where
  model : ∃ model, loss.occupancyModel = some model ∧ FromPersistence model model'
  averages : EvenAverages loss.gate

omit [Quadrature] in
theorem AtStart.commitErrors {gate : FocusGate} (h : EvenAverages gate) (updateBeliefEma : Bool)
    {pending : Option (ℝ × ℝ)} (hpending : ∀ errors, pending = some errors → errors.1 = errors.2) :
    EvenAverages (commitErrors cfg gate updateBeliefEma pending) := by
  unfold Focus.commitErrors
  cases pending with
  | none => exact h
  | some errors =>
      dsimp only
      split
      · rw [hpending errors rfl]
        exact h.updateBeliefErrorEma errors.2
      · exact h

/-- **One use** of the loss. -/
theorem AtStart.step {model' : OccupancyModel D H cfg.nTargets} {nActions : ℤ}
    {loss loss' : FocusLoss D H cfg.nTargets} {use : StartUse D n} (h : AtStart model' loss)
    (hstep : StartStep nActions loss use loss') : AtStart model' loss' := by
  cases hstep with
  | credit hcredit =>
      rcases loss_focusCreditTarget hcredit with rfl | ⟨model, state, nextState, hmodel, rfl⟩
      · exact h
      · obtain ⟨model₀, hmodel₀, hfrom⟩ := h.model
        cases hmodel.symm.trans hmodel₀
        have hobserved := hfrom.observe_left state
        refine ⟨⟨_, rfl, hobserved⟩, AtStart.commitErrors h.averages _ ?_⟩
        exact fun errors herrors => hobserved.pendingBeliefEma state nextState _ herrors
  | setFocusLearnerUpdate => exact ⟨h.model, ⟨h.averages.averages_eq, h.averages.none_iff⟩⟩
  | restore => exact h

omit [Quadrature] in
/-- Two models of one configuration, with any two networks. -/
theorem buildOccupancyModel_fromPersistence {belief : BeliefConfig}
    {arch arch' : (O : ℕ) → Architecture D H cfg.nTargets O}
    {model model' : OccupancyModel D H cfg.nTargets}
    (hbuild : buildOccupancyModel cfg belief (Architecture.newNet true arch) = .ok model)
    (hbuild' : buildOccupancyModel cfg belief (Architecture.newNet true arch') = .ok model') :
    FromPersistence model model' := by
  have hnet : ∀ (arch : (O : ℕ) → Architecture D H cfg.nTargets O) (O : ℕ)
      (states : List (Fin D → ℝ)), Architecture.newNet true arch O states = 0 :=
    fun arch O states => (arch O).net_initializeAsPersistenceForecast states
  unfold buildOccupancyModel at hbuild hbuild'
  dsimp only at hbuild hbuild'
  split at hbuild
  · rename_i hgaussian
    rw [if_pos hgaussian] at hbuild'
    cases hbuild
    cases hbuild'
    exact .gaussian (hnet arch 4) (hnet arch' 4) rfl
  · rename_i hgaussian
    rw [if_neg hgaussian] at hbuild'
    split at hbuild
    · rename_i hcategorical
      rw [if_pos hcategorical] at hbuild'
      obtain ⟨grid, hgrid, hbuild⟩ := bind_eq_ok.mp hbuild
      obtain ⟨grid', hgrid', hbuild'⟩ := bind_eq_ok.mp hbuild'
      cases hgrid.symm.trans hgrid'
      cases hbuild
      cases hbuild'
      exact .categorical (hnet arch grid.numCells) (hnet arch' grid.numCells)
    · cases hbuild

/-- **Beliefs start from persistence.** A belief is built with `belief_persistence_initialization`, and
used in any way before its first update. Then the averages of its errors are those of the baseline, the
performance gate is shut unless they fall below the margin of a baseline of `eps`, and the credits and
the supervision of a batch are those of any other network of the configuration behind any other gate. -/
theorem credits_from_persistence {belief : BeliefConfig} {nActions : ℤ}
    {arch arch' : (O : ℕ) → Architecture D H cfg.nTargets O}
    {model model' : OccupancyModel D H cfg.nTargets}
    (hbuild : buildOccupancyModel cfg belief (Architecture.newNet true arch) = .ok model)
    (hbuild' : buildOccupancyModel cfg belief (Architecture.newNet true arch') = .ok model')
    {uses : List (StartUse D n)} {loss : FocusLoss D H cfg.nTargets}
    (hrun : Run (StartStep nActions) ⟨some model, FocusGate.init⟩ uses loss) :
    loss.gate.beliefModelErrorEma = loss.gate.beliefBaselineErrorEma ∧
      (cfg.beliefPerformanceGate = true → (loss.gate.beliefPerformanceGate cfg = 0 ↔
        ∀ error ∈ loss.gate.beliefBaselineErrorEma,
          (cfg.eps : ℝ) * (1 - (max cfg.beliefGateMargin 0 : ℚ)) ≤ error)) ∧
      ∀ (gate' : FocusGate) (batch : FocusBatch D n) (updateBeliefEma updateBeliefEma' : Bool),
        Alike SameCredits (focusCreditTarget cfg nActions loss batch updateBeliefEma)
          (focusCreditTarget cfg nActions ⟨some model', gate'⟩ batch updateBeliefEma') := by
  have hstart : AtStart model' ⟨some model, FocusGate.init⟩ :=
    ⟨⟨model, rfl, buildOccupancyModel_fromPersistence hbuild hbuild'⟩, ⟨rfl, by simp [FocusGate.init]⟩⟩
  have hend : AtStart model' loss :=
    hrun.invariant (AtStart model') hstart (fun _ _ _ h hstep => h.step hstep)
  obtain ⟨reached, hreached, hfrom⟩ := hend.model
  refine ⟨hend.averages.averages_eq, hend.averages.gate_eq_zero_iff,
    fun gate' batch updateBeliefEma updateBeliefEma' => ?_⟩
  obtain ⟨occupancyModel, gate⟩ := loss
  cases hreached
  exact hfrom.focusCreditTarget gate gate' nActions batch updateBeliefEma updateBeliefEma'

end Credits

/-! ## A perceptron and an LSTM -/

def gatedConfig : FocusConfig where
  nTargets := 1
  integralMode := "sigma"
  sigmaMethod := "gauss_hermite"
  sigmaOrder := 1
  beliefPerformanceGate := true

/-- A layer with the weight one everywhere. -/
def onesLayer {ι κ : Type} : Linear ι κ := ⟨fun _ _ => 1, fun _ => 1⟩

def perceptron (O : ℕ) : Architecture (requiredDim 1 1) 1 1 O :=
  @Architecture.mlp _ _ _ _ 2 onesLayer onesLayer onesLayer

def recurrent (O : ℕ) : Architecture (requiredDim 1 1) 1 1 O :=
  @Architecture.lstm _ _ _ _ 3 ⟨onesLayer, onesLayer, onesLayer, onesLayer, onesLayer, onesLayer,
    onesLayer, onesLayer⟩ [] onesLayer

/-- A batch is credited, the count of updates is told, and the gate is restored. -/
theorem credits_from_persistence_perceptron :
    ∃ (model model' : OccupancyModel (requiredDim 1 1) 1 gatedConfig.nTargets)
      (loss : FocusLoss (requiredDim 1 1) 1 gatedConfig.nTargets) (batch : FocusBatch _ 1),
      Run (@StartStep gatedConfig _ _ _ oneNode 2) ⟨some model, FocusGate.init⟩
          [.credit batch true, .setFocusLearnerUpdate 5, .restore] loss ∧
        Alike SameCredits (@focusCreditTarget gatedConfig _ _ _ oneNode 2 loss batch true)
          (@focusCreditTarget gatedConfig _ _ _ oneNode 2 ⟨some model', FocusGate.init⟩ batch true) := by
  have hbuild : ∀ arch : (O : ℕ) → Architecture (requiredDim 1 1) 1 1 O, ∃ model,
      buildOccupancyModel gatedConfig {} (Architecture.newNet true arch) = .ok model :=
    fun arch => ⟨_, if_pos (Or.inl (by decide +kernel))⟩
  obtain ⟨model, hmodel⟩ := hbuild perceptron
  obtain ⟨model', hmodel'⟩ := hbuild recurrent
  let batch : FocusBatch (requiredDim 1 1) 1 :=
    ⟨1, 1, some (fun _ _ _ => 0), some (fun _ _ _ => 1), fun _ _ _ => 0, fun _ _ => 1⟩
  obtain ⟨r, hcredit, -⟩ := @focusCreditTarget_returns gatedConfig _ _ _ oneNode
    ⟨some model, FocusGate.init⟩
    (Or.inr ⟨rfl, Or.inl (.gaussHermite rfl (by decide +kernel) (by decide))⟩) 2 batch true
    Nat.one_pos Nat.one_pos (fun _ _ => by decide) (by simp [batch])
  have hrun : Run (@StartStep gatedConfig _ _ _ oneNode 2) ⟨some model, FocusGate.init⟩
      [.credit batch true, .setFocusLearnerUpdate 5, .restore] _ :=
    (((Run.nil).snoc (@StartStep.credit _ _ _ _ oneNode _ _ _ _ _ r.1 hcredit)).snoc
      (@StartStep.setFocusLearnerUpdate _ _ _ _ oneNode _ _ _)).snoc
      (@StartStep.restore _ _ _ _ oneNode _ _)
  obtain ⟨-, -, hcredits⟩ := @credits_from_persistence gatedConfig _ _ _ oneNode {} 2 perceptron
    recurrent model model' hmodel hmodel' _ _ hrun
  exact ⟨model, model', _, batch, hrun, hcredits FocusGate.init batch true true⟩

end Mate.Rllib.Focus
