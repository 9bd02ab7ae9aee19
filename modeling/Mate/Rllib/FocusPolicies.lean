import Mate.Rllib.FocusTarget

set_option autoImplicit false

/-! # Policies that learn with FOCUS

`QPLEXFocusTorchPolicy` and `GroupedCTDEPolicy` share the estimator of the credits, and with it the
gate of the belief. What the two do besides, their networks and optimisers, is a parameter here: what
matters is when they call the estimator, what they tell it, and what of it they save.
-/

namespace Mate.Rllib.Focus

/-! ## Belief models of a configuration -/

/-- The networks with `O` outputs for every horizon and target. -/
abbrev Net (D H J O : ℕ) : Type := List (Fin D → ℝ) → Fin H → Fin J → Fin O → ℝ

/-- The keys of `focus_config` that `build_occupancy_model` reads, except for those that only shape
the network. -/
structure BeliefConfig where
  beliefDistribution : String := "gaussian"
  beliefMaxDelta : ℚ := 400
  beliefMinStd : Option ℚ := none
  beliefGridSize : ℤ := 21
  beliefGridMaxDelta : Option ℚ := none
  beliefGridLabelStd : Option ℚ := none
  beliefPersistencePriorStd : Option ℚ := none
  beliefPositionLossCoeff : ℚ := 1 / 10
  beliefInputNormalization : Bool := true
  beliefInputClip : ℚ := 5

section Build

variable (cfg : FocusConfig) (belief : BeliefConfig) {D H J O : ℕ}

/-- A new network and its normalizer; a new module is in training mode. -/
def newBeliefNet (net : Net D H J O) : BeliefNet D H J O where
  inputNormalizer :=
    if belief.beliefInputNormalization then some (.init D belief.beliefInputClip) else none
  training := true
  net := net

/-- The constants of `CategoricalOccupancyModel`, if its constructor accepts them. -/
def newGrid : Except Error CategoricalGrid :=
  if hsize : belief.beliefGridSize < 3 ∨ belief.beliefGridSize % 2 = 0 then
    .error (.valueError "categorical belief grid_size must be odd and >= 3")
  else
    let maxDelta := belief.beliefGridMaxDelta.getD belief.beliefMaxDelta
    let cellWidth := 2 * maxDelta / (belief.beliefGridSize - 1)
    let labelStd := belief.beliefGridLabelStd.getD cellWidth
    let persistencePriorStd := belief.beliefPersistencePriorStd.getD cellWidth
    if hstd : labelStd ≤ 0 ∨ persistencePriorStd ≤ 0 then
      .error (.valueError "categorical label/prior std must be positive")
    else
      .ok {
        gridSize := belief.beliefGridSize.toNat
        maxDelta, labelStd, persistencePriorStd
        positionLossCoeff := belief.beliefPositionLossCoeff
        minStd := belief.beliefMinStd.getD 1
        eps := cfg.eps
        gridSize_odd := Nat.odd_iff.mpr (by omega)
        three_le := by omega
        labelStd_pos := by
          rw [not_or, not_le, not_le] at hstd
          exact hstd.1
        persistencePriorStd_pos := by
          rw [not_or, not_le, not_le] at hstd
          exact hstd.2 }

/-- `build_occupancy_model`, with the initial network. -/
def buildOccupancyModel (net : (O : ℕ) → Net D H J O) : Except Error (OccupancyModel D H J) :=
  let distribution := belief.beliefDistribution.toLower
  if distribution = "gaussian" ∨ distribution = "normal" then
    .ok (.gaussian {
      beliefNet := newBeliefNet belief (net 4)
      maxDelta := belief.beliefMaxDelta
      minStd := belief.beliefMinStd.getD 25 })
  else if distribution = "categorical" ∨ distribution = "categorical_grid" ∨ distribution = "grid" then
    do
      let grid ← newGrid cfg belief
      return .categorical { grid, beliefNet := newBeliefNet belief (net grid.numCells) }
  else
    .error (.valueError ("belief_distribution must be gaussian or categorical_grid, got '"
      ++ distribution ++ "'"))

/-- A model is only there if it is used. -/
def newOccupancyModel (net : (O : ℕ) → Net D H J O) : Except Error (Option (OccupancyModel D H J)) :=
  if cfg.enabled = true ∧ cfg.beliefMode = "learned" then some <$> buildOccupancyModel cfg belief net
  else .ok none

end Build

/-! ## State dictionaries

The parameters and the buffers of a module. Buffers that only depend on the configuration, the grid
of displacements and the prior on it, are left out. -/

/-- `RunningFeatureNormalizer.state_dict()`. -/
structure ScaleDict (D : ℕ) where
  mean : Fin D → ℝ
  variance : Fin D → ℝ
  count : ℝ

structure BeliefDict (D H J O : ℕ) where
  net : Net D H J O
  inputNormalizer : Option (ScaleDict D)

/-- The state dictionary of an occupancy model. -/
inductive OccupancyDict (D H J : ℕ)
  | gaussian (dict : BeliefDict D H J 4)
  | categorical (numCells : ℕ) (dict : BeliefDict D H J numCells)

section Dicts

variable {D H J O : ℕ}

def RunningFeatureNormalizer.stateDict (self : RunningFeatureNormalizer D) : ScaleDict D :=
  ⟨self.mean, self.variance, self.count⟩

def RunningFeatureNormalizer.loadStateDict (self : RunningFeatureNormalizer D) (dict : ScaleDict D) :
    RunningFeatureNormalizer D :=
  { self with mean := dict.mean, variance := dict.variance, count := dict.count }

def BeliefNet.stateDict (self : BeliefNet D H J O) : BeliefDict D H J O :=
  ⟨self.net, self.inputNormalizer.map RunningFeatureNormalizer.stateDict⟩

/-- Only a strict load minds keys that are missing or unknown. -/
def BeliefNet.loadStateDict (self : BeliefNet D H J O) (dict : BeliefDict D H J O) (strict : Bool) :
    Except Error (BeliefNet D H J O) :=
  match self.inputNormalizer, dict.inputNormalizer with
  | some normalizer, some scale =>
    .ok { self with net := dict.net, inputNormalizer := some (normalizer.loadStateDict scale) }
  | none, none => .ok { self with net := dict.net }
  | some _, none =>
    if strict then .error (.runtimeError "Error(s) in loading state_dict: Missing key(s)")
    else .ok { self with net := dict.net }
  | none, some _ =>
    if strict then .error (.runtimeError "Error(s) in loading state_dict: Unexpected key(s)")
    else .ok { self with net := dict.net }

def OccupancyModel.stateDict : OccupancyModel D H J → OccupancyDict D H J
  | .gaussian model => .gaussian model.beliefNet.stateDict
  | .categorical model => .categorical model.grid.numCells model.beliefNet.stateDict

/-- Networks of another output size do not fit, strict or not. -/
def OccupancyModel.loadStateDict (self : OccupancyModel D H J) (dict : OccupancyDict D H J)
    (strict : Bool) : Except Error (OccupancyModel D H J) :=
  match self, dict with
  | .gaussian model, .gaussian dict => do
    return .gaussian { model with beliefNet := ← model.beliefNet.loadStateDict dict strict }
  | .categorical model, .categorical numCells dict =>
    if h : numCells = model.grid.numCells then do
      return .categorical
        { model with beliefNet := ← model.beliefNet.loadStateDict (h ▸ dict) strict }
    else .error (.runtimeError "Error(s) in loading state_dict: size mismatch")
  | _, _ => .error (.runtimeError "Error(s) in loading state_dict: size mismatch")

/-- The model with another network. -/
def OccupancyModel.withNet (self : OccupancyModel D H J) (net : (O : ℕ) → Net D H J O) :
    OccupancyModel D H J :=
  match self with
  | .gaussian model => .gaussian { model with beliefNet := { model.beliefNet with net := net 4 } }
  | .categorical model =>
    .categorical { model with beliefNet := { model.beliefNet with net := net model.grid.numCells } }

/-- A forward pass of the model, if there is one. Its outputs are not kept. -/
noncomputable def FocusLoss.forward {B T : ℕ} (self : FocusLoss D H J)
    (states : Fin B → Fin T → Fin D → ℝ) : FocusLoss D H J :=
  { self with occupancyModel := self.occupancyModel.map (fun model => model.observe states) }

end Dicts

/-! ## QPLEX -/

/-- The types of the modules that FOCUS does not look into. -/
structure Modules where
  Model : Type
  Mixer : Type
  LocalBeliefModel : Type
  GradientFloor : Type
  Optimisers : Type

/-- The state of `QPLEXFocusTorchPolicy`. Its occupancy model is that of its loss. -/
structure QPLEXFocusTorchPolicy (M : Modules) (D H J : ℕ) where
  model : M.Model
  targetModel : M.Model
  mixer : M.Mixer
  targetMixer : M.Mixer
  localBeliefModel : Option M.LocalBeliefModel
  actionGradientFloor : M.GradientFloor
  loss : FocusLoss D H J
  optimisers : M.Optimisers
  curEpsilon : ℚ

/-- What the optimisers make of the networks. -/
structure Optimised (M : Modules) (D H J : ℕ) where
  model : M.Model
  mixer : M.Mixer
  localBeliefModel : Option M.LocalBeliefModel
  actionGradientFloor : M.GradientFloor
  optimisers : M.Optimisers
  /-- the network of the occupancy model, whatever its outputs are -/
  net : (O : ℕ) → Net D H J O

/-- The rest of a QPLEX policy, for samples of type `S`. -/
structure QplexLearner (M : Modules) (S : Type) (D H n J : ℕ) where
  nActions : ℤ
  /-- the samples chopped into sequences -/
  sequences : S → FocusBatch D n
  /-- the loss asks the belief for its confidence in the next states, or in the states -/
  bootstrapsConfidence : S → Bool
  distillsConfidence : S → Bool
  optimise : QPLEXFocusTorchPolicy M D H J → (samples : S) →
    Option (CreditTarget (sequences samples).B (sequences samples).T n J) →
    Except Error (Optimised M D H J)

namespace QPLEXFocusTorchPolicy

variable (cfg : FocusConfig) {M : Modules} {S : Type} {D H n : ℕ}

/-- What the constructor does with the initial networks. -/
def new {J : ℕ} (belief : BeliefConfig) (initial : Optimised M D H J) :
    Except Error (QPLEXFocusTorchPolicy M D H J) := do
  let occupancyModel ← newOccupancyModel cfg belief initial.net
  return {
    model := initial.model
    targetModel := initial.model
    mixer := initial.mixer
    targetMixer := initial.mixer
    localBeliefModel := initial.localBeliefModel
    actionGradientFloor := initial.actionGradientFloor
    loss := { occupancyModel, gate := FocusGate.init }
    optimisers := initial.optimisers
    curEpsilon := 1 }

/-- A forward pass of the occupancy model on states that may be missing. -/
noncomputable def forward {B T J : ℕ} (policy : QPLEXFocusTorchPolicy M D H J)
    (states : Option (Fin B → Fin T → Fin D → ℝ)) : QPLEXFocusTorchPolicy M D H J :=
  match states with
  | some states => { policy with loss := policy.loss.forward states }
  | none => policy

/-- The part of the loss that asks the estimator. -/
noncomputable def focusTarget [Quadrature] (nActions : ℤ) (loss : FocusLoss D H cfg.nTargets)
    (batch : FocusBatch D n) :
    Except Error (Option (CreditTarget batch.B batch.T n cfg.nTargets) × FocusLoss D H cfg.nTargets) :=
  if cfg.enabled then do
    let (target, loss) ← focusCreditTarget cfg nActions loss batch true
    return (some target, loss)
  else .ok (none, loss)

/-- `learn_on_batch`, with the blend that its statistics report. -/
noncomputable def learnOnBatch [Quadrature] (learner : QplexLearner M S D H n cfg.nTargets)
    (policy : QPLEXFocusTorchPolicy M D H cfg.nTargets) (samples : S) :
    Except Error (Option ℚ × QPLEXFocusTorchPolicy M D H cfg.nTargets) := do
  let batch := learner.sequences samples
  -- the bias of the bootstrapped actions comes before the credits, that of the teacher after them
  let policy := if learner.bootstrapsConfidence samples then policy.forward batch.nextState else policy
  let (target, loss) ← focusTarget cfg learner.nActions policy.loss batch
  let policy := { policy with loss }
  let policy := if learner.distillsConfidence samples then policy.forward batch.state else policy
  let optimised ← learner.optimise policy samples target
  return (target.bind CreditTarget.blendSchedule, {
    policy with
    model := optimised.model
    mixer := optimised.mixer
    localBeliefModel := optimised.localBeliefModel
    actionGradientFloor := optimised.actionGradientFloor
    optimisers := optimised.optimisers
    loss := { policy.loss with
      occupancyModel := policy.loss.occupancyModel.map (fun model => model.withNet optimised.net) } })

section State

variable {J : ℕ} (policy : QPLEXFocusTorchPolicy M D H J)

def updateTarget : QPLEXFocusTorchPolicy M D H J :=
  { policy with targetModel := policy.model, targetMixer := policy.mixer }

def setEpsilon (epsilon : ℚ) : QPLEXFocusTorchPolicy M D H J := { policy with curEpsilon := epsilon }

/-- The dictionary of `get_weights`. -/
structure Weights (M : Modules) (D H J : ℕ) where
  model : M.Model
  targetModel : M.Model
  mixer : M.Mixer
  targetMixer : M.Mixer
  occupancyModel : Option (OccupancyDict D H J)
  localBeliefModel : Option M.LocalBeliefModel
  focusOfficialState : M.GradientFloor

def getWeights : Weights M D H J where
  model := policy.model
  targetModel := policy.targetModel
  mixer := policy.mixer
  targetMixer := policy.targetMixer
  occupancyModel := policy.loss.occupancyModel.map OccupancyModel.stateDict
  localBeliefModel := policy.localBeliefModel
  focusOfficialState := policy.actionGradientFloor

/-- What `set_weights` does with the occupancy model. -/
def loadOccupancyModel (model : Option (OccupancyModel D H J)) (dict : Option (OccupancyDict D H J)) :
    Except Error (Option (OccupancyModel D H J)) :=
  match model, dict with
  | some model, some dict => some <$> model.loadStateDict dict false
  | model, _ => .ok model

def setWeights (weights : Weights M D H J) : Except Error (QPLEXFocusTorchPolicy M D H J) := do
  let occupancyModel ← loadOccupancyModel policy.loss.occupancyModel weights.occupancyModel
  return {
    policy with
    model := weights.model
    targetModel := weights.targetModel
    mixer := weights.mixer
    targetMixer := weights.targetMixer
    loss := { policy.loss with occupancyModel }
    localBeliefModel := match policy.localBeliefModel, weights.localBeliefModel with
      | some _, some model => some model
      | model, _ => model
    actionGradientFloor := weights.focusOfficialState }

/-- The dictionary of `get_state`. -/
structure SavedState (M : Modules) (D H J : ℕ) where
  weights : Weights M D H J
  curEpsilon : ℚ

def getState : SavedState M D H J := ⟨policy.getWeights, policy.curEpsilon⟩

def setState (state : SavedState M D H J) : Except Error (QPLEXFocusTorchPolicy M D H J) := do
  let policy ← policy.setWeights state.weights
  return policy.setEpsilon state.curEpsilon

end State

/-- What a policy is asked for. -/
inductive Call (M : Modules) (S : Type) (D H J : ℕ)
  | learnOnBatch (samples : S)
  /-- `compute_actions` passes the rows of global states to the occupancy model, or does not. -/
  | computeActions (rows : ℕ) (states : Option (Fin rows → Fin 1 → Fin D → ℝ))
  | updateTarget
  | setEpsilon (epsilon : ℚ)
  | setWeights (weights : Weights M D H J)
  | setState (state : SavedState M D H J)

/-- The policy after a call. -/
noncomputable def call [Quadrature] (learner : QplexLearner M S D H n cfg.nTargets)
    (policy : QPLEXFocusTorchPolicy M D H cfg.nTargets) :
    Call M S D H cfg.nTargets → Except Error (QPLEXFocusTorchPolicy M D H cfg.nTargets)
  | .learnOnBatch samples => Prod.snd <$> learnOnBatch cfg learner policy samples
  | .computeActions _ states => .ok (policy.forward states)
  | .updateTarget => .ok policy.updateTarget
  | .setEpsilon epsilon => .ok (policy.setEpsilon epsilon)
  | .setWeights weights => policy.setWeights weights
  | .setState state => policy.setState state

end QPLEXFocusTorchPolicy

/-! ## Grouped policies -/

/-- The state of a `GroupedCTDEPolicy`. The engine is the loss of the estimator that it wraps. -/
structure GroupedCTDEPolicy (N O : Type) (D H J : ℕ) where
  /-- the registered modules, except for the engine -/
  modules : N
  focusEngine : Option (FocusLoss D H J)
  optimizers : O
  learnerUpdates : ℕ
  lastTargetUpdate : ℤ
  curEpsilon : ℚ

/-- The rest of a grouped policy, for samples of type `S`. -/
structure GroupedLearner (N O S : Type) (D H n J : ℕ) where
  nActions : ℤ
  targetNetworkUpdateFreq : ℤ
  /-- `_sequence_batch` -/
  sequences : S → FocusBatch D n
  /-- `_learn_sequence_batch` after `_focus_output`: the modules, the network of the occupancy model
  and the optimizers -/
  optimise : GroupedCTDEPolicy N O D H J → (samples : S) →
    Option (CreditTarget (sequences samples).B (sequences samples).T n J) →
    Except Error (N × ((O : ℕ) → Net D H J O) × O)
  updateTarget : N → N

namespace GroupedCTDEPolicy

variable (cfg : FocusConfig) {N O S : Type} {D H n : ℕ}

/-- What the constructor does with the initial networks. -/
def new {J : ℕ} (belief : BeliefConfig) (modules : N) (net : (O : ℕ) → Net D H J O) (optimizers : O)
    (initialEpsilon : ℚ) : Except Error (GroupedCTDEPolicy N O D H J) := do
  let occupancyModel ← newOccupancyModel cfg belief net
  return {
    modules, optimizers
    focusEngine := if cfg.enabled then some { occupancyModel, gate := FocusGate.init } else none
    learnerUpdates := 0
    lastTargetUpdate := 0
    curEpsilon := initialEpsilon }

/-- `_focus_output`: the engine is told how many updates there were before it is asked. -/
noncomputable def focusOutput [Quadrature] (learner : GroupedLearner N O S D H n cfg.nTargets)
    (policy : GroupedCTDEPolicy N O D H cfg.nTargets) (batch : FocusBatch D n) :
    Except Error (Option (CreditTarget batch.B batch.T n cfg.nTargets) ×
      GroupedCTDEPolicy N O D H cfg.nTargets) :=
  match policy.focusEngine with
  | none => .ok (none, policy)
  | some engine => do
    let engine := { engine with gate := engine.gate.setFocusLearnerUpdate policy.learnerUpdates }
    let (target, engine) ← focusCreditTarget cfg learner.nActions engine batch true
    return (some target, { policy with focusEngine := some engine })

/-- `learn_on_batch`, with the blend that its statistics report. -/
noncomputable def learnOnBatch [Quadrature] (learner : GroupedLearner N O S D H n cfg.nTargets)
    (policy : GroupedCTDEPolicy N O D H cfg.nTargets) (samples : S) :
    Except Error (Option ℚ × GroupedCTDEPolicy N O D H cfg.nTargets) := do
  let (target, policy) ← focusOutput cfg learner policy (learner.sequences samples)
  let (modules, net, optimizers) ← learner.optimise policy samples target
  let learnerUpdates := policy.learnerUpdates + 1
  let targetUpdated := 0 < learner.targetNetworkUpdateFreq ∧
    learner.targetNetworkUpdateFreq ≤ learnerUpdates - policy.lastTargetUpdate
  return (target.bind CreditTarget.blendSchedule, {
    policy with
    modules := if targetUpdated then learner.updateTarget modules else modules
    focusEngine := policy.focusEngine.map (fun engine =>
      { engine with occupancyModel := engine.occupancyModel.map (fun model => model.withNet net) })
    optimizers, learnerUpdates
    lastTargetUpdate := if targetUpdated then learnerUpdates else policy.lastTargetUpdate })

section State

variable {J : ℕ} (policy : GroupedCTDEPolicy N O D H J)

/-- The state dictionary of the engine: its model and the buffers of the estimator. -/
structure EngineDict (D H J : ℕ) where
  occupancyModel : Option (OccupancyDict D H J)
  gate : FocusGate

/-- The dictionary of `get_weights`. -/
structure Weights (N : Type) (D H J : ℕ) where
  modules : N
  focusEngine : Option (EngineDict D H J)

def getWeights : Weights N D H J where
  modules := policy.modules
  focusEngine := policy.focusEngine.map (fun engine =>
    ⟨engine.occupancyModel.map OccupancyModel.stateDict, engine.gate⟩)

/-- What `set_weights` does with the engine. The load is strict. -/
def loadEngine (engine : Option (FocusLoss D H J)) (dict : Option (EngineDict D H J)) :
    Except Error (Option (FocusLoss D H J)) :=
  match engine, dict with
  | some engine, some dict =>
    match engine.occupancyModel, dict.occupancyModel with
    | some model, some occupancyDict => do
      let model ← model.loadStateDict occupancyDict true
      return some { occupancyModel := some model, gate := dict.gate }
    | none, none => .ok (some { occupancyModel := none, gate := dict.gate })
    | some _, none => .error (.runtimeError "Error(s) in loading state_dict: Missing key(s)")
    | none, some _ => .error (.runtimeError "Error(s) in loading state_dict: Unexpected key(s)")
  | engine, _ => .ok engine

def setWeights (weights : Weights N D H J) : Except Error (GroupedCTDEPolicy N O D H J) := do
  let focusEngine ← loadEngine policy.focusEngine weights.focusEngine
  return { policy with modules := weights.modules, focusEngine }

/-- The dictionary of `get_state`. -/
structure SavedState (N O : Type) (D H J : ℕ) where
  weights : Weights N D H J
  curEpsilon : ℚ
  learnerUpdates : ℕ
  lastTargetUpdate : ℤ
  focusRuntimeState : Option FocusGate.RuntimeState
  optimizerStates : O

def getState : SavedState N O D H J where
  weights := policy.getWeights
  curEpsilon := policy.curEpsilon
  learnerUpdates := policy.learnerUpdates
  lastTargetUpdate := policy.lastTargetUpdate
  focusRuntimeState := policy.focusEngine.map (fun engine => engine.gate.getFocusRuntimeState)
  optimizerStates := policy.optimizers

/-- An engine that finds no runtime state is reset. -/
def setState (state : SavedState N O D H J) : Except Error (GroupedCTDEPolicy N O D H J) := do
  let policy ← policy.setWeights state.weights
  return {
    policy with
    curEpsilon := state.curEpsilon
    learnerUpdates := state.learnerUpdates
    lastTargetUpdate := state.lastTargetUpdate
    focusEngine := policy.focusEngine.map (fun engine =>
      { engine with gate := match state.focusRuntimeState with
        | some runtime => FocusGate.setFocusRuntimeState runtime
        | none => FocusGate.init })
    optimizers := state.optimizerStates }

end State

/-- What a policy is asked for. -/
inductive Call (N O S : Type) (D H J : ℕ)
  | learnOnBatch (samples : S)
  /-- `compute_actions` records the epsilon of its time step. -/
  | computeActions (epsilon : ℚ)
  | setEpsilon (epsilon : ℚ)
  | setWeights (weights : Weights N D H J)
  | setState (state : SavedState N O D H J)

/-- The policy after a call. -/
noncomputable def call [Quadrature] (learner : GroupedLearner N O S D H n cfg.nTargets)
    (policy : GroupedCTDEPolicy N O D H cfg.nTargets) :
    Call N O S D H cfg.nTargets → Except Error (GroupedCTDEPolicy N O D H cfg.nTargets)
  | .learnOnBatch samples => Prod.snd <$> learnOnBatch cfg learner policy samples
  | .computeActions epsilon => .ok { policy with curEpsilon := epsilon }
  | .setEpsilon epsilon => .ok { policy with curEpsilon := epsilon }
  | .setWeights weights => policy.setWeights weights
  | .setState state => policy.setState state

end GroupedCTDEPolicy

end Mate.Rllib.Focus
