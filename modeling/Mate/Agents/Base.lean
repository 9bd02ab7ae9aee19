import Mate.Spaces
import Mate.Random
import Mate.Entities.Obstacle
import Mate.Environment.Messages
import Mate.Library.Fallible

set_option autoImplicit false

/-! # The base class of the agents

An agent learns the counts of the entities from the observation it is reset on, and reads the
states of other entities at offsets into later observations. `AgentBase.reset` assigns every
field but the generator, so it is given nothing else of the old agent.
-/

namespace Mate

/-! ## States -/

/-- `StateBase`: a vector of the length `DIM`, as the constructor asserts. -/
structure StateBase (DIM : ℕ) where
  state : List ℝ
  index : ℤ
  length_state : state.length = DIM

/-- The constructor. -/
def StateBase.make (DIM : ℕ) (state : List ℝ) (index : ℤ) : Except Error (StateBase DIM) :=
  if h : state.length = DIM then .ok ⟨state, index, h⟩ else .error (.assertionError "")

namespace StateBase

variable {DIM : ℕ}

/-- Entry `k` of the vector. -/
def entry (self : StateBase DIM) (k : ℕ) : ℝ := self.state.getD k 0

def location (self : StateBase DIM) : ℂ := ⟨self.entry 0, self.entry 1⟩

/-- `self - other`. -/
def sub {DIM' : ℕ} (self : StateBase DIM) (other : StateBase DIM') : Vector2D :=
  .ofVector other.location (self.location - other.location)

end StateBase

abbrev CameraStatePublic := StateBase CAMERA_STATE_DIM_PUBLIC
abbrev CameraStatePrivate := StateBase CAMERA_STATE_DIM_PRIVATE
abbrev TargetStatePublic := StateBase TARGET_STATE_DIM_PUBLIC
abbrev TargetStatePrivate := StateBase TARGET_STATE_DIM_PRIVATE
abbrev ObstacleState := StateBase OBSTACLE_STATE_DIM

/-! ## What the classes of a team fix -/

namespace Team

/-- `STATE_CLASS.DIM`. -/
def stateDim : Team → ℕ
  | .camera => CAMERA_STATE_DIM_PRIVATE
  | .target => TARGET_STATE_DIM_PRIVATE

/-- `TEAMMATE_STATE_CLASS.DIM`. -/
def teammateStateDim : Team → ℕ
  | .camera => CAMERA_STATE_DIM_PUBLIC
  | .target => TARGET_STATE_DIM_PUBLIC

/-- `OPPONENT_STATE_CLASS.DIM`. -/
def opponentStateDim : Team → ℕ
  | .camera => TARGET_STATE_DIM_PUBLIC
  | .target => CAMERA_STATE_DIM_PUBLIC

/-- What `action_space` of the state of a team has for `high`; `low` is its negation. -/
def actionBound : (team : Team) → StateBase team.stateDim → ℂ
  | .camera, state => ⟨state.entry 7, state.entry 8⟩
  | .target, state => ⟨state.entry 4, state.entry 4⟩

end Team

/-! ## Agents -/

/-- A `spaces.Box` of actions, with its generator. -/
structure ActionSpace (G : Type) where
  low : ℂ
  high : ℂ
  rng : G

section

variable {G : Type} [RandomState G]

/-- `sample()`. -/
noncomputable def ActionSpace.sample (self : ActionSpace G) : ℂ × ActionSpace G :=
  let (x, rng) := RandomState.uniform self.low.re self.high.re self.rng
  let (y, rng) := RandomState.uniform self.low.im self.high.im rng
  (⟨x, y⟩, { self with rng })

omit [RandomState G] in
/-- `action.clip(min=low, max=high)`. -/
noncomputable def ActionSpace.clip (self : ActionSpace G) (action : ℂ) : ℂ :=
  ⟨min (max action.re self.low.re) self.high.re, min (max action.im self.low.im) self.high.im⟩

end

/-- `int(np.round(x).astype(np.int64))`: a half is rounded to the even neighbour. -/
noncomputable def roundToInt (x : ℝ) : ℤ :=
  if Int.fract x < 1 / 2 then ⌊x⌋
  else if 1 / 2 < Int.fract x then ⌊x⌋ + 1
  else if Even ⌊x⌋ then ⌊x⌋ else ⌊x⌋ + 1

/-- An agent after its first `reset`. -/
structure AgentBase (team : Team) (G : Type) where
  numCameras : ℕ
  numTargets : ℕ
  numObstacles : ℕ
  index : ℤ
  observationIndices : Fin 6 → ℕ
  observationSlices : ObservationSlices
  observationDim : ℕ
  state : StateBase team.stateDim
  actionSpace : ActionSpace G
  episodeStep : ℤ
  stepCounter : ℕ
  npRandom : G

namespace AgentBase

variable {team : Team} {G : Type}

/-- The message of the assertions about the shape of an observation; the observation that
follows it in the source is left out. -/
def shapeError (observationDim : ℕ) : Error :=
  .assertionError ("The observation should be a 1D NumPy array with length of "
    ++ toString observationDim ++ ".")

/-- `observation[k]`. -/
def readEntry (observation : List ℝ) (k : ℕ) : Except Error ℝ :=
  match observation[k]? with
  | some x => .ok x
  | none => .error (.indexError "index is out of bounds")

/-- A count that `np.tile` accepts. -/
def readCount (x : ℤ) : Except Error ℕ :=
  if 0 ≤ x then .ok x.toNat else .error (.valueError "repeats may not contain negative values.")

/-- `reset`. -/
noncomputable def reset [RandomState G] (team : Team) (npRandom : G) (observation : List ℝ) :
    Except Error (AgentBase team G) := do
  let cameras ← readEntry observation 0
  let targets ← readEntry observation 1
  let obstacles ← readEntry observation 2
  let index ← readEntry observation 3
  let numCameras ← readCount (roundToInt cameras)
  let numTargets ← readCount (roundToInt targets)
  let numObstacles ← readCount (roundToInt obstacles)
  -- the layout of the row follows from its own header
  let index := roundToInt index
  let observationIndices := observationIndicesOf team numCameras numTargets numObstacles
  let observationSlices := observationSlicesOf team numCameras numTargets numObstacles
  let observationDim := observationIndices 5
  if observation.length ≠ observationDim then .error (shapeError observationDim)
  else if observation.length ≠ (observationSpaceOf team numCameras numTargets numObstacles).dim then
    .error (shapeError (observationSpaceOf team numCameras numTargets numObstacles).dim)
  else do
    let state ← StateBase.make team.stateDim (observationSlices.selfState.read observation) index
    let (seed, npRandom) := RandomState.randint INT_MAX INT_MAX_pos npRandom
    let bound := team.actionBound state
    return {
      numCameras, numTargets, numObstacles, index, observationIndices, observationSlices,
      observationDim, state, npRandom
      actionSpace := ⟨-bound, bound, RandomState.seed seed⟩
      episodeStep := -1
      stepCounter := 0 }

/-- `check_inputs`: the state that is read, and the agent with its steps counted. Its callers
assign the state. -/
def checkInputs (self : AgentBase team G) (observation : List ℝ) :
    Except Error (StateBase team.stateDim × AgentBase team G) :=
  if observation.length ≠ self.observationDim then .error (shapeError self.observationDim)
  else do
    let state ← StateBase.make team.stateDim (self.observationSlices.selfState.read observation)
      self.index
    return (state, { self with
      episodeStep := if self.stepCounter % 2 = 0 then self.episodeStep + 1 else self.episodeStep
      stepCounter := self.stepCounter + 1 })

/-- **What `check_inputs` returns**: the state is a slice of the observation, and only the two
counters of the agent change. -/
theorem checkInputs_eq_ok {self base : AgentBase team G} {observation : List ℝ}
    {state : StateBase team.stateDim} (h : self.checkInputs observation = .ok (state, base)) :
    state.state = self.observationSlices.selfState.read observation ∧ state.index = self.index
      ∧ base = { self with
          episodeStep := if self.stepCounter % 2 = 0 then self.episodeStep + 1 else self.episodeStep
          stepCounter := self.stepCounter + 1 } := by
  unfold checkInputs at h
  split at h
  · cases h
  · obtain ⟨made, hmade, h⟩ := Fallible.bind_eq_ok.mp h
    unfold StateBase.make at hmade
    split at hmade
    · cases hmade
      cases h
      exact ⟨rfl, rfl, rfl⟩
    · cases hmade

/-- `num_teammates`. -/
def numTeammates (self : AgentBase team G) : ℕ :=
  match team with
  | .camera => self.numCameras
  | .target => self.numTargets

/-- `num_opponents`. -/
def numOpponents (self : AgentBase team G) : ℕ :=
  match team with
  | .camera => self.numTargets
  | .target => self.numCameras

/-! ## Reading other entities -/

/-- The common body of the three methods below: row `index` of `num` rows of width `DIM + 1`. -/
noncomputable def getState (DIM start num : ℕ) (outOfRange : String) (observation : List ℝ)
    (index : ℤ) : Except Error (StateBase DIM × Bool) :=
  if 0 ≤ index ∧ index < num then do
    let offset := start + (DIM + 1) * index.toNat
    let state ← StateBase.make DIM (Layout.slice offset (offset + DIM) observation) index
    let sensed ← readEntry observation (offset + DIM)
    return (state, decide (sensed ≠ 0))
  else .error (.indexError outOfRange)

noncomputable def getTeammateState (self : AgentBase team G) :
    List ℝ → ℤ → Except Error (StateBase team.teammateStateDim × Bool) :=
  getState team.teammateStateDim (self.observationIndices 4) self.numTeammates
    "Teammate index out of range."

noncomputable def getOpponentState (self : AgentBase team G) :
    List ℝ → ℤ → Except Error (StateBase team.opponentStateDim × Bool) :=
  getState team.opponentStateDim (self.observationIndices 2) self.numOpponents
    "Opponent index out of range."

noncomputable def getObstacleState (self : AgentBase team G) :
    List ℝ → ℤ → Except Error (ObstacleState × Bool) :=
  getState OBSTACLE_STATE_DIM (self.observationIndices 3) self.numObstacles
    "Obstacle index out of range."

/-- `get_all_opponent_states`, before the pairs are taken apart. -/
noncomputable def getAllOpponentStates (self : AgentBase team G) (observation : List ℝ) :
    Except Error (List (StateBase team.opponentStateDim × Bool)) :=
  (List.range self.numOpponents).mapM (fun index => self.getOpponentState observation index)

end AgentBase

end Mate
