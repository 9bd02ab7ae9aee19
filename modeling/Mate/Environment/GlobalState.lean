import Mate.Environment.Init
import Mate.Library.Runs
import Mate.Spaces

set_option autoImplicit false

/-! # The global state

`state` keeps the array it computes until `_update_view` forgets it. `step` and `reset` both
call `_update_view` on their way, so an environment that has just been reset or stepped keeps
none. `MultiAgentTracking` is an environment with that array, and `Does` is one call of any of
its methods.
-/

namespace Mate

open Fallible Runs

variable {cfg : Config} {G V : Type}

/-! ## The space -/

/-- `state_space`. -/
def stateSpace (cfg : Config) : Space where
  low := PRESERVED_SPACE.low
    ++ Space.tile CAMERA_STATE_SPACE_PRIVATE.low cfg.numCameras
    ++ Space.tile TARGET_STATE_SPACE_PRIVATE.low cfg.numTargets
    ++ Space.tile OBSTACLE_STATE_SPACE.low cfg.numObstacles
    ++ List.replicate (2 * cfg.numTargets + NUM_WAREHOUSES * NUM_WAREHOUSES) 0
  high := PRESERVED_SPACE.high
    ++ Space.tile CAMERA_STATE_SPACE_PRIVATE.high cfg.numCameras
    ++ Space.tile TARGET_STATE_SPACE_PRIVATE.high cfg.numTargets
    ++ Space.tile OBSTACLE_STATE_SPACE.high cfg.numObstacles
    ++ List.replicate (2 * cfg.numTargets + NUM_WAREHOUSES * NUM_WAREHOUSES) ⊤
  length_high := by simp [Space.tile, Space.length_high]

namespace Env

/-- A row of integers as an array of floats. -/
def floats {n : ℕ} (row : Fin n → ℤ) : List ℝ := (List.finRange n).map (fun i => (row i : ℝ))

/-- The array that `state` computes. -/
noncomputable def globalState (self : Env cfg G V) : List ℝ :=
  preservedData cfg
    ++ ravel (fun c => (self.cameras c).statePrivate)
    ++ ravel self.targetStatePrivate
    ++ ravel (fun o => (self.obstacles o).state)
    ++ (floats self.cargo.freights ++ floats self.cargo.bounties
      ++ ravel (fun w => floats (self.cargo.remainingCargoes w)))

end Env

/-! ## The cache -/

/-- An environment with its `_state`. -/
structure MultiAgentTracking (cfg : Config) (G V : Type) extends Env cfg G V where
  cachedState : Option (List ℝ)

namespace MultiAgentTracking

/-- `state`. -/
noncomputable def state (self : MultiAgentTracking cfg G V) :
    List ℝ × MultiAgentTracking cfg G V :=
  match self.cachedState with
  | some state => (state, self)
  | none => (self.globalState, { self with cachedState := some self.globalState })

variable [RandomState G]

/-- `__init__`. -/
noncomputable def init (cfg : Config) (memory : Memory V) :
    Except Error (MultiAgentTracking cfg G V) := do
  let env ← Env.init cfg memory
  return ⟨env, none⟩

variable [SetOrder]

/-- `reset`. -/
noncomputable def reset (fuel : ℕ) (seed : Option ℕ) (self : MultiAgentTracking cfg G V) :
    Except Error (Observations cfg × Registry × MultiAgentTracking cfg G V) := do
  let (observations, reg, env) ← self.toEnv.reset fuel seed
  return (observations, reg, ⟨env, none⟩)

/-- `step`. -/
noncomputable def step (reg : Registry) (self : MultiAgentTracking cfg G V)
    (cameraJointAction : Fin cfg.numCameras → ℝ × ℝ) (targetJointAction : Fin cfg.numTargets → ℂ) :
    Except Error (StepResult cfg × MultiAgentTracking cfg G V) := do
  let (result, env) ← self.toEnv.step reg cameraJointAction targetJointAction
  return (result, ⟨env, none⟩)

/-- A call of a method: a reset, `state`, or a call of a running episode. -/
inductive Method (cfg : Config) (V : Type)
  | reset (fuel : ℕ) (seed : Option ℕ) (observations : Observations cfg)
  | call (call : Env.Call cfg V)
  | state (state : List ℝ)

/-- One call that returns. -/
inductive Does : MultiAgentTracking cfg G V → Method cfg V → MultiAgentTracking cfg G V → Prop
  | reset {self self' : MultiAgentTracking cfg G V} {fuel : ℕ} {seed : Option ℕ}
      {observations : Observations cfg} {reg : Registry} :
      self.reset fuel seed = .ok (observations, reg, self') →
      Does self (.reset fuel seed observations) self'
  | call {self : MultiAgentTracking cfg G V} {call : Env.Call cfg V} {env : Env cfg G V} :
      Env.Next self.toEnv call env →
      Does self (.call call) ⟨env, if call.isStep then none else self.cachedState⟩
  | state {self : MultiAgentTracking cfg G V} : Does self (.state self.state.1) self.state.2

/-- What `state` keeps is what it would compute. -/
def Cached (self : MultiAgentTracking cfg G V) : Prop :=
  ∀ state, self.cachedState = some state → state = self.toEnv.globalState

omit [RandomState G] [SetOrder] in
theorem Cached.state_eq {self : MultiAgentTracking cfg G V} (h : self.Cached) :
    self.state.1 = self.toEnv.globalState := by
  unfold MultiAgentTracking.state
  split
  · rename_i state hstate
    exact h state hstate
  · rfl

/-- A step and a reset empty the cache, and the other calls do not change what it is about. -/
theorem Does.cached {self self' : MultiAgentTracking cfg G V} {method : Method cfg V}
    (h : self.Cached) (hdoes : Does self method self') : self'.Cached := by
  cases hdoes with
  | reset hreset =>
      obtain ⟨⟨observations, reg, env⟩, -, heq⟩ := bind_eq_ok.mp hreset
      cases heq
      exact fun state hstate => by cases hstate
  | call hnext =>
      intro state hstate
      cases hnext with
      | step hstep => cases hstate
      | send messages => exact h state hstate
      | receive hreceive => exact h state hstate
      | write memory hmemory => exact h state hstate
  | state =>
      unfold MultiAgentTracking.state
      split
      · exact h
      · exact fun state hsome => (Option.some.inj hsome).symm

end MultiAgentTracking

open MultiAgentTracking Env in
/-- The small environment is made and reset. -/
theorem MultiAgentTracking.exists_solo_reset {V : Type} (location : ℚ × ℚ) (maxEpisodeSteps : ℕ)
    (h : 0 < maxEpisodeSteps) (memory : Memory V) :
    letI := rotating
    letI := SetOrder.increasing
    ∃ (start e : MultiAgentTracking (soloConfig location maxEpisodeSteps h) (Fin 4) V)
      (observations : Observations (soloConfig location maxEpisodeSteps h)),
      init _ memory = .ok start ∧ Does start (.reset 2 none observations) e := by
  let _ := rotating
  let _ := SetOrder.increasing
  obtain ⟨self, start, observations, reg, hinit, hreset⟩ :=
    Env.exists_solo_reset location maxEpisodeSteps h memory
  exact ⟨⟨self, none⟩, ⟨start, none⟩, observations, bind_eq_ok.mpr ⟨_, hinit, rfl⟩,
    .reset (bind_eq_ok.mpr ⟨_, hreset, rfl⟩)⟩

end Mate
