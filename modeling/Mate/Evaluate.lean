import Mate.Environment.Dynamics

set_option autoImplicit false

/-! # The evaluation of an episode

`evaluate` plays one episode and returns a table of results. What the agents and the wrappers
do between two steps is a parameter: a `turn` talks, chooses the joint actions, and makes the
step. Rendering and the diagnostics of beliefs are left out; they touch no column of the table.
-/

namespace Mate

/-- The names of the columns. -/
def COLUMNS : List String :=
  ["Step", "Cargo", "Reward", "Target Episode Reward", "Step / Cargo", "Mean Transport Rate",
    "Mean Coverage Rate", "Normalized Target Episode Reward", "FPS"]

/-- The local variables of the loop. A status is a dictionary; `nan` is `none`. -/
structure EvalState where
  numCargoes : ℤ
  targetTeamEpisodeReward : ℤ
  coverageRates : List ℚ
  status : List (String × Option ℚ)

/-- The variables before the loop. -/
def EvalState.start : EvalState := ⟨0, 0, [], []⟩

/-- The status has a value for every column. -/
def EvalState.Complete (s : EvalState) : Prop := ∀ name ∈ COLUMNS, name ∈ s.status.map Prod.fst

namespace Env

variable {cfg : Config} {G V : Type}

/-- The body of the loop after the step: `env` is the state the step has left, and `elapsed`
the seconds since the start of the episode. -/
def evalRecord (env : Env cfg G V) (result : StepResult cfg) (elapsed : ℚ) (s : EvalState) :
    EvalState :=
  let coverageRates := s.coverageRates ++ [env.coverageRate]
  let numCargoes := env.cargo.numDeliveredCargoes
  let targetTeamEpisodeReward := s.targetTeamEpisodeReward + result.targetTeamReward
  let values : List (Option ℚ) :=
    [some (env.episodeStep : ℚ), some (numCargoes : ℚ), some (result.targetTeamReward : ℚ),
      some (targetTeamEpisodeReward : ℚ),
      -- the average per delivered cargo has no value before the first one
      if 0 < numCargoes then some ((env.episodeStep : ℚ) / numCargoes) else none,
      some env.meanTransportRate,
      some (coverageRates.sum / coverageRates.length),
      some ((targetTeamEpisodeReward : ℚ) / cfg.maxTargetTeamEpisodeReward),
      some (env.episodeStep / elapsed)]
  { numCargoes
    targetTeamEpisodeReward
    coverageRates
    status := if 0 < numCargoes ∨ result.done = true then COLUMNS.zip values else s.status }

/-- The `while` loop of `evaluate`, for at most `fuel` tests of its condition. It returns the
variables of the loop and the environment as the loop leaves it. -/
def evalLoop {S : Type} (turn : S → Env cfg G V → Except Error (StepResult cfg × S × Env cfg G V))
    (elapsed : ℕ → ℚ) : ℕ → S → Env cfg G V → EvalState → Except Error (EvalState × Env cfg G V)
  | 0, _, _, _ => .error .outOfFuel
  | fuel + 1, agents, env, s =>
      if env.episodeStep < cfg.maxEpisodeSteps then do
        let (result, agents, env) ← turn agents env
        let s := env.evalRecord result (elapsed env.episodeStep) s
        if result.done then return (s, env)
        else evalLoop turn elapsed fuel agents env s
      else .ok (s, env)

/-- `evaluate`, with the bound `fuel` on the loop that fills the warehouses. `groupReset` is
what the agents are after seeing the first observation. -/
noncomputable def evaluate [RandomState G] [SetOrder] {S : Type}
    (turn : S → Env cfg G V → Except Error (StepResult cfg × S × Env cfg G V))
    (elapsed : ℕ → ℚ) (groupReset : Observations cfg → S) (fuel : ℕ) (env : Env cfg G V) :
    Except Error (EvalState × Env cfg G V) := do
  let (observations, _, env) ← env.reset fuel none
  evalLoop turn elapsed (cfg.maxEpisodeSteps + 1) (groupReset observations) env EvalState.start

end Env

end Mate
