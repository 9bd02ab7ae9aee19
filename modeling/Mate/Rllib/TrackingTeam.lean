import Mate.Environment.Dynamics
import Mate.Rllib.FrameSkip
import Mate.Wrappers.Stack

set_option autoImplicit false

/-! # A team of the environment

`MultiCamera` and `MultiTarget` around `RepeatedRewardIndividualDone`. The opponents are agents,
which are given: what they do when they are reset, to act, and after a step.
-/

namespace Mate.Rllib

open Fallible

/-! ## Infos -/

/-- The entries of an info that are numbers. -/
noncomputable def toDict (info : Info) : Dict :=
  ([⟨"raw_reward", (info.rawReward : ℝ)⟩,
    ⟨"normalized_raw_reward", (info.normalizedRawReward : ℝ)⟩,
    ⟨"out_communication_edges", (info.outCommunicationEdges : ℝ)⟩,
    ⟨"in_communication_edges", (info.inCommunicationEdges : ℝ)⟩,
    ⟨"coverage_rate", (info.coverageRate : ℝ)⟩,
    ⟨"real_coverage_rate", (info.realCoverageRate : ℝ)⟩,
    ⟨"mean_transport_rate", (info.meanTransportRate : ℝ)⟩,
    ⟨"num_delivered_cargoes", (info.numDeliveredCargoes : ℝ)⟩] :
    List (Sigma (fun _ : String => ℝ))).toAList

theorem keys_toDict (info : Info) : ∀ key ∈ STEP_KEYS, key ∈ toDict info := by
  intro key hkey
  refine AList.lookup_isSome.mp ?_
  rw [toDict, AList.lookup_to_alist, List.dlookup_isSome]
  exact hkey

/-! ## The team -/

/-- The joint actions of a team. -/
def JointAction (cfg : Config) : Team → Type
  | .camera => Fin cfg.numCameras → ℝ × ℝ
  | .target => Fin cfg.numTargets → ℂ

def StepResult.infosOf {cfg : Config} (result : StepResult cfg) :
    (team : Team) → Fin (cfg.teamSize team) → Info
  | .camera => result.cameraInfos
  | .target => result.targetInfos

def StepResult.rewardOf {cfg : Config} (result : StepResult cfg) : Team → ℤ
  | .camera => result.cameraTeamReward
  | .target => result.targetTeamReward

def rowsOf {cfg : Config} (observations : Observations cfg) : Team → List (List ℝ)
  | .camera => List.ofFn observations.camera
  | .target => List.ofFn observations.target

/-- The agents of the other team, who keep what they know in a state. While they act they send
messages. -/
structure Opponents (cfg : Config) (G V T : Type) (team : Team) where
  reset : T → Observations cfg → T
  act : T → Env cfg G V → Except Error (JointAction cfg (WrapperSpec.otherTeam team) × T × Env cfg G V)
  observe : T → StepResult cfg → T

/-- The environment, the class attributes of `Target` and the opponents. -/
structure TrackingTeam (cfg : Config) (G V T : Type) where
  env : Env cfg G V
  reg : Registry
  opponents : T

namespace TrackingTeam

variable {cfg : Config} {G V T : Type} [RandomState G] [SetOrder] {team : Team}

/-- `step` of the environment, with the joint actions in the order of the teams. -/
noncomputable def stepWith (reg : Registry) (e : Env cfg G V) : (team : Team) →
    JointAction cfg team → JointAction cfg (WrapperSpec.otherTeam team) →
    Except Error (StepResult cfg × Env cfg G V)
  | .camera, own, other => e.step reg own other
  | .target, own, other => e.step reg other own

/-- `RepeatedRewardIndividualDone`, for the team. -/
noncomputable def repeated (targetDoneAtDestination : Bool) (team : Team) (result : StepResult cfg)
    (e : Env cfg G V) : Outcome (List ℝ) where
  observations := rowsOf result.observations team
  rewards := List.replicate (cfg.teamSize team) ((StepResult.rewardOf result team : ℤ) : ℝ)
  dones :=
    match team, targetDoneAtDestination with
    | .target, true => List.ofFn e.cargo.targetDones
    | _, _ => List.replicate (cfg.teamSize team) result.done
  infos := List.ofFn (fun i => toDict (StepResult.infosOf result team i))

noncomputable def step (opponents : Opponents cfg G V T team) (targetDoneAtDestination : Bool)
    (self : TrackingTeam cfg G V T) (action : JointAction cfg team) :
    Except Error (Outcome (List ℝ) × TrackingTeam cfg G V T) := do
  let (opponentJointAction, t, e) ← opponents.act self.opponents self.env
  let (result, e) ← stepWith self.reg e team action opponentJointAction
  return (repeated targetDoneAtDestination team result e,
    { self with env := e, opponents := opponents.observe t result })

noncomputable def reset (opponents : Opponents cfg G V T team) (fuel : ℕ) (seed : Option ℕ)
    (self : TrackingTeam cfg G V T) :
    Except Error (List (List ℝ) × TrackingTeam cfg G V T) := do
  let (observations, reg, e) ← self.env.reset fuel seed
  return (rowsOf observations team,
    { env := e, reg, opponents := opponents.reset self.opponents observations })

omit [SetOrder] in
theorem length_rowsOf (observations : Observations cfg) (team : Team) :
    (rowsOf observations team).length = cfg.teamSize team := by
  cases team with
  | camera => exact List.length_ofFn
  | target => exact List.length_ofFn

/-- A team with at least one agent, as `SingleTeamHelper` asserts. -/
noncomputable def teamEnv (opponents : Opponents cfg G V T team) (targetDoneAtDestination : Bool)
    (fuel : ℕ) (hteam : 0 < cfg.teamSize team) :
    TeamEnv (TrackingTeam cfg G V T) (JointAction cfg team) (List ℝ) where
  numTeammates := cfg.teamSize team
  numTeammates_pos := hteam
  reset := reset opponents fuel
  step := step opponents targetDoneAtDestination
  length_reset := by
    intro seed self observations self' h
    obtain ⟨⟨rows, reg, e⟩, -, h⟩ := bind_eq_ok.mp h
    cases h
    exact length_rowsOf rows team
  step_complete := by
    intro self action outcome self' h
    obtain ⟨⟨opponentJointAction, t, e⟩, -, h⟩ := bind_eq_ok.mp h
    obtain ⟨⟨result, e'⟩, -, h⟩ := bind_eq_ok.mp h
    cases h
    refine ⟨length_rowsOf result.observations team, List.length_ofFn, fun info hinfo => ?_⟩
    obtain ⟨i, rfl⟩ := List.mem_ofFn.mp hinfo
    exact keys_toDict _

end TrackingTeam

end Mate.Rllib
