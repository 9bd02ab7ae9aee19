import Mate.Library.Machines
import Mate.Rllib.GroupedPolicy

set_option autoImplicit false

/-! # Rollouts of a grouped policy

In a rollout the sample collector hands a policy its own last joint action, and a row of zeros
before the first one. The deployed agent of one camera runs the same policy on a grouped
observation in which only the first slot is filled, and passes no previous action.
-/

namespace Mate.Rllib

open Fallible Nets Layout

namespace GroupedPolicy

variable {policy : GroupedPolicy} (model : RecurrentAgent policy.toAgentShape)

/-! ## The sample collector -/

/-- What the collector keeps of a running episode: the state and the buffer of the actions. -/
structure Collector (policy : GroupedPolicy) where
  hidden : policy.Hidden
  actions : List policy.JointAction

/-- The dummy row that is built while there is no action. -/
def zeroRow (policy : GroupedPolicy) : policy.JointAction := fun _ => ⟨0, policy.zero_lt_nActions⟩

/-- The column `prev_actions` of `get_inference_input_dict`. -/
def Collector.prevActions (c : Collector policy) : policy.JointAction :=
  c.actions.getLastD policy.zeroRow

def Collector.add (c : Collector policy) (hidden : policy.Hidden) (actions : policy.JointAction) :
    Collector policy where
  hidden := hidden
  actions := c.actions ++ [actions]

/-- The collector of an episode that has just been reset. -/
def Collector.start : Collector policy where
  hidden := RecurrentAgent.initialState
  actions := []

@[simp] theorem Collector.prevActions_start :
    (Collector.start : Collector policy).prevActions = policy.zeroRow := rfl

@[simp] theorem Collector.prevActions_add (c : Collector policy) (hidden : policy.Hidden)
    (actions : policy.JointAction) : (c.add hidden actions).prevActions = actions :=
  List.getLastD_concat

/-- One greedy step of a rollout. -/
noncomputable def rolloutStep (c : Collector policy) (flat : List ℝ) :
    Except Error (policy.JointAction × Collector policy) := do
  let result ← computeActions model flat (some c.hidden) (some c.prevActions)
  return (result.1, c.add result.2 result.1)

/-- The greedy joint actions along the grouped observations of an episode. -/
noncomputable def rollout (observations : List (List ℝ)) :
    Except Error (List policy.JointAction) :=
  outputs (rolloutStep model) Collector.start observations

/-! ## The deployed agent -/

/-- `preprocess_observation`: the own observation at the front of a grouped one of zeros. -/
def preprocessObservation (policy : GroupedPolicy) (observation : List ℝ) : List ℝ :=
  observation ++ List.replicate (policy.flatDim - observation.length) 0

/-- `RLlibGroupedPolicyMixIn.compute_single_action`: the first component of the joint action. -/
noncomputable def computeSingleAction (hn : 0 < policy.nAgents) (state : policy.Hidden)
    (observation : List ℝ) : Except Error (Fin policy.nActions × policy.Hidden) := do
  let result ← computeActions model (policy.preprocessObservation observation) (some state) none
  return (result.1 ⟨0, hn⟩, result.2)

/-- The greedy actions of a deployed agent along its observations, after its `reset`. -/
noncomputable def deployed (hn : 0 < policy.nAgents) (observations : List (List ℝ)) :
    Except Error (List (Fin policy.nActions)) :=
  outputs (computeSingleAction model hn) RecurrentAgent.initialState observations

/-! ## What the policy is given -/

/-- A grouped observation as the environment gives it: of the right width, and with an action
left for every agent. -/
structure WellFormed (policy : GroupedPolicy) (flat : List ℝ) : Prop where
  length_eq : flat.length = policy.flatDim
  available : ∀ i, 0 < ∑ k, (policy.unpack flat).actionMask i k

theorem unpackObservation_eq {flat : List ℝ} (h : flat.length = policy.flatDim) :
    policy.unpackObservation flat = .ok (policy.unpack flat) := by
  rw [unpackObservation, if_neg (not_not.mpr h)]

/-- What `compute_actions` returns on an observation of the right width. -/
theorem computeActions_eq {flat : List ℝ} (h : flat.length = policy.flatDim)
    (havailable : ∀ i, 0 < ∑ k, (policy.unpack flat).actionMask i k) (hidden : policy.Hidden)
    (prevActions : Option policy.JointAction) :
    computeActions model flat (some hidden) prevActions
      = .ok (fun i => policy.greedy ((scores model (policy.unpack flat).obs hidden prevActions).1 i)
          ((policy.unpack flat).actionMask i),
        (scores model (policy.unpack flat).obs hidden prevActions).2) := by
  rw [computeActions, unpackObservation_eq h]
  show (if _ then _ else _) = _
  rw [if_neg]
  · rfl
  · rintro ⟨i, hi⟩
    exact absurd (havailable i) (not_lt.mpr hi)

/-- Without an available action for some agent it raises. -/
theorem computeActions_error {flat : List ℝ} (h : flat.length = policy.flatDim)
    {i : Fin policy.nAgents} (hi : ∑ k, (policy.unpack flat).actionMask i k ≤ 0)
    (hidden : policy.Hidden) (prevActions : Option policy.JointAction) :
    computeActions model flat (some hidden) prevActions = .error (.runtimeError
      (policy.algorithmName ++ " received a live observation with no valid action")) := by
  rw [computeActions, unpackObservation_eq h]
  show (if _ then _ else _) = _
  exact if_pos ⟨i, hi⟩

theorem actionMask_of_not (h : policy.hasActionMask = false) (flat : List ℝ) :
    (policy.unpack flat).actionMask = fun _ _ => 1 := by
  funext i k
  simp [unpack, h]

theorem sum_actionMask_of_not (h : policy.hasActionMask = false) (flat : List ℝ)
    (i : Fin policy.nAgents) : 0 < ∑ k, (policy.unpack flat).actionMask i k := by
  have hpos := policy.nActions_pos
  rw [actionMask_of_not h]
  simp
  omega

/-! ## The grouped observation of the deployed agent -/

section Preprocess

variable {observation : List ℝ}

theorem length_preprocess (h : observation.length ≤ policy.flatDim) :
    (policy.preprocessObservation observation).length = policy.flatDim := by
  rw [preprocessObservation, List.length_append, List.length_replicate]
  omega

/-- Behind the own observation there are zeros. -/
theorem getD_slice_preprocess {start stop k : ℕ} (h : observation.length ≤ start) :
    (slice start stop (policy.preprocessObservation observation)).getD k 0 = 0 := by
  rw [List.getD_eq_getElem?_getD, getElem?_slice]
  split
  · rw [preprocessObservation, List.getElem?_append_right (by omega), List.getElem?_replicate]
    split <;> rfl
  · rfl

variable (h : observation.length = policy.obsDim)
include h

theorem obsDim_le_flatDim (hn : 0 < policy.nAgents) : observation.length ≤ policy.flatDim := by
  have hwidth := policy.width_le_flatDim ⟨0, hn⟩
  have hobs := policy.offset_le_width 1
  rw [offset_one] at hobs
  simp only [zero_add, mul_one] at hwidth
  omega

/-- The first slot holds the own observation. -/
theorem unpack_preprocess_obs (hn : 0 < policy.nAgents) (k : Fin policy.obsDim) :
    (policy.unpack (policy.preprocessObservation observation)).obs ⟨0, hn⟩ k
      = observation.getD k 0 := by
  show (policy.field _ 0 0).getD k 0 = _
  have hzero : offset policy.widths 0 = 0 := rfl
  rw [field_eq_slice, Nat.mul_zero, hzero, offset_one, List.getD_eq_getElem?_getD,
    List.getD_eq_getElem?_getD, getElem?_slice, if_pos (by omega), preprocessObservation,
    List.getElem?_append_left (by omega), Nat.zero_add]

/-- The mask of the deployed agent is empty. -/
theorem unpack_preprocess_mask (hmask : policy.hasActionMask = true) (hn : 0 < policy.nAgents) :
    (policy.unpack (policy.preprocessObservation observation)).actionMask ⟨0, hn⟩ = fun _ => 0 := by
  funext k
  show (if policy.hasActionMask then _ else _) = _
  have hoffset : offset policy.widths 2 = policy.obsDim + policy.otherDim := by
    simp [offset, widths]
  rw [if_pos hmask, field_eq_slice, Nat.mul_zero, Nat.zero_add]
  exact getD_slice_preprocess (by omega)

end Preprocess

/-! ## Examples of observations and policies -/

/-- The grouped observation in which every feature is `1`. -/
def ones (policy : GroupedPolicy) : List ℝ := List.replicate policy.flatDim 1

theorem wellFormed_ones (policy : GroupedPolicy) : policy.WellFormed policy.ones := by
  have hlength : policy.ones.length = policy.flatDim := List.length_replicate
  refine ⟨hlength, fun i => ?_⟩
  have hone : (policy.unpack policy.ones).actionMask i = fun _ => 1 := by
    funext k
    show (if policy.hasActionMask then _ else _) = _
    split
    · rename_i hmask
      have hwidth := policy.width_le_flatDim i
      have hoffset := policy.offset_le_width (2 + 1)
      have hmaskDim : policy.maskDim = policy.nActions := by simp [maskDim, hmask]
      have htwo : offset policy.widths (2 + 1) = offset policy.widths 2 + policy.nActions := by
        rw [offset_three, ← hmaskDim]
        simp [offset, widths]
      have hk := k.2
      rw [Nat.mul_succ] at hwidth
      rw [field_eq_slice, List.getD_eq_getElem?_getD, getElem?_slice, if_pos (by omega), ones,
        List.getElem?_replicate, if_pos (by omega)]
      rfl
    · rfl
  have hpos := policy.nActions_pos
  rw [hone]
  simp
  omega

/-- Two cameras with one feature and two actions, and a network with one hidden unit. -/
def twoCameras : GroupedPolicy where
  algorithmName := "FACMAC"
  obsDim := 1
  nActions := 2
  nAgents := 2
  hiddenDim := 1
  outputDim := 2
  includeLastAction := true
  includeAgentId := true
  nActions_pos := Nat.two_pos
  otherDim := 0
  hasActionMask := false
  jointDim := 0
  scoresFromOutput := fun o => o

end GroupedPolicy

end Mate.Rllib
