import Mate.Library.Fallible
import Mate.Library.Layout
import Mate.Rllib.RecurrentAgent
import Mate.Utils

set_option autoImplicit false

/-! # Grouped policies

`GroupedCTDEPolicy` acts for all agents of a group at once. It is given one flat vector with the
observations of all agents one after the other, each laid out by the wrapper
`RLlibMultiAgentCentralizedTraining`: the agent's own observation, then features that only the
learner reads, and, if there are any, the action mask and the observations of the others.
-/

namespace Mate.Rllib

open Fallible Nets Layout

/-- A subclass of `GroupedCTDEPolicy` on its spaces. `otherDim` are the columns of the state and
of the others' previous actions, `jointDim` those of the others' observations. -/
structure GroupedPolicy extends AgentShape where
  algorithmName : String
  otherDim : ℕ
  hasActionMask : Bool
  jointDim : ℕ
  /-- `_scores_from_output(_reshape_model_output(..))` on the output row of one agent -/
  scoresFromOutput : (Fin outputDim → ℝ) → Fin nActions → ℝ

namespace GroupedPolicy

variable (policy : GroupedPolicy)

theorem zero_lt_nActions : 0 < policy.nActions := policy.toAgentShape.nActions_pos

def maskDim : ℕ := if policy.hasActionMask then policy.nActions else 0

/-- The widths of the fields of one agent's observation. -/
def widths : List ℕ := [policy.obsDim, policy.otherDim, policy.maskDim, policy.jointDim]

def width : ℕ := policy.widths.sum

/-- The width of the grouped observation. -/
def flatDim : ℕ := policy.nAgents * policy.width

/-! ## Unpacking the grouped observation -/

/-- Field `f` of agent `i` in the grouped observation. -/
def field (flat : List ℝ) (i f : ℕ) : List ℝ :=
  slice (offset policy.widths f) (offset policy.widths (f + 1))
    (slice (policy.width * i) (policy.width * (i + 1)) flat)

/-- The observations and the action masks in a grouped observation. -/
structure Unpacked where
  obs : Fin policy.nAgents → Fin policy.obsDim → ℝ
  actionMask : Fin policy.nAgents → Fin policy.nActions → ℝ

/-- What `_unpack_observation` reads once the width is right. -/
def unpack (flat : List ℝ) : policy.Unpacked where
  obs := fun i k => (policy.field flat i 0).getD k 0
  actionMask := fun i k =>
    if policy.hasActionMask then (policy.field flat i 2).getD k 0 else 1

def unpackObservation (flat : List ℝ) : Except Error policy.Unpacked :=
  if flat.length ≠ policy.flatDim then
    .error (.valueError ("Expected flattened obs shape of [..., " ++ toString policy.flatDim
      ++ "], got (1, " ++ toString flat.length ++ ")"))
  else .ok (policy.unpack flat)

/-! ## Choosing actions -/

/-- `None` stands for zero rows; an action is encoded as its one-hot row. -/
def previousActionOnehot (prevActions : Option policy.JointAction) :
    Fin policy.nAgents → Fin policy.nActions → ℝ :=
  match prevActions with
  | none => fun _ _ => 0
  | some actions => fun i => oneHot (actions i)

/-- The first best action among those that are available. -/
noncomputable def greedy (scores available : Fin policy.nActions → ℝ) : Fin policy.nActions :=
  argmax policy.nActions_pos (fun k => if available k ≤ 0 then (⊥ : WithBot ℝ) else scores k)

/-- Where every action is available the mask does not matter. -/
theorem greedy_of_available (scores : Fin policy.nActions → ℝ) {available : Fin policy.nActions → ℝ}
    (h : ∀ k, 0 < available k) : policy.greedy scores available = argmax policy.nActions_pos scores := by
  have hnot : ∀ k, ¬ available k ≤ 0 := fun k => not_le.mpr (h k)
  simp only [greedy, if_neg (hnot _)]
  exact argmax_comp_strictMono WithBot.coe_strictMono _ _

variable {policy}

/-- The scores of `compute_actions`, before the unavailable actions are masked, and the next
hidden state. -/
noncomputable def scores (model : RecurrentAgent policy.toAgentShape)
    (obs : Fin policy.nAgents → Fin policy.obsDim → ℝ) (hidden : policy.Hidden)
    (prevActions : Option policy.JointAction) :
    (Fin policy.nAgents → Fin policy.nActions → ℝ) × policy.Hidden :=
  let out := model.forward obs hidden (some (policy.previousActionOnehot prevActions))
  (fun i => policy.scoresFromOutput (out.1 i), out.2)

open Classical in
/-- `compute_actions` on one grouped observation, without exploration. -/
noncomputable def computeActions (model : RecurrentAgent policy.toAgentShape) (flat : List ℝ)
    (state : Option policy.Hidden) (prevActions : Option policy.JointAction) :
    Except Error (policy.JointAction × policy.Hidden) := do
  let unpacked ← policy.unpackObservation flat
  let hidden := state.getD RecurrentAgent.initialState
  let result := scores model unpacked.obs hidden prevActions
  if ∃ i, ∑ k, unpacked.actionMask i k ≤ 0 then
    .error (.runtimeError
      (policy.algorithmName ++ " received a live observation with no valid action"))
  else
    return (fun i => policy.greedy (result.1 i) (unpacked.actionMask i), result.2)

variable (policy)

/-! ## What unpacking reads -/

theorem offset_one : offset policy.widths 1 = policy.obsDim := by
  simp [offset, widths]

theorem offset_three :
    offset policy.widths 3 = policy.obsDim + policy.otherDim + policy.maskDim := by
  simp [offset, widths]
  omega

theorem offset_le_width (f : ℕ) : offset policy.widths f ≤ policy.width := by
  unfold offset width
  exact List.Sublist.sum_le_sum (List.take_sublist f policy.widths) (fun _ _ => Nat.zero_le _)

/-- A field of an agent is one slice of the grouped observation. -/
theorem field_eq_slice (flat : List ℝ) (i f : ℕ) :
    policy.field flat i f = slice (policy.width * i + offset policy.widths f)
      (policy.width * i + offset policy.widths (f + 1)) flat := by
  have hle := policy.offset_le_width (f + 1)
  exact slice_slice (by rw [Nat.mul_succ]; omega) flat

/-- The own observation of an agent. -/
def ownObservation (flat : List ℝ) (i : Fin policy.nAgents) : List ℝ := policy.field flat i 0

theorem width_le_flatDim (i : Fin policy.nAgents) :
    policy.width * (i + 1) ≤ policy.flatDim := by
  rw [flatDim, Nat.mul_comm]
  exact Nat.mul_le_mul_right _ i.2

theorem length_ownObservation {flat : List ℝ} (h : flat.length = policy.flatDim)
    (i : Fin policy.nAgents) : (policy.ownObservation flat i).length = policy.obsDim := by
  have hwidth := policy.width_le_flatDim i
  rw [Nat.mul_succ, ← h] at hwidth
  have hobs := policy.offset_le_width 1
  rw [offset_one] at hobs
  rw [ownObservation, field_eq_slice, slice, List.length_drop, List.length_take, offset_one]
  have hzero : offset policy.widths 0 = 0 := rfl
  omega

end GroupedPolicy

end Mate.Rllib
