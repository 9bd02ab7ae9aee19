import Mate.Environment.Messages
import Mate.Library.Grouping
import Mate.Rllib.ActionCredit
import Mate.Rllib.FocusTarget

set_option autoImplicit false

/-! # Responsibilities in the trajectories of MAPPO

`FocusResponsibilityEngine` and `MAPPOFocusAdapter`, and what `MAPPOModel.add_focus_to_trajectory`
does with them when an episode is over: the rows of the own batch are joined with those of the
other agents, the engine is called once for all joint rows, and what it says of the own agent is
written next to the rows. `AGENT_INDEX` numbers the agents in the order in which they have
appeared, so the numbers in their names come first.
-/

namespace Mate.Rllib.Focus

open Dicts

/-! ## The engine -/

/-- `FocusOutput`. There are pair gains for all steps, or for none. -/
structure FocusOutput (B T n J : ℕ) where
  rho : Fin B → Fin T → Fin n → ℝ
  gains : Fin B → Fin T → Fin n → ℝ
  pairGains : Fin B → Fin T → Option (Fin n → Fin J → ℝ)
  totalGain : Fin B → Fin T → ℝ
  confidence : Fin B → Fin T → ℝ
  valid : Fin B → Fin T → Bool
  beliefLoss : ℝ

/-- `FocusResponsibilityEngine.forward`, without a learner update. -/
noncomputable def FocusResponsibilityEngine.forward [Quadrature] (cfg : FocusConfig) {D H n : ℕ}
    (nActions : ℤ) (engine : FocusLoss D H cfg.nTargets) (batch : FocusBatch D n)
    (updateBeliefEma : Bool) :
    Except Error (FocusOutput batch.B batch.T n cfg.nTargets × FocusLoss D H cfg.nTargets) := do
  let (target, engine) ← focusCreditTarget cfg nActions engine batch updateBeliefEma
  return ({
    rho := fun b t => (target.steps b t).rho
    gains := fun b t i => (target.steps b t).rho i * (target.steps b t).totalG
    pairGains := fun b t => (target.steps b t).pairGains
    totalGain := fun b t => (target.steps b t).totalG
    confidence := target.supervision.confidence
    valid := fun b t => (target.steps b t).valid
    beliefLoss := target.supervision.beliefLoss }, engine)

structure MAPPOFocusAdapter where
  eta : ℝ

/-- `responsibility_to_weight` at one step. -/
noncomputable def MAPPOFocusAdapter.responsibilityToWeight (self : MAPPOFocusAdapter) {n : ℕ}
    (rho : Fin n → ℝ) (confidence : Option ℝ) (i : Fin n) : ℝ :=
  let etaT := match confidence with
    | none => self.eta
    | some confidence => self.eta * confidence
  1 - etaT + etaT * n * rho i

/-! ## Sample batches -/

/-- The columns of a batch that are read. A column that is not in the batch is `none`. -/
structure SampleBatch (O : ℕ) where
  count : ℕ
  epsId : Option (Fin count → ℤ)
  agentIndex : Option (Fin count → ℤ)
  actions : Option (Fin count → ℤ)
  envId : Option (Fin count → ℤ)
  t : Option (Fin count → ℤ)
  curObs : Option (Fin count → Fin O → ℝ)
  nextObs : Option (Fin count → Fin O → ℝ)

/-- A batch with the columns that the rows are joined by. -/
structure MemberBatch where
  count : ℕ
  epsId : Fin count → ℤ
  agentIndex : Fin count → ℤ
  actions : Fin count → ℤ
  envId : Option (Fin count → ℤ)
  t : Option (Fin count → ℤ)

/-- A batch with all required columns. -/
structure OwnBatch (O count : ℕ) where
  epsId : Fin count → ℤ
  agentIndex : Fin count → ℤ
  actions : Fin count → ℤ
  envId : Option (Fin count → ℤ)
  t : Option (Fin count → ℤ)
  curObs : Fin count → Fin O → ℝ
  nextObs : Fin count → Fin O → ℝ

@[reducible] def OwnBatch.member {O count : ℕ} (own : OwnBatch O count) : MemberBatch :=
  ⟨count, own.epsId, own.agentIndex, own.actions, own.envId, own.t⟩

/-- The batch, if `required[:3]` are in it. -/
def SampleBatch.member? {O : ℕ} (batch : SampleBatch O) : Option MemberBatch := do
  return ⟨batch.count, ← batch.epsId, ← batch.agentIndex, ← batch.actions, batch.envId, batch.t⟩

/-- The batch, if `required` are in it. -/
def SampleBatch.own? {O : ℕ} (batch : SampleBatch O) : Option (OwnBatch O batch.count) := do
  return ⟨← batch.epsId, ← batch.agentIndex, ← batch.actions, batch.envId, batch.t,
    ← batch.curObs, ← batch.nextObs⟩

/-- A value of `other_agent_batches`: a batch, alone or in a pair with a policy. -/
inductive OtherBatch (O : ℕ)
  | bare (batch : Option (SampleBatch O))
  | withPolicy (batch : Option (SampleBatch O))

/-- `_unwrap_other_batch`. -/
def OtherBatch.unwrap {O : ℕ} : OtherBatch O → Option (SampleBatch O)
  | bare batch => batch
  | withPolicy batch => batch

/-! ## Names -/

/-- The characters that `int` takes for digits and for white space. -/
class Numerals where
  digit? : Char → Option ℕ
  isSpace : Char → Bool

section Names

variable [Numerals]

/-- A number without a sign. -/
def naturalOfText (text : List Char) : Option ℕ :=
  if text = [] then none
  else (text.mapM Numerals.digit?).map (fun digits => digits.foldl (fun n d => 10 * n + d) 0)

/-- `int` of a text without underscores. -/
def intOfText (text : List Char) : Option ℤ :=
  let text := ((text.dropWhile Numerals.isSpace).reverse.dropWhile Numerals.isSpace).reverse
  match text with
  | '-' :: digits => (naturalOfText digits).map (fun n => -(n : ℤ))
  | '+' :: digits => (naturalOfText digits).map (fun n => (n : ℤ))
  | digits => (naturalOfText digits).map (fun n => (n : ℤ))

/-- `_agent_id_to_index` of `str(agent_id)`: the number after the last underscore. -/
def agentIdToIndex (agentId : String) : Option ℤ :=
  intOfText (agentId.toList.reverse.takeWhile (· ≠ '_')).reverse

end Names

/-! ## The join -/

/-- `range(n)`. -/
def agentIndices (n : ℕ) : List ℤ := (List.range n).map (fun i : ℕ => (i : ℤ))

/-- `other_entries`: the batches that can be joined, with the numbers in the names. -/
def otherEntries [Numerals] {O : ℕ} (otherAgentBatches : List (String × OtherBatch O)) :
    List (Option ℤ × MemberBatch) :=
  otherAgentBatches.filterMap (fun e =>
    (e.2.unwrap.bind SampleBatch.member?).map (fun batch => (agentIdToIndex e.1, batch)))

/-- `current_agent_index`: the one number that is left, if all others are taken. -/
def currentAgentIndex (n : ℕ) (entries : List (Option ℤ × MemberBatch)) : Option ℤ :=
  let otherAgentIndices := entries.filterMap Prod.fst
  match (agentIndices n).filter (fun i => i ∉ otherAgentIndices) with
  | [i] => if entries.length + 1 = n then some i else none
  | _ => none

/-- `use_timestep_key`. -/
def useTimestepKey (allBatches : List (Option ℤ × MemberBatch)) : Bool :=
  allBatches.all (fun e => e.2.t.isSome)

/-- `row_key`: the episode, the environment, and the time step or the number of the row. -/
def rowKey (useTimestepKey : Bool) (batch : MemberBatch) (row : Fin batch.count) : ℤ × ℤ × ℤ :=
  let envValue := match batch.envId with
    | some envIds => envIds row
    | none => 0
  let stepValue := match useTimestepKey, batch.t with
    | true, some t => t row
    | _, _ => ((row : ℕ) : ℤ)
  (batch.epsId row, envValue, stepValue)

/-- A row of a batch. -/
structure Member where
  batch : MemberBatch
  row : Fin batch.count

/-- What is put into `rows_by_key`, in this order. -/
def keyedRows (useTimestepKey : Bool) (allBatches : List (Option ℤ × MemberBatch)) :
    List ((ℤ × ℤ × ℤ) × ℤ × Member) :=
  allBatches.flatMap (fun e => (List.finRange e.2.count).map (fun row =>
    (rowKey useTimestepKey e.2 row, e.1.getD (e.2.agentIndex row), ⟨e.2, row⟩)))

/-- The members of a key in the order of their indices, if there is one for every agent and there
are no others. -/
def jointMembers (n : ℕ) (members : Dicts.Dict ℤ Member) : Option (Fin n → Member) :=
  if h : members.keys.length = n ∧ members.keys.toFinset = (agentIndices n).toFinset then
    some (fun i => (members.get? (i : ℕ)).get (Dicts.Dict.isSome_get?.mpr (by
      rw [← List.mem_toFinset, h.2, List.mem_toFinset]
      exact List.mem_map_of_mem (List.mem_range.mpr i.2))))
  else none

/-- What the loop over the own rows collects for one row. -/
structure MatchedRow (count D n : ℕ) where
  row : Fin count
  agentIndex : ℤ
  state : Fin D → ℝ
  nextState : Fin D → ℝ
  actions : Fin n → ℤ

/-- The batch that the engine is given: one sequence without padding. -/
def focusBatch {count D n : ℕ} (matched : List (MatchedRow count D n)) : FocusBatch D n where
  B := 1
  T := matched.length
  state := some (fun _ k => (matched.get k).state)
  nextState := some (fun _ k => (matched.get k).nextState)
  actions := fun _ k => (matched.get k).actions
  mask := fun _ _ => 1

/-! ## The columns of FOCUS -/

/-- The columns of FOCUS in one row. -/
structure FocusRow (A : ℕ) where
  rho : ℝ
  weight : ℝ
  valid : Bool
  confidence : ℝ
  gain : ℝ
  rhoEntropy : ℝ
  totalGain : ℝ
  actionGains : Fin A → ℝ

/-- `_add_default_focus_fields`. -/
noncomputable def defaultRow (n A : ℕ) : FocusRow A where
  rho := 1 / (max n 1 : ℕ)
  weight := 1
  valid := false
  confidence := 0
  gain := 0
  rhoEntropy := 0
  totalGain := 0
  actionGains := 0

/-- The part of the model that annotates trajectories. The engine and the adapter are there if
`enabled`; the last field says that the global state is a part of the observation. -/
structure MAPPOModel (cfg : FocusConfig) (O D H n A : ℕ) where
  globalStateStart : ℕ
  useConfidence : Bool := true
  focusEngine : Option (FocusLoss D H cfg.nTargets)
  focusAdapter : Option MAPPOFocusAdapter
  globalState_le : globalStateStart + D ≤ O

namespace MAPPOModel

variable {cfg : FocusConfig} {O D H n A count : ℕ} (model : MAPPOModel cfg O D H n A)

/-- `obs[self.global_state_slice]`. -/
def globalState (obs : Fin O → ℝ) : Fin D → ℝ :=
  fun d => obs ⟨model.globalStateStart + d, by have := model.globalState_le; omega⟩

/-- The own rows that all agents have a row for. -/
def matchedRows (currentAgentIndex : Option ℤ) (useTimestepKey : Bool) (own : OwnBatch O count)
    (rowsByKey : Dicts.Dict (ℤ × ℤ × ℤ) (Dicts.Dict ℤ Member)) : List (MatchedRow count D n) :=
  (List.finRange count).filterMap (fun row =>
    (jointMembers n (members rowsByKey (rowKey useTimestepKey own.member row))).map (fun joint =>
      { row
        agentIndex := currentAgentIndex.getD (own.agentIndex row)
        state := model.globalState (own.curObs row)
        nextState := model.globalState (own.nextObs row)
        actions := fun i => (joint i).batch.actions (joint i).row }))

/-- What is written for step `k` and the agent. -/
noncomputable def annotation {K : ℕ} (adapter : MAPPOFocusAdapter) (bits : List (List ℤ))
    (focus : FocusOutput 1 K n cfg.nTargets) (k : Fin K) (agent : Fin n) : FocusRow A :=
  let rho := focus.rho 0 k
  let confidence := if model.useConfidence then some (focus.confidence 0 k) else none
  { rho := rho agent
    weight := if focus.valid 0 k then adapter.responsibilityToWeight rho confidence agent else 1
    valid := focus.valid 0 k
    confidence := focus.confidence 0 k
    gain := focus.gains 0 k agent
    rhoEntropy := -∑ i, rho i * Real.log (rho i + cfg.eps)
    totalGain := focus.totalGain 0 k
    -- gains of pairs exist under the official credit of actions only
    actionGains := match focus.pairGains 0 k with
      | some pairGains =>
        actionGains (fun _ _ => pairGains) (fun a j => Rllib.entry bits a j) (0 : Fin 1) (0 : Fin 1)
          agent
      | none => 0 }

/-- The bits of the actions, if there are pair gains. -/
def actionBits {K J : ℕ} (A : ℕ) (focus : FocusOutput 1 K n J) : Except Error (List (List ℤ)) :=
  if ∃ k, (focus.pairGains 0 k).isSome then subsetActionMatrix A J else .ok []

/-- What is written for all steps. -/
noncomputable def annotations (adapter : MAPPOFocusAdapter)
    (matched : List (MatchedRow count D n))
    (focus : FocusOutput 1 matched.length n cfg.nTargets) : Except Error (List (FocusRow A)) := do
  let bits ← actionBits A focus
  (List.finRange matched.length).mapM (fun k => do
    let agent ← axisIndex n (matched.get k).agentIndex
    return model.annotation adapter bits focus k agent)

variable [Quadrature] [Numerals]

/-- `add_focus_to_trajectory`: the columns of FOCUS, and the model after the call. -/
noncomputable def addFocusToTrajectory (sampleBatch : SampleBatch O)
    (otherAgentBatches : Option (List (String × OtherBatch O))) :
    Except Error ((Fin sampleBatch.count → FocusRow A) × MAPPOModel cfg O D H n A) :=
  let defaults := fun _ => defaultRow n A
  match model.focusEngine, model.focusAdapter, otherAgentBatches, sampleBatch.own? with
  | some engine, some adapter, some others, some own =>
    let entries := otherEntries others
    let current := currentAgentIndex n entries
    -- without a complete team nothing is annotated
    if entries.length + 1 ≠ n then .ok (defaults, model)
    else
      let allBatches := (current, own.member) :: entries
      let useTimestepKey := useTimestepKey allBatches
      -- nor when rows without time steps cannot be aligned by their numbers
      if useTimestepKey = false ∧ ∃ e ∈ allBatches, e.2.count ≠ sampleBatch.count then
        .ok (defaults, model)
      else
        let rowsByKey := group (keyedRows useTimestepKey allBatches)
        let matched := model.matchedRows current useTimestepKey own rowsByKey
        if matched.isEmpty then .ok (defaults, model)
        else do
          let (focus, engine) ← FocusResponsibilityEngine.forward cfg A engine (focusBatch matched)
            false
          let rows ← model.annotations adapter matched focus
          return ((matched.zip rows).foldl (fun columns e => Function.update columns e.1.row e.2)
            defaults, { model with focusEngine := some engine })
  | _, _, _, _ => .ok (defaults, model)

end MAPPOModel

end Mate.Rllib.Focus
