import Mate.Library.Nets

set_option autoImplicit false

/-! # The recurrent agent of the grouped policies

`RecurrentAgent` computes all agents of a group with one set of parameters: row `i` of its input
is the observation of agent `i`, followed by the one-hot previous action and the one-hot agent
identity where the constructor's switches ask for them. No row looks at another one
(`RecurrentAgent.forward_row`), so the whole network is described by one function of a row, `step`.
-/

namespace Mate.Rllib

open Nets

/-- What the constructor of `RecurrentAgent` is given. -/
structure AgentShape where
  obsDim : ℕ
  nActions : ℕ
  nAgents : ℕ
  hiddenDim : ℕ
  outputDim : ℕ
  includeLastAction : Bool
  includeAgentId : Bool
  nActions_pos : 0 < nActions

namespace AgentShape

variable (shape : AgentShape)

/-- The columns the previous action takes. -/
def lastActionDim : ℕ := if shape.includeLastAction then shape.nActions else 0

/-- The columns the agent identity takes. -/
def agentIdDim : ℕ := if shape.includeAgentId then shape.nAgents else 0

/-- The columns of an input row, in the order in which `torch.cat` puts its pieces. -/
abbrev Input : Type := Fin shape.obsDim ⊕ Fin shape.lastActionDim ⊕ Fin shape.agentIdDim

abbrev Hidden : Type := Fin shape.nAgents → Fin shape.hiddenDim → ℝ

abbrev JointAction : Type := Fin shape.nAgents → Fin shape.nActions

theorem lastActionDim_le : shape.lastActionDim ≤ shape.nActions := by
  unfold lastActionDim
  split <;> omega

theorem agentIdDim_le : shape.agentIdDim ≤ shape.nAgents := by
  unfold agentIdDim
  split <;> omega

/-- An input row: the observation, the previous action and the identity, as far as they are
included. -/
def row (obs : Fin shape.obsDim → ℝ) (previous : Fin shape.nActions → ℝ) (i : Fin shape.nAgents) :
    shape.Input → ℝ :=
  Sum.elim obs (Sum.elim (fun k => previous (k.castLE shape.lastActionDim_le))
    (fun k => oneHot i (k.castLE shape.agentIdDim_le)))

variable {shape}

/-- Without the previous action a row does not depend on it. -/
theorem row_of_not_lastAction (h : shape.includeLastAction = false)
    (obs : Fin shape.obsDim → ℝ) (previous previous' : Fin shape.nActions → ℝ)
    (i : Fin shape.nAgents) : shape.row obs previous i = shape.row obs previous' i := by
  have hempty : shape.lastActionDim = 0 := by rw [lastActionDim, h]; rfl
  funext x
  rcases x with k | k | k
  · rfl
  · exact absurd k.2 (by omega)
  · rfl

/-- Without the identity a row does not depend on the agent. -/
theorem row_of_not_agentId (h : shape.includeAgentId = false)
    (obs : Fin shape.obsDim → ℝ) (previous : Fin shape.nActions → ℝ) (i j : Fin shape.nAgents) :
    shape.row obs previous i = shape.row obs previous j := by
  have hempty : shape.agentIdDim = 0 := by rw [agentIdDim, h]; rfl
  funext x
  rcases x with k | k | k
  · rfl
  · rfl
  · exact absurd k.2 (by omega)

/-- The column of action `k` in an input row. -/
def lastActionColumn (h : shape.includeLastAction = true) (k : Fin shape.nActions) : shape.Input :=
  .inr (.inl (k.cast (by rw [lastActionDim, h]; rfl)))

/-- The column of agent `k` in an input row. -/
def agentIdColumn (h : shape.includeAgentId = true) (k : Fin shape.nAgents) : shape.Input :=
  .inr (.inr (k.cast (by rw [agentIdDim, h]; rfl)))

@[simp] theorem row_lastActionColumn (h : shape.includeLastAction = true)
    (obs : Fin shape.obsDim → ℝ) (previous : Fin shape.nActions → ℝ) (i : Fin shape.nAgents)
    (k : Fin shape.nActions) : shape.row obs previous i (lastActionColumn h k) = previous k := rfl

@[simp] theorem row_agentIdColumn (h : shape.includeAgentId = true)
    (obs : Fin shape.obsDim → ℝ) (previous : Fin shape.nActions → ℝ) (i k : Fin shape.nAgents) :
    shape.row obs previous i (agentIdColumn h k) = oneHot i k := rfl

end AgentShape

/-- The parameters of `RecurrentAgent`. -/
structure RecurrentAgent (shape : AgentShape) where
  fc1 : Linear shape.Input (Fin shape.hiddenDim)
  rnn : GRUCell (Fin shape.hiddenDim) (Fin shape.hiddenDim)
  fc2 : Linear (Fin shape.hiddenDim) (Fin shape.outputDim)

namespace RecurrentAgent

variable {shape : AgentShape} (model : RecurrentAgent shape)

def initialState : shape.Hidden := fun _ _ => 0

/-- The network on one input row: its output and its next hidden state. -/
noncomputable def step (x : shape.Input → ℝ) (h : Fin shape.hiddenDim → ℝ) :
    (Fin shape.outputDim → ℝ) × (Fin shape.hiddenDim → ℝ) :=
  let next := model.rnn.apply (fun k => relu (model.fc1.apply x k)) h
  (model.fc2.apply next, next)

noncomputable def forward (obs : Fin shape.nAgents → Fin shape.obsDim → ℝ) (hidden : shape.Hidden)
    (previousAction : Option (Fin shape.nAgents → Fin shape.nActions → ℝ)) :
    (Fin shape.nAgents → Fin shape.outputDim → ℝ) × shape.Hidden :=
  -- without a previous action the piece is zero
  let previous := previousAction.getD (fun _ _ => 0)
  let out := fun i => model.step (shape.row (obs i) (previous i) i) (hidden i)
  (fun i => (out i).1, fun i => (out i).2)

/-- One transition of a sequence, as `unroll_current_and_next` reads it. -/
structure Transition (shape : AgentShape) where
  obs : Fin shape.nAgents → Fin shape.obsDim → ℝ
  nextObs : Fin shape.nAgents → Fin shape.obsDim → ℝ
  actions : shape.JointAction

/-- What `unroll_current_and_next` computes for one transition. -/
structure Unrolled (shape : AgentShape) where
  current : Fin shape.nAgents → Fin shape.outputDim → ℝ
  next : Fin shape.nAgents → Fin shape.outputDim → ℝ
  hidden : shape.Hidden

/-- The loop of `unroll_current_and_next`, from its hidden state and previous actions on. -/
noncomputable def unrollFrom (hidden : shape.Hidden)
    (previous : Fin shape.nAgents → Fin shape.nActions → ℝ) :
    List (Transition shape) → List (Unrolled shape)
  | [] => []
  | tr :: rest =>
      let current := model.forward tr.obs hidden (some previous)
      let actionOnehot := fun i => oneHot (tr.actions i)
      -- this branch is not fed back into the current trajectory
      let nxt := model.forward tr.nextObs current.2 (some actionOnehot)
      ⟨current.1, nxt.1, current.2⟩ :: unrollFrom current.2 actionOnehot rest

noncomputable def unrollCurrentAndNext (sequence : List (Transition shape)) :
    List (Unrolled shape) :=
  model.unrollFrom initialState (fun _ _ => 0) sequence

/-- What is padded behind a sequence does not change what is computed for it. -/
theorem unrollFrom_append (hidden : shape.Hidden)
    (previous : Fin shape.nAgents → Fin shape.nActions → ℝ) (l pad : List (Transition shape)) :
    (model.unrollFrom hidden previous (l ++ pad)).take l.length
      = model.unrollFrom hidden previous l := by
  induction l generalizing hidden previous with
  | nil => rfl
  | cons tr l ih =>
      rw [List.cons_append, List.length_cons, unrollFrom, List.take_succ_cons, ih, unrollFrom]

theorem length_unrollCurrentAndNext (sequence : List (Transition shape)) :
    (model.unrollCurrentAndNext sequence).length = sequence.length := by
  unfold unrollCurrentAndNext
  generalize initialState = hidden
  generalize (fun _ _ => 0 : Fin shape.nAgents → Fin shape.nActions → ℝ) = previous
  induction sequence generalizing hidden previous with
  | nil => rfl
  | cons tr rest ih => rw [unrollFrom, List.length_cons, ih, List.length_cons]

/-! ## A network that answers to one column -/

/-- All parameters zero. -/
def zeros : RecurrentAgent shape where
  fc1 := ⟨0, 0⟩
  rnn := ⟨⟨0, 0⟩, ⟨0, 0⟩, ⟨0, 0⟩, ⟨0, 0⟩, ⟨0, 0⟩, ⟨0, 0⟩⟩
  fc2 := ⟨0, 0⟩

/-- The network that gives `o` while column `x` of a first row is `0`, and `o'` when it is
`1`. -/
noncomputable def probe (x : shape.Input) (k : Fin shape.hiddenDim)
    (o o' : Fin shape.outputDim → ℝ) : RecurrentAgent shape where
  fc1 := Linear.reading x k
  rnn := GRUCell.copying k k
  fc2 := Linear.between k o o'

theorem probe_step (x : shape.Input) (k : Fin shape.hiddenDim) (o o' : Fin shape.outputDim → ℝ)
    (v : shape.Input → ℝ) :
    ((probe x k o o').step v (fun _ => 0)).1
      = fun j => Real.tanh (relu (v x)) / Real.tanh 1 * (o' j - o j) + o j := by
  have hcell := GRUCell.copying_apply k k (fun k' => relu (if k' = k then v x else 0))
  rw [if_pos rfl] at hcell
  rw [step, probe]
  dsimp only
  rw [Linear.reading_apply]
  exact (congrArg _ hcell).trans (Linear.between_apply k o o' _)

theorem probe_step_zero {x : shape.Input} {k : Fin shape.hiddenDim}
    {o o' : Fin shape.outputDim → ℝ} {v : shape.Input → ℝ} (hv : v x = 0) :
    ((probe x k o o').step v (fun _ => 0)).1 = o := by
  rw [probe_step, hv]
  funext j
  simp [relu]

theorem probe_step_one {x : shape.Input} {k : Fin shape.hiddenDim}
    {o o' : Fin shape.outputDim → ℝ} {v : shape.Input → ℝ} (hv : v x = 1) :
    ((probe x k o o').step v (fun _ => 0)).1 = o' := by
  rw [probe_step, hv]
  funext j
  have hrelu : relu 1 = 1 := max_eq_left zero_le_one
  rw [hrelu, div_self tanh_one_ne_zero]
  ring

end RecurrentAgent

end Mate.Rllib
