import Mate.Rllib.Losses

set_option autoImplicit false

/-! # DuelMIX acting on a batch of environments

The agents of all environments of a batch are rows of one input of the network. Flattening and splitting
keep the rows apart (`dropAgentDim_row`), so an environment of a batch is computed as it is
alone (`macDuelmix_row`). What may not be kept apart are the previous actions: a batch of as many
environments as agents is taken for its transpose (`alignRows_self`).
-/

namespace Mate.Rllib

open Nets

/-! ## Rows -/

section Rows

variable {α : Type} {B n : ℕ}

/-- `_drop_agent_dim`. -/
def dropAgentDim (T : Fin B → Fin n → α) : Fin (B * n) → α := fun r =>
  T (finProdFinEquiv.symm r).1 (finProdFinEquiv.symm r).2

/-- `reshape([B, n_agents, ..])`. -/
def splitAgentDim (T : Fin (B * n) → α) : Fin B → Fin n → α := fun b i => T (finProdFinEquiv (b, i))

theorem dropAgentDim_row (T : Fin B → Fin n → α) (b : Fin B) (i : Fin n) :
    dropAgentDim T (finProdFinEquiv (b, i)) = T b i := by
  rw [dropAgentDim, Equiv.symm_apply_apply]

end Rows

/-! ## Previous actions -/

/-- What `compute_actions` may be given as previous actions: action indices, or one-hot rows. -/
inductive PrevActions (nActions : ℕ)
  | indices (rows cols : ℕ) (array : Fin rows → Fin cols → Fin nActions)
  | onehots (rows cols : ℕ) (array : Fin rows → Fin cols → Fin nActions → ℝ)

/-- The axes are swapped if their sizes are those of the swapped layout, and the rest is reshaped. -/
def alignRows {α : Type} (batchSize nAgents : ℕ) (trailing : List ℕ) {rows cols : ℕ}
    (array : Fin rows → Fin cols → α) : Except Error (Fin batchSize → Fin nAgents → α) :=
  if h : rows = nAgents ∧ cols = batchSize then
    .ok (fun b i => array (i.cast h.1.symm) (b.cast h.2.symm))
  else if h : batchSize * nAgents = rows * cols then
    .ok (splitAgentDim (fun r => dropAgentDim array (r.cast h)))
  else
    .error (.runtimeError ("shape '" ++ toString (batchSize :: nAgents :: trailing)
      ++ "' is invalid for input of size " ++ toString (rows * cols * trailing.prod)))

/-- `_prev_actions_to_onehot`; without previous actions all agents are said to have chosen the first
one. -/
def prevActionsToOnehot (batchSize nAgents : ℕ) {nActions : ℕ} (hactions : 0 < nActions) :
    Option (PrevActions nActions) → Except Error (Fin batchSize → Fin nAgents → Fin nActions → ℝ)
  | none => .ok (fun _ _ => oneHot ⟨0, hactions⟩)
  | some (.indices _ _ array) =>
      (alignRows batchSize nAgents [] array).map (fun prev b i => oneHot (prev b i))
  | some (.onehots _ _ array) => alignRows batchSize nAgents [nActions] array

/-! ## Acting -/

/-- A mask that leaves every agent an action. -/
structure ActionMask (shape : LossShape) where
  available : shape.Mask
  exists_available : ∀ i, ∃ k, available i k = true

namespace DualStreamRNNModel

variable {shape : LossShape} (model : DualStreamRNNModel shape) {B : ℕ}

/-- The values of one row of the network. -/
noncomputable def heads (next : Fin shape.rnnHiddenDim → ℝ) : ℝ × (Fin shape.nActions → ℝ) :=
  (model.vHead.apply next 0, fun k => model.aHead.apply next k - mean (model.aHead.apply next))

/-- `_mac_duelmix` on a batch. -/
noncomputable def macDuelmix (obs : Fin B → shape.Obs) (h : Fin B → shape.Hidden)
    (prevActionsOnehot : Fin B → Fin shape.nAgents → Fin shape.nActions → ℝ) :
    (Fin B → Output shape) × (Fin B → shape.Hidden) :=
  let obsFlat := dropAgentDim obs
  let prevFlat := dropAgentDim prevActionsOnehot
  let hFlat := dropAgentDim h
  let next := fun r => model.hidden (obsFlat r) (prevFlat r) (hFlat r)
  let v := splitAgentDim (fun r => (model.heads (next r)).1)
  let a := splitAgentDim (fun r => (model.heads (next r)).2)
  (fun b => ⟨v b, a b⟩, splitAgentDim next)

/-- The greedy action of an agent, `-inf` standing for what is not available. -/
noncomputable def greedyAction (q : Fin shape.nActions → ℝ) (available : Fin shape.nActions → Bool) :
    Fin shape.nActions :=
  argmax shape.nActions_pos (fun k => if available k = true then (q k : WithBot ℝ) else ⊥)

/-- `DuelMixTorchPolicy.compute_actions` without exploration, on unpacked observations. The actions
are returned agent by agent. -/
noncomputable def computeActions (obs : Fin B → shape.Obs) (actionMask : Fin B → ActionMask shape)
    (state : Fin B → shape.Hidden) (prevActionBatch : Option (PrevActions shape.nActions)) :
    Except Error ((Fin shape.nAgents → Fin B → Fin shape.nActions) × (Fin B → shape.Hidden)) := do
  let prev ← prevActionsToOnehot B shape.nAgents shape.nActions_pos prevActionBatch
  let result := model.macDuelmix obs state prev
  let actions := fun b i => greedyAction ((result.1 b).q i) ((actionMask b).available i)
  return (fun i b => actions b i, result.2)

/-- An environment of a batch is computed as the losses compute one environment. -/
theorem macDuelmix_row (obs : Fin B → shape.Obs) (h : Fin B → shape.Hidden)
    (prev : Fin B → shape.JointAction) :
    model.macDuelmix obs h (fun b i => oneHot (prev b i))
      = (fun b => (model.mac (obs b, prev b) (h b)).1, fun b => (model.mac (obs b, prev b) (h b)).2) := by
  have hnext : ∀ b i, model.hidden (dropAgentDim obs (finProdFinEquiv (b, i)))
      (dropAgentDim (fun b i => oneHot (prev b i)) (finProdFinEquiv (b, i)))
      (dropAgentDim h (finProdFinEquiv (b, i))) = (model.mac (obs b, prev b) (h b)).2 i := by
    intro b i
    simp only [dropAgentDim_row, mac]
  refine Prod.ext (funext fun b => ?_) (funext fun b => funext (hnext b))
  show Output.mk (fun i => (model.heads _).1) (fun i => (model.heads _).2) = Output.mk _ _
  simp only [hnext, heads]
  rfl

end DualStreamRNNModel

/-! ## What the network sees -/

section Seen

variable {α : Type} {B n : ℕ}

/-- The previous actions of a batch, as `_prev_actions_to_onehot` takes them. -/
def seen (prev : Fin B → Fin n → α) : Fin B → Fin n → α := fun b i =>
  if h : B = n then prev (i.cast h.symm) (b.cast h) else prev b i

/-- There are not as many environments as agents, or the previous actions are symmetric. -/
def Unambiguous (prev : Fin B → Fin n → α) : Prop :=
  ∀ (h : B = n) (b : Fin B) (i : Fin n), prev b i = prev (i.cast h.symm) (b.cast h)

theorem seen_eq_iff (prev : Fin B → Fin n → α) : seen prev = prev ↔ Unambiguous prev := by
  constructor
  · intro hseen h b i
    have hbi := congrFun (congrFun hseen b) i
    rw [seen, dif_pos h] at hbi
    exact hbi.symm
  · intro hprev
    funext b i
    unfold seen
    split
    · next h => exact (hprev h b i).symm
    · rfl

/-- One environment is never taken for another one. -/
theorem seen_single (prev : Fin n → α) : seen (fun _ : Fin 1 => prev) = fun _ => prev := by
  rw [seen_eq_iff]
  intro h b i
  subst h
  exact congrArg prev (Subsingleton.elim _ _)

/-- A batch in the layout of the sample collector. -/
theorem alignRows_self (trailing : List ℕ) (prev : Fin B → Fin n → α) :
    alignRows B n trailing prev = .ok (seen prev) := by
  by_cases h : B = n
  · have hswapped : B = n ∧ n = B := ⟨h, h.symm⟩
    unfold alignRows
    rw [dif_pos hswapped]
    congr 1
    funext b i
    rw [seen, dif_pos h]
  · have hkept : ¬ (B = n ∧ n = B) := fun hswapped => h hswapped.1
    unfold alignRows
    rw [dif_neg hkept, dif_pos rfl]
    congr 1
    funext b i
    -- a reshape to the shape it has
    show dropAgentDim prev (finProdFinEquiv (b, i)) = _
    rw [seen, dif_neg h, dropAgentDim_row]

end Seen

namespace DualStreamRNNModel

variable {shape : LossShape} {B : ℕ}

/-- Acting on a batch in the layout of the sample collector. -/
theorem computeActions_indices (model : DualStreamRNNModel shape) (obs : Fin B → shape.Obs)
    (actionMask : Fin B → ActionMask shape) (state : Fin B → shape.Hidden)
    (prev : Fin B → shape.JointAction) :
    model.computeActions obs actionMask state (some (.indices B shape.nAgents prev))
      = .ok (fun i b => greedyAction ((model.mac (obs b, seen prev b) (state b)).1.q i)
          ((actionMask b).available i),
        fun b => (model.mac (obs b, seen prev b) (state b)).2) := by
  have hprev : prevActionsToOnehot B shape.nAgents shape.nActions_pos
      (some (.indices B shape.nAgents prev)) = .ok (fun b i => oneHot (seen prev b i)) := by
    show (alignRows B shape.nAgents [] prev).map _ = _
    rw [alignRows_self]
    rfl
  unfold computeActions
  rw [hprev]
  show Except.ok (fun i b => greedyAction (((model.macDuelmix obs state _).1 b).q i)
    ((actionMask b).available i), (model.macDuelmix obs state _).2) = Except.ok _
  rw [macDuelmix_row]

/-- Environment `b` of a batch with these previous actions acts as it does alone. -/
def ActsAlone (prev : Fin B → shape.JointAction) : Prop :=
  ∀ (model : DualStreamRNNModel shape) (obs : Fin B → shape.Obs)
    (actionMask : Fin B → ActionMask shape) (state : Fin B → shape.Hidden) (b : Fin B),
    ∃ batched alone,
      model.computeActions obs actionMask state (some (.indices B shape.nAgents prev)) = .ok batched ∧
      model.computeActions (fun _ : Fin 1 => obs b) (fun _ => actionMask b) (fun _ => state b)
        (some (.indices 1 shape.nAgents (fun _ => prev b))) = .ok alone ∧
      (∀ i, batched.1 i b = alone.1 i 0) ∧ batched.2 b = alone.2 0

/-- The network whose first hidden unit shows whether the previous action was `k`. -/
def showing (j : Fin shape.rnnHiddenDim) (k : Fin shape.nActions) : DualStreamRNNModel shape where
  fc1 := Linear.reading (.inr k) j
  rnn := GRUCell.copying j j
  vHead := ⟨0, 0⟩
  aHead := ⟨0, 0⟩

theorem hidden_showing (j : Fin shape.rnnHiddenDim) (k : Fin shape.nActions)
    (obs : Fin shape.obsSize → ℝ) (prevAction : Fin shape.nActions) :
    (showing j k).hidden obs (oneHot prevAction) 0 j
      = if k = prevAction then Real.tanh 1 / 2 else 0 := by
  show (GRUCell.copying j j).apply (fun l => relu ((Linear.reading (.inr k) j).apply
    (Sum.elim obs (oneHot prevAction)) l)) 0 j = _
  rw [GRUCell.copying_apply]
  dsimp only
  rw [if_pos rfl, Linear.reading_apply_self, Sum.elim_inr, oneHot]
  split
  · rw [relu_of_pos one_pos]
  · rw [relu_zero, Real.tanh_zero, zero_div]

/-- A batch that is taken for another one shows it in the hidden states. -/
theorem ActsAlone.unambiguous {prev : Fin B → shape.JointAction} (h : ActsAlone prev)
    (hdim : shape.rnnHiddenDim ≠ 0) : Unambiguous prev := by
  by_contra hambiguous
  unfold Unambiguous at hambiguous
  push Not at hambiguous
  obtain ⟨hsize, b, i, hne⟩ := hambiguous
  let j : Fin shape.rnnHiddenDim := ⟨0, Nat.pos_of_ne_zero hdim⟩
  let mask : ActionMask shape := ⟨fun _ _ => true, fun _ => ⟨⟨0, shape.nActions_pos⟩, rfl⟩⟩
  obtain ⟨batched, alone, hbatched, halone, -, hhidden⟩ :=
    h (showing j (prev b i)) (fun _ _ _ => 0) (fun _ => mask) (fun _ _ _ => 0) b
  rw [computeActions_indices] at hbatched halone
  injection hbatched with hbatched
  injection halone with halone
  rw [← hbatched, ← halone, seen_single] at hhidden
  have hunit := congrFun (congrFun hhidden i) j
  -- alone the network is shown the previous action of the agent, in the batch another one
  have halone : (showing j (prev b i)).hidden (fun _ => 0) (oneHot (prev b i)) 0 j
      = Real.tanh 1 / 2 := by
    rw [hidden_showing, if_pos rfl]
  have hbatched : (showing j (prev b i)).hidden (fun _ => 0) (oneHot (seen prev b i)) 0 j = 0 := by
    rw [hidden_showing, seen, dif_pos hsize, if_neg hne]
  have hzero : Real.tanh 1 / 2 = 0 :=
    calc Real.tanh 1 / 2
        = (showing j (prev b i)).hidden (fun _ => 0) (oneHot (prev b i)) 0 j := halone.symm
      _ = (showing j (prev b i)).hidden (fun _ => 0) (oneHot (seen prev b i)) 0 j := hunit.symm
      _ = 0 := hbatched
  exact absurd hzero (div_ne_zero tanh_one_ne_zero two_ne_zero)

/-- **When DuelMIX treats the environments of a batch independently.** -/
theorem actsAlone_iff (prev : Fin B → shape.JointAction) :
    ActsAlone prev ↔ shape.rnnHiddenDim = 0 ∨ Unambiguous prev := by
  constructor
  · intro h
    by_cases hdim : shape.rnnHiddenDim = 0
    · exact .inl hdim
    · exact .inr (h.unambiguous hdim)
  · intro h model obs actionMask state b
    refine ⟨_, _, computeActions_indices model obs actionMask state prev,
      computeActions_indices model _ _ _ _, ?_⟩
    rw [seen_single]
    have hmac : model.mac (obs b, seen prev b) (state b) = model.mac (obs b, prev b) (state b) := by
      rcases h with hdim | hprev
      · have hempty : ∀ x y : Fin shape.rnnHiddenDim → ℝ, x = y :=
          fun x y => funext fun k => absurd k.2 (by omega)
        have hnext : ∀ i, model.hidden (obs b i) (oneHot (seen prev b i)) (state b i)
            = model.hidden (obs b i) (oneHot (prev b i)) (state b i) := fun i => hempty _ _
        simp only [mac, hnext]
      · rw [(seen_eq_iff prev).mpr hprev]
    dsimp only
    rw [hmac]
    exact ⟨fun _ => rfl, rfl⟩

/-- Two agents that choose from two actions. -/
def twoAgents : LossShape where
  nAgents := 2
  nActions := 2
  obsSize := 1
  rnnHiddenDim := 1
  nActions_pos := Nat.two_pos

/-- Two environments, in both of which the agents chose different actions. -/
theorem not_actsAlone_two :
    ¬ ActsAlone (fun (_ : Fin 2) => (fun i => i : twoAgents.JointAction)) := by
  intro h
  have hsymmetric := h.unambiguous one_ne_zero rfl (0 : Fin 2) (1 : Fin 2)
  exact absurd hsymmetric (show ¬ (1 : Fin 2) = 0 by decide)

end DualStreamRNNModel

end Mate.Rllib
