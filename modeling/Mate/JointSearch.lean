import Mate.Library.Layers
import Mate.Rllib.ConcaveQ

set_option autoImplicit false

/-! # The joint value of ConcaveQ and its search

The mixer is concave in the utilities (`concaveOn_forward`): what comes before the last layer is convex
layer by layer, and the last layer negates it.

A turn of the search keeps three things (`Kept`): the value is that of the actions, no action is
forbidden, and nothing got worse. It also leaves the agent with a best action, given the others
(`sweepAgent_isMaxOn`). Since the loop over the chunks finds what one look at all candidates would find
(`chooseCandidate_eq`), the chunk size does not matter.
-/

namespace Mate.Rllib

open Nets

/-! ## Concavity -/

namespace PositiveHyperLayer

variable {stateDim : ℕ} {ι κ : Type} [Fintype ι] (layer : PositiveHyperLayer stateDim ι κ)
  (state : Fin stateDim → ℝ)

theorem weights_nonneg (i : ι) (k : κ) : 0 ≤ layer.weights state i k :=
  div_nonneg (abs_nonneg _) (Nat.cast_nonneg _)

section

variable {E : Type} [AddCommGroup E] [Module ℝ E] {x : E → ι → ℝ}

theorem convexOn_forward (hx : ∀ i, ConvexOn ℝ Set.univ (fun u => x u i)) (k : κ) :
    ConvexOn ℝ Set.univ (fun u => layer.forward (x u) state k) :=
  convexOn_combination convex_univ hx (fun i => layer.weights_nonneg state i k) _

theorem concaveOn_negativeWeightForward (hx : ∀ i, ConvexOn ℝ Set.univ (fun u => x u i)) (k : κ) :
    ConcaveOn ℝ Set.univ (fun u => layer.negativeWeightForward (x u) state k) :=
  concaveOn_combination convex_univ hx (fun i => layer.weights_nonneg state i k) _

end

end PositiveHyperLayer

namespace ConcaveMixer

variable {shape : ConcaveShape} (mixer : ConcaveMixer shape) (states : Fin shape.stateDim → ℝ)

/-- **The mixer is concave in the utilities**, for all parameters, sizes and states. -/
theorem concaveOn_forward : ConcaveOn ℝ Set.univ (fun utilities => mixer.forward utilities states) := by
  have hz1 := mixer.layer1.convexOn_forward states convexOn_coordinate
  have hz2 := fun k => convexOn_relu (mixer.layer2.convexOn_forward states hz1 k)
  have hz12 : ∀ i, ConvexOn ℝ Set.univ (fun utilities =>
      (Sum.elim (mixer.layer1.forward utilities states)
        (fun k => relu (mixer.layer2.forward (mixer.layer1.forward utilities states) states k)) i)) :=
    Sum.rec hz1 hz2
  have hz3 := fun k => convexOn_relu (mixer.layer3.convexOn_forward states hz12 k)
  exact mixer.outputLayer.concaveOn_negativeWeightForward states (Sum.rec hz12 hz3) 0

end ConcaveMixer

/-! ## One turn of the search -/

section CoordinateAscent

variable {α β μ : Type} [LinearOrder α] [LinearOrder β] [OrderBot β] [LinearOrder μ] [Zero μ]
variable {nAgents nActions : ℕ} (hactions : 0 < nActions)

/-- The chunks make no difference to what is chosen. -/
theorem chooseCandidate_eq {chunkSize : ℕ} (hsize : 0 < chunkSize) (values : Fin nActions → β) :
    chooseCandidate hactions chunkSize values
      = (List.finRange nActions).foldl (RunningMax.improve values) (⊥, ⟨0, hactions⟩) := by
  have hchunks := Chunks.flatten_chunks (List.finRange nActions) hsize
  rw [List.length_finRange] at hchunks
  unfold chooseCandidate
  rw [← hchunks, ← RunningMax.foldl_improveChunk, List.foldl_map, hchunks]

theorem le_chooseCandidate {chunkSize : ℕ} (hsize : 0 < chunkSize) (values : Fin nActions → β)
    (k : Fin nActions) : values k ≤ (chooseCandidate hactions chunkSize values).1 := by
  rw [chooseCandidate_eq hactions hsize]
  exact RunningMax.le_foldl_improve _ (List.mem_finRange k)

/-- A value that beats another one was reached. -/
theorem chooseCandidate_of_lt {chunkSize : ℕ} (hsize : 0 < chunkSize) {values : Fin nActions → β}
    {best : β} (h : best < (chooseCandidate hactions chunkSize values).1) :
    (chooseCandidate hactions chunkSize values).1
      = values (chooseCandidate hactions chunkSize values).2 := by
  rw [chooseCandidate_eq hactions hsize] at h ⊢
  rcases RunningMax.foldl_improve_cases (f := values) (⊥, ⟨0, hactions⟩) (List.finRange nActions)
    with heq | hvalue
  · rw [heq] at h
    exact absurd h not_lt_bot
  · exact hvalue.1

variable (evaluateJoint : (Fin nAgents → Fin nActions) → β)
  (actionMask : Fin nAgents → Fin nActions → μ)

theorem candidateValues_of_allowed {agent : Fin nAgents} {k : Fin nActions}
    (h : 0 < actionMask agent k) (actions : Fin nAgents → Fin nActions) :
    candidateValues evaluateJoint actionMask actions agent k
      = evaluateJoint (Function.update actions agent k) :=
  if_neg h.not_ge

theorem allowed_of_bot_lt {actions : Fin nAgents → Fin nActions} {agent : Fin nAgents}
    {k : Fin nActions} (h : ⊥ < candidateValues evaluateJoint actionMask actions agent k) :
    0 < actionMask agent k := by
  by_contra hmask
  rw [candidateValues, if_pos (not_lt.mp hmask)] at h
  exact absurd h (lt_irrefl ⊥)

/-- What every turn keeps, for a search that started with the value `least`. -/
structure Kept (least : β) (current : (Fin nAgents → Fin nActions) × β) : Prop where
  value_eq : current.2 = evaluateJoint current.1
  allowed : ∀ i, 0 < actionMask i (current.1 i)
  least_le : least ≤ current.2

/-- A turn either changes the action of the agent to a better one, or nothing. -/
theorem sweepAgent_cases {chunkSize : ℕ} (hsize : 0 < chunkSize)
    (current : (Fin nAgents → Fin nActions) × β) (agent : Fin nAgents) :
    (∃ k, 0 < actionMask agent k ∧ current.2 < evaluateJoint (Function.update current.1 agent k) ∧
      (∀ l, 0 < actionMask agent l → evaluateJoint (Function.update current.1 agent l)
        ≤ evaluateJoint (Function.update current.1 agent k)) ∧
      sweepAgent hactions chunkSize evaluateJoint actionMask current agent
        = (Function.update current.1 agent k, evaluateJoint (Function.update current.1 agent k))) ∨
    (∀ l, 0 < actionMask agent l → evaluateJoint (Function.update current.1 agent l) ≤ current.2) ∧
      sweepAgent hactions chunkSize evaluateJoint actionMask current agent = current := by
  set values := candidateValues evaluateJoint actionMask current.1 agent with hvalues
  -- no candidate is better than the one that is chosen
  have hbound : ∀ l, 0 < actionMask agent l → evaluateJoint (Function.update current.1 agent l)
      ≤ (chooseCandidate hactions chunkSize values).1 := by
    intro l hl
    rw [← candidateValues_of_allowed evaluateJoint actionMask hl]
    exact le_chooseCandidate hactions hsize values l
  unfold sweepAgent
  rw [← hvalues]
  by_cases haccept : current.2 < (chooseCandidate hactions chunkSize values).1
  · left
    have hvalue := chooseCandidate_of_lt hactions hsize haccept
    have hallowed : 0 < actionMask agent (chooseCandidate hactions chunkSize values).2 := by
      apply allowed_of_bot_lt evaluateJoint actionMask
      rw [← hvalues, ← hvalue]
      exact bot_le.trans_lt haccept
    have heval : values (chooseCandidate hactions chunkSize values).2 = _ :=
      candidateValues_of_allowed evaluateJoint actionMask hallowed current.1
    rw [heval] at hvalue
    rw [hvalue] at haccept hbound
    refine ⟨_, hallowed, haccept, hbound, ?_⟩
    dsimp only
    rw [hvalue, if_pos haccept]
  · right
    exact ⟨fun l hl => (hbound l hl).trans (not_lt.mp haccept), if_neg haccept⟩

variable {evaluateJoint actionMask} {chunkSize : ℕ} (hsize : 0 < chunkSize)
  {current : (Fin nAgents → Fin nActions) × β}
include hsize

theorem kept_sweepAgent {least : β} (h : Kept evaluateJoint actionMask least current)
    (agent : Fin nAgents) : Kept evaluateJoint actionMask least
      (sweepAgent hactions chunkSize evaluateJoint actionMask current agent) := by
  rcases sweepAgent_cases hactions evaluateJoint actionMask hsize current agent with ⟨k, hk, hlt, -, heq⟩ | ⟨-, heq⟩
  · rw [heq]
    refine ⟨rfl, fun i => ?_, h.least_le.trans hlt.le⟩
    dsimp only
    by_cases hi : i = agent
    · subst hi
      rwa [Function.update_self]
    · rw [Function.update_of_ne hi]
      exact h.allowed i
  · rw [heq]
    exact h

/-- The turn of an agent leaves the others alone. -/
theorem sweepAgent_of_ne {agent i : Fin nAgents} (hi : i ≠ agent) :
    (sweepAgent hactions chunkSize evaluateJoint actionMask current agent).1 i = current.1 i := by
  rcases sweepAgent_cases hactions evaluateJoint actionMask hsize current agent with ⟨k, -, -, -, heq⟩ | ⟨-, heq⟩
  · rw [heq]
    exact Function.update_of_ne hi _ _
  · rw [heq]

/-- After its turn the action of an agent is a best one, given the others. -/
theorem sweepAgent_isMaxOn {least : β} (h : Kept evaluateJoint actionMask least current)
    (agent : Fin nAgents) :
    IsMaxOn (fun k => evaluateJoint (Function.update current.1 agent k)) {k | 0 < actionMask agent k}
      ((sweepAgent hactions chunkSize evaluateJoint actionMask current agent).1 agent) := by
  intro l hl
  show evaluateJoint _ ≤ evaluateJoint _
  rcases sweepAgent_cases hactions evaluateJoint actionMask hsize current agent with ⟨k, -, -, hmax, heq⟩ | ⟨hmax, heq⟩
  · rw [heq]
    dsimp only
    rw [Function.update_self]
    exact hmax l hl
  · rw [heq, Function.update_eq_self, ← h.value_eq]
    exact hmax l hl

/-! ## The whole sweep -/

theorem kept_foldl {least : β} (h : Kept evaluateJoint actionMask least current)
    (agents : List (Fin nAgents)) : Kept evaluateJoint actionMask least
      (agents.foldl (sweepAgent hactions chunkSize evaluateJoint actionMask) current) := by
  induction agents generalizing current with
  | nil => exact h
  | cons agent rest ih => exact ih (kept_sweepAgent hactions hsize h agent)

theorem foldl_of_notMem {i : Fin nAgents} {agents : List (Fin nAgents)} (hi : i ∉ agents) :
    (agents.foldl (sweepAgent hactions chunkSize evaluateJoint actionMask) current).1 i
      = current.1 i := by
  induction agents generalizing current with
  | nil => rfl
  | cons agent rest ih =>
      rw [List.foldl_cons, ih (fun hmem => hi (List.mem_cons_of_mem _ hmem))]
      exact sweepAgent_of_ne hactions hsize (fun heq => hi (heq ▸ List.mem_cons_self))

end CoordinateAscent

/-- The actions at the turn of an agent: those before it have made their choice. -/
def atTurn {nAgents nActions : ℕ} (start final : Fin nAgents → Fin nActions) (agent : Fin nAgents) :
    Fin nAgents → Fin nActions :=
  fun j => if j < agent then final j else start j

/-- The agents before one, and those after it. -/
theorem finRange_split {nAgents : ℕ} (agent : Fin nAgents) : ∃ before after : List (Fin nAgents),
    List.finRange nAgents = before ++ agent :: after ∧ (∀ j ∈ before, j < agent) ∧
      ∀ j ∈ after, agent < j := by
  obtain ⟨before, after, hsplit⟩ := List.append_of_mem (List.mem_finRange agent)
  have hsorted := List.pairwise_lt_finRange nAgents
  rw [hsplit, List.pairwise_append, List.pairwise_cons] at hsorted
  exact ⟨before, after, hsplit, fun j hj => hsorted.2.2 j hj agent List.mem_cons_self,
    hsorted.2.1.1⟩

section Sweep

variable {α β μ : Type} [LinearOrder α] [LinearOrder β] [OrderBot β] [LinearOrder μ] [Zero μ]
variable {nAgents nActions : ℕ} (hactions : 0 < nActions) {chunkSize : ℕ} (hsize : 0 < chunkSize)
  {evaluateJoint : (Fin nAgents → Fin nActions) → β} {actionMask : Fin nAgents → Fin nActions → μ}
  {start : Fin nAgents → Fin nActions}

include hsize

theorem coordinateSweep_chunkSize {chunkSize' : ℕ} (hsize' : 0 < chunkSize') :
    coordinateSweep hactions chunkSize actionMask evaluateJoint start
      = coordinateSweep hactions chunkSize' actionMask evaluateJoint start := by
  unfold coordinateSweep
  congr 1
  funext current agent
  unfold sweepAgent
  rw [chooseCandidate_eq hactions hsize, chooseCandidate_eq hactions hsize']

variable (evaluateJoint) in
/-- What holds after all turns. -/
theorem coordinateSweep_spec (hstart : ∀ i, 0 < actionMask i (start i)) :
    let swept := coordinateSweep hactions chunkSize actionMask evaluateJoint start
    Kept evaluateJoint actionMask (evaluateJoint start) swept ∧
      ∀ i, IsMaxOn (fun k => evaluateJoint (Function.update (atTurn start swept.1 i) i k))
        {k | 0 < actionMask i k} (swept.1 i) := by
  have hkept : Kept evaluateJoint actionMask (evaluateJoint start) (start, evaluateJoint start) :=
    ⟨rfl, hstart, le_rfl⟩
  refine ⟨kept_foldl hactions hsize hkept _, fun i => ?_⟩
  obtain ⟨before, after, hsplit, hbefore, hafter⟩ := finRange_split i
  unfold coordinateSweep
  rw [hsplit, List.foldl_append, List.foldl_cons]
  set atI := before.foldl (sweepAgent hactions chunkSize evaluateJoint actionMask)
    (start, evaluateJoint start) with hatI
  -- what the agents after `i` do changes neither the action of `i` nor those before it
  have hlater : ∀ j, j ≤ i → (after.foldl (sweepAgent hactions chunkSize evaluateJoint actionMask)
      (sweepAgent hactions chunkSize evaluateJoint actionMask atI i)).1 j
        = (sweepAgent hactions chunkSize evaluateJoint actionMask atI i).1 j :=
    fun j hj => foldl_of_notMem hactions hsize (fun hmem => absurd (hafter j hmem) hj.not_gt)
  have hturn : atTurn start (after.foldl (sweepAgent hactions chunkSize evaluateJoint actionMask)
      (sweepAgent hactions chunkSize evaluateJoint actionMask atI i)).1 i = atI.1 := by
    funext j
    unfold atTurn
    by_cases hj : j < i
    · rw [if_pos hj, hlater j hj.le, sweepAgent_of_ne hactions hsize hj.ne]
    · rw [if_neg hj, hatI, foldl_of_notMem hactions hsize (fun hmem => hj (hbefore j hmem))]
  rw [hturn, hlater i le_rfl]
  exact sweepAgent_isMaxOn hactions hsize (kept_foldl hactions hsize hkept before) i

end Sweep

section Batch

variable {ι α β μ : Type} [LinearOrder α] [LinearOrder β] [OrderBot β] [LinearOrder μ] [Zero μ]
variable {nAgents nActions : ℕ} (hactions : 0 < nActions)

/-- The search starts with allowed actions. -/
theorem startActions_allowed (actionValues : Fin nAgents → Fin nActions → α)
    {actionMask : Fin nAgents → Fin nActions → μ} (hmask : ∀ i, ∃ k, 0 < actionMask i k)
    {initialActions : Option (Fin nAgents → Fin nActions)}
    (hinitial : ∀ a ∈ initialActions, ∀ i, 0 < actionMask i (a i)) (i : Fin nAgents) :
    0 < actionMask i (startActions hactions actionValues actionMask initialActions i) := by
  cases initialActions with
  | some actions => exact hinitial actions rfl i
  | none =>
      obtain ⟨k, hk⟩ := hmask i
      unfold startActions
      dsimp only
      set masked : Fin nActions → WithBot α :=
        fun k => if actionMask i k ≤ 0 then (⊥ : WithBot α) else actionValues i k with hmasked
      have hle := le_argmax hactions masked k
      by_contra hforbidden
      have hbot : masked (argmax hactions masked) = ⊥ := if_pos (not_lt.mp hforbidden)
      have hvalue : masked k = actionValues i k := if_neg hk.not_ge
      rw [hbot, hvalue] at hle
      exact absurd hle (WithBot.bot_lt_coe _).not_ge

/-- **The coordinate search is sound.** For all chunk sizes it returns the same actions and values: the
values are those of the actions and at least those at the start, no action is forbidden, and each
is a best one of its agent at its turn. -/
theorem coordinateAscentActions_spec (actionValues : ι → Fin nAgents → Fin nActions → α)
    (actionMask : ι → Fin nAgents → Fin nActions → μ)
    (evaluateJoint : ι → (Fin nAgents → Fin nActions) → β)
    (initialActions : Option (ι → Fin nAgents → Fin nActions))
    (hmask : ∀ b i, ∃ k, 0 < actionMask b i k)
    (hinitial : ∀ a ∈ initialActions, ∀ b i, 0 < actionMask b i (a b i)) :
    ∃ (actions : ι → Fin nAgents → Fin nActions) (values : ι → β),
      (∀ candidateChunkSize : Option ℤ, (∀ size ∈ candidateChunkSize, 1 ≤ size) →
        coordinateAscentActions hactions actionValues actionMask evaluateJoint initialActions
          candidateChunkSize = .ok (actions, values)) ∧
      ∀ b, values b = evaluateJoint b (actions b) ∧
        evaluateJoint b (startActions hactions (actionValues b) (actionMask b)
          (initialActions.map (fun a => a b))) ≤ values b ∧
        ∀ i, 0 < actionMask b i (actions b i) ∧
          IsMaxOn (fun k => evaluateJoint b (Function.update (atTurn
              (startActions hactions (actionValues b) (actionMask b)
                (initialActions.map (fun a => a b))) (actions b) i) i k))
            {k | 0 < actionMask b i k} (actions b i) := by
  set start := fun b => startActions hactions (actionValues b) (actionMask b)
    (initialActions.map (fun a => a b)) with hstart
  have hallowed : ∀ b i, 0 < actionMask b i (start b i) := by
    intro b
    refine startActions_allowed hactions (actionValues b) (hmask b) (fun a ha => ?_)
    obtain ⟨a, hmem, rfl⟩ := Option.mem_map.mp ha
    exact hinitial a hmem b
  -- every row of the batch is swept for itself, so that the chunks do not matter
  set swept := fun b => coordinateSweep hactions 1 (actionMask b) (evaluateJoint b) (start b)
    with hswept
  refine ⟨fun b => (swept b).1, fun b => (swept b).2, fun candidateChunkSize hsize => ?_, fun b => ?_⟩
  · have hpos : 0 < candidateChunkSize.getD nActions := by
      cases candidateChunkSize with
      | none => exact Nat.cast_pos.mpr hactions
      | some size => exact hsize size rfl
    unfold coordinateAscentActions
    dsimp only
    rw [if_neg (not_le.mpr hpos)]
    simp only [coordinateSweep_chunkSize hactions (Int.pos_iff_toNat_pos.mp hpos) one_pos]
    rfl
  · obtain ⟨hkept, hmax⟩ := coordinateSweep_spec hactions one_pos (evaluateJoint b) (hallowed b)
    exact ⟨hkept.value_eq, hkept.least_le, fun i => ⟨hkept.allowed i, hmax i⟩⟩

/-- Two agents that are paid for both choosing the higher action. -/
theorem coordinateAscentActions_spec_pair : ∃ (actions : Unit → Fin 2 → Fin 2) (values : Unit → ℕ),
    coordinateAscentActions two_pos (fun _ _ k => (k : ℕ)) (fun _ _ _ => (1 : ℕ))
      (fun _ a => ((a 0 : ℕ) * a 1 + 1 : ℕ)) (some (fun _ _ => 0)) (some 1) = .ok (actions, values) ∧
      values () = (actions () 0 : ℕ) * actions () 1 + 1 := by
  obtain ⟨actions, values, hsame, hspec⟩ := coordinateAscentActions_spec two_pos
    (fun (_ : Unit) (_ : Fin 2) (k : Fin 2) => (k : ℕ)) (fun _ _ _ => (1 : ℕ))
    (fun _ a => ((a 0 : ℕ) * a 1 + 1 : ℕ)) (some (fun _ _ => 0)) (fun _ _ => ⟨0, one_pos⟩)
    (fun _ _ _ _ => one_pos)
  refine ⟨actions, values, hsame (some 1) (fun size hsize => ?_), (hspec ()).1⟩
  exact (Option.some_inj.mp hsize).le

end Batch

end Mate.Rllib
