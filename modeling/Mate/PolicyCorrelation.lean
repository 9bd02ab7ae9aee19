import Mate.Rllib.RecurrentModels

set_option autoImplicit false

/-! # The policy-correlation term of I2C

The term should be a divergence at every step: of the policy, which is a distribution over the
actions, from the one that the values suggest. The logits of the policy are normalised along the
axis of the time, though, and the values along the actions. What is summed up is then no
divergence: it is negative for some values (`negativeEntry`), and it is zero or not whatever the
policy is. It is one only where both axes have length one (`policyCorrelation_iff`).
-/

namespace Mate.Rllib

open Nets

namespace I2CModel

/-- Every entry of `policy_corr_KLs` is the divergence of two distributions over the actions, which
come from the logits and from the values of the same step. -/
def PerStepDivergence (shape : I2CShape) (B T : ℕ) : Prop :=
  ∀ (model : I2CModel shape) (batch : I2CBatch model B T) (b : Fin B) (t : ℕ), t < T →
    let policy := softmax (model.lastOutput (batch.rows b) (batch.stateIn b) t)
    let suggested := softmax (fun a => model.qValuesI (batch.rows b t) a / model.temperature)
    let entry := model.policyCorrKLs T (batch.rows b) (batch.stateIn b) t
    entry = ∑ a, policy a * (Real.log (policy a) - Real.log (suggested a))
      ∧ 0 ≤ entry ∧ (entry = 0 ↔ policy = suggested)

/-! ## Constant logits -/

/-- The actor has the same logits at every step, and all values are zero. -/
noncomputable def constant {shape : I2CShape} (logits : Fin shape.nActions → ℝ) :
    I2CModel shape where
  messageAggregator := ⟨⟨0, 0⟩, ⟨0, 0⟩, ⟨0, 0⟩, ⟨0, 0⟩, ⟨0, 0⟩⟩
  actor :=
    { Features := Fin shape.localObsDim ⊕ Fin shape.messageDim
      cellSize := 1
      hidden := .nil
      activation := Real.tanh
      lstm := ⟨⟨0, 0⟩, ⟨0, 0⟩, ⟨0, 0⟩, ⟨0, 0⟩, ⟨0, 0⟩, ⟨0, 0⟩, ⟨0, 0⟩, ⟨0, 0⟩⟩
      output := ⟨0, logits⟩ }
  jointQNetwork :=
    { Features := shape.JointStateAction
      hidden := .nil
      activation := Real.tanh
      output := ⟨0, 0⟩ }
  priorNetwork :=
    { Features := Fin shape.localObsDim ⊕ Fin shape.nOthers
      hidden := .nil
      activation := Real.tanh
      output := ⟨0, 0⟩ }
  policyCorrRegCoeff := 1
  temperature := 1
  priorBufferSize := 1
  temperature_pos := one_pos

section Constant

variable {shape : I2CShape} (logits : Fin shape.nActions → ℝ) (rows : ℕ → I2CRow shape)
  (stateIn : (constant logits).actor.State)

theorem lastOutput_constant (t : ℕ) : (constant logits).lastOutput rows stateIn t = logits := by
  rw [lastOutput, SimpleRNN.lastOutput]
  exact Linear.apply_bias rfl _

theorem qValuesI_constant (row : I2CRow shape) (a : Fin shape.nActions) :
    (constant logits).qValuesI row a = 0 := by
  rw [qValuesI, jointQValue, SimpleMLP.forward]
  exact congrFun (Linear.zero_apply _) 0

theorem logProbsI_constant (row : I2CRow shape) (a : Fin shape.nActions) :
    (constant logits).logProbsI row a = -Real.log shape.nActions := by
  rw [logProbsI, logSoftmax, logsumexp]
  simp [qValuesI_constant]

/-- The number of actions against the number of steps, and no word of the logits. -/
theorem policyCorrKLs_constant {T : ℕ} (hT : 0 < T) (t : ℕ) :
    (constant logits).policyCorrKLs T rows stateIn t
      = shape.nActions * (Real.exp (-Real.log T) * (Real.log shape.nActions - Real.log T)) := by
  have htarget : ∀ a, logits a - logsumexp (fun _ : Fin T => logits a) = -Real.log T := by
    intro a
    have hT' : (T : ℝ) ≠ 0 := by exact_mod_cast hT.ne'
    rw [logsumexp, Finset.sum_const, Finset.card_univ, Fintype.card_fin, nsmul_eq_mul,
      Real.log_mul hT' (Real.exp_pos _).ne', Real.log_exp]
    ring
  rw [policyCorrKLs]
  simp only [lastOutput_constant, logProbsI_constant, htarget, klDiv]
  rw [Finset.sum_const, Finset.card_univ, Fintype.card_fin, nsmul_eq_mul]
  ring

end Constant

/-! ## The axes -/

/-- A policy that prefers the first of two actions is not uniform. -/
theorem softmax_ne_uniform {n : ℕ} (hn : 2 ≤ n) :
    softmax (oneHot (⟨0, by omega⟩ : Fin n)) ≠ softmax (fun _ => 0) := by
  intro h
  let first : Fin n := ⟨0, by omega⟩
  let second : Fin n := ⟨1, by omega⟩
  have hsecond : second ≠ first := by
    intro heq
    exact absurd (congrArg Fin.val heq) one_ne_zero
  have hpos : 0 < ∑ a, Real.exp (oneHot first a) :=
    Finset.sum_pos (fun _ _ => Real.exp_pos _) ⟨first, Finset.mem_univ _⟩
  have heq : softmax (oneHot first) first = softmax (oneHot first) second := by
    rw [h]
    rfl
  rw [softmax, softmax, div_left_inj' hpos.ne', Real.exp_eq_exp, oneHot, oneHot, if_pos rfl,
    if_neg hsecond] at heq
  exact one_ne_zero heq

section Axes

variable {shape : I2CShape} {B T : ℕ}

/-- A batch in which all is zero. -/
def zeroBatch (model : I2CModel shape) (B T : ℕ) : I2CBatch model B T where
  seqLens := fun _ => T
  rows := fun _ _ => ⟨0, 0, 0, 0, ⟨0, shape.nActions_pos⟩, 0⟩
  stateIn := fun _ => (0, 0)
  seqLens_le := fun _ => le_rfl

theorem axes_of_perStepDivergence (hB : 0 < B) (hT : 0 < T)
    (h : PerStepDivergence shape B T) : T = 1 ∧ shape.nActions = 1 := by
  -- the entry is the same for all logits, and zero where both are uniform
  have hzero : shape.nActions * (Real.exp (-Real.log T)
      * (Real.log shape.nActions - Real.log T)) = 0 := by
    have hentry := (h (constant fun _ => 0) (zeroBatch _ B T) ⟨0, hB⟩ 0 hT).2.2
    simp only [policyCorrKLs_constant _ _ _ hT, lastOutput_constant, qValuesI_constant,
      zero_div] at hentry
    exact hentry.mpr trivial
  have hn : (0 : ℝ) < shape.nActions := by exact_mod_cast shape.nActions_pos
  have hT' : (0 : ℝ) < T := by exact_mod_cast hT
  have heq : shape.nActions = T := by
    rcases mul_eq_zero.mp hzero with hzero | hzero
    · linarith
    · rcases mul_eq_zero.mp hzero with hzero | hzero
      · exact absurd hzero (Real.exp_pos _).ne'
      · have hlog := Real.log_injOn_pos (Set.mem_Ioi.mpr hn) (Set.mem_Ioi.mpr hT') (by linarith)
        exact_mod_cast hlog
  have hone : shape.nActions = 1 := by
    by_contra hne
    have htwo : 2 ≤ shape.nActions := by
      have := shape.nActions_pos
      omega
    -- another policy, and the same entry
    have hentry := (h (constant (oneHot ⟨0, by omega⟩)) (zeroBatch _ B T) ⟨0, hB⟩ 0 hT).2.2
    simp only [policyCorrKLs_constant _ _ _ hT, lastOutput_constant, qValuesI_constant,
      zero_div] at hentry
    exact softmax_ne_uniform htwo (hentry.mp hzero)
  exact ⟨by omega, hone⟩

/-- With a single action and a single step, all there is has probability one. -/
theorem perStepDivergence_one (hn : shape.nActions = 1) : PerStepDivergence shape B 1 := by
  intro model batch b t ht
  have hsubsingleton : Subsingleton (Fin shape.nActions) := by
    refine ⟨fun a a' => Fin.ext ?_⟩
    omega
  have hsoftmax : ∀ x : Fin shape.nActions → ℝ, softmax x = fun _ => 1 := by
    intro x
    funext a
    rw [softmax, Fintype.sum_subsingleton _ a, div_self (Real.exp_pos _).ne']
  have hlog : ∀ (x : Fin shape.nActions → ℝ) a, logSoftmax x a = 0 := by
    intro x a
    rw [logSoftmax, logsumexp, Fintype.sum_subsingleton _ a, Real.log_exp, sub_self]
  obtain rfl : t = 0 := by omega
  have hentry : model.policyCorrKLs 1 (batch.rows b) (batch.stateIn b) 0 = 0 := by
    rw [policyCorrKLs]
    refine Finset.sum_eq_zero fun a _ => ?_
    dsimp only
    rw [klDiv, logProbsI, hlog, logsumexp, Fin.sum_univ_one, Real.log_exp, Fin.val_zero, sub_self,
      sub_zero, mul_zero]
  simp [hentry, hsoftmax]

end Axes

/-- **The term is a divergence at every step** where there is one step and one action, and nowhere
else: for all parameters and all batches. -/
theorem policyCorrelation_iff (shape : I2CShape) (B T : ℕ) :
    PerStepDivergence shape B T ↔ B = 0 ∨ T = 0 ∨ T = 1 ∧ shape.nActions = 1 := by
  constructor
  · intro h
    by_cases hpos : 0 < B ∧ 0 < T
    · exact Or.inr (Or.inr (axes_of_perStepDivergence hpos.1 hpos.2 h))
    · omega
  · rintro (rfl | rfl | ⟨rfl, hn⟩)
    · exact fun _ _ b => b.elim0
    · exact fun _ _ _ _ ht => absurd ht (Nat.not_lt_zero _)
    · exact perStepDivergence_one hn

/-! ## Two actions -/

def twoActions : I2CShape := ⟨1, 1, 1, 2, 1, Nat.one_pos, Nat.two_pos⟩

noncomputable def uniform : I2CModel twoActions := constant fun _ => 0

/-- Two actions and three steps: both distributions are uniform, and the entry is negative. -/
theorem negativeEntry :
    uniform.policyCorrKLs 3 ((zeroBatch uniform 1 3).rows 0) ((zeroBatch uniform 1 3).stateIn 0) 0 < 0
      ∧ ¬ PerStepDivergence twoActions 1 3 := by
  have hentry : uniform.policyCorrKLs 3 ((zeroBatch uniform 1 3).rows 0)
      ((zeroBatch uniform 1 3).stateIn 0) 0 < 0 := by
    rw [uniform, policyCorrKLs_constant _ _ _ three_pos]
    have hn : ((twoActions.nActions : ℕ) : ℝ) = 2 := by norm_num [twoActions]
    have hlog : Real.log 2 < Real.log 3 := Real.log_lt_log two_pos (by norm_num)
    have hneg : Real.exp (-Real.log (3 : ℕ)) * (Real.log 2 - Real.log (3 : ℕ)) < 0 :=
      mul_neg_of_pos_of_neg (Real.exp_pos _) (by push_cast; linarith)
    rw [hn]
    linarith
  exact ⟨hentry, fun h => absurd (h uniform (zeroBatch _ 1 3) 0 0 three_pos).2.1 (not_le.mpr hentry)⟩

end I2CModel

end Mate.Rllib
