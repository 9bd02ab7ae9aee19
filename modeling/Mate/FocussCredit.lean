import Mate.Responsibilities
import Mate.Rllib.FocussObjectives

set_option autoImplicit false

/-! # What the objective of FOCUSS asks for

The objective of the agents is a cross entropy with the responsibilities, of carriers that are a
distribution (`sum_carrierProb`). By Gibbs' inequality it is least where the carriers are the shares
of the responsibilities, at the steps that weigh anything (`focussAgentObjective_least`), whatever the
backbone whose gradients they are made of.
-/

namespace Mate.Rllib

open Nets Finset

/-! ## Carriers are distributions -/

section Carriers

variable {C : ℕ} {carrier : Fin C → ℝ} {eps : ℝ}

theorem clamped_pos (heps : 0 < eps) (c : Fin C) : 0 < max (carrier c) eps :=
  heps.trans_le (le_max_right _ _)

/-- The sum of the clamped carriers is not clamped. -/
theorem clamped_sum (heps : 0 < eps) (hC : 0 < C) :
    max (∑ c, max (carrier c) eps) eps = ∑ c, max (carrier c) eps := by
  refine max_eq_left ?_
  calc eps ≤ max (carrier ⟨0, hC⟩) eps := le_max_right _ _
    _ ≤ ∑ c, max (carrier c) eps :=
        single_le_sum (f := fun c => max (carrier c) eps) (fun c _ => (clamped_pos heps c).le)
          (mem_univ _)

theorem carrierProb_pos (heps : 0 < eps) (c : Fin C) : 0 < carrierProb carrier eps c :=
  div_pos (clamped_pos heps c) (heps.trans_le (le_max_right _ _))

theorem sum_carrierProb (heps : 0 < eps) (hC : 0 < C) : ∑ c, carrierProb carrier eps c = 1 := by
  have hpos : 0 < ∑ c, max (carrier c) eps :=
    sum_pos (fun c _ => clamped_pos heps c) ⟨⟨0, hC⟩, mem_univ _⟩
  show ∑ c, max (carrier c) eps / max (∑ c, max (carrier c) eps) eps = 1
  rw [← sum_div, clamped_sum heps hC, div_self hpos.ne']

/-- Carriers that are a distribution without small entries are the probabilities themselves. -/
theorem carrierProb_of_le (heps : eps ≤ 1) (hcarrier : ∀ c, eps ≤ carrier c)
    (hsum : ∑ c, carrier c = 1) : carrierProb carrier eps = carrier := by
  have hclamped : ∀ c, max (carrier c) eps = carrier c := fun c => max_eq_left (hcarrier c)
  funext c
  show max (carrier c) eps / max (∑ c, max (carrier c) eps) eps = carrier c
  rw [sum_congr rfl (fun c _ => hclamped c), hsum, max_eq_left heps, div_one, hclamped]

end Carriers

/-! ## Weighted steps -/

section Weights

variable {B T : ℕ} {weights x y : Fin B → Fin T → ℝ}

/-- The end of `carrier_credit_loss`, for the losses of the steps. -/
noncomputable def stepLoss (perStep weights : Fin B → Fin T → ℝ) (eps : ℝ) : ℝ :=
  if ∑ b, ∑ t, weights b t ≤ eps then 0
  else (∑ b, ∑ t, perStep b t * weights b t) / (∑ b, ∑ t, weights b t + eps)

variable (hweights : ∀ b t, 0 ≤ weights b t)

include hweights

theorem sum_weighted_le (h : ∀ b t, y b t ≤ x b t) :
    ∑ b, ∑ t, y b t * weights b t ≤ ∑ b, ∑ t, x b t * weights b t :=
  sum_le_sum (fun b _ => sum_le_sum (fun t _ => mul_le_mul_of_nonneg_right (h b t) (hweights b t)))

/-- Only the steps that weigh anything count. -/
theorem sum_weighted_eq_iff (h : ∀ b t, y b t ≤ x b t) :
    ∑ b, ∑ t, x b t * weights b t = ∑ b, ∑ t, y b t * weights b t
      ↔ ∀ b t, 0 < weights b t → x b t = y b t := by
  have hterm : ∀ b t, y b t * weights b t ≤ x b t * weights b t := fun b t =>
    mul_le_mul_of_nonneg_right (h b t) (hweights b t)
  have hrow : ∀ b ∈ univ, ∑ t, y b t * weights b t ≤ ∑ t, x b t * weights b t := fun b _ =>
    sum_le_sum (fun t _ => hterm b t)
  rw [eq_comm, sum_eq_sum_iff_of_le hrow]
  constructor
  · intro heq b t ht
    have hstep := (sum_eq_sum_iff_of_le (fun t _ => hterm b t)).mp (heq b (mem_univ b)) t (mem_univ t)
    exact (mul_right_cancel₀ ht.ne' hstep).symm
  · intro heq b _
    refine sum_congr rfl (fun t _ => ?_)
    rcases (hweights b t).eq_or_lt with h0 | hpos
    · rw [← h0, mul_zero, mul_zero]
    · rw [heq b t hpos]

theorem stepLoss_le {eps : ℝ} (heps : 0 < eps) (h : ∀ b t, y b t ≤ x b t) :
    stepLoss y weights eps ≤ stepLoss x weights eps := by
  unfold stepLoss
  split
  · exact le_rfl
  · rename_i htotal
    exact div_le_div_of_nonneg_right (sum_weighted_le hweights h)
      (heps.trans (lt_of_not_ge htotal) |>.le.trans (le_add_of_nonneg_right heps.le))

theorem stepLoss_eq_iff {eps : ℝ} (heps : 0 < eps) (h : ∀ b t, y b t ≤ x b t) :
    stepLoss x weights eps = stepLoss y weights eps
      ↔ ∑ b, ∑ t, weights b t ≤ eps ∨ ∀ b t, 0 < weights b t → x b t = y b t := by
  unfold stepLoss
  by_cases htotal : ∑ b, ∑ t, weights b t ≤ eps
  · rw [if_pos htotal, if_pos htotal]
    exact ⟨fun _ => Or.inl htotal, fun _ => rfl⟩
  · have hpos : 0 < ∑ b, ∑ t, weights b t + eps := by linarith
    rw [if_neg htotal, if_neg htotal, div_left_inj' hpos.ne', sum_weighted_eq_iff hweights h]
    exact ⟨Or.inr, fun hor => hor.resolve_left htotal⟩

/-- What does not weigh anything does not count. -/
theorem stepLoss_congr {eps : ℝ} (h : ∀ b t, 0 < weights b t → x b t = y b t) :
    stepLoss x weights eps = stepLoss y weights eps := by
  have hsum : ∑ b, ∑ t, x b t * weights b t = ∑ b, ∑ t, y b t * weights b t := by
    refine sum_congr rfl (fun b _ => sum_congr rfl (fun t _ => ?_))
    rcases (hweights b t).eq_or_lt with h0 | hpos
    · rw [← h0, mul_zero, mul_zero]
    · rw [h b t hpos]
  unfold stepLoss
  rw [hsum]

theorem stepLoss_nonneg {eps : ℝ} (heps : 0 < eps) (h : ∀ b t, 0 ≤ x b t) :
    0 ≤ stepLoss x weights eps := by
  unfold stepLoss
  split
  · exact le_rfl
  · refine div_nonneg (sum_nonneg (fun b _ => sum_nonneg (fun t _ => ?_))) (by linarith)
    exact mul_nonneg (h b t) (hweights b t)

end Weights

end Mate.Rllib

namespace Mate.Rllib.Focus

open Nets Finset Fallible

/-! ## Confidence -/

section Confidence

variable (cfg : FocusConfig) {D H n : ℕ}

theorem resolveConfidence_nonneg {B T : ℕ} (valid : Fin B → Fin T → Prop) (loss : Fin B → Fin T → ℝ)
    (defaultMode : String) (b : Fin B) (t : Fin T) :
    0 ≤ (resolveConfidence cfg valid loss defaultMode).1 b t := by
  unfold resolveConfidence
  dsimp only
  split
  · exact Real.sigmoid_nonneg _
  · exact zero_le_one

theorem uniformTarget_confidence (B T J : ℕ) :
    Ensures (uniformTarget B T n J) (fun target => ∀ b t, 0 ≤ target.supervision.confidence b t) := by
  unfold uniformTarget
  split
  · exact fun target h => by cases h
  · exact Ensures.pure (fun b t => zero_le_one)

/-- The confidence is not negative, on every path of `_focus_credit_target`. -/
theorem focusCreditTarget_confidence [Quadrature] (nActions : ℤ) (loss : FocusLoss D H cfg.nTargets)
    (batch : FocusBatch D n) (updateBeliefEma : Bool) :
    Ensures (focusCreditTarget cfg nActions loss batch updateBeliefEma) (fun r =>
      ∀ b t, 0 ≤ r.1.supervision.confidence b t) := by
  have huniform := (uniformTarget_confidence (n := n) batch.B batch.T cfg.nTargets).bind
    (Q := fun r : CreditTarget batch.B batch.T n cfg.nTargets × FocusLoss D H cfg.nTargets =>
      ∀ b t, 0 ≤ r.1.supervision.confidence b t)
    (f := fun target => Pure.pure (target, loss)) (fun target h => Ensures.pure h)
  unfold focusCreditTarget
  split
  · exact huniform
  · split
    · exact huniform
    · split
      · split
        · -- the learned belief
          refine Ensures.andThen (fun _ => ?_)
          refine Ensures.andThen (fun _ => ?_)
          refine Ensures.andThen (fun _ => Ensures.pure (fun b t => ?_))
          exact resolveConfidence_nonneg cfg _ _ _ b t
        · exact huniform
      · split
        · split
          · exact fun r h => by cases h
          · refine Ensures.andThen (fun _ => ?_)
            exact Ensures.andThen (fun _ => Ensures.pure (fun b t => zero_le_one))
        · exact fun r h => by cases h

end Confidence

/-! ## The objective of the agents -/

section Agents

variable {B T n J K : ℕ} (cfg : ObjectiveConfig) (output : FocusOutput B T n J)

/-- The weights of the steps in the objectives. -/
noncomputable def objectiveWeights : Fin B → Fin T → ℝ :=
  creditWeights (validWeights output.valid) (some output.confidence)
    (some (signalWeights cfg output.totalGain output.valid))

/-- The loss of carriers that are the shares of the responsibilities. -/
noncomputable def leastCredit : ℝ :=
  cfg.alphaCredit * stepLoss
    (fun b t => crossEntropy (output.rho b t)
      (fun i => Real.log (output.rho b t i / ∑ k, output.rho b t k)))
    (objectiveWeights cfg output) cfg.eps

/-- The carriers of the steps that weigh anything are the shares of the responsibilities. -/
def Aligned (gradient : Fin B → Fin T → Fin n → Fin K → ℝ) : Prop :=
  ∀ b t, 0 < objectiveWeights cfg output b t → ∀ i, output.rho b t i
    = carrierProb (focussGradientCarrier cfg gradient b t) cfg.eps i * ∑ k, output.rho b t k

/-- What the objective needs of an output of the engine. -/
structure FocusOutput.Wellformed : Prop where
  pos : 0 < n
  rho_nonneg : ∀ b t i, 0 ≤ output.rho b t i
  confidence_nonneg : ∀ b t, 0 ≤ output.confidence b t

theorem focusOutput_wellformed {D H n : ℕ} [Quadrature] {cfg : FocusConfig}
    (h0 : 0 ≤ cfg.obstacleTransmittance) (h1 : cfg.obstacleTransmittance ≤ 1) (nActions : ℤ)
    (engine : Option (FocusLoss D H cfg.nTargets)) (batch : FocusBatch D n) (learnerUpdates : ℕ) :
    Ensures (focusOutput cfg nActions engine batch learnerUpdates) (fun r =>
      ∀ output, r.1 = some output → output.Wellformed) := by
  intro r hr output houtput
  cases engine with
  | none =>
      cases hr
      cases houtput
  | some engine =>
      obtain ⟨q, hq, hrest⟩ := bind_eq_ok.mp hr
      obtain ⟨p, hp, hpure⟩ := bind_eq_ok.mp hq
      obtain ⟨hn, hsteps⟩ := focusCreditTarget_ensures cfg h0 h1 _ _ _ _ p hp
      have hconfidence := focusCreditTarget_confidence cfg _ _ _ _ p hp
      cases hpure
      cases hrest
      cases houtput
      exact ⟨hn, fun b t i => (hsteps b t).rho_nonneg i, hconfidence⟩

variable {cfg output}

theorem signalWeights_nonneg (hmin : 0 ≤ cfg.signalWeightMin) (hmax : 0 ≤ cfg.signalWeightMax)
    (totalGain : Fin B → Fin T → ℝ) (valid : Fin B → Fin T → Bool) (b : Fin B) (t : Fin T) :
    0 ≤ signalWeights cfg totalGain valid b t := by
  have hmin' : (0 : ℝ) ≤ cfg.signalWeightMin := by exact_mod_cast hmin
  have hmax' : (0 : ℝ) ≤ cfg.signalWeightMax := by exact_mod_cast hmax
  exact le_min (hmin'.trans (le_max_right _ _)) hmax'

theorem objectiveWeights_nonneg (houtput : output.Wellformed) (hmin : 0 ≤ cfg.signalWeightMin)
    (hmax : 0 ≤ cfg.signalWeightMax) (b : Fin B) (t : Fin T) :
    0 ≤ objectiveWeights cfg output b t := by
  have hvalid : 0 ≤ validWeights output.valid b t := by
    unfold validWeights
    split
    · exact zero_le_one
    · exact le_rfl
  exact mul_nonneg (mul_nonneg hvalid (houtput.confidence_nonneg b t))
    (signalWeights_nonneg hmin hmax _ _ b t)

/-- Carriers only depend on the shares of the magnitudes. -/
theorem focussGradientCarrier_scale {K' : ℕ} {gradient : Fin B → Fin T → Fin n → Fin K → ℝ}
    {gradient' : Fin B → Fin T → Fin n → Fin K' → ℝ} {b : Fin B} {t : Fin T} {c : ℝ} (hc : 0 < c)
    (h : ∀ i, mean (fun k => |gradient' b t i k|) = c * mean (fun k => |gradient b t i k|))
    (hsum : (cfg.eps : ℝ) ≤ ∑ i, mean (fun k => |gradient b t i k|))
    (hsum' : (cfg.eps : ℝ) ≤ ∑ i, mean (fun k => |gradient' b t i k|)) :
    focussGradientCarrier cfg gradient' b t = focussGradientCarrier cfg gradient b t := by
  funext i
  show mean (fun k => |gradient' b t i k|) / max (∑ i, mean (fun k => |gradient' b t i k|)) cfg.eps
    = mean (fun k => |gradient b t i k|) / max (∑ i, mean (fun k => |gradient b t i k|)) cfg.eps
  rw [max_eq_left hsum, max_eq_left hsum', sum_congr rfl (fun i _ => h i), ← mul_sum, h,
    mul_div_mul_left _ _ hc.ne']

variable (cfg output) in
/-- The gradients of two backbones give the agents the same shares, at the steps that weigh
anything. -/
def SameShares {K' : ℕ} (gradient : Fin B → Fin T → Fin n → Fin K → ℝ)
    (gradient' : Fin B → Fin T → Fin n → Fin K' → ℝ) : Prop :=
  ∀ b t, 0 < objectiveWeights cfg output b t →
    cfg.eps ≤ ∑ i, mean (fun k => |gradient b t i k|) ∧
    cfg.eps ≤ ∑ i, mean (fun k => |gradient' b t i k|) ∧
    ∃ c > 0, ∀ i, mean (fun k => |gradient' b t i k|) = c * mean (fun k => |gradient b t i k|)

variable (cfg output) in
/-- The gradients are proportional to the responsibilities, none of which is a tiny share. -/
def Proportional (gradient : Fin B → Fin T → Fin n → Fin K → ℝ) : Prop :=
  ∀ b t, 0 < objectiveWeights cfg output b t →
    cfg.eps ≤ ∑ i, mean (fun k => |gradient b t i k|) ∧
    (∀ i, cfg.eps * ∑ k, output.rho b t k ≤ output.rho b t i) ∧
    ∃ c > 0, ∀ i, mean (fun k => |gradient b t i k|) = c * output.rho b t i

theorem focussGradientCarrier_proportional {gradient : Fin B → Fin T → Fin n → Fin K → ℝ} {b : Fin B}
    {t : Fin T} {c : ℝ} (hc : 0 < c)
    (h : ∀ i, mean (fun k => |gradient b t i k|) = c * output.rho b t i)
    (hsum : (cfg.eps : ℝ) ≤ ∑ i, mean (fun k => |gradient b t i k|)) (i : Fin n) :
    focussGradientCarrier cfg gradient b t i = output.rho b t i / ∑ k, output.rho b t k := by
  show mean (fun k => |gradient b t i k|) / max (∑ i, mean (fun k => |gradient b t i k|)) cfg.eps = _
  rw [max_eq_left hsum, sum_congr rfl (fun i _ => h i), ← mul_sum, h, mul_div_mul_left _ _ hc.ne']

/-- Gradients in proportion to the responsibilities are aligned with them. -/
theorem Proportional.aligned {gradient : Fin B → Fin T → Fin n → Fin K → ℝ} (hn : 0 < n)
    (h : Proportional cfg output gradient) : Aligned cfg output gradient := by
  intro b t hweight i
  obtain ⟨hsum, hshare, c, hc, hmean⟩ := h b t hweight
  have heps := eps_pos cfg.toFocusConfig
  have hrho : 0 < ∑ k, output.rho b t k := by
    have hpos := heps.trans_le hsum
    rw [sum_congr rfl (fun i _ => hmean i), ← mul_sum] at hpos
    exact pos_of_mul_pos_right hpos hc.le
  have hcarrier := focussGradientCarrier_proportional hc hmean hsum
  have hone : ∑ i, focussGradientCarrier cfg gradient b t i = 1 := by
    rw [sum_congr rfl (fun i _ => hcarrier i), ← sum_div, div_self hrho.ne']
  have hle : ∀ i, (cfg.eps : ℝ) ≤ focussGradientCarrier cfg gradient b t i := by
    intro i
    rw [hcarrier, le_div_iff₀ hrho]
    exact hshare i
  have heps1 : (cfg.eps : ℝ) ≤ 1 := by
    calc (cfg.eps : ℝ) ≤ focussGradientCarrier cfg gradient b t ⟨0, hn⟩ := hle _
      _ ≤ ∑ i, focussGradientCarrier cfg gradient b t i :=
          single_le_sum (fun i _ => heps.le.trans (hle i)) (mem_univ _)
      _ = 1 := hone
  rw [carrierProb_of_le heps1 hle hone, hcarrier, div_mul_cancel₀ _ hrho.ne']

variable (output) in
/-- The objective, where it is for the agents. -/
theorem focussAgentObjective_eq (hlevel : cfg.creditLevel.toLower ∈ ["agent", "both"])
    (hmechanism : cfg.creditMechanism.toLower ∈ ["align", "both"])
    (gradient : Fin B → Fin T → Fin n → Fin K → ℝ) :
    ∃ objective, focussAgentObjective cfg gradient (some output) = .ok objective ∧
      objective.loss = cfg.alphaCredit * stepLoss
        (fun b t => crossEntropy (output.rho b t)
          (fun i => Real.log (carrierProb (focussGradientCarrier cfg gradient b t) cfg.eps i)))
        (objectiveWeights cfg output) cfg.eps := by
  have hroute : cfg.creditMechanism.toLower ≠ "route" := by
    rintro heq
    rw [heq] at hmechanism
    exact absurd hmechanism (by decide)
  apply Exists.intro
  constructor
  · unfold focussAgentObjective
    dsimp only
    rw [if_neg (not_or.mpr ⟨not_not.mpr hlevel, hroute⟩), if_neg (not_not.mpr hmechanism)]
  · rfl

end Agents

end Mate.Rllib.Focus
