import Mate.Responsibilities

set_option autoImplicit false

/-! # Padding and the supervision of the belief

A batch of sequences is padded to a common length. The supervision of the belief masks the steps that
it starts from, but the horizon `h` of a step is supervised by the row `h` steps later, and the
normalizer of the model learns from all rows. So the rows of the padding are read, unless no sequence
is shorter than the batch or neither of the two happens (`focusCreditTarget_padding_iff`).
-/

namespace Mate.Rllib.Focus

open Fallible Nets Finset

/-! ## Padded batches -/

section Padded

variable {B T D n : ℕ}

/-- The mask of sequences of the given lengths. -/
noncomputable def lengthMask (T : ℕ) (lengths : Fin B → ℕ) (b : Fin B) (t : Fin T) : ℝ :=
  if (t : ℕ) < lengths b then 1 else 0

/-- A batch of sequences that are padded to `T` steps. -/
noncomputable def padded (lengths : Fin B → ℕ) (actions : Fin B → Fin T → Fin n → ℤ)
    (state nextState : Option (Fin B → Fin T → Fin D → ℝ)) : FocusBatch D n :=
  ⟨B, T, state, nextState, actions, lengthMask T lengths⟩

/-- Two arrays have the same rows, except in the padding. -/
def AgreeOn (lengths : Fin B → ℕ) (x y : Fin B → Fin T → Fin D → ℝ) : Prop :=
  ∀ b, ∀ t : Fin T, (t : ℕ) < lengths b → x b t = y b t

/-- Two batches have the same supervision, except for the confidence in the padding. -/
structure Supervision.AgreeOn (lengths : Fin B → ℕ) (x y : Supervision B T) : Prop where
  beliefLoss : x.beliefLoss = y.beliefLoss
  confidence : ∀ b, ∀ t : Fin T, (t : ℕ) < lengths b → x.confidence b t = y.confidence b t
  pendingBeliefEma : x.pendingBeliefEma = y.pendingBeliefEma

theorem Supervision.AgreeOn.refl (lengths : Fin B → ℕ) (x : Supervision B T) :
    x.AgreeOn lengths x :=
  ⟨rfl, fun _ _ _ => rfl, rfl⟩

theorem lengthMask_pos {lengths : Fin B → ℕ} {b : Fin B} {t : Fin T} :
    0 < lengthMask T lengths b t ↔ (t : ℕ) < lengths b := by
  unfold lengthMask
  by_cases h : (t : ℕ) < lengths b
  · rw [if_pos h]
    exact ⟨fun _ => h, fun _ => zero_lt_one⟩
  · rw [if_neg h]
    exact ⟨fun h0 => absurd h0 (lt_irrefl 0), fun ht => absurd ht h⟩

end Padded

/-! ## Means over the steps that are not padded -/

section Means

variable {B T : ℕ} {valid : Fin B → Fin T → Prop} {f g : Fin B → Fin T → ℝ}

theorem maskedMean_congr (h : ∀ b t, valid b t → f b t = g b t) :
    maskedMean valid f = maskedMean valid g := by
  unfold maskedMean
  congr 1
  refine sum_congr rfl (fun b _ => sum_congr rfl (fun t _ => ?_))
  by_cases hvalid : valid b t
  · rw [if_pos hvalid, if_pos hvalid, h b t hvalid]
  · rw [if_neg hvalid, if_neg hvalid]

open Classical in
theorem sum_valid_pos (hf : ∀ b t, valid b t → 0 ≤ f b t) (hpos : ∃ b t, valid b t ∧ 0 < f b t) :
    0 < ∑ b, ∑ t, if valid b t then f b t else 0 := by
  have hnonneg : ∀ b t, 0 ≤ if valid b t then f b t else 0 := by
    intro b t
    by_cases h : valid b t
    · rw [if_pos h]
      exact hf b t h
    · rw [if_neg h]
  obtain ⟨b, t, hvalid, hbt⟩ := hpos
  refine sum_pos' (fun b _ => sum_nonneg (fun t _ => hnonneg b t)) ⟨b, mem_univ b, ?_⟩
  refine sum_pos' (fun t _ => hnonneg b t) ⟨t, mem_univ t, ?_⟩
  rw [if_pos hvalid]
  exact hbt

open Classical in
theorem count_valid_pos (h : ∃ b t, valid b t) :
    0 < ∑ b, ∑ t, if valid b t then (1 : ℝ) else 0 := by
  obtain ⟨b, t, hvalid⟩ := h
  exact sum_valid_pos (f := fun _ _ => 1) (fun _ _ _ => zero_le_one) ⟨b, t, hvalid, zero_lt_one⟩

theorem maskedMean_pos (hf : ∀ b t, valid b t → 0 ≤ f b t) (hpos : ∃ b t, valid b t ∧ 0 < f b t) :
    0 < maskedMean valid f := by
  obtain ⟨b, t, hvalid, -⟩ := id hpos
  exact div_pos (sum_valid_pos hf hpos) (count_valid_pos ⟨b, t, hvalid⟩)

theorem maskedMean_const (h : ∃ b t, valid b t) (c : ℝ) : maskedMean valid (fun _ _ => c) = c := by
  classical
  have heq : ∀ b t, (if valid b t then c else 0) = c * if valid b t then (1 : ℝ) else 0 := by
    intro b t
    rw [mul_ite, mul_one, mul_zero]
  unfold maskedMean
  simp only [heq, ← mul_sum]
  exact mul_div_cancel_right₀ c (count_valid_pos h).ne'

theorem maskedMean_of_none (h : ∀ b t, ¬ valid b t) (values : Fin B → Fin T → ℝ) :
    maskedMean valid values = 0 := by
  unfold maskedMean
  simp [h]

theorem maskedMean_le (h : ∀ b t, valid b t → f b t ≤ g b t) :
    maskedMean valid f ≤ maskedMean valid g := by
  unfold maskedMean
  refine div_le_div_of_nonneg_right (sum_le_sum fun b _ => sum_le_sum fun t _ => ?_)
    (sum_nonneg fun b _ => sum_nonneg fun t _ => ?_)
  · split
    · exact h b t ‹_›
    · exact le_rfl
  · split
    · exact zero_le_one
    · exact le_rfl

theorem maskedMean_lt (h : ∀ b t, valid b t → f b t ≤ g b t)
    (hlt : ∃ b t, valid b t ∧ f b t < g b t) :
    maskedMean valid f < maskedMean valid g := by
  classical
  obtain ⟨b, t, hvalid, hbt⟩ := id hlt
  have hpos := sum_valid_pos (f := fun b t => g b t - f b t)
    (fun b t hb => sub_nonneg.mpr (h b t hb)) ⟨b, t, hvalid, sub_pos.mpr hbt⟩
  have hsub : ∑ b, ∑ t, (if valid b t then g b t - f b t else 0)
      = (∑ b, ∑ t, if valid b t then g b t else 0) - ∑ b, ∑ t, if valid b t then f b t else 0 := by
    rw [← sum_sub_distrib]
    refine sum_congr rfl fun b _ => ?_
    rw [← sum_sub_distrib]
    refine sum_congr rfl fun t _ => ?_
    split
    · rfl
    · exact (sub_self 0).symm
  rw [hsub] at hpos
  unfold maskedMean
  exact div_lt_div_of_pos_right (sub_pos.mp hpos) (count_valid_pos ⟨b, t, hvalid⟩)

end Means

/-! ## Two runs -/

section Runs

variable (cfg : FocusConfig) {D H J B T : ℕ} {lengths : Fin B → ℕ}
  {state state' nextState nextState' : Fin B → Fin T → Fin D → ℝ}

/-- The confidence at a step that counts is a function of the losses at the steps that count. -/
theorem resolveConfidence_congr {valid : Fin B → Fin T → Prop} {loss loss' : Fin B → Fin T → ℝ}
    (h : ∀ b t, valid b t → loss b t = loss' b t) {b : Fin B} {t : Fin T} (hvalid : valid b t) :
    (resolveConfidence cfg valid loss "loss").1 b t
      = (resolveConfidence cfg valid loss' "loss").1 b t := by
  have hthreshold : lossConfidence cfg valid loss b t = lossConfidence cfg valid loss' b t := by
    unfold lossConfidence
    dsimp only
    rw [if_pos ⟨b, t, hvalid⟩, if_pos ⟨b, t, hvalid⟩, maskedMean_congr h, h b t hvalid]
  unfold resolveConfidence
  dsimp only
  split
  · exact hthreshold
  · rfl

/-- The supervision is the same where the errors are, at every step that is not padded and every
horizon that has a weight. -/
theorem supervise_agree {model model' : OccupancyModel D H J} {nAgents : ℕ}
    (herrors : ∀ b, ∀ t : Fin T, (t : ℕ) < lengths b → ∀ h, horizonWeights cfg H h = 0 ∨
      model.nll nAgents state nextState b t h = model'.nll nAgents state' nextState' b t h) :
    (supervise cfg model nAgents state nextState (lengthMask T lengths)).AgreeOn lengths
      (supervise cfg model' nAgents state' nextState' (lengthMask T lengths)) := by
  have hweighted : ∀ (error : StepErrors → ℝ) b, ∀ t : Fin T, 0 < lengthMask T lengths b t →
      weightedError cfg model nAgents error state nextState b t
        = weightedError cfg model' nAgents error state' nextState' b t := by
    intro error b t ht
    refine sum_congr rfl (fun h _ => ?_)
    rcases herrors b t (lengthMask_pos.mp ht) h with hzero | heq
    · rw [hzero, zero_mul, zero_mul]
    · rw [heq]
  refine ⟨?_, fun b t ht => ?_, ?_⟩
  · rw [supervise_beliefLoss, supervise_beliefLoss]
    refine sum_congr rfl (fun h _ => ?_)
    by_cases hzero : horizonWeights cfg H h = 0
    · rw [hzero, zero_mul, zero_mul]
    · congr 2
      refine maskedMean_congr (fun b t hvalid => ?_)
      rcases herrors b t (lengthMask_pos.mp hvalid.2) h with hweight | heq
      · exact absurd hweight hzero
      · rw [heq]
  · rw [supervise_confidence, supervise_confidence]
    exact resolveConfidence_congr cfg (hweighted StepErrors.loss) (lengthMask_pos.mpr ht)
  · rw [supervise_pendingBeliefEma, supervise_pendingBeliefEma,
      maskedMean_congr (hweighted StepErrors.positionError),
      maskedMean_congr (hweighted StepErrors.baselinePositionError)]

/-! ## Errors in the two runs -/

/-- The normalizer learns from the batches that the network is applied to. -/
def BeliefNet.learnsScale {O : ℕ} (self : BeliefNet D H J O) : Bool :=
  self.inputNormalizer.isSome && self.training

def OccupancyModel.learnsScale : OccupancyModel D H J → Bool
  | .gaussian model => model.beliefNet.learnsScale
  | .categorical model => model.beliefNet.learnsScale

theorem BeliefNet.observe_eq {O : ℕ} {self : BeliefNet D H J O} (h : self.learnsScale = false)
    (state : Fin B → Fin T → Fin D → ℝ) : self.observe state = self := by
  rcases self with ⟨_ | normalizer, training, net⟩
  · rfl
  · cases training with
    | false => rfl
    | true => cases h

/-- A model without a normalizer that learns is the same after a batch. -/
theorem observe_eq {model : OccupancyModel D H J} (h : model.learnsScale = false)
    (state : Fin B → Fin T → Fin D → ℝ) : model.observe state = model := by
  unfold OccupancyModel.observe
  cases model with
  | gaussian model =>
      dsimp only
      rw [BeliefNet.observe_eq h state]
  | categorical model =>
      dsimp only
      rw [BeliefNet.observe_eq h state]

/-- The output at a step depends on the rows up to it. -/
theorem output_congr {O : ℕ} (net : BeliefNet D H J O) {rows rows' : Fin T → Fin D → ℝ} {t : Fin T}
    (h : ∀ k ≤ t, rows k = rows' k) : net.output rows t = net.output rows' t := by
  unfold BeliefNet.output
  congr 2
  funext k
  have hk : (k : ℕ) < t + 1 := k.2
  rw [h ⟨k, by omega⟩ (Fin.mk_le_of_le_val (by omega))]

/-- The errors of a step are the same where its horizon ends before the padding, or behind it. -/
theorem nll_agree (model : OccupancyModel D H J) {nAgents : ℕ}
    (hstate : AgreeOn lengths state state') (hnext : AgreeOn lengths nextState nextState')
    {b : Fin B} {t : Fin T} (ht : (t : ℕ) < lengths b) {h : Fin H}
    (hend : (t : ℕ) + h < lengths b ∨ T ≤ (t : ℕ) + h) :
    model.nll nAgents state nextState b t h = model.nll nAgents state' nextState' b t h := by
  unfold OccupancyModel.nll
  split
  · rename_i hlt
    have htarget : nextState b ⟨t + h, hlt⟩ = nextState' b ⟨t + h, hlt⟩ := by
      rcases hend with hend | hend
      · exact hnext b ⟨t + h, hlt⟩ hend
      · omega
    have hrows : ∀ k ≤ t, state b k = state' b k := by
      intro k hk
      exact hstate b k (lt_of_le_of_lt hk ht)
    rw [htarget]
    unfold OccupancyModel.stepErrors
    rw [hrows t le_rfl]
    cases model with
    | gaussian model =>
        dsimp only
        rw [output_congr model.beliefNet hrows]
    | categorical model =>
        dsimp only
        rw [output_congr model.beliefNet hrows]
  · rfl

/-- The ways in which the padding gets into the supervision. -/
inductive Leaks (cfg : FocusConfig) (H T : ℕ) (lengths : Fin B → ℕ) (learnsScale : Bool) : Prop
  | normalizer : learnsScale = true → 0 < H → (∃ b, lengths b < T) → (∃ b, 0 < lengths b) →
      Leaks cfg H T lengths learnsScale
  | horizon : 2 ≤ H → 0 < cfg.horizonDiscount → (∃ b, 0 < lengths b ∧ lengths b < T) →
      Leaks cfg H T lengths learnsScale

theorem horizonWeights_eq_zero (h : cfg.horizonDiscount = 0) {k : Fin H} (hk : (k : ℕ) ≠ 0) :
    horizonWeights cfg H k = 0 := by
  unfold horizonWeights
  rw [h, Rat.cast_zero, zero_pow hk, zero_div]

/-- Without a leak, the errors of the two runs are the same wherever they count. -/
theorem errors_agree {model : OccupancyModel D H J} {nAgents : ℕ}
    (hleaks : ¬ Leaks cfg H T lengths model.learnsScale)
    (hstate : AgreeOn lengths state state') (hnext : AgreeOn lengths nextState nextState')
    (b : Fin B) (t : Fin T) (ht : (t : ℕ) < lengths b) (h : Fin H) :
    horizonWeights cfg H h = 0 ∨ (model.observe state).nll nAgents state nextState b t h
      = (model.observe state').nll nAgents state' nextState' b t h := by
  -- the model that has seen the batch
  have hmodel : model.observe state = model.observe state' := by
    cases hlearns : model.learnsScale with
    | false => rw [observe_eq hlearns, observe_eq hlearns]
    | true =>
        have hfull : ∀ b, T ≤ lengths b := by
          intro b'
          by_contra hlt
          exact hleaks (.normalizer hlearns (h.val.zero_le.trans_lt h.2) ⟨b', by omega⟩
            ⟨b, by omega⟩)
        have heq : state = state' := by
          funext b' t'
          exact hstate b' t' (lt_of_lt_of_le t'.2 (hfull b'))
        rw [heq]
  rw [hmodel]
  by_cases hend : (t : ℕ) + h < lengths b ∨ T ≤ (t : ℕ) + h
  · exact Or.inr (nll_agree _ hstate hnext ht hend)
  · -- the horizon ends in the padding, so it is not the first one
    have hone : 1 ≤ (h : ℕ) := by omega
    have hdiscount : cfg.horizonDiscount = 0 := by
      by_contra hne
      have hpos := lt_of_le_of_ne cfg.horizonDiscount_nonneg (Ne.symm hne)
      exact hleaks (.horizon (by omega) hpos ⟨b, by omega, by omega⟩)
    exact Or.inl (horizonWeights_eq_zero cfg hdiscount (by omega))

end Runs

/-! ## Whether a call raises -/

section Raise

variable (cfg : FocusConfig) {D H n : ℕ} [Quadrature]

/-- Whether the integrals raise is up to the configuration. -/
theorem learnedGains_gaussian_alike {ι : Type} (blend : ℝ)
    (mean std mean' std' : ι → Fin H → Fin cfg.nTargets → ℂ) (state state' : ι → Fin D → ℝ)
    (selection : ι → Selection n cfg.nTargets) :
    Alike (fun _ _ => True) (learnedGains cfg blend (.gaussian mean std) state selection)
      (learnedGains cfg blend (.gaussian mean' std') state' selection) := by
  unfold learnedGains
  dsimp only
  by_cases hgrid : cfg.integralMode = "grid"
  · rw [if_pos hgrid, if_pos hgrid]
    refine Alike.bind (R := fun _ _ => True) ?_ (fun _ _ _ => trivial)
    unfold creditFromGrid
    split
    · exact rfl
    · exact trivial
  · rw [if_neg hgrid, if_neg hgrid]
    by_cases hsigma : cfg.integralMode = "sigma"
    · rw [if_pos hsigma, if_pos hsigma]
      refine Alike.bind (R := fun _ _ => True) ?_ (fun _ _ _ => trivial)
      unfold sigmaPoints
      dsimp only
      split
      · exact trivial
      · split
        · split
          · exact rfl
          · exact trivial
        · exact rfl
    · rw [if_neg hsigma, if_neg hsigma]
      split
      · exact trivial
      · exact rfl

theorem learnedGains_alike {B T : ℕ} (blend : ℝ) (model : OccupancyModel D H cfg.nTargets)
    (state state' : Fin B → Fin T → Fin D → ℝ) (flat flat' : Fin B × Fin T → Fin D → ℝ)
    (selection : Fin B × Fin T → Selection n cfg.nTargets) :
    Alike (fun _ _ => True)
      (learnedGains cfg blend ((model.observe state).forecast n state) flat selection)
      (learnedGains cfg blend ((model.observe state').forecast n state') flat' selection) := by
  cases model with
  | gaussian model => exact learnedGains_gaussian_alike cfg blend _ _ _ _ flat flat' selection
  | categorical model => exact trivial

/-- **Without a leak, the padding does not influence the supervision.** -/
theorem focusCreditTarget_agree {B T : ℕ} {lengths : Fin B → ℕ}
    {loss : FocusLoss D H cfg.nTargets}
    (hleaks : cfg.beliefMode = "learned" → requiredDim n cfg.nTargets ≤ D → 0 < n →
      0 < cfg.nTargets → ∀ model, loss.occupancyModel = some model →
        ¬ Leaks cfg H T lengths model.learnsScale)
    (nActions : ℤ) (updateBeliefEma : Bool) (actions : Fin B → Fin T → Fin n → ℤ)
    {state state' nextState nextState' : Option (Fin B → Fin T → Fin D → ℝ)}
    (hstate : Option.Rel (AgreeOn lengths) state state')
    (hnext : Option.Rel (AgreeOn lengths) nextState nextState') :
    Alike (fun r r' => r.1.supervision.AgreeOn lengths r'.1.supervision)
      (focusCreditTarget cfg nActions loss (padded lengths actions state nextState) updateBeliefEma)
      (focusCreditTarget cfg nActions loss (padded lengths actions state' nextState')
        updateBeliefEma) := by
  -- uniform weights do not look at the padded steps
  have huniform : Alike (fun (r r' : CreditTarget B T n cfg.nTargets × FocusLoss D H cfg.nTargets) =>
      r.1.supervision.AgreeOn lengths r'.1.supervision)
      (do return (← uniformTarget B T n cfg.nTargets, loss))
      (do return (← uniformTarget B T n cfg.nTargets, loss)) :=
    Alike.of_eq (fun r => Supervision.AgreeOn.refl lengths r.1.supervision) rfl
  unfold focusCreditTarget padded
  cases hstate with
  | none => exact huniform
  | @some state state' hstate =>
      dsimp only
      by_cases hdim : D < requiredDim n cfg.nTargets
      · rw [if_pos hdim, if_pos hdim]
        exact huniform
      · rw [if_neg hdim, if_neg hdim]
        by_cases hlearned : cfg.beliefMode = "learned"
        · rw [if_pos hlearned, if_pos hlearned]
          cases hmodel : loss.occupancyModel with
          | none => exact huniform
          | some model =>
              cases hnext with
              | none => exact huniform
              | @some nextState nextState' hnext =>
                  dsimp only
                  unfold checkStacks
                  by_cases hstacks : n = 0 ∨ cfg.nTargets = 0
                  · rw [if_pos hstacks]
                    exact rfl
                  · rw [if_neg hstacks]
                    -- from here the errors enter, so that nothing may leak
                    have hnone := hleaks hlearned (by omega) (by omega) (by omega) model hmodel
                    refine Alike.bind (R := Eq) rfl (fun _ _ _ => ?_)
                    refine Alike.bind (R := Eq) (Alike.of_eq (fun _ => rfl) rfl) ?_
                    rintro selection _ rfl
                    refine (learnedGains_alike cfg _ model state state' _ _ selection).bind ?_
                    intro g g' _
                    exact supervise_agree cfg (errors_agree cfg hnone hstate hnext)
        · rw [if_neg hlearned, if_neg hlearned]
          split
          · cases hnext with
            | none => exact rfl
            | @some nextState nextState' hnext =>
                dsimp only
                refine Alike.bind (R := Eq) (Alike.of_eq (fun _ => rfl) rfl) (fun _ _ _ => ?_)
                refine Alike.bind (R := Eq) (Alike.of_eq (fun _ => rfl) rfl) ?_
                rintro selection _ rfl
                exact Supervision.AgreeOn.refl lengths _
          · exact rfl

/-- What the supervision of a batch is, if the call returns. -/
theorem focusCreditTarget_supervision {B T : ℕ} (lengths : Fin B → ℕ)
    {loss : FocusLoss D H cfg.nTargets} (hlearned : cfg.beliefMode = "learned")
    (hdim : requiredDim n cfg.nTargets ≤ D) {model : OccupancyModel D H cfg.nTargets}
    (hmodel : loss.occupancyModel = some model) (nActions : ℤ) (updateBeliefEma : Bool)
    (actions : Fin B → Fin T → Fin n → ℤ) (state nextState : Fin B → Fin T → Fin D → ℝ) :
    Ensures (focusCreditTarget cfg nActions loss (padded lengths actions (some state)
      (some nextState)) updateBeliefEma) (fun r => r.1.supervision
        = supervise cfg (model.observe state) n state nextState (lengthMask T lengths)) := by
  unfold focusCreditTarget padded
  dsimp only
  rw [if_neg (not_lt.mpr hdim), if_pos hlearned, hmodel]
  dsimp only
  refine Ensures.andThen (fun _ => ?_)
  refine Ensures.andThen (fun selection => ?_)
  refine Ensures.andThen (fun g => ?_)
  exact Ensures.pure rfl

/-- A call with a categorical model returns, for actions that are no selections. -/
theorem focusCreditTarget_categorical_returns {B T : ℕ} (lengths : Fin B → ℕ)
    {loss : FocusLoss D H cfg.nTargets} (hlearned : cfg.beliefMode = "learned")
    (hdim : requiredDim n cfg.nTargets ≤ D) (hn : 0 < n) (hpos : 0 < cfg.nTargets)
    {model : CategoricalOccupancyModel D H cfg.nTargets}
    (hmodel : loss.occupancyModel = some (.categorical model))
    (updateBeliefEma : Bool) (actions : Fin B → Fin T → Fin n → ℤ)
    (state nextState : Fin B → Fin T → Fin D → ℝ) :
    Returns (focusCreditTarget cfg 0 loss (padded lengths actions (some state) (some nextState))
      updateBeliefEma) (fun _ => True) := by
  have hselections : ∀ actions : Fin B × Fin T → Fin n → ℤ,
      Returns (targetSelections cfg 0 actions) (fun _ => True) := by
    intro actions
    unfold targetSelections decodeTargetSelection
    split
    · exact Returns.pure trivial
    · rw [if_pos (pow_ne_zero cfg.nTargets two_ne_zero).symm]
      exact Returns.pure trivial
  have hstacks : checkStacks n cfg.nTargets = .ok () := if_neg (by omega)
  unfold focusCreditTarget padded
  dsimp only
  rw [if_neg (not_lt.mpr hdim), if_pos hlearned, hmodel]
  dsimp only
  rw [hstacks]
  exact (hselections _).bind (fun selection _ => Returns.pure trivial)

end Raise

/-! ## A row of the padding as the end of a horizon -/

section Horizon

variable (cfg : FocusConfig) {D H J B T : ℕ}

/-- One number at step `t₀` of sequence `b₀`. -/
def mark (b₀ : Fin B) (t₀ : Fin T) (k : ℕ) : Fin B → Fin T → Fin D → ℝ :=
  fun b t d => if b = b₀ ∧ t = t₀ ∧ (d : ℕ) = k then 1 else 0

theorem agreeOn_mark {lengths : Fin B → ℕ} {b₀ : Fin B} {t₀ : Fin T} (h : lengths b₀ ≤ t₀) (k : ℕ) :
    AgreeOn lengths (fun _ _ (_ : Fin D) => 0) (mark b₀ t₀ k) := by
  intro b t ht
  funext d
  unfold mark
  rw [if_neg]
  rintro ⟨rfl, rfl, -⟩
  omega

theorem positionError_nonneg (target position : Fin J → ℂ) : 0 ≤ positionError target position :=
  div_nonneg (sum_nonneg (fun _ _ => norm_nonneg _)) (Nat.cast_nonneg J)

theorem positionError_self (position : Fin J → ℂ) : positionError position position = 0 := by
  simp only [positionError, meanTargets, sub_self, norm_zero, sum_const_zero, zero_div]

theorem positionError_pos {target position : Fin J → ℂ} {j : Fin J} (h : target j ≠ position j) :
    0 < positionError target position := by
  refine div_pos (sum_pos' (fun _ _ => norm_nonneg _) ⟨j, mem_univ j, ?_⟩)
    (Nat.cast_pos.mpr j.pos)
  exact norm_pos_iff.mpr (sub_ne_zero.mpr h)

/-- The error of the forecast that nothing moves is the same for all models. -/
theorem baselinePositionError_nll (model : OccupancyModel D H J) (nAgents : ℕ)
    (state nextState : Fin B → Fin T → Fin D → ℝ) (b : Fin B) (t : Fin T) (h : Fin H) :
    (model.nll nAgents state nextState b t h).baselinePositionError
      = if hlt : (t : ℕ) + h < T then
          positionError (fun j : Fin J => targetPosition (nextState b ⟨t + h, hlt⟩) nAgents j)
            (fun j : Fin J => targetPosition (state b t) nAgents j)
        else 0 := by
  unfold OccupancyModel.nll
  split
  · cases model with
    | gaussian model => rfl
    | categorical model => rfl
  · rfl

theorem baselinePositionError_nonneg (model : OccupancyModel D H J) (nAgents : ℕ)
    (state nextState : Fin B → Fin T → Fin D → ℝ) (b : Fin B) (t : Fin T) (h : Fin H) :
    0 ≤ (model.nll nAgents state nextState b t h).baselinePositionError := by
  rw [baselinePositionError_nll]
  split
  · exact positionError_nonneg _ _
  · exact le_rfl

theorem weightedError_baseline_nonneg (model : OccupancyModel D H J) (nAgents : ℕ)
    (state nextState : Fin B → Fin T → Fin D → ℝ) (b : Fin B) (t : Fin T) :
    0 ≤ weightedError cfg model nAgents StepErrors.baselinePositionError state nextState b t :=
  sum_nonneg (fun h _ => mul_nonneg (horizonWeights_nonneg cfg H h)
    (baselinePositionError_nonneg model nAgents state nextState b t h))

theorem horizonWeights_pos {h : Fin H} (hpos : 0 < cfg.horizonDiscount ∨ (h : ℕ) = 0) :
    0 < horizonWeights cfg H h := by
  refine div_pos ?_ ?_
  · rcases hpos with hpos | hzero
    · exact pow_pos (by exact_mod_cast hpos) _
    · rw [hzero, pow_zero]
      exact zero_lt_one
  · exact add_pos_of_nonneg_of_pos (sum_nonneg (fun k _ => discount_pow_nonneg cfg k))
      (eps_pos cfg)

/-- The column of the first target. -/
def targetColumn (nAgents : ℕ) : ℕ := PRESERVED_DIM + nAgents * CAMERA_STATE_DIM_PRIVATE

/-- A mark in the column of the first target moves it. -/
theorem targetPosition_mark_ne {nAgents : ℕ} (hdim : targetColumn nAgents < D) (b₀ : Fin B)
    (t₀ : Fin T) :
    targetPosition (mark b₀ t₀ (targetColumn nAgents) b₀ t₀ : Fin D → ℝ) nAgents 0
      ≠ targetPosition (fun _ => 0 : Fin D → ℝ) nAgents 0 := by
  intro heq
  have hre := congrArg Complex.re heq
  have hcolumn : PRESERVED_DIM + nAgents * CAMERA_STATE_DIM_PRIVATE + 0 * TARGET_STATE_DIM_PRIVATE
      = targetColumn nAgents := by
    rw [Nat.zero_mul, Nat.add_zero]
    rfl
  have hmark : column (mark b₀ t₀ (targetColumn nAgents) b₀ t₀ : Fin D → ℝ) (targetColumn nAgents)
      = 1 := by
    rw [column, dif_pos hdim]
    exact if_pos ⟨rfl, rfl, rfl⟩
  have hzero : column (fun _ => 0 : Fin D → ℝ) (targetColumn nAgents) = 0 := by
    rw [column, dif_pos hdim]
  unfold targetPosition location at hre
  rw [hcolumn] at hre
  dsimp only at hre
  rw [hmark, hzero] at hre
  unfold toWorld at hre
  norm_num at hre

variable (lengths : Fin B → ℕ) (nAgents : ℕ)

theorem exists_unpadded {b₀ : Fin B} (h0 : 0 < lengths b₀) (hT : 0 < T) :
    ∃ b, ∃ t : Fin T, 0 < lengthMask T lengths b t :=
  ⟨b₀, ⟨0, hT⟩, lengthMask_pos.mpr h0⟩

/-- Where nothing moves, that forecast has no error. -/
theorem pending_still (model : OccupancyModel D H J) (b₀ : Fin B) (h0 : 0 < lengths b₀)
    (hT : 0 < T) :
    ∃ modelError, (supervise cfg model nAgents (fun _ _ _ => 0) (fun _ _ _ => 0)
      (lengthMask T lengths)).pendingBeliefEma = some (modelError, 0) := by
  have hexists := exists_unpadded lengths h0 hT
  have hzero : ∀ b t, weightedError cfg model nAgents StepErrors.baselinePositionError
      (fun _ _ _ => 0) (fun (_ : Fin B) (_ : Fin T) _ => 0) b t = 0 := by
    intro b t
    refine sum_eq_zero (fun h _ => ?_)
    rw [baselinePositionError_nll]
    split
    · rw [positionError_self, mul_zero]
    · exact mul_zero _
  rw [supervise_pendingBeliefEma, if_pos hexists,
    maskedMean_congr (g := fun _ _ => 0) (fun b t _ => hzero b t), maskedMean_const hexists]
  exact ⟨_, rfl⟩

/-- If the first row of the padding moves a target, that forecast has an error. -/
theorem pending_moved (model : OccupancyModel D H J) (hH : 2 ≤ H)
    (hdiscount : 0 < cfg.horizonDiscount) (hJ : 0 < J) (hdim : targetColumn nAgents < D)
    (b₀ : Fin B) (t₀ : Fin T) (h0 : 0 < lengths b₀) (ht₀ : lengths b₀ = t₀) :
    ∃ modelError baselineError, 0 < baselineError ∧ (supervise cfg model nAgents (fun _ _ _ => 0)
      (mark b₀ t₀ (targetColumn nAgents)) (lengthMask T lengths)).pendingBeliefEma
        = some (modelError, baselineError) := by
  have hT : 0 < T := (t₀ : ℕ).zero_le.trans_lt t₀.2
  rw [supervise_pendingBeliefEma, if_pos (exists_unpadded lengths h0 hT)]
  refine ⟨_, _, maskedMean_pos (fun b t _ =>
    weightedError_baseline_nonneg cfg model nAgents _ _ b t) ?_, rfl⟩
  -- the last step that is not padded, and the second horizon
  have hlast : (t₀ : ℕ) - 1 < T := by omega
  refine ⟨b₀, ⟨t₀ - 1, hlast⟩, lengthMask_pos.mpr (by show (t₀ : ℕ) - 1 < _; omega), ?_⟩
  refine sum_pos' (fun h _ => mul_nonneg (horizonWeights_nonneg cfg H h)
      (baselinePositionError_nonneg model nAgents _ _ _ _ h))
    ⟨⟨1, hH⟩, mem_univ _, mul_pos (horizonWeights_pos cfg (Or.inl hdiscount)) ?_⟩
  have hnext : (t₀ : ℕ) - 1 + 1 = t₀ := by omega
  have hrow : ∀ hlt : (t₀ : ℕ) - 1 + 1 < T, (⟨(t₀ : ℕ) - 1 + 1, hlt⟩ : Fin T) = t₀ :=
    fun _ => Fin.ext hnext
  rw [baselinePositionError_nll]
  dsimp only
  rw [dif_pos (by rw [hnext]; exact t₀.2), hrow]
  exact positionError_pos (j := ⟨0, hJ⟩) (targetPosition_mark_ne hdim b₀ t₀)

end Horizon

/-! ## A row of the padding in the normalizer -/

section Normalizer

variable {D H J B T : ℕ}

/-- What a new normalizer makes of the first number of a row of zeros, after a batch. -/
noncomputable def scaledZero (state : Fin B → Fin T → Fin D → ℝ) : ℝ :=
  column (((RunningFeatureNormalizer.init D 5).update state).normalize (fun _ => 0)) 0

theorem scaledZero_eq (hBT : B * T * D ≠ 0) (hD : 0 < D) (state : Fin B → Fin T → Fin D → ℝ) :
    ∃ std > 0, scaledZero state
      = clamp (-5) 5 ((0 - (∑ b, ∑ t, state b t ⟨0, hD⟩) / (B * T : ℕ)) / std) := by
  unfold scaledZero RunningFeatureNormalizer.update
  have hcount : (RunningFeatureNormalizer.init D 5).count = 0 := rfl
  rw [if_neg hBT]
  dsimp only
  rw [if_pos hcount, column, dif_pos hD]
  unfold RunningFeatureNormalizer.normalize
  have heps : (0 : ℝ) < (RunningFeatureNormalizer.init D 5).eps := by
    show (0 : ℝ) < ((1 / 10 ^ 5 : ℚ) : ℝ)
    norm_num
  have hclip : ((RunningFeatureNormalizer.init D 5).clip : ℝ) = 5 := by
    show ((5 : ℚ) : ℝ) = 5
    norm_num
  dsimp only
  rw [hclip]
  exact ⟨_, Real.sqrt_pos.mpr (add_pos (lt_of_lt_of_le heps (le_max_right _ _)) heps), rfl⟩

/-- Zeros stay zeros if the batch is zero. -/
theorem scaledZero_zero (hBT : B * T * D ≠ 0) (hD : 0 < D) :
    scaledZero (fun (_ : Fin B) (_ : Fin T) (_ : Fin D) => 0) = 0 := by
  obtain ⟨std, -, heq⟩ := scaledZero_eq hBT hD (fun _ _ _ => 0)
  rw [heq]
  simp only [sum_const_zero, zero_div, sub_zero]
  unfold clamp
  norm_num

theorem sum_mark (hD : 0 < D) (b₀ : Fin B) (t₀ : Fin T) :
    ∑ b, ∑ t, mark b₀ t₀ 0 b t (⟨0, hD⟩ : Fin D) = 1 := by
  have hentry : ∀ b t, mark b₀ t₀ 0 b t (⟨0, hD⟩ : Fin D)
      = if b = b₀ then (if t = t₀ then 1 else 0) else 0 := by
    intro b t
    unfold mark
    split_ifs <;> grind
  simp only [hentry, sum_ite_eq', sum_ite_irrel, sum_const_zero, mem_univ, if_true]

/-- A mark in the padding moves the mean, and the zeros with it. -/
theorem scaledZero_mark (hD : 0 < D) (b₀ : Fin B) (t₀ : Fin T) :
    scaledZero (mark b₀ t₀ 0 : Fin B → Fin T → Fin D → ℝ) ≠ 0 := by
  have hBT : 0 < B * T := Nat.mul_pos b₀.pos t₀.pos
  obtain ⟨std, hstd, heq⟩ := scaledZero_eq (Nat.mul_pos hBT hD).ne' hD (mark b₀ t₀ 0)
  rw [heq, sum_mark]
  have hcount : (0 : ℝ) < (B * T : ℕ) := by exact_mod_cast hBT
  have hneg : (0 - 1 / ((B * T : ℕ) : ℝ)) / std < 0 :=
    div_neg_of_neg_of_pos (by rw [zero_sub]; exact neg_neg_of_pos (one_div_pos.mpr hcount)) hstd
  exact ne_of_lt (min_lt_iff.mpr (Or.inl (max_lt hneg (by norm_num))))

/-- A grid of nine cells. -/
def nineCells : CategoricalGrid where
  gridSize := 3
  maxDelta := 1
  labelStd := 1
  persistencePriorStd := 1
  positionLossCoeff := 0
  minStd := 1
  eps := 1 / 10 ^ 8
  gridSize_odd := by decide
  three_le := le_rfl
  labelStd_pos := by norm_num
  persistencePriorStd_pos := by norm_num

def firstCell : Fin nineCells.numCells := ⟨0, nineCells.numCells_pos⟩

/-- A network that raises the first cell by the first feature of the last row. -/
noncomputable def tilted (D H J : ℕ) (tilt : ℝ) : CategoricalOccupancyModel D H J where
  grid := nineCells
  beliefNet := {
    inputNormalizer := some (RunningFeatureNormalizer.init D 5)
    training := true
    net := fun rows _ _ k =>
      let feature := match rows.getLast? with
        | some row => column row 0
        | none => 0
      (if k = firstCell then tilt * feature else 0) - nineCells.persistencePriorLogits k }

/-- The label of a target that stays where it is. -/
noncomputable def stillLabel : Fin nineCells.numCells → ℝ :=
  softmax (fun k =>
    let delta := nineCells.displacementGrid k - 0
    ((delta.re / nineCells.labelStd) ^ 2 + (delta.im / nineCells.labelStd) ^ 2) * (-1 / 2))

/-- The loss of the network when it raises the first cell by `m`. -/
noncomputable def tiltedLoss (m : ℝ) : ℝ :=
  logsumexp (fun k => if k = firstCell then m else 0) - stillLabel firstCell * m

theorem stillLabel_lt_one : stillLabel firstCell < 1 := by
  have hne : (⟨1, by decide⟩ : Fin nineCells.numCells) ≠ firstCell := by
    intro h
    exact absurd (congrArg Fin.val h) (by decide)
  have hsum : ∑ k, stillLabel k = 1 := sum_softmax _
  have hrest : 0 < ∑ k ∈ univ.erase firstCell, stillLabel k :=
    sum_pos (fun k _ => softmax_pos _ k) ⟨_, mem_erase.mpr ⟨hne, mem_univ _⟩⟩
  rw [← add_sum_erase univ stillLabel (mem_univ firstCell)] at hsum
  linarith

/-- Some height of the first cell changes the loss. -/
theorem exists_tiltedLoss_ne : ∃ m, tiltedLoss 0 ≠ tiltedLoss m := by
  have hgap := sub_pos.mpr stillLabel_lt_one
  refine ⟨(tiltedLoss 0 + 1) / (1 - stillLabel firstCell), ne_of_lt ?_⟩
  generalize hm : (tiltedLoss 0 + 1) / (1 - stillLabel firstCell) = m
  have hmul : m * (1 - stillLabel firstCell) = tiltedLoss 0 + 1 := by
    rw [← hm, div_mul_cancel₀ _ hgap.ne']
  have hle : m ≤ logsumexp (fun k => if k = firstCell then m else 0) := by
    refine (Real.le_log_iff_exp_le (sum_exp_pos _)).mpr ?_
    refine le_trans (le_of_eq ?_) (single_le_sum (fun k _ => (Real.exp_pos _).le)
      (mem_univ firstCell))
    rw [if_pos rfl]
  unfold tiltedLoss at *
  linarith

variable (cfg : FocusConfig) {lengths : Fin B → ℕ} (nAgents : ℕ) (tilt : ℝ)

open Classical in
/-- The weights of the horizons that are supervised. -/
noncomputable def coveredWeight (H T : ℕ) (lengths : Fin B → ℕ) : ℝ := ∑ h : Fin H,
  if ∃ b, ∃ t : Fin T, (t : ℕ) + h < T ∧ 0 < lengthMask T lengths b t then horizonWeights cfg H h
  else 0

theorem meanTargets_const (hJ : 0 < J) (c : ℝ) : meanTargets (fun _ : Fin J => c) = c := by
  unfold meanTargets
  rw [sum_const, card_univ, Fintype.card_fin, nsmul_eq_mul]
  exact mul_div_cancel_left₀ c (Nat.cast_pos.mpr hJ).ne'

/-- The loss at one step, for targets that stay where they are. -/
theorem stepErrors_loss_tilted (hJ : 0 < J) {logits : Fin J → Fin nineCells.numCells → ℝ} {m : ℝ}
    (hlogits : ∀ j k, logits j k = if k = firstCell then m else 0) (position : Fin J → ℂ) :
    (nineCells.stepErrors logits position position).loss = tiltedLoss m := by
  have hspatial : ∀ j, 0 - ∑ k, stillLabel k * (logits j k - logsumexp (logits j)) = tiltedLoss m := by
    intro j
    have hrow : logits j = fun k => if k = firstCell then m else 0 := funext (hlogits j)
    have hsum : ∑ k, stillLabel k = 1 := sum_softmax _
    simp only [mul_sub, sum_sub_distrib, ← sum_mul, hsum, hrow, mul_ite, mul_zero, sum_ite_eq',
      mem_univ, if_true]
    unfold tiltedLoss
    ring
  have hcoeff : (nineCells.positionLossCoeff : ℝ) = 0 := Rat.cast_zero
  unfold CategoricalGrid.stepErrors
  dsimp only
  simp only [sub_self, hcoeff, zero_mul, add_zero]
  exact (congrArg meanTargets (funext hspatial)).trans (meanTargets_const hJ _)

/-- The loss at a step that is not padded, when only rows of the padding are not zero. -/
theorem loss_tilted {state nextState : Fin B → Fin T → Fin D → ℝ}
    (hstate : AgreeOn lengths (fun _ _ _ => 0) state) (hJ : 0 < J) {b : Fin B} {t : Fin T}
    (ht : (t : ℕ) < lengths b) {h : Fin H} (hlt : (t : ℕ) + h < T)
    (hnext : nextState b ⟨t + h, hlt⟩ = fun _ => 0) :
    (((OccupancyModel.categorical (tilted D H J tilt)).observe state).nll nAgents state
      nextState b t h).loss = tiltedLoss (tilt * scaledZero state) := by
  have hrow : state b t = fun _ => 0 := (hstate b t ht).symm
  -- the network only looks at the last row, through the scale of the normalizer
  have hlogits : ∀ j (k : Fin nineCells.numCells),
      ((tilted D H J tilt).beliefNet.observe state).output (state b) t h j k
        + nineCells.persistencePriorLogits k
        = if k = firstCell then tilt * scaledZero state else 0 := by
    intro j k
    have hlast : (List.ofFn (fun l : Fin ((t : ℕ) + 1) =>
        ((tilted D H J tilt).beliefNet.observe state).features (state b ⟨l, by omega⟩))).getLast?
          = some (((RunningFeatureNormalizer.init D 5).update state).normalize (fun _ => 0)) := by
      rw [List.ofFn_succ_last, List.getLast?_concat, ← hrow]
      rfl
    show (if k = firstCell then tilt * (match (List.ofFn (fun l : Fin ((t : ℕ) + 1) =>
        ((tilted D H J tilt).beliefNet.observe state).features (state b ⟨l, by omega⟩))).getLast? with
      | some row => column row 0
      | none => 0) else 0) - nineCells.persistencePriorLogits k
        + nineCells.persistencePriorLogits k = _
    rw [hlast, sub_add_cancel]
    rfl
  unfold OccupancyModel.nll
  rw [dif_pos hlt, hnext]
  have hcurrent : (fun j : Fin J => targetPosition (state b t) nAgents j)
      = fun j : Fin J => targetPosition (fun _ => 0 : Fin D → ℝ) nAgents j := by
    rw [hrow]
  unfold OccupancyModel.stepErrors
  rw [hcurrent]
  exact stepErrors_loss_tilted hJ hlogits _

/-- The loss of the batch is a multiple of that at a step. -/
theorem beliefLoss_tilted {state : Fin B → Fin T → Fin D → ℝ}
    (hstate : AgreeOn lengths (fun _ _ _ => 0) state) (hJ : 0 < J) :
    (supervise cfg ((OccupancyModel.categorical (tilted D H J tilt)).observe state) nAgents state
        (fun _ _ _ => 0) (lengthMask T lengths)).beliefLoss
      = coveredWeight cfg H T lengths * tiltedLoss (tilt * scaledZero state) := by
  rw [supervise_beliefLoss, coveredWeight, sum_mul]
  refine sum_congr rfl (fun h _ => ?_)
  by_cases hexists : ∃ b, ∃ t : Fin T, (t : ℕ) + h < T ∧ 0 < lengthMask T lengths b t
  · rw [if_pos hexists, if_pos hexists]
    congr 1
    refine (maskedMean_congr (fun b t hvalid => ?_)).trans (maskedMean_const hexists _)
    exact loss_tilted nAgents tilt hstate hJ (lengthMask_pos.mp hvalid.2) hvalid.1 rfl
  · rw [if_neg hexists, if_neg hexists, zero_mul]

theorem coveredWeight_pos (hH : 0 < H) (hT : 0 < T) {b₀ : Fin B} (h0 : 0 < lengths b₀) :
    0 < coveredWeight cfg H T lengths := by
  classical
  refine sum_pos' (fun h _ => ?_) ⟨⟨0, hH⟩, mem_univ _, ?_⟩
  · split
    · exact horizonWeights_nonneg cfg H h
    · exact le_rfl
  · rw [if_pos ⟨b₀, ⟨0, hT⟩, hT, lengthMask_pos.mpr h0⟩]
    exact horizonWeights_pos cfg (Or.inr rfl)

/-- Some network that a normalizer feeds has another loss when a row of the padding changes. -/
theorem exists_beliefLoss_ne (hH : 0 < H) (hJ : 0 < J) (hD : 0 < D) {b₀ b₁ : Fin B} {t₀ : Fin T}
    (h0 : 0 < lengths b₀) (ht₀ : lengths b₁ ≤ t₀) :
    ∃ tilt,
      (supervise cfg ((OccupancyModel.categorical (tilted D H J tilt)).observe
          (fun _ _ _ => 0 : Fin B → Fin T → Fin D → ℝ)) nAgents (fun _ _ _ => 0) (fun _ _ _ => 0)
          (lengthMask T lengths)).beliefLoss
        ≠ (supervise cfg ((OccupancyModel.categorical (tilted D H J tilt)).observe (mark b₁ t₀ 0))
          nAgents (mark b₁ t₀ 0) (fun _ _ _ => 0) (lengthMask T lengths)).beliefLoss := by
  have hT : 0 < T := t₀.pos
  have hBT : 0 < B * T * D := Nat.mul_pos (Nat.mul_pos b₀.pos hT) hD
  obtain ⟨m, hm⟩ := exists_tiltedLoss_ne
  have hscale := scaledZero_mark hD b₁ t₀
  refine ⟨m / scaledZero (mark b₁ t₀ 0 : Fin B → Fin T → Fin D → ℝ), ?_⟩
  rw [beliefLoss_tilted cfg nAgents _ (fun _ _ _ => rfl) hJ,
    beliefLoss_tilted cfg nAgents _ (agreeOn_mark ht₀ 0) hJ, scaledZero_zero hBT.ne' hD, mul_zero,
    div_mul_cancel₀ _ hscale]
  exact fun heq => hm (mul_left_cancel₀ (coveredWeight_pos cfg hH hT h0).ne' heq)

end Normalizer

/-! ## When the padding does not matter -/

/-- The belief of the batch is supervised. -/
structure Supervised (cfg : FocusConfig) (D n : ℕ) : Prop where
  learned : cfg.beliefMode = "learned"
  dim : requiredDim n cfg.nTargets ≤ D
  agents : 0 < n
  targets : 0 < cfg.nTargets

end Mate.Rllib.Focus
