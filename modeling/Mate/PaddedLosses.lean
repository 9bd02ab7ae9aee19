import Mate.PaddedBeliefs
import Mate.PolicyCorrelation
import Mate.Rllib.RecurrentModels

set_option autoImplicit false

/-! # Padding and the auxiliary losses

The sequences of a batch are padded to a common length. Two padded batches of the same sequences
should add the same auxiliary loss. The means of SMPE2 are taken over all rows. I2C masks its
means, but normalises the logits of the policy along the axis of the time first. TarMAC masks the
steps that are forecast from, and not the steps that are forecast. So each of the losses depends
on the padding as soon as there is some that it reads (`paddedLosses_iff`).
-/

namespace Mate.Rllib

open Nets Focus Finset

/-! ## Two batches of the same sequences -/

section TwoRuns

variable {B : ℕ} {Row : Type} {seqLens : Fin B → ℕ}

/-- Only rows of the padding differ. -/
def SameValidRows (seqLens : Fin B → ℕ) (rows rows' : Fin B → ℕ → Row) : Prop :=
  ∀ b, ∀ t < seqLens b, rows b t = rows' b t

/-- Losses of batches that are padded in two ways. -/
def IgnoresPadding (seqLens : Fin B → ℕ) (loss loss' : (Fin B → ℕ → Row) → ℝ) : Prop :=
  ∀ rows rows', SameValidRows seqLens rows rows' → loss rows = loss' rows'

variable {rows rows' : Fin B → ℕ → Row} {loss loss' : (Fin B → ℕ → Row) → ℝ}

theorem SameValidRows.refl (rows : Fin B → ℕ → Row) : SameValidRows seqLens rows rows :=
  fun _ _ _ => rfl

theorem SameValidRows.symm (h : SameValidRows seqLens rows rows') :
    SameValidRows seqLens rows' rows :=
  fun b t ht => (h b t ht).symm

theorem IgnoresPadding.symm (h : IgnoresPadding seqLens loss loss') :
    IgnoresPadding seqLens loss' loss :=
  fun rows rows' hrows => (h rows' rows hrows.symm).symm

/-- Either of the two losses does not see the rows of the padding. -/
theorem IgnoresPadding.left (h : IgnoresPadding seqLens loss loss')
    (hrows : SameValidRows seqLens rows rows') : loss rows = loss rows' :=
  (h rows rows' hrows).trans (h rows' rows' (SameValidRows.refl rows')).symm

end TwoRuns

section Marked

variable {B : ℕ} {Row : Type} (base other : Row) (b₀ : Fin B) (t₀ : ℕ)

/-- All rows are the same but one. -/
def marked : Fin B → ℕ → Row := fun b t => if b = b₀ ∧ t = t₀ then other else base

variable {b₀ t₀}

/-- The row is in the padding. -/
theorem sameValidRows_marked {seqLens : Fin B → ℕ} (h : seqLens b₀ ≤ t₀) :
    SameValidRows seqLens (fun _ _ => base) (marked base other b₀ t₀) := by
  intro b t ht
  refine (if_neg ?_).symm
  rintro ⟨rfl, rfl⟩
  omega

variable {base other}

theorem marked_eq {b : Fin B} {t : ℕ} (h : ¬ (b = b₀ ∧ t = t₀)) :
    marked base other b₀ t₀ b t = base := if_neg h

theorem marked_self : marked base other b₀ t₀ b₀ t₀ = other := if_pos ⟨rfl, rfl⟩

end Marked

/-! ## SMPE2 -/

namespace SMPE2Model

variable {shape : SMPE2Shape} {B : ℕ}

/-- The loss of SMPE2 ignores how the sequences are padded to `T` and to `T'` steps. -/
def IgnoresPadding (shape : SMPE2Shape) (seqLens : Fin B → ℕ) (T T' : ℕ) : Prop :=
  ∀ (model : SMPE2Model shape) (noise : Fin B → ℕ → Fin shape.latentDim → ℝ),
    Rllib.IgnoresPadding seqLens (fun rows => model.totalAux T rows noise)
      (fun rows => model.totalAux T' rows noise)

theorem meanEntries_congr {T D : ℕ} {x y : Fin B → ℕ → Fin D → ℝ}
    (h : ∀ b, ∀ t < T, x b t = y b t) : meanEntries T x = meanEntries T y := by
  unfold meanEntries
  congr 1
  refine sum_congr rfl fun b _ => sum_congr rfl fun t ht => ?_
  rw [h b t (mem_range.mp ht)]

/-- Without padding all rows are the same. -/
theorem totalAux_congr (model : SMPE2Model shape) {T : ℕ} {rows rows' : Fin B → ℕ → SMPE2Row shape}
    (h : ∀ b, ∀ t < T, rows b t = rows' b t) (noise : Fin B → ℕ → Fin shape.latentDim → ℝ) :
    model.totalAux T rows noise = model.totalAux T rows' noise := by
  have hrec : model.recLoss T rows noise = model.recLoss T rows' noise :=
    meanEntries_congr fun b t ht => by rw [h b t ht]
  have hkl : model.klLoss T rows = model.klLoss T rows' :=
    congrArg (-0.5 * ·) (meanEntries_congr fun b t ht => by rw [h b t ht])
  have hnorm : model.normLoss T rows = model.normLoss T rows' :=
    congrArg (- ·) (meanEntries_congr fun b t ht => by rw [h b t ht])
  rw [totalAux, totalAux, hrec, hkl, hnorm]

/-- Half of the global state is to be reconstructed, and nothing is. -/
def blank (shape : SMPE2Shape) : SMPE2Model shape :=
  ⟨⟨0, 0⟩, ⟨0, 0⟩, ⟨0, 0⟩, ⟨0, 0⟩, ⟨0, 0⟩, ⟨0, 0⟩, ⟨0, 0⟩, ⟨0, 0⟩, 1, 0, 0⟩

theorem totalAux_blank (T : ℕ) (rows : Fin B → ℕ → SMPE2Row shape)
    (noise : Fin B → ℕ → Fin shape.latentDim → ℝ) :
    (blank shape).totalAux T rows noise
      = meanEntries T (fun b t k => ((rows b t).globalState k / 2) ^ 2) := by
  have hzero : ∀ {n : ℕ} (x : Fin n → ℝ) (k : Fin shape.globalStateDim),
      Linear.apply (⟨0, 0⟩ : Linear _ _) x k = 0 := fun x k => congrFun (Linear.zero_apply x) k
  have hfilter : ∀ row k, (blank shape).amWeights row k = 1 / 2 := by
    intro row k
    refine (congrArg Real.sigmoid (hzero _ k)).trans (Real.sigmoid_zero.trans ?_)
    norm_num
  have hdecoded : ∀ z k, (blank shape).decoded z k = 0 := fun z k => hzero _ k
  have hrec : (blank shape).recLoss T rows noise
      = meanEntries T (fun b t k => ((rows b t).globalState k / 2) ^ 2) := by
    refine meanEntries_congr fun b t _ => ?_
    funext k
    simp only [hfilter, hdecoded]
    ring
  rw [totalAux, hrec]
  show 1 * _ + 0 * _ + 0 * _ = _
  ring

/-- **A row of the padding counts like any other.** -/
theorem totalAux_marked {seqLens : Fin B → ℕ} {b₀ : Fin B} {T : ℕ} (h : seqLens b₀ < T)
    (noise : Fin B → ℕ → Fin shape.latentDim → ℝ) :
    (blank shape).totalAux T (fun _ _ => ⟨0, 0⟩) noise
      < (blank shape).totalAux T (marked ⟨0, 0⟩ ⟨0, 1⟩ b₀ (seqLens b₀)) noise := by
  rw [totalAux_blank, totalAux_blank]
  have hB := b₀.pos
  have hcount : (0 : ℝ) < (B * T * shape.globalStateDim : ℕ) := by
    exact_mod_cast Nat.mul_pos (Nat.mul_pos hB (by omega)) shape.globalStateDim_pos
  have hnonneg : ∀ (rows : Fin B → ℕ → SMPE2Row shape) b t,
      0 ≤ ∑ k, ((rows b t).globalState k / 2) ^ 2 :=
    fun rows b t => sum_nonneg fun k _ => sq_nonneg _
  refine div_lt_div_of_pos_right ?_ hcount
  calc ∑ b : Fin B, ∑ t ∈ range T, ∑ k : Fin shape.globalStateDim, ((0 : ℝ) / 2) ^ 2
      = 0 := by simp
    _ < ∑ b, ∑ t ∈ range T, ∑ k,
        ((marked (⟨0, 0⟩ : SMPE2Row shape) ⟨0, 1⟩ b₀ (seqLens b₀) b t).globalState k / 2) ^ 2 := by
        refine sum_pos' (fun b _ => sum_nonneg fun t _ => hnonneg _ b t) ⟨b₀, mem_univ _, ?_⟩
        refine sum_pos' (fun t _ => hnonneg _ b₀ t) ⟨seqLens b₀, mem_range.mpr h, ?_⟩
        rw [marked_self]
        refine sum_pos (fun k _ => ?_) ⟨⟨0, shape.globalStateDim_pos⟩, mem_univ _⟩
        norm_num

theorem ignoresPadding_iff (shape : SMPE2Shape) {seqLens : Fin B → ℕ} {T T' : ℕ}
    (hT : ∀ b, seqLens b ≤ T) (hT' : ∀ b, seqLens b ≤ T') :
    IgnoresPadding shape seqLens T T' ↔ ∀ b, seqLens b = T ∧ seqLens b = T' := by
  constructor
  · intro h b
    have hnoise : Fin B → ℕ → Fin shape.latentDim → ℝ := fun _ _ _ => 0
    have hsame := h (blank shape) hnoise
    have hrows := sameValidRows_marked (⟨0, 0⟩ : SMPE2Row shape) ⟨0, 1⟩ (le_refl (seqLens b))
    constructor
    · by_contra hne
      have hlt : seqLens b < T := lt_of_le_of_ne (hT b) hne
      exact (totalAux_marked hlt hnoise).ne (hsame.left hrows)
    · by_contra hne
      have hlt : seqLens b < T' := lt_of_le_of_ne (hT' b) hne
      exact (totalAux_marked hlt hnoise).ne (hsame.symm.left hrows)
  · intro hfull model noise rows rows' hrows
    rcases isEmpty_or_nonempty (Fin B) with hempty | ⟨⟨b⟩⟩
    · have hmean : ∀ {T D : ℕ} (x : Fin B → ℕ → Fin D → ℝ), meanEntries T x = 0 := by
        intro T D x
        rw [meanEntries, Fintype.sum_empty, zero_div]
      simp only [totalAux, recLoss, klLoss, normLoss, hmean]
    · obtain rfl : T = T' := (hfull b).1.symm.trans (hfull b).2
      exact totalAux_congr model (fun b t ht => hrows b t (by rw [(hfull b).1]; exact ht)) noise

end SMPE2Model

/-! ## Means of the valid rows -/

section Means

variable {B T T' : ℕ} {seqLens : Fin B → ℕ}

theorem sum_valid {b : Fin B} (h : seqLens b ≤ T) (x : ℕ → ℝ) :
    (∑ t ∈ range T, if sequenceMask seqLens b t = true then x t else 0)
      = ∑ t ∈ range (seqLens b), x t := by
  have hfilter : (range T).filter (fun t => sequenceMask seqLens b t = true)
      = range (seqLens b) := by
    ext t
    simp only [sequenceMask, decide_eq_true_eq, mem_filter, mem_range]
    omega
  rw [← sum_filter, hfilter]

/-- The rows of the padding do not enter. -/
theorem reduceMeanValid_eq (h : ∀ b, seqLens b ≤ T) (x : Fin B → ℕ → ℝ) :
    reduceMeanValid T seqLens x
      = (∑ b, ∑ t ∈ range (seqLens b), x b t) / ∑ b, (seqLens b : ℝ) := by
  unfold reduceMeanValid
  dsimp only
  congr 1
  · exact sum_congr rfl fun b _ => sum_valid (h b) (x b)
  · refine sum_congr rfl fun b _ => ?_
    rw [sum_valid (h b) fun _ => 1]
    simp

theorem reduceMeanValid_congr (h : ∀ b, seqLens b ≤ T) (h' : ∀ b, seqLens b ≤ T')
    {x x' : Fin B → ℕ → ℝ} (hx : ∀ b, ∀ t < seqLens b, x b t = x' b t) :
    reduceMeanValid T seqLens x = reduceMeanValid T' seqLens x' := by
  rw [reduceMeanValid_eq h, reduceMeanValid_eq h']
  congr 1
  exact sum_congr rfl fun b _ => sum_congr rfl fun t ht => hx b t (mem_range.mp ht)

theorem validRows_eq {α : Type} (h : ∀ b, seqLens b ≤ T) (x : Fin B → ℕ → α) :
    validRows T seqLens x
      = (List.finRange B).flatMap fun b => (List.range (seqLens b)).map (x b) := by
  unfold validRows
  congr 1
  funext b
  congr 1
  have hsplit : List.range T
      = List.range (seqLens b) ++ (List.range (T - seqLens b)).map (seqLens b + ·) := by
    rw [← List.range_add]
    congr 1
    have := h b
    omega
  rw [hsplit, List.filter_append, List.filter_eq_self.mpr, List.filter_eq_nil_iff.mpr,
    List.append_nil]
  · intro t ht
    simp only [List.mem_map, List.mem_range] at ht
    obtain ⟨k, -, rfl⟩ := ht
    simp [sequenceMask]
  · intro t ht
    simpa [sequenceMask] using ht

theorem validRows_congr {α : Type} (h : ∀ b, seqLens b ≤ T) (h' : ∀ b, seqLens b ≤ T')
    {x x' : Fin B → ℕ → α} (hx : ∀ b, ∀ t < seqLens b, x b t = x' b t) :
    validRows T seqLens x = validRows T' seqLens x' := by
  rw [validRows_eq h, validRows_eq h']
  congr 1
  funext b
  exact List.map_congr_left fun t ht => hx b t (List.mem_range.mp ht)

end Means

/-! ## I2C -/

namespace I2CModel

variable {shape : I2CShape} {B : ℕ}

section Terms

variable (self : I2CModel shape) {T T' : ℕ} {seqLens : Fin B → ℕ}
  {rows rows' : Fin B → ℕ → I2CRow shape} (stateIn : Fin B → self.actor.State)
  (hT : ∀ b, seqLens b ≤ T) (hT' : ∀ b, seqLens b ≤ T') (percentile : List ℝ → ℝ)
  (priorBuffer : List ℝ)

/-- The mean of the policy-correlation term. -/
noncomputable def policyCorrRegLoss (T : ℕ) (seqLens : Fin B → ℕ) (rows : Fin B → ℕ → I2CRow shape)
    (stateIn : Fin B → self.actor.State) : ℝ :=
  reduceMeanValid T seqLens (fun b t => self.policyCorrKLs T (rows b) (stateIn b) t)

include hT hT' in
theorem nextPriorBuffer_congr (hrows : SameValidRows seqLens rows rows') :
    self.nextPriorBuffer (⟨seqLens, rows, stateIn, hT⟩ : I2CBatch self B T) priorBuffer
      = self.nextPriorBuffer (⟨seqLens, rows', stateIn, hT'⟩ : I2CBatch self B T') priorBuffer := by
  have hvalid : validRows T seqLens (fun b t => List.ofFn (self.klValue (rows b t)))
      = validRows T' seqLens (fun b t => List.ofFn (self.klValue (rows' b t))) :=
    validRows_congr hT hT' fun b t ht => by rw [hrows b t ht]
  rw [nextPriorBuffer, nextPriorBuffer]
  dsimp only
  rw [hvalid]

/-- All else is masked. -/
theorem additionalLoss_sub (hrows : SameValidRows seqLens rows rows') :
    self.additionalLoss (⟨seqLens, rows, stateIn, hT⟩ : I2CBatch self B T) percentile priorBuffer
        - self.policyCorrRegCoeff * self.policyCorrRegLoss T seqLens rows stateIn
      = self.additionalLoss (⟨seqLens, rows', stateIn, hT'⟩ : I2CBatch self B T') percentile
          priorBuffer
        - self.policyCorrRegCoeff * self.policyCorrRegLoss T' seqLens rows' stateIn := by
  unfold additionalLoss policyCorrRegLoss
  dsimp only
  rw [nextPriorBuffer_congr self stateIn hT hT' priorBuffer hrows, add_sub_cancel_right,
    add_sub_cancel_right]
  refine congrArg₂ (· + ·) ?_ ?_
  · exact reduceMeanValid_congr hT hT' fun b t ht => by rw [hrows b t ht]
  · exact reduceMeanValid_congr hT hT' fun b t ht => by rw [hrows b t ht]

end Terms

/-- The loss of I2C ignores how the sequences are padded to `T` and to `T'` steps. -/
def IgnoresPadding (shape : I2CShape) {seqLens : Fin B → ℕ} {T T' : ℕ}
    (hT : ∀ b, seqLens b ≤ T) (hT' : ∀ b, seqLens b ≤ T') : Prop :=
  ∀ (model : I2CModel shape) (stateIn : Fin B → model.actor.State) (percentile : List ℝ → ℝ)
    (priorBuffer : List ℝ),
    Rllib.IgnoresPadding seqLens
      (fun rows => model.additionalLoss (⟨seqLens, rows, stateIn, hT⟩ : I2CBatch model B T)
        percentile priorBuffer)
      (fun rows => model.additionalLoss (⟨seqLens, rows, stateIn, hT'⟩ : I2CBatch model B T')
        percentile priorBuffer)

theorem policyCorrKLs_congr (model : I2CModel shape) {T : ℕ} {rows rows' : ℕ → I2CRow shape}
    (h : ∀ k < T, rows k = rows' k) (stateIn : model.actor.State) {t : ℕ} (ht : t < T) :
    model.policyCorrKLs T rows stateIn t = model.policyCorrKLs T rows' stateIn t := by
  have houtput : ∀ k < T, model.lastOutput rows stateIn k = model.lastOutput rows' stateIn k :=
    fun k hk => model.actor.lastOutput_congr stateIn fun l hl => by rw [h l (by omega)]
  unfold policyCorrKLs
  dsimp only
  rw [houtput t ht, h t ht]
  have hrange : ∀ k : Fin T, model.lastOutput rows stateIn k = model.lastOutput rows' stateIn k :=
    fun k => houtput k k.isLt
  simp only [hrange]

/-- Where every sequence is as long as both batches, or empty, the axis has no padding. -/
theorem ignoresPadding_of_full {seqLens : Fin B → ℕ} {T T' : ℕ} (hT : ∀ b, seqLens b ≤ T)
    (hT' : ∀ b, seqLens b ≤ T') (hfull : ∀ b, 0 < seqLens b → seqLens b = T ∧ seqLens b = T') :
    IgnoresPadding shape hT hT' := by
  intro model stateIn percentile priorBuffer rows rows' hrows
  have hcorr : model.policyCorrRegLoss T seqLens rows stateIn
      = model.policyCorrRegLoss T' seqLens rows' stateIn := by
    refine reduceMeanValid_congr hT hT' fun b t ht => ?_
    obtain ⟨hlen, hlen'⟩ := hfull b (by omega)
    obtain rfl : T = T' := hlen.symm.trans hlen'
    exact policyCorrKLs_congr model (fun k hk => hrows b k (by omega)) (stateIn b) (by omega)
  have hsub := additionalLoss_sub model stateIn hT hT' percentile priorBuffer hrows
  rw [hcorr] at hsub
  exact sub_left_injective hsub

/-! ### An actor that reads a column -/

/-- All logits are the first column of the local observation. -/
noncomputable def reading (shape : I2CShape) : I2CModel shape where
  messageAggregator := ⟨⟨0, 0⟩, ⟨0, 0⟩, ⟨0, 0⟩, ⟨0, 0⟩, ⟨0, 0⟩⟩
  actor :=
    { Features := Fin shape.localObsDim ⊕ Fin shape.messageDim
      cellSize := 1
      hidden := .nil
      activation := Real.tanh
      lstm := ⟨⟨0, 0⟩, ⟨0, 0⟩, ⟨0, 0⟩, ⟨0, 0⟩, ⟨0, 0⟩, ⟨0, 0⟩, ⟨0, 0⟩, ⟨0, 0⟩⟩
      output := Linear.copyingAll _ (.inl (.inl ⟨0, shape.localObsDim_pos⟩)) }
  jointQNetwork := (constant 0 : I2CModel shape).jointQNetwork
  priorNetwork := (constant 0 : I2CModel shape).priorNetwork
  policyCorrRegCoeff := 1
  temperature := 1
  priorBufferSize := 1
  temperature_pos := Real.zero_lt_one

section Reading

variable {rows : ℕ → I2CRow shape} {stateIn : (reading shape).actor.State}

theorem lastOutput_reading (t : ℕ) (a : Fin shape.nActions) :
    (reading shape).lastOutput rows stateIn t a
      = (rows t).localObs ⟨0, shape.localObsDim_pos⟩ := by
  exact Linear.copyingAll_apply (.inl (.inl ⟨0, shape.localObsDim_pos⟩) :
    (Fin shape.localObsDim ⊕ Fin shape.messageDim) ⊕ Fin 1) _ a

theorem logProbsI_reading (row : I2CRow shape) (a : Fin shape.nActions) :
    (reading shape).logProbsI row a = -Real.log shape.nActions :=
  logProbsI_constant 0 row a

/-- What the sum of the exponentials over the steps makes of the term. -/
noncomputable def termOf (n : ℕ) (total : ℝ) : ℝ :=
  n * (Real.exp (-Real.log total) * (Real.log n - Real.log total))

theorem policyCorrKLs_reading (T : ℕ) {t : ℕ}
    (ht : (rows t).localObs ⟨0, shape.localObsDim_pos⟩ = 0) :
    (reading shape).policyCorrKLs T rows stateIn t = termOf shape.nActions
      (∑ k : Fin T, Real.exp ((rows k).localObs ⟨0, shape.localObsDim_pos⟩)) := by
  rw [policyCorrKLs]
  simp only [lastOutput_reading, logProbsI_reading, klDiv, logsumexp, ht]
  rw [sum_const, card_univ, Fintype.card_fin, nsmul_eq_mul, termOf]
  ring_nf

end Reading

/-- Twice as many exponentials, and twice as many again, cannot all give the same. -/
theorem termOf_ne {n : ℕ} (hn : 0 < n) {total : ℝ} (htotal : 0 < total)
    (h : termOf n (2 * total) = termOf n total) : termOf n (4 * total) ≠ termOf n total := by
  intro h'
  have hn' : (0 : ℝ) < n := by exact_mod_cast hn
  have hlog : 0 < Real.log 2 := Real.log_pos one_lt_two
  have hfour : Real.log 4 = 2 * Real.log 2 := by
    rw [show (4 : ℝ) = 2 ^ 2 by norm_num, Real.log_pow]
    norm_num
  unfold termOf at h h'
  rw [Real.exp_neg, Real.exp_neg, Real.exp_log htotal, Real.exp_log (by linarith),
    Real.log_mul two_ne_zero htotal.ne'] at h
  rw [Real.exp_neg, Real.exp_neg, Real.exp_log htotal, Real.exp_log (by linarith),
    Real.log_mul four_ne_zero htotal.ne', hfour] at h'
  field_simp at h h'
  linarith

/-- A row with one number in the local observation. -/
def rowOf (shape : I2CShape) (x : ℝ) : I2CRow shape :=
  ⟨fun _ => x, 0, 0, 0, ⟨0, shape.nActions_pos⟩, 0⟩

section Padding

variable {seqLens : Fin B → ℕ} {T : ℕ} {b₀ : Fin B}

/-- The numbers are zero but for the first row of the padding of `b₀`. -/
noncomputable def paddedRows (seqLens : Fin B → ℕ) (b₀ : Fin B) (x : ℝ) :
    Fin B → ℕ → I2CRow shape :=
  marked (rowOf shape 0) (rowOf shape x) b₀ (seqLens b₀)

theorem sum_exp_paddedRows (h : seqLens b₀ < T) (x : ℝ) (b : Fin B) :
    ∑ k : Fin T, Real.exp (((paddedRows seqLens b₀ x : Fin B → ℕ → I2CRow shape) b k).localObs
        ⟨0, shape.localObsDim_pos⟩)
      = T + if b = b₀ then Real.exp x - 1 else 0 := by
  have hterm : ∀ k : ℕ, Real.exp (((paddedRows seqLens b₀ x : Fin B → ℕ → I2CRow shape)
      b k).localObs ⟨0, shape.localObsDim_pos⟩)
        = 1 + if b = b₀ ∧ k = seqLens b₀ then Real.exp x - 1 else 0 := by
    intro k
    unfold paddedRows marked
    by_cases hk : b = b₀ ∧ k = seqLens b₀
    · rw [if_pos hk, if_pos hk]
      exact (add_sub_cancel _ _).symm
    · rw [if_neg hk, if_neg hk, add_zero]
      exact Real.exp_zero
  rw [Fin.sum_univ_eq_sum_range (fun k => Real.exp (((paddedRows seqLens b₀ x :
    Fin B → ℕ → I2CRow shape) b k).localObs ⟨0, shape.localObsDim_pos⟩)) T]
  simp only [hterm, sum_add_distrib, sum_const, card_range, nsmul_eq_mul, mul_one]
  by_cases hb : b = b₀
  · simp [hb, h]
  · simp [hb]

/-- Only the sequence with the changed row has another term, and this at every step. -/
theorem policyCorrRegLoss_paddedRows (hT : ∀ b, seqLens b ≤ T) (h : seqLens b₀ < T) (x : ℝ)
    (stateIn : Fin B → (reading shape).actor.State) :
    (reading shape).policyCorrRegLoss T seqLens (paddedRows seqLens b₀ x) stateIn
      = (seqLens b₀ * termOf shape.nActions (T + (Real.exp x - 1))
        + ∑ b ∈ univ.erase b₀, seqLens b * termOf shape.nActions T) / ∑ b, (seqLens b : ℝ) := by
  have hrow : ∀ b, ∑ t ∈ range (seqLens b), (reading shape).policyCorrKLs T
      (paddedRows seqLens b₀ x b) (stateIn b) t
        = seqLens b * termOf shape.nActions (T + if b = b₀ then Real.exp x - 1 else 0) := by
    intro b
    have hstep : ∀ t ∈ range (seqLens b), (reading shape).policyCorrKLs T
        (paddedRows seqLens b₀ x b) (stateIn b) t
          = termOf shape.nActions (T + if b = b₀ then Real.exp x - 1 else 0) := by
      intro t ht
      rw [policyCorrKLs_reading T, sum_exp_paddedRows h]
      have hvalid := sameValidRows_marked (rowOf shape 0) (rowOf shape x) (le_refl (seqLens b₀)) b t
        (mem_range.mp ht)
      rw [paddedRows, ← hvalid]
      rfl
    rw [sum_congr rfl hstep, sum_const, card_range, nsmul_eq_mul]
  rw [policyCorrRegLoss, reduceMeanValid_eq hT]
  congr 1
  rw [sum_congr rfl fun b _ => hrow b, ← add_sum_erase _ _ (mem_univ b₀), if_pos rfl]
  congr 1
  refine sum_congr rfl fun b hb => ?_
  rw [if_neg (ne_of_mem_erase hb), add_zero]

variable (shape) in
/-- **Some row of the padding changes the loss.** -/
theorem exists_additionalLoss_ne (hT : ∀ b, seqLens b ≤ T) (h0 : 0 < seqLens b₀)
    (h : seqLens b₀ < T) (stateIn : Fin B → (reading shape).actor.State)
    (percentile : List ℝ → ℝ) (priorBuffer : List ℝ) :
    ∃ rows, SameValidRows seqLens (paddedRows seqLens b₀ 0) rows ∧
      (reading shape).additionalLoss (⟨seqLens, paddedRows seqLens b₀ 0, stateIn, hT⟩ :
          I2CBatch (reading shape) B T) percentile priorBuffer
        ≠ (reading shape).additionalLoss (⟨seqLens, rows, stateIn, hT⟩ :
          I2CBatch (reading shape) B T) percentile priorBuffer := by
  by_contra hall
  push Not at hall
  have hT0 : (0 : ℝ) < T := by exact_mod_cast h0.trans h
  -- so the term of the sequence is the same for all numbers in the padding
  have hsame : ∀ y > 0, termOf shape.nActions (T + (y - 1)) = termOf shape.nActions T := by
    intro y hy
    have hrows : SameValidRows seqLens (paddedRows seqLens b₀ 0 : Fin B → ℕ → I2CRow shape)
        (paddedRows seqLens b₀ (Real.log y)) := fun b t ht =>
      (sameValidRows_marked _ _ (le_refl (seqLens b₀)) b t ht).symm.trans
        (sameValidRows_marked _ _ (le_refl (seqLens b₀)) b t ht)
    have hsub := additionalLoss_sub (reading shape) stateIn hT hT percentile
      priorBuffer hrows
    rw [hall _ hrows, sub_right_inj] at hsub
    have hcorr : (reading shape).policyCorrRegLoss T seqLens (paddedRows seqLens b₀ 0) stateIn
        = (reading shape).policyCorrRegLoss T seqLens (paddedRows seqLens b₀ (Real.log y))
          stateIn :=
      mul_left_cancel₀ one_ne_zero hsub
    rw [policyCorrRegLoss_paddedRows hT h, policyCorrRegLoss_paddedRows hT h, Real.exp_log hy,
      Real.exp_zero, sub_self, add_zero] at hcorr
    have hlen : (0 : ℝ) < seqLens b₀ := by exact_mod_cast h0
    have hcount : (0 : ℝ) < ∑ b, (seqLens b : ℝ) :=
      sum_pos' (fun b _ => Nat.cast_nonneg _) ⟨b₀, mem_univ _, hlen⟩
    exact (mul_left_cancel₀ hlen.ne' (add_right_cancel ((div_left_inj' hcount.ne').mp hcorr))).symm
  have htwice : termOf shape.nActions (2 * T) = termOf shape.nActions T := by
    rw [← hsame (T + 1) (by linarith)]
    congr 1
    ring
  refine termOf_ne shape.nActions_pos hT0 htwice ?_
  rw [← hsame (3 * T + 1) (by linarith)]
  congr 1
  ring

end Padding

theorem ignoresPadding_iff (shape : I2CShape) {seqLens : Fin B → ℕ} {T T' : ℕ}
    (hT : ∀ b, seqLens b ≤ T) (hT' : ∀ b, seqLens b ≤ T') :
    IgnoresPadding shape hT hT' ↔ ∀ b, 0 < seqLens b → seqLens b = T ∧ seqLens b = T' := by
  constructor
  · intro h b h0
    have hsame := h (reading shape) (fun _ => (0, 0)) (fun _ => 0) []
    constructor
    · by_contra hne
      obtain ⟨rows, hrows, hdiffer⟩ := exists_additionalLoss_ne shape hT h0
        (lt_of_le_of_ne (hT b) hne) (fun _ => (0, 0)) (fun _ => 0) []
      exact hdiffer (hsame.left hrows)
    · by_contra hne
      obtain ⟨rows, hrows, hdiffer⟩ := exists_additionalLoss_ne shape hT' h0
        (lt_of_le_of_ne (hT' b) hne) (fun _ => (0, 0)) (fun _ => 0) []
      exact hdiffer (hsame.symm.left hrows)
  · exact ignoresPadding_of_full hT hT'

end I2CModel

/-! ## TarMAC -/

namespace TarMACModel

variable {shape : TarMACShape} {B : ℕ}

/-- The loss of TarMAC ignores how the sequences are padded to `T` and to `T'` steps. -/
def IgnoresPadding (shape : TarMACShape) (seqLens : Fin B → ℕ) (T T' : ℕ) : Prop :=
  ∀ (H : ℕ) (model : TarMACModel shape H) (withAgentIndex : Bool),
    Rllib.IgnoresPadding seqLens (model.auxLoss T seqLens withAgentIndex)
      (model.auxLoss T' seqLens withAgentIndex)

/-- There is nothing to forecast in sequences of one step. -/
theorem auxLoss_of_short {H : ℕ} (model : TarMACModel shape H) {seqLens : Fin B → ℕ}
    (h : ∀ b, seqLens b ≤ 1) (T : ℕ) (withAgentIndex : Bool) (rows : Fin B → ℕ → TarMACRow shape) :
    model.auxLoss T seqLens withAgentIndex rows = 0 := by
  have hbelief : ∀ focusModel, model.beliefLoss focusModel T seqLens withAgentIndex rows = 0 := by
    intro focusModel
    refine sum_eq_zero fun k _ => ?_
    rw [maskedMean_of_none, mul_zero, ite_self]
    rintro b t ⟨-, hvalid⟩
    have := h b
    have := hvalid.1
    omega
  unfold auxLoss
  cases model.focusModel with
  | none => rfl
  | some focusModel =>
      dsimp only
      rw [hbelief, mul_zero, ite_self]

/-- The steps that are forecast from agree, and those that are forecast do in every sequence that
has two steps. -/
theorem auxLoss_congr {H : ℕ} (model : TarMACModel shape H) {seqLens : Fin B → ℕ} {T : ℕ}
    (withAgentIndex : Bool) {rows rows' : Fin B → ℕ → TarMACRow shape}
    (hstate : ∀ b, ∀ t < T - 1, rows b t = rows' b t)
    (hfuture : ∀ b, 2 ≤ seqLens b → ∀ t < T, rows b t = rows' b t) :
    model.auxLoss T seqLens withAgentIndex rows = model.auxLoss T seqLens withAgentIndex rows' := by
  have hbelief : ∀ focusModel, model.beliefLoss focusModel T seqLens withAgentIndex rows
      = model.beliefLoss focusModel T seqLens withAgentIndex rows' := by
    intro focusModel
    have hrows : (fun b (t : Fin (T - 1)) => (rows b t).globalState)
        = fun b (t : Fin (T - 1)) => (rows' b t).globalState := by
      funext b t
      rw [hstate b t t.isLt]
    unfold beliefLoss
    dsimp only
    rw [hrows]
    refine sum_congr rfl fun k _ => ?_
    congr 2
    -- a step is valid by its own row, and its future is looked at only where it is
    have hvalid : (fun b (t : Fin (T - 1)) =>
        (t : ℕ) + k < T - 1 ∧ timeValid seqLens withAgentIndex rows b t)
          = fun b (t : Fin (T - 1)) =>
            (t : ℕ) + k < T - 1 ∧ timeValid seqLens withAgentIndex rows' b t := by
      funext b t
      rw [timeValid, timeValid, hstate b t t.isLt]
    rw [hvalid]
    refine maskedMean_congr fun b t ht => ?_
    have hlen : 2 ≤ seqLens b := by
      have := ht.2.1
      omega
    unfold OccupancyModel.nll
    dsimp only
    rw [hfuture b hlen (t + k + 1) (by have := ht.1; omega)]
  unfold auxLoss
  cases model.focusModel with
  | none => rfl
  | some focusModel =>
      dsimp only
      rw [hbelief]

/-! ### The rows that are forecast -/

/-- One number in the global state. -/
def rowWith (shape : TarMACShape) (column : ℕ) : TarMACRow shape :=
  ⟨fun d => if (d : ℕ) = column then 1 else 0, 0⟩

def zeroRow (shape : TarMACShape) : TarMACRow shape := ⟨fun _ => 0, 0⟩

/-- The forecast that nothing moves, with a fixed deviation. -/
noncomputable def persistent (D H J : ℕ) : LearnedOccupancyModel D H J :=
  ⟨⟨none, false, fun _ _ _ _ => 0⟩, 400, 25⟩

noncomputable def persistentStd : ℝ := Focus.softplus 0 + 25

theorem persistentStd_pos : 0 < persistentStd := by
  have hlog : 0 ≤ Real.log (1 + Real.exp 0) := Real.log_nonneg (by linarith [Real.exp_pos 0])
  unfold persistentStd Focus.softplus
  linarith

/-- What is left of the loss where nothing moves. -/
noncomputable def restingLoss : ℝ :=
  2 * (Real.log persistentStd + 1 / 2 * Real.log (2 * Real.pi))

noncomputable def squaredError {J : ℕ} (target position : Fin J → ℂ) (j : Fin J) : ℝ :=
  1 / 2 * (((target j).re - (position j).re) / persistentStd) ^ 2
    + 1 / 2 * (((target j).im - (position j).im) / persistentStd) ^ 2

theorem squaredError_nonneg {J : ℕ} (target position : Fin J → ℂ) (j : Fin J) :
    0 ≤ squaredError target position j := by
  unfold squaredError
  positivity

theorem squaredError_pos {J : ℕ} {target position : Fin J → ℂ} {j : Fin J}
    (h : target j ≠ position j) : 0 < squaredError target position j := by
  have hs := persistentStd_pos
  refine lt_of_le_of_ne (squaredError_nonneg target position j) fun hzero => h ?_
  have hre : 0 ≤ 1 / 2 * (((target j).re - (position j).re) / persistentStd) ^ 2 := by positivity
  have him : 0 ≤ 1 / 2 * (((target j).im - (position j).im) / persistentStd) ^ 2 := by positivity
  unfold squaredError at hzero
  have hre0 : ((target j).re - (position j).re) / persistentStd = 0 := by
    apply pow_eq_zero_iff two_ne_zero |>.mp
    linarith
  have him0 : ((target j).im - (position j).im) / persistentStd = 0 := by
    apply pow_eq_zero_iff two_ne_zero |>.mp
    linarith
  apply Complex.ext
  · linarith [(div_eq_zero_iff.mp hre0).resolve_right hs.ne']
  · linarith [(div_eq_zero_iff.mp him0).resolve_right hs.ne']

theorem loss_persistent {D H J T : ℕ} (hJ : 0 < J) (nAgents : ℕ)
    (state nextState : Fin B → Fin T → Fin D → ℝ) {b : Fin B} {t : Fin T} {h : Fin H}
    (hlt : (t : ℕ) + h < T) :
    (((OccupancyModel.gaussian (persistent D H J)).observe state).nll nAgents state nextState b t
        h).loss
      = meanTargets (squaredError
          (fun j : Fin J => targetPosition (nextState b ⟨t + h, hlt⟩) nAgents j)
          (fun j : Fin J => targetPosition (state b t) nAgents j)) + restingLoss := by
  rw [observe_eq rfl, OccupancyModel.nll, dif_pos hlt, ← meanTargets_const hJ restingLoss]
  have hadd : ∀ x y : Fin J → ℝ,
      meanTargets x + meanTargets y = meanTargets (fun j => x j + y j) := by
    intro x y
    unfold meanTargets
    rw [sum_add_distrib, add_div]
  rw [hadd]
  have hmove : ∀ position : ℂ, position + ⟨Real.tanh 0 * (400 : ℚ), Real.tanh 0 * (400 : ℚ)⟩
      = position := by
    intro position
    apply Complex.ext
    · simp
    · simp
  have hstd : Focus.softplus 0 + ((25 : ℚ) : ℝ) = persistentStd := by
    rw [persistentStd]
    norm_num
  show meanTargets (fun j : Fin J => _) = _
  congr 1
  funext j
  unfold squaredError restingLoss
  simp only [persistent, LearnedOccupancyModel.mean, LearnedOccupancyModel.std, BeliefNet.output,
    hmove, hstd]
  ring

theorem weights_pos {H : ℕ} (model : TarMACModel shape H)
    (h : 0 < model.focusConfig.horizonDiscount) (numHorizons k : ℕ) :
    0 < model.weights numHorizons k := by
  have hdiscount : (0 : ℝ) < model.focusConfig.horizonDiscount := by exact_mod_cast h
  exact div_pos (pow_pos hdiscount k)
    (add_pos_of_nonneg_of_pos (sum_nonneg fun l _ => (pow_pos hdiscount l).le)
      (eps_pos model.focusConfig))

section Forecast

variable (shape)

/-- Two horizons, and the forecast that nothing moves. -/
noncomputable def forecasting : TarMACModel shape 2 :=
  ⟨{}, 1, some (.gaussian (persistent shape.globalStateDim 2 shape.nTargets))⟩

variable {shape} {seqLens : Fin B → ℕ} {b₀ : Fin B} {T : ℕ}

theorem targetPosition_rowWith_ne :
    targetPosition (rowWith shape (targetColumn shape.nFocusAgents)).globalState shape.nFocusAgents
        (0 : ℕ)
      ≠ targetPosition (zeroRow shape).globalState shape.nFocusAgents (0 : ℕ) := by
  have hcolumn : targetColumn shape.nFocusAgents < shape.globalStateDim := by
    refine lt_of_lt_of_le ?_ shape.requiredDim_le
    have hone : 0 < shape.nTargets * Focus.TARGET_STATE_DIM_PRIVATE :=
      Nat.mul_pos shape.nTargets_pos (by decide)
    unfold targetColumn requiredDim
    omega
  have hmark : (rowWith shape (targetColumn shape.nFocusAgents)).globalState
      = mark (0 : Fin 1) (0 : Fin 1) (targetColumn shape.nFocusAgents) 0 0 := by
    funext d
    simp [rowWith, mark]
  rw [hmark]
  exact targetPosition_mark_ne hcolumn 0 0

/-- `per_horizon_losses` of this model. -/
noncomputable def forecastLoss (T : ℕ) (rows : Fin B → ℕ → TarMACRow shape) (k : Fin 2) (b : Fin B)
    (t : Fin (T - 1)) : ℝ :=
  let state := fun b (t : Fin (T - 1)) => (rows b t).globalState
  let futureState := fun b (t : Fin (T - 1)) => (rows b (t + 1)).globalState
  (((OccupancyModel.gaussian (persistent shape.globalStateDim 2 shape.nTargets)).observe state).nll
    shape.nFocusAgents state futureState b t k).loss

theorem auxLoss_forecasting (hB : 0 < B) (hT : 2 ≤ T) (rows : Fin B → ℕ → TarMACRow shape) :
    (forecasting shape).auxLoss T seqLens false rows
      = ∑ k : Fin 2, if (k : ℕ) < T - 1 then (forecasting shape).weights (min 2 (T - 1)) k
          * maskedMean (fun b (t : Fin (T - 1)) => (t : ℕ) + k < T - 1 ∧ (t : ℕ) < seqLens b - 1)
            (forecastLoss T rows k)
        else 0 := by
  have hvalid : ∀ b t, timeValid seqLens false rows b t ↔ t < seqLens b - 1 := by
    intro b t
    simp [timeValid]
  show (if B = 0 ∨ T < 2 then 0 else 1 * TarMACModel.beliefLoss _ _ _ _ _ _) = _
  rw [if_neg (by omega), one_mul]
  unfold beliefLoss
  simp only [hvalid]
  rfl

section Compare

variable {rows : Fin B → ℕ → TarMACRow shape} {k : Fin 2} {b : Fin B} {t : Fin (T - 1)}
  (hlt : (t : ℕ) + k < T - 1)

include hlt

theorem forecastLoss_eq : forecastLoss T rows k b t
    = meanTargets (squaredError
        (fun j : Fin shape.nTargets =>
          targetPosition (rows b (t + k + 1)).globalState shape.nFocusAgents j)
        (fun j : Fin shape.nTargets =>
          targetPosition (rows b t).globalState shape.nFocusAgents j)) + restingLoss :=
  loss_persistent shape.nTargets_pos _ _ _ hlt

theorem forecastLoss_resting : forecastLoss T (fun _ _ => zeroRow shape) k b t = restingLoss := by
  rw [forecastLoss_eq hlt]
  simp [meanTargets, squaredError]

theorem restingLoss_le : restingLoss ≤ forecastLoss T rows k b t := by
  rw [forecastLoss_eq hlt]
  have hmean : 0 ≤ meanTargets (squaredError
      (fun j : Fin shape.nTargets =>
        targetPosition (rows b (t + k + 1)).globalState shape.nFocusAgents j)
      (fun j : Fin shape.nTargets =>
        targetPosition (rows b t).globalState shape.nFocusAgents j)) :=
    div_nonneg (sum_nonneg fun j _ => squaredError_nonneg _ _ j) (Nat.cast_nonneg _)
  linarith

/-- The first target has moved. -/
theorem restingLoss_lt
    (hne : targetPosition (rows b (t + k + 1)).globalState shape.nFocusAgents (0 : ℕ)
      ≠ targetPosition (rows b t).globalState shape.nFocusAgents (0 : ℕ)) :
    restingLoss < forecastLoss T rows k b t := by
  rw [forecastLoss_eq hlt]
  have hmean : 0 < meanTargets (squaredError
      (fun j : Fin shape.nTargets =>
        targetPosition (rows b (t + k + 1)).globalState shape.nFocusAgents j)
      (fun j : Fin shape.nTargets =>
        targetPosition (rows b t).globalState shape.nFocusAgents j)) :=
    div_pos (sum_pos' (fun j _ => squaredError_nonneg _ _ j)
      ⟨⟨0, shape.nTargets_pos⟩, mem_univ _, squaredError_pos hne⟩)
      (Nat.cast_pos.mpr shape.nTargets_pos)
  linarith

end Compare

/-- **The first row of the padding is forecast**: the second horizon of the last step that counts
ends there. -/
theorem auxLoss_forecasting_lt (h2 : 2 ≤ seqLens b₀) (h : seqLens b₀ < T) :
    (forecasting shape).auxLoss T seqLens false (fun _ _ => zeroRow shape)
      < (forecasting shape).auxLoss T seqLens false
          (marked (zeroRow shape) (rowWith shape (targetColumn shape.nFocusAgents)) b₀
            (seqLens b₀)) := by
  rw [auxLoss_forecasting b₀.pos (by omega), auxLoss_forecasting b₀.pos (by omega)]
  have hweight : ∀ k, 0 < (forecasting shape).weights (min 2 (T - 1)) k :=
    weights_pos _ (by show (0 : ℚ) < 9 / 10; norm_num) _
  refine sum_lt_sum (fun k _ => ?_) ⟨1, mem_univ _, ?_⟩
  · split
    · refine mul_le_mul_of_nonneg_left (maskedMean_le fun b t hvalid => ?_) (hweight k).le
      rw [forecastLoss_resting hvalid.1]
      exact restingLoss_le hvalid.1
    · exact le_rfl
  · have hT : ((1 : Fin 2) : ℕ) < T - 1 := by
      show 1 < T - 1
      omega
    rw [if_pos hT, if_pos hT]
    refine mul_lt_mul_of_pos_left (maskedMean_lt (fun b t hvalid => ?_)
      ⟨b₀, ⟨seqLens b₀ - 2, by omega⟩, ⟨?_, ?_⟩, ?_⟩) (hweight 1)
    · rw [forecastLoss_resting hvalid.1]
      exact restingLoss_le hvalid.1
    · show seqLens b₀ - 2 + 1 < T - 1
      omega
    · show seqLens b₀ - 2 < seqLens b₀ - 1
      omega
    · have hlt : seqLens b₀ - 2 + 1 < T - 1 := by omega
      -- the last step that counts looks two rows ahead
      have hnext : seqLens b₀ - 2 + 1 + 1 = seqLens b₀ := by omega
      rw [forecastLoss_resting hlt]
      apply restingLoss_lt hlt
      show targetPosition (marked _ _ _ _ b₀ (seqLens b₀ - 2 + 1 + 1) : TarMACRow shape).globalState
          _ _
        ≠ targetPosition (marked _ _ _ _ b₀ (seqLens b₀ - 2) : TarMACRow shape).globalState _ _
      rw [hnext, marked_self, marked_eq (by omega)]
      exact targetPosition_rowWith_ne

end Forecast

/-! ### The rows that the normalizer learns from -/

section Normalizer

variable (shape) in
/-- One horizon, and a network that a normalizer feeds. -/
noncomputable def normalizing (tilt : ℝ) : TarMACModel shape 1 :=
  ⟨{}, 1, some (.categorical (tilted shape.globalStateDim 1 shape.nTargets tilt))⟩

variable {seqLens : Fin B → ℕ} {b₀ : Fin B} {T : ℕ}

/-- Where only rows of the padding are not zero, the loss is that of a single step. -/
theorem auxLoss_normalizing (tilt : ℝ) (h2 : 2 ≤ seqLens b₀) (hT : seqLens b₀ ≤ T)
    {rows : Fin B → ℕ → TarMACRow shape}
    (hrows : SameValidRows seqLens (fun _ _ => zeroRow shape) rows) :
    (normalizing shape tilt).auxLoss T seqLens false rows
      = (normalizing shape tilt).weights (min 1 (T - 1)) 0
        * tiltedLoss (tilt * scaledZero (fun b (t : Fin (T - 1)) => (rows b t).globalState)) := by
  let state := fun b (t : Fin (T - 1)) => (rows b t).globalState
  have hvalid : ∀ b t, timeValid seqLens false rows b t ↔ t < seqLens b - 1 := by
    intro b t
    simp [timeValid]
  have hstate : AgreeOn (fun b => seqLens b - 1) (fun _ _ _ => 0) state := by
    intro b t ht
    exact congrArg TarMACRow.globalState (hrows b t (by dsimp only at ht; omega))
  have hexists : ∃ b, ∃ t : Fin (T - 1), (t : ℕ) + 0 < T - 1 ∧ (t : ℕ) < seqLens b - 1 :=
    ⟨b₀, ⟨0, by omega⟩, by dsimp only; omega, by dsimp only; omega⟩
  have hB := b₀.pos
  show (if B = 0 ∨ T < 2 then 0 else 1 * TarMACModel.beliefLoss _ _ _ _ _ _) = _
  rw [if_neg (by omega), one_mul]
  unfold beliefLoss
  simp only [hvalid, Fin.sum_univ_one]
  rw [if_pos (show ((0 : Fin 1) : ℕ) < T - 1 by show 0 < T - 1; omega)]
  congr 1
  refine (maskedMean_congr (fun b t ht => ?_)).trans (maskedMean_const hexists _)
  refine loss_tilted shape.nFocusAgents tilt hstate shape.nTargets_pos ht.2 ht.1 ?_
  exact (congrArg TarMACRow.globalState (hrows b (t + 0 + 1) (by have := ht.2; omega))).symm

variable (shape) in
/-- **The normalizer learns from a row of the padding**, where the sequence has no step that
counts. -/
theorem exists_auxLoss_ne {b₁ : Fin B} (h2 : 2 ≤ seqLens b₀) (hT : seqLens b₀ ≤ T)
    (h1 : seqLens b₁ < T - 1) :
    ∃ tilt, (normalizing shape tilt).auxLoss T seqLens false (fun _ _ => zeroRow shape)
      ≠ (normalizing shape tilt).auxLoss T seqLens false
          (marked (zeroRow shape) (rowWith shape 0) b₁ (seqLens b₁)) := by
  have hD : 0 < shape.globalStateDim := by
    have hdim := shape.requiredDim_le
    have hpreserved : 0 < Focus.PRESERVED_DIM := by decide
    unfold requiredDim at hdim
    omega
  have hBT : B * (T - 1) * shape.globalStateDim ≠ 0 :=
    (Nat.mul_pos (Nat.mul_pos b₀.pos (by omega)) hD).ne'
  let t₁ : Fin (T - 1) := ⟨seqLens b₁, h1⟩
  have hmark : (fun b (t : Fin (T - 1)) =>
      (marked (zeroRow shape) (rowWith shape 0) b₁ (seqLens b₁) b t).globalState)
        = mark b₁ t₁ 0 := by
    funext b t d
    unfold marked mark
    by_cases h : b = b₁ ∧ (t : ℕ) = seqLens b₁
    · rw [if_pos h]
      obtain ⟨rfl, ht⟩ := h
      have ht' : t = t₁ := Fin.ext ht
      simp [rowWith, ht']
    · rw [if_neg h, if_neg]
      · rfl
      · rintro ⟨hb, ht, -⟩
        exact h ⟨hb, congrArg Fin.val ht⟩
  have hscale : scaledZero (mark b₁ t₁ 0 : Fin B → Fin (T - 1) → Fin shape.globalStateDim → ℝ)
      ≠ 0 := scaledZero_mark hD b₁ t₁
  obtain ⟨m, hm⟩ := exists_tiltedLoss_ne
  refine ⟨m / scaledZero (mark b₁ t₁ 0 : Fin B → Fin (T - 1) → Fin shape.globalStateDim → ℝ), ?_⟩
  rw [auxLoss_normalizing _ h2 hT (SameValidRows.refl _),
    auxLoss_normalizing _ h2 hT (sameValidRows_marked _ _ (le_refl (seqLens b₁))), hmark,
    div_mul_cancel₀ _ hscale]
  have hzero : scaledZero (fun (_ : Fin B) (_ : Fin (T - 1)) => (zeroRow shape).globalState) = 0 :=
    scaledZero_zero hBT hD
  rw [hzero, mul_zero]
  have hweight := weights_pos (normalizing shape
    (m / scaledZero (mark b₁ t₁ 0 : Fin B → Fin (T - 1) → Fin shape.globalStateDim → ℝ)))
    (by show (0 : ℚ) < 9 / 10; norm_num) (min 1 (T - 1)) 0
  exact fun heq => hm (mul_left_cancel₀ hweight.ne' heq)

end Normalizer

/-! ### When the padding does not matter -/

section Iff

variable {seqLens : Fin B → ℕ} {T T' : ℕ}

/-- What a loss that ignores the padding says of one of the two lengths. -/
theorem lengths_of_ignoresPadding (hT : ∀ b, seqLens b ≤ T)
    (h : ∀ (H : ℕ) (model : TarMACModel shape H) (rows rows' : Fin B → ℕ → TarMACRow shape),
      SameValidRows seqLens rows rows' →
        model.auxLoss T seqLens false rows = model.auxLoss T seqLens false rows')
    {b₀ : Fin B} (h2 : 2 ≤ seqLens b₀) (b : Fin B) :
    (2 ≤ seqLens b → seqLens b = T) ∧ T - 1 ≤ seqLens b := by
  constructor
  · intro hb
    by_contra hne
    have hlt : seqLens b < T := lt_of_le_of_ne (hT b) hne
    exact (auxLoss_forecasting_lt hb hlt).ne
      (h 2 (forecasting shape) _ _ (sameValidRows_marked _ _ (le_refl (seqLens b))))
  · by_contra hlt
    obtain ⟨tilt, hne⟩ := exists_auxLoss_ne shape h2 (hT b₀) (not_le.mp hlt)
    exact hne (h 1 (normalizing shape tilt) _ _ (sameValidRows_marked _ _ (le_refl (seqLens b))))

theorem ignoresPadding_iff (shape : TarMACShape) (hT : ∀ b, seqLens b ≤ T)
    (hT' : ∀ b, seqLens b ≤ T') :
    IgnoresPadding shape seqLens T T' ↔ (∀ b, seqLens b ≤ 1)
      ∨ (∀ b, seqLens b = T ∧ seqLens b = T') ∨ (T = 2 ∧ T' = 2 ∧ ∀ b, 1 ≤ seqLens b) := by
  constructor
  · intro h
    by_cases hshort : ∀ b, seqLens b ≤ 1
    · exact Or.inl hshort
    · push Not at hshort
      obtain ⟨b₀, h2⟩ := hshort
      -- from a row in the middle: no row of the batch may end before it
      have hleft := lengths_of_ignoresPadding hT
        (fun H model _ _ hrows => (h H model false).left hrows) h2
      have hright := lengths_of_ignoresPadding hT'
        (fun H model _ _ hrows => (h H model false).symm.left hrows) h2
      have h0 := (hleft b₀).1 h2
      have h0' := (hright b₀).1 h2
      by_cases hall : ∀ b, 2 ≤ seqLens b
      · exact Or.inr (Or.inl fun b => ⟨(hleft b).1 (hall b), (hright b).1 (hall b)⟩)
      · -- a sequence of at most one step, in a batch of two
        push Not at hall
        obtain ⟨b₁, h1⟩ := hall
        have hlen := (hleft b₁).2
        refine Or.inr (Or.inr ⟨by omega, by omega, fun b => ?_⟩)
        have hb := (hleft b).2
        omega
  · intro hlengths H model withAgentIndex rows rows' hrows
    rcases hlengths with hshort | hfull | ⟨rfl, rfl, hone⟩
    · rw [auxLoss_of_short model hshort, auxLoss_of_short model hshort]
    · rcases isEmpty_or_nonempty (Fin B) with hempty | ⟨⟨b⟩⟩
      · have hshort : ∀ b, seqLens b ≤ 1 := fun b => isEmptyElim b
        rw [auxLoss_of_short model hshort, auxLoss_of_short model hshort]
      · obtain rfl : T = T' := (hfull b).1.symm.trans (hfull b).2
        have hall : ∀ b, ∀ t < T, rows b t = rows' b t := fun b t ht =>
          hrows b t (by rw [(hfull b).1]; exact ht)
        exact auxLoss_congr model withAgentIndex (fun b t ht => hall b t (by omega))
          fun b _ => hall b
    · exact auxLoss_congr model withAgentIndex
        (fun b t ht => hrows b t (by have := hone b; omega))
        fun b hb t ht => hrows b t (by omega)

end Iff

end TarMACModel

/-! ## All three -/

/-- The lengths of the sequences of a batch, and two lengths that they may be padded to. -/
structure PaddedLengths (B : ℕ) where
  seqLens : Fin B → ℕ
  T : ℕ
  T' : ℕ
  le : ∀ b, seqLens b ≤ T
  le' : ∀ b, seqLens b ≤ T'

/-- **When the padding does not influence the auxiliary losses**: for all parameters, draws and
buffers, and all contents of the padding. The loss of SMPE2 ignores it where there is none. That
of I2C ignores it where there is none behind a step. That of TarMAC ignores it where there is
none, or no sequence has two steps, or there are two steps at most and no empty sequence. -/
theorem paddedLosses_iff (smpe2 : SMPE2Shape) (i2c : I2CShape) (tarmac : TarMACShape) {B : ℕ}
    (lengths : PaddedLengths B) :
    (SMPE2Model.IgnoresPadding smpe2 lengths.seqLens lengths.T lengths.T'
        ↔ ∀ b, lengths.seqLens b = lengths.T ∧ lengths.seqLens b = lengths.T')
      ∧ (I2CModel.IgnoresPadding i2c lengths.le lengths.le'
        ↔ ∀ b, 0 < lengths.seqLens b →
          lengths.seqLens b = lengths.T ∧ lengths.seqLens b = lengths.T')
      ∧ (TarMACModel.IgnoresPadding tarmac lengths.seqLens lengths.T lengths.T'
        ↔ (∀ b, lengths.seqLens b ≤ 1)
          ∨ (∀ b, lengths.seqLens b = lengths.T ∧ lengths.seqLens b = lengths.T')
          ∨ (lengths.T = 2 ∧ lengths.T' = 2 ∧ ∀ b, 1 ≤ lengths.seqLens b)) :=
  ⟨SMPE2Model.ignoresPadding_iff smpe2 lengths.le lengths.le',
    I2CModel.ignoresPadding_iff i2c lengths.le lengths.le',
    TarMACModel.ignoresPadding_iff tarmac lengths.le lengths.le'⟩

def oneColumn : SMPE2Shape := ⟨1, 1, 1, Nat.one_pos⟩

def oneCamera : TarMACShape := ⟨requiredDim 1 1, 1, 1, Nat.one_pos, le_rfl⟩

theorem one_le_two_all : ∀ _ : Fin 1, 1 ≤ 2 := fun _ => one_le_two

/-- A sequence of one step, padded to two, and a sequence of two steps, padded to three: the first
row of the padding changes each of the losses. -/
theorem padding_read :
    (SMPE2Model.blank oneColumn).totalAux 2 (fun (_ : Fin 1) _ => ⟨0, 0⟩) (fun _ _ _ => 0)
        < (SMPE2Model.blank oneColumn).totalAux 2 (marked ⟨0, 0⟩ ⟨0, 1⟩ (0 : Fin 1) 1)
          (fun _ _ _ => 0)
      ∧ ¬ I2CModel.IgnoresPadding I2CModel.twoActions one_le_two_all one_le_two_all
      ∧ (TarMACModel.forecasting oneCamera).auxLoss 3 (fun _ : Fin 1 => 2) false
          (fun _ _ => TarMACModel.zeroRow oneCamera)
        < (TarMACModel.forecasting oneCamera).auxLoss 3 (fun _ : Fin 1 => 2) false
          (marked (TarMACModel.zeroRow oneCamera)
            (TarMACModel.rowWith oneCamera (targetColumn 1)) 0 2) := by
  let oneStep : Fin 1 → ℕ := fun _ => 1
  let twoSteps : Fin 1 → ℕ := fun _ => 2
  refine ⟨?_, fun h => ?_, ?_⟩
  · exact SMPE2Model.totalAux_marked (show oneStep 0 < 2 from one_lt_two) _
  · have hlen := ((I2CModel.ignoresPadding_iff _ _ _).mp h 0 one_pos).1
    omega
  · exact TarMACModel.auxLoss_forecasting_lt (show 2 ≤ twoSteps 0 from le_rfl)
      (show twoSteps 0 < 3 from by decide)

end Mate.Rllib
