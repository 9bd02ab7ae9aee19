import Mate.Library.Mixing
import Mate.Utils
import Mathlib.Analysis.SpecialFunctions.Gaussian.GaussianIntegral
import Mathlib.Data.Fin.Tuple.Sort

set_option autoImplicit false

/-! # RiskQ

The distortion weights of the risk measures, the mixer of quantiles and the parts of the policy
that lead from the output of its agents to the values they act by.
-/

namespace Mate.Rllib

open Nets Mixing

/-! ## Risk measures -/

/-- `torch.erf`. -/
noncomputable def erf (x : ℝ) : ℝ :=
  2 / Real.sqrt Real.pi * ∫ t in (0 : ℝ)..x, Real.exp (-t ^ 2)

/-- `torch.erfinv`. -/
noncomputable def erfinv : ℝ → ℝ := Function.invFun erf

noncomputable def normalIcdf (x : ℝ) : ℝ := Real.sqrt 2 * erfinv (2 * x - 1)

inductive RiskType
  | neutral
  | wang
  | cvar
  | cpw
  | var
  deriving DecidableEq, Repr

/-- The names of the risk types; case does not matter. -/
def RiskType.ofName (riskType : String) : Except Error RiskType :=
  match riskType.toLower with
  | "neutral" | "mean" | "expectation" => .ok .neutral
  | "wang" => .ok .wang
  | "cvar" | "cvar_upper" => .ok .cvar
  | "cpw" | "cumulative_prospect" => .ok .cpw
  | "var" => .ok .var
  | _ => .error (.valueError ("unknown RiskQ distortion: " ++ riskType))

section Distortion

variable (n : ℕ)

/-- The midpoints of `n` equal intervals. -/
noncomputable def tau (k : Fin n) : ℝ := (k + 0.5) / n

/-- The midpoints are reflected for a negative parameter. -/
noncomputable def tauEval (riskParam : ℝ) (k : Fin n) : ℝ :=
  if riskParam < 0 then 1 - tau n k else tau n k

noncomputable def wangDerivative (alpha t : ℝ) : ℝ :=
  let z := normalIcdf (min (max t 1e-6) (1 - 1e-6))
  Real.exp (-alpha * z - 0.5 * alpha * alpha)

noncomputable def cpwDerivative (alpha t : ℝ) : ℝ :=
  let g := t ^ alpha
  let base := t ^ alpha + (1 - t) ^ alpha
  let h := base ^ (1 / alpha)
  let gPrime := alpha * t ^ (alpha - 1)
  let hPrime := base ^ (1 / alpha - 1) * (t ^ (alpha - 1) - (1 - t) ^ (alpha - 1))
  (gPrime * h - g * hPrime) / max (h ^ 2) 1e-12

/-- The atom that carries all the mass of `var`. -/
noncomputable def varIndex (alpha : ℝ) : ℤ :=
  max 0 (min (n - 1) ⌊(alpha - 0.5 / n) * n⌋)

/-- The derivatives of the distortion at the midpoints, before they are clipped. -/
noncomputable def riskDerivative (kind : RiskType) (riskParam : ℝ) : Except Error (Fin n → ℝ) :=
  let alpha := |riskParam|
  match kind with
  | .neutral => .ok (fun _ => 1)
  | .wang => .ok (fun k => wangDerivative alpha (tauEval n riskParam k))
  | .cvar =>
      if 0 < alpha ∧ alpha ≤ 1 then
        .ok (fun k => (if tauEval n riskParam k < alpha then 1 else 0) / alpha)
      else .error (.valueError "CVaR alpha must be in (0, 1]")
  | .cpw =>
      if alpha ≤ 0 then .error (.valueError "CPW alpha must be positive")
      else .ok (fun k => cpwDerivative alpha (tauEval n riskParam k))
  | .var =>
      if n = 0 then .error (.zeroDivisionError "float division by zero")
      else .ok (fun k => if (k : ℤ) = varIndex n alpha then n else 0)

noncomputable def riskDistortionWeights (kind : RiskType) (riskParam derivativeClip : ℝ) :
    Except Error (Fin n → ℝ) :=
  (riskDerivative n kind riskParam).map
    (fun derivative k => min (max (derivative k) 0) derivativeClip / n)

variable {n}

/-- The expectation of quantiles under given weights. -/
noncomputable def weighted (weights quantiles : Fin n → ℝ) : ℝ := ∑ k, quantiles k * weights k

noncomputable def distortedExpectation (kind : RiskType) (riskParam : ℝ) (quantiles : Fin n → ℝ) :
    Except Error ℝ :=
  (riskDistortionWeights n kind riskParam 5).map (fun weights => weighted weights quantiles)

end Distortion

/-- The parameters for which the weights are defined. -/
def Admissible (n : ℕ) : RiskType → ℝ → Prop
  | .neutral, _ => True
  | .wang, _ => True
  | .cvar, riskParam => riskParam ≠ 0 ∧ |riskParam| ≤ 1
  | .cpw, riskParam => riskParam ≠ 0
  | .var, _ => 0 < n

/-- Where the weights are defined, the distorted expectation is linear in the quantiles: the weights
are the same for all of them. -/
theorem distortedExpectation_eq {n : ℕ} {kind : RiskType} {riskParam : ℝ}
    (h : Admissible n kind riskParam) : ∃ weights : Fin n → ℝ, ∀ quantiles : Fin n → ℝ,
      distortedExpectation kind riskParam quantiles = .ok (weighted weights quantiles) := by
  have hderivative : ∃ derivative, riskDerivative n kind riskParam = .ok derivative := by
    cases kind with
    | neutral => exact ⟨_, rfl⟩
    | wang => exact ⟨_, rfl⟩
    | cvar => exact ⟨_, if_pos ⟨abs_pos.mpr h.1, h.2⟩⟩
    | cpw => exact ⟨_, if_neg (abs_pos.mpr h).not_ge⟩
    | var => exact ⟨_, if_neg (Nat.pos_iff_ne_zero.mp h)⟩
  obtain ⟨derivative, hderivative⟩ := hderivative
  refine ⟨fun k => min (max (derivative k) 0) 5 / n, fun quantiles => ?_⟩
  rw [distortedExpectation, riskDistortionWeights, hderivative]
  rfl

/-- Elsewhere there is an error. -/
theorem distortedExpectation_error {n : ℕ} {kind : RiskType} {riskParam : ℝ}
    (h : ¬ Admissible n kind riskParam) (quantiles : Fin n → ℝ) :
    ∃ e, distortedExpectation kind riskParam quantiles = .error e := by
  have hderivative : ∃ e, riskDerivative n kind riskParam = .error e := by
    cases kind with
    | neutral => exact absurd trivial h
    | wang => exact absurd trivial h
    | cvar =>
        refine ⟨_, if_neg (fun hcvar => h ?_)⟩
        exact ⟨abs_pos.mp hcvar.1, hcvar.2⟩
    | cpw =>
        refine ⟨_, if_pos (not_lt.mp (fun hpos => h ?_))⟩
        exact abs_pos.mp hpos
    | var => exact ⟨_, if_pos (Nat.eq_zero_of_not_pos h)⟩
  obtain ⟨e, he⟩ := hderivative
  refine ⟨e, ?_⟩
  rw [distortedExpectation, riskDistortionWeights, he]
  rfl

/-! ## Value at risk

All the mass of `var` lies on one atom, so its derivative there is the number of quantiles. The clip
of the derivatives cuts into it as soon as there are more quantiles than the clip allows. -/

section ValueAtRisk

variable {n : ℕ} (riskParam : ℝ)

/-- The atom is one of the quantiles. -/
theorem exists_varIndex (hn : 0 < n) (alpha : ℝ) : ∃ k : Fin n, (k : ℤ) = varIndex n alpha := by
  have hlow : 0 ≤ varIndex n alpha := le_max_left _ _
  have hhigh : varIndex n alpha < n := by
    unfold varIndex
    omega
  refine ⟨⟨(varIndex n alpha).toNat, by omega⟩, ?_⟩
  show ((varIndex n alpha).toNat : ℤ) = varIndex n alpha
  exact Int.toNat_of_nonneg hlow

/-- What the clip leaves of the mass of the atom. -/
noncomputable def varMass (n : ℕ) (derivativeClip : ℝ) : ℝ := min (n : ℝ) derivativeClip / n

theorem varMass_eq_one_iff (hn : 0 < n) (derivativeClip : ℝ) :
    varMass n derivativeClip = 1 ↔ (n : ℝ) ≤ derivativeClip := by
  have hpos : (n : ℝ) ≠ 0 := Nat.cast_ne_zero.mpr hn.ne'
  rw [varMass, div_eq_one_iff_eq hpos]
  exact min_eq_left_iff

theorem varMass_five_iff (hn : 0 < n) : varMass n 5 = 1 ↔ n ≤ 5 := by
  rw [varMass_eq_one_iff hn]
  exact Nat.cast_le_ofNat

theorem riskDistortionWeights_var {derivativeClip : ℝ} (hclip : 0 ≤ derivativeClip) {k : Fin n}
    (hk : (k : ℤ) = varIndex n |riskParam|) :
    riskDistortionWeights n .var riskParam derivativeClip
      = .ok (Pi.single k (varMass n derivativeClip)) := by
  have hn : n ≠ 0 := by
    have := k.isLt
    omega
  have hderivative : riskDerivative n .var riskParam
      = .ok (fun l => if (l : ℤ) = varIndex n |riskParam| then n else 0) := if_neg hn
  rw [riskDistortionWeights, hderivative]
  show Except.ok _ = Except.ok _
  congr 1
  funext l
  dsimp only
  by_cases hl : l = k
  · subst hl
    rw [if_pos hk, Pi.single_eq_same, max_eq_left (Nat.cast_nonneg n), varMass]
  · have hne : (l : ℤ) ≠ varIndex n |riskParam| := by
      rw [← hk]
      exact fun h => hl (Fin.ext (by omega))
    rw [if_neg hne, Pi.single_eq_of_ne hl, max_self, min_eq_left hclip, zero_div]

/-- The distorted expectation under `var` is what the clip leaves of the selected quantile. -/
theorem distortedExpectation_var {k : Fin n} (hk : (k : ℤ) = varIndex n |riskParam|)
    (quantiles : Fin n → ℝ) :
    distortedExpectation .var riskParam quantiles = .ok (quantiles k * varMass n 5) := by
  rw [distortedExpectation, riskDistortionWeights_var riskParam (by norm_num) hk]
  show Except.ok _ = Except.ok _
  congr 1
  dsimp only [weighted]
  rw [Finset.sum_eq_single k (fun l _ hl => by rw [Pi.single_eq_of_ne hl, mul_zero])
    (fun hmem => absurd (Finset.mem_univ k) hmem), Pi.single_eq_same]

theorem distortedExpectation_neutral (quantiles : Fin n → ℝ) :
    distortedExpectation .neutral riskParam quantiles = .ok ((∑ k, quantiles k) / n) := by
  show Except.ok (∑ k, quantiles k * (min (max 1 0) 5 / n)) = Except.ok _
  rw [← Finset.sum_mul, max_eq_left zero_le_one, min_eq_left (by norm_num), mul_one_div]

/-- The weights of `var` are those of a distribution. -/
def VarIsDistribution (n : ℕ) (riskParam : ℝ) : Prop :=
  ∃ weights : Fin n → ℝ, riskDistortionWeights n .var riskParam 5 = .ok weights ∧
    (∀ k, 0 ≤ weights k) ∧ ∑ k, weights k = 1

/-- The distorted expectation under `var` is the selected quantile. -/
def VarSelects (n : ℕ) (riskParam : ℝ) : Prop :=
  ∃ k : Fin n, (k : ℤ) = varIndex n |riskParam| ∧ ∀ quantiles : Fin n → ℝ,
    distortedExpectation .var riskParam quantiles = .ok (quantiles k)

theorem varIsDistribution_iff (hn : 0 < n) : VarIsDistribution n riskParam ↔ n ≤ 5 := by
  obtain ⟨k, hk⟩ := exists_varIndex hn |riskParam|
  have hweights := riskDistortionWeights_var riskParam (by norm_num : (0 : ℝ) ≤ 5) hk
  rw [← varMass_five_iff hn]
  constructor
  · rintro ⟨weights, hok, -, hsum⟩
    rw [hweights] at hok
    injection hok with hok
    rw [← hok, Finset.sum_pi_single' k, if_pos (Finset.mem_univ k)] at hsum
    exact hsum
  · intro hmass
    refine ⟨_, hweights, fun l => ?_, ?_⟩
    · have hnonneg : (0 : Fin n → ℝ) ≤ Pi.single k (varMass n 5) := by
        rw [Pi.single_nonneg, hmass]
        exact zero_le_one
      exact hnonneg l
    · rw [Finset.sum_pi_single' k, if_pos (Finset.mem_univ k), hmass]

theorem varSelects_iff (hn : 0 < n) : VarSelects n riskParam ↔ n ≤ 5 := by
  rw [← varMass_five_iff hn]
  constructor
  · rintro ⟨k, hk, hselects⟩
    have hall := hselects (fun _ => 1)
    rw [distortedExpectation_var riskParam hk, one_mul] at hall
    injection hall
  · intro hmass
    obtain ⟨k, hk⟩ := exists_varIndex hn |riskParam|
    refine ⟨k, hk, fun quantiles => ?_⟩
    rw [distortedExpectation_var riskParam hk, hmass, mul_one]

/-- **When the risk distortions act as distributions.** The mean is always that of `neutral`; the
weights of `var` are a distribution, and select a quantile, up to five quantiles. -/
theorem valueAtRisk_iff (hn : 0 < n) :
    (VarIsDistribution n riskParam ∧ VarSelects n riskParam ∧ ∀ quantiles : Fin n → ℝ,
      distortedExpectation .neutral riskParam quantiles = .ok ((∑ k, quantiles k) / n)) ↔
      n ≤ 5 := by
  constructor
  · rintro ⟨hdistribution, -, -⟩
    exact (varIsDistribution_iff riskParam hn).mp hdistribution
  · intro hle
    exact ⟨(varIsDistribution_iff riskParam hn).mpr hle, (varSelects_iff riskParam hn).mpr hle,
      distortedExpectation_neutral riskParam⟩

theorem valueAtRisk_iff_median : VarSelects 5 (1 / 2) :=
  ((valueAtRisk_iff (1 / 2) (n := 5) (by norm_num)).mpr le_rfl).2.1

/-- With six quantiles a sixth of the selected one is lost. -/
theorem not_varSelects_six : ¬ VarSelects 6 (1 / 2) := by
  rw [varSelects_iff (1 / 2) (by norm_num)]
  norm_num

end ValueAtRisk

/-! ## The mixer -/

/-- What the constructors of `RiskQMixer` and of the policy are given. -/
structure RiskQShape where
  nAgents : ℕ
  nActions : ℕ
  nQuantiles : ℕ
  stateDim : ℕ
  agentKeyDim : ℕ
  nHeads : ℕ
  queryHidden : ℕ
  attentionDim : ℕ
  headHidden : ℕ
  constantHidden : ℕ
  sortQuantiles : Bool
  riskType : RiskType
  riskParam : ℝ
  nActions_pos : 0 < nActions
  attentionDim_pos : 0 < attentionDim

namespace RiskQShape

variable (shape : RiskQShape)

abbrev State : Type := Fin shape.stateDim → ℝ

abbrev Keys : Type := Fin shape.nAgents → Fin shape.agentKeyDim → ℝ

/-- A row of quantiles for each agent. -/
abbrev Quantiles : Type := Fin shape.nAgents → Fin shape.nQuantiles → ℝ

abbrev JointAction : Type := Fin shape.nAgents → Fin shape.nActions

/-- The outputs of the agents' networks. -/
abbrev Flat : Type := Fin shape.nAgents → Fin (shape.nActions * shape.nQuantiles) → ℝ

end RiskQShape

structure RiskQMixer (shape : RiskQShape) where
  queries : Fin shape.nHeads →
    TwoLayer (Fin shape.stateDim) shape.queryHidden (Fin shape.attentionDim)
  keys : Fin shape.nHeads → Linear (Fin shape.agentKeyDim) (Fin shape.attentionDim)
  headWeight : TwoLayer (Fin shape.stateDim) shape.headHidden (Fin shape.nHeads)
  constant : TwoLayer (Fin shape.stateDim) shape.constantHidden (Fin 1)

namespace RiskQMixer

variable {shape : RiskQShape} (mixer : RiskQMixer shape)

noncomputable def attention (states : shape.State) (agentKeys : shape.Keys)
    (head : Fin shape.nHeads) : Fin shape.nAgents → ℝ :=
  let query := (mixer.queries head).apply states
  softmax (fun i => (∑ e, query e * (mixer.keys head).apply (agentKeys i) e)
    / Real.sqrt shape.attentionDim)

noncomputable def coefficients (states : shape.State) (agentKeys : shape.Keys) :
    Fin shape.nAgents → ℝ :=
  fun i => ∑ head, mixer.attention states agentKeys head i * |mixer.headWeight.apply states head|

/-- The coefficients, scaled where a scale is given. -/
noncomputable def scaledCoefficients (states : shape.State) (agentKeys : shape.Keys)
    (coefficientScale : Option (Fin shape.nAgents → ℝ)) : Fin shape.nAgents → ℝ :=
  match coefficientScale with
  | some scale => fun i => mixer.coefficients states agentKeys i * scale i
  | none => mixer.coefficients states agentKeys

noncomputable def forward (agentQuantiles : shape.Quantiles) (states : shape.State)
    (agentKeys : shape.Keys) (coefficientScale : Option (Fin shape.nAgents → ℝ)) :
    Fin shape.nQuantiles → ℝ :=
  let coefficients := mixer.scaledCoefficients states agentKeys coefficientScale
  fun k => ∑ i, agentQuantiles i k * coefficients i + mixer.constant.apply states 0

theorem coefficients_nonneg (states : shape.State) (agentKeys : shape.Keys)
    (i : Fin shape.nAgents) : 0 ≤ mixer.coefficients states agentKeys i := by
  apply Finset.sum_nonneg
  intro head _
  have hattention : 0 ≤ mixer.attention states agentKeys head i := by
    unfold attention
    exact (softmax_pos _ i).le
  exact mul_nonneg hattention (abs_nonneg _)

theorem scaledCoefficients_nonneg (states : shape.State) (agentKeys : shape.Keys)
    {coefficientScale : Option (Fin shape.nAgents → ℝ)}
    (h : ∀ s ∈ coefficientScale, ∀ i, 0 ≤ s i) (i : Fin shape.nAgents) :
    0 ≤ mixer.scaledCoefficients states agentKeys coefficientScale i := by
  cases coefficientScale with
  | none => exact mixer.coefficients_nonneg states agentKeys i
  | some scale => exact mul_nonneg (mixer.coefficients_nonneg states agentKeys i) (h scale rfl i)

/-- Sorted quantiles stay sorted. -/
theorem monotone_forward (states : shape.State) (agentKeys : shape.Keys)
    {coefficientScale : Option (Fin shape.nAgents → ℝ)}
    (h : ∀ s ∈ coefficientScale, ∀ i, 0 ≤ s i) {agentQuantiles : shape.Quantiles}
    (hsorted : ∀ i, Monotone (agentQuantiles i)) :
    Monotone (mixer.forward agentQuantiles states agentKeys coefficientScale) := by
  intro k l hkl
  have hle : ∀ i ∈ Finset.univ,
      agentQuantiles i k * mixer.scaledCoefficients states agentKeys coefficientScale i
        ≤ agentQuantiles i l * mixer.scaledCoefficients states agentKeys coefficientScale i :=
    fun i _ => mul_le_mul_of_nonneg_right (hsorted i hkl)
      (mixer.scaledCoefficients_nonneg states agentKeys h i)
  exact add_le_add (Finset.sum_le_sum hle) le_rfl

/-- Weighing the mixed quantiles is mixing the weighed ones. -/
theorem weighted_forward (weights : Fin shape.nQuantiles → ℝ) (states : shape.State)
    (agentKeys : shape.Keys) (coefficientScale : Option (Fin shape.nAgents → ℝ))
    (agentQuantiles : shape.Quantiles) :
    weighted weights (mixer.forward agentQuantiles states agentKeys coefficientScale)
      = ∑ i, mixer.scaledCoefficients states agentKeys coefficientScale i
          * weighted weights (agentQuantiles i)
        + mixer.constant.apply states 0 * ∑ k, weights k := by
  unfold weighted forward
  simp only [add_mul, Finset.sum_add_distrib, Finset.mul_sum, Finset.sum_mul]
  congr 1
  rw [Finset.sum_comm]
  exact Finset.sum_congr rfl (fun i _ => Finset.sum_congr rfl (fun k _ => by ring))

end RiskQMixer

/-! ## The policy -/

namespace RiskQShape

variable {shape : RiskQShape}

/-- `_to_quantiles`: a row of quantiles for each action, sorted when the configuration asks for
it. -/
noncomputable def toQuantiles (flat : shape.Flat) :
    Fin shape.nAgents → Fin shape.nActions → Fin shape.nQuantiles → ℝ :=
  fun i a =>
    let quantiles := fun k => flat i (finProdFinEquiv (a, k))
    if shape.sortQuantiles then quantiles ∘ Tuple.sort quantiles else quantiles

/-- `_scores_from_output`. -/
noncomputable def scoresFromOutput (output : Fin shape.nQuantiles → ℝ) : Except Error ℝ :=
  distortedExpectation shape.riskType shape.riskParam output

/-- `_gather_action_quantiles`. -/
def gatherActionQuantiles (values : Fin shape.nAgents → Fin shape.nActions →
    Fin shape.nQuantiles → ℝ) (actions : shape.JointAction) : shape.Quantiles :=
  fun i => values i (actions i)

end RiskQShape

end Mate.Rllib
