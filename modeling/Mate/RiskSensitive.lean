import Mate.Rllib.RiskQ

set_option autoImplicit false

/-! # Risk-sensitive Individual-Global-Max

RiskQ mixes quantiles with coefficients that do not depend on the actions. A distorted expectation
is linear in the quantiles, so the risk of the mixture is the mixture of the agents' risks, and the
agents' own best actions together are a best joint action.
-/

namespace Mate.Rllib.RiskQMixer

open Nets Mixing

variable {shape : RiskQShape} (mixer : RiskQMixer shape)

/-- The risk of mixed quantiles is affine in the risks of the agents. -/
theorem risk_forward {kind : RiskType} {riskParam : ℝ}
    (h : Admissible shape.nQuantiles kind riskParam) (states : shape.State)
    (agentKeys : shape.Keys) (coefficientScale : Option (Fin shape.nAgents → ℝ)) :
    ∃ (risk : (Fin shape.nQuantiles → ℝ) → ℝ) (c : ℝ),
      (∀ quantiles, distortedExpectation kind riskParam quantiles = .ok (risk quantiles))
      ∧ ∀ agentQuantiles : shape.Quantiles,
        risk (mixer.forward agentQuantiles states agentKeys coefficientScale)
          = ∑ i, mixer.scaledCoefficients states agentKeys coefficientScale i
            * risk (agentQuantiles i) + c := by
  obtain ⟨weights, hweights⟩ := distortedExpectation_eq h
  exact ⟨weighted weights, mixer.constant.apply states 0 * ∑ k, weights k, hweights,
    mixer.weighted_forward weights states agentKeys coefficientScale⟩

/-- Non-negative coefficients make an affine mixture monotone. -/
theorem monotone_affine {n : ℕ} {k : Fin n → ℝ} (hk : ∀ i, 0 ≤ k i) (c : ℝ) :
    Monotone (fun u : Fin n → ℝ => ∑ i, k i * u i + c) := by
  intro u u' hu
  have hle : ∀ i ∈ Finset.univ, k i * u i ≤ k i * u' i :=
    fun i _ => mul_le_mul_of_nonneg_left (hu i) (hk i)
  exact add_le_add (Finset.sum_le_sum hle) le_rfl

/-- **Risk-sensitive Individual-Global-Max.** The risk of the joint quantiles is a combination of
the agents' risks with non-negative coefficients and a constant, none of which depends on the
actions; so a joint action of risk-greedy available actions has the largest joint risk value; and
sorted quantiles are mixed to sorted ones. -/
theorem riskQ_igm (shape : RiskQShape) (mixer : RiskQMixer shape)
    (hadmissible : Admissible shape.nQuantiles shape.riskType shape.riskParam)
    (states : shape.State) (agentKeys : shape.Keys)
    (coefficientScale : Option (Fin shape.nAgents → ℝ))
    (hscale : ∀ s ∈ coefficientScale, ∀ i, 0 ≤ s i) :
    (∃ (k : Fin shape.nAgents → ℝ) (c : ℝ), (∀ i, 0 ≤ k i)
      ∧ ∀ (values : Fin shape.nAgents → Fin shape.nActions → Fin shape.nQuantiles → ℝ)
          (actions : shape.JointAction), ∃ (risks : Fin shape.nAgents → ℝ) (joint : ℝ),
        (∀ i, RiskQShape.scoresFromOutput (values i (actions i)) = .ok (risks i))
        ∧ RiskQShape.scoresFromOutput (mixer.forward
            (RiskQShape.gatherActionQuantiles values actions) states agentKeys coefficientScale)
          = .ok joint
        ∧ joint = ∑ i, k i * risks i + c)
    ∧ (∀ (available : Fin shape.nAgents → Fin shape.nActions → Bool) (flat : shape.Flat),
      (∀ i, ∃ a, available i a = true) →
      ∃ (scores : Fin shape.nAgents → Fin shape.nActions → ℝ) (joint : shape.JointAction → ℝ),
        (∀ i a, RiskQShape.scoresFromOutput (RiskQShape.toQuantiles flat i a) = .ok (scores i a))
        ∧ (∀ actions, RiskQShape.scoresFromOutput (mixer.forward
            (RiskQShape.gatherActionQuantiles (RiskQShape.toQuantiles flat) actions) states
            agentKeys coefficientScale) = .ok (joint actions))
        ∧ Igm (fun i => {a | available i a = true}) scores joint
        ∧ IsMaxOn joint {actions | Allowed (fun i => {a | available i a = true}) actions}
            (fun i => maskedArgmax shape.nActions_pos (available i) (scores i)))
    ∧ ∀ agentQuantiles : shape.Quantiles, (∀ i, Monotone (agentQuantiles i)) →
      Monotone (mixer.forward agentQuantiles states agentKeys coefficientScale) := by
  -- the risk is affine in what the agents contribute
  obtain ⟨risk, c, hrisk, hjoint⟩ := mixer.risk_forward hadmissible states agentKeys coefficientScale
  have hk := mixer.scaledCoefficients_nonneg states agentKeys hscale
  refine ⟨⟨_, c, hk, fun values actions => ?_⟩, fun available flat havailable => ?_, ?_⟩
  · exact ⟨fun i => risk (values i (actions i)), _, fun i => hrisk _, hrisk _, hjoint _⟩
  · have hmonotone := Igm.of_monotone (fun i => {a | available i a = true})
      (fun i a => risk (RiskQShape.toQuantiles flat i a)) (monotone_affine hk c)
    have higm : Igm (fun i => {a | available i a = true})
        (fun i a => risk (RiskQShape.toQuantiles flat i a)) (fun actions => risk (mixer.forward
          (RiskQShape.gatherActionQuantiles (RiskQShape.toQuantiles flat) actions) states
          agentKeys coefficientScale)) := by
      intro a ha b hb
      show risk _ ≤ risk _
      rw [hjoint, hjoint]
      exact hmonotone a ha hb
    exact ⟨_, _, fun i a => hrisk _, fun actions => hrisk _, higm,
      higm _ (greedy_maskedArgmax shape.nActions_pos havailable _)⟩
  · exact fun agentQuantiles hsorted =>
      mixer.monotone_forward states agentKeys hscale hsorted

/-- Two agents with two actions and two quantiles, which they judge by Wang's risk measure. -/
noncomputable def riskAverse : RiskQShape where
  nAgents := 2
  nActions := 2
  nQuantiles := 2
  stateDim := 1
  agentKeyDim := 1
  nHeads := 1
  queryHidden := 1
  attentionDim := 1
  headHidden := 1
  constantHidden := 1
  sortQuantiles := true
  riskType := .wang
  riskParam := 0.75
  nActions_pos := Nat.two_pos
  attentionDim_pos := Nat.one_pos

theorem riskQ_igm_riskAverse :
    Monotone ((⟨fun _ => ⟨⟨0, 0⟩, ⟨0, 0⟩⟩, fun _ => ⟨0, 0⟩, ⟨⟨0, 0⟩, ⟨0, 0⟩⟩,
        ⟨⟨0, 0⟩, ⟨0, 0⟩⟩⟩ : RiskQMixer riskAverse).forward (fun _ _ => 0) (fun _ => 0)
      (fun _ _ => 0) (some (fun _ => 1))) := by
  refine (riskQ_igm riskAverse _ trivial _ _ _ ?_).2.2 _ (fun i => monotone_const)
  rintro s hs i
  rw [Option.mem_some_iff.mp hs.symm]
  exact zero_le_one

end Mate.Rllib.RiskQMixer
