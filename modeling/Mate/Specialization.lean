import Mate.Responsibilities
import Mate.Rllib.FocusV2

set_option autoImplicit false

/-! # FOCUS-v2 and FOCUS

Where nothing is added to what a camera can reach, the overridden integrals of FOCUS-v2 are those of
FOCUS (`creditFromSigmaPoints_conservative`, `creditFromMcPoints_conservative`). But they lack the
parameters that `_focus_credit_target` of FOCUS passes by now: a belief that is a Gaussian cannot be
integrated. FOCUS-v2 returns the credit of FOCUS exactly where none is (`specializes_iff`).
-/

namespace Mate.Rllib.Focus.V2

open Chunks Fallible

/-! ## What a camera can reach -/

section Visibility

variable (cfg : FocusV2Config) {n : ℕ} {geometry : Geometry n}

/-- Nothing is added to what a camera sees. -/
def Conservative : Prop :=
  cfg.reachableVisibilityEnabled = false ∨ cfg.reachableMode.toLower = "conservative"

/-- No step narrows what a camera sees. -/
structure NonnegSteps : Prop where
  rotation : 0 ≤ cfg.reachableRotationStepDeg
  range : 0 ≤ cfg.reachableRangeStep
  halfAngle : 0 ≤ cfg.reachableHalfAngleStepDeg

/-- The second camera stands where the first one stands and sees as far to all sides. -/
structure Wider (camera camera' : CameraFov) : Prop where
  position : camera'.position = camera.position
  orientation : camera'.orientation = camera.orientation
  sightRange : camera.sightRange ≤ camera'.sightRange
  halfAngle : min camera.halfAngle Real.pi ≤ camera'.halfAngle

/-- The camera with what is added up to a horizon. -/
noncomputable def widened (camera : CameraFov) (h : ℝ) : CameraFov :=
  { camera with
    sightRange := camera.sightRange + h * cfg.reachableRangeStep
    halfAngle := min (camera.halfAngle + h * (cfg.reachableRotationStepDeg * (Real.pi / 180))
      + h * (cfg.reachableHalfAngleStepDeg * (Real.pi / 180))) Real.pi }

variable {cfg}

theorem reachableParams_conservative (h : Conservative cfg) (camera : CameraFov)
    (horizonIndex : ℕ) : reachableParams cfg camera horizonIndex = camera := by
  unfold reachableParams
  rcases h with h | h
  · rw [h]
    rfl
  · dsimp only
    rw [if_pos h]
    split <;> rfl

theorem reachableParams_union (h : ¬ Conservative cfg) (camera : CameraFov) (horizonIndex : ℕ) :
    reachableParams cfg camera horizonIndex = widened cfg camera (horizonIndex + 1) := by
  obtain ⟨henabled, hmode⟩ := not_or.mp h
  rw [Bool.not_eq_false] at henabled
  unfold reachableParams
  dsimp only
  rw [henabled, if_neg (by decide), if_neg hmode]
  rfl

theorem Wider.refl (camera : CameraFov) : Wider camera camera :=
  ⟨rfl, rfl, le_refl _, min_le_left _ _⟩

/-- Later, more can be reached. -/
theorem NonnegSteps.wider (hsteps : NonnegSteps cfg) (camera : CameraFov) {h h' : ℝ}
    (hle : h ≤ h') : Wider (widened cfg camera h) (widened cfg camera h') := by
  have hrange : (0 : ℝ) ≤ cfg.reachableRangeStep := by exact_mod_cast hsteps.range
  have hrotation : (0 : ℝ) ≤ cfg.reachableRotationStepDeg * (Real.pi / 180) :=
    mul_nonneg (by exact_mod_cast hsteps.rotation) (by positivity)
  have hangle : (0 : ℝ) ≤ cfg.reachableHalfAngleStepDeg * (Real.pi / 180) :=
    mul_nonneg (by exact_mod_cast hsteps.halfAngle) (by positivity)
  constructor
  · rfl
  · rfl
  · exact add_le_add_right (mul_le_mul_of_nonneg_right hle hrange) _
  · refine (min_le_left _ _).trans (min_le_min_right _ ?_)
    have hrotated := mul_le_mul_of_nonneg_right hle hrotation
    have hopened := mul_le_mul_of_nonneg_right hle hangle
    linarith

/-- Before the first step nothing is added. -/
theorem Wider.widened_zero (camera : CameraFov) : Wider camera (widened cfg camera 0) := by
  constructor
  · rfl
  · rfl
  · simp [widened]
  · simp [widened]

theorem Wider.trans {a b c : CameraFov} (hab : Wider a b) (hbc : Wider b c) : Wider a c where
  position := hbc.position.trans hab.position
  orientation := hbc.orientation.trans hab.orientation
  sightRange := hab.sightRange.trans hbc.sightRange
  halfAngle := (le_min hab.halfAngle (min_le_right _ _)).trans hbc.halfAngle

/-- **What is reachable** is at least what is seen, and no less at later horizons. -/
theorem NonnegSteps.reachable (hsteps : NonnegSteps cfg) (camera : CameraFov) (k : ℕ) :
    Wider camera (reachableParams cfg camera k) ∧ ∀ k', k ≤ k' →
      Wider (reachableParams cfg camera k) (reachableParams cfg camera k') := by
  by_cases hconservative : Conservative cfg
  · simp only [reachableParams_conservative hconservative]
    exact ⟨Wider.refl _, fun _ _ => Wider.refl _⟩
  · simp only [reachableParams_union hconservative]
    have hpos : (0 : ℝ) ≤ (k : ℝ) + 1 := by positivity
    refine ⟨(Wider.widened_zero camera).trans (hsteps.wider camera hpos), fun k' hle => ?_⟩
    have hcast : (k : ℝ) ≤ k' := by exact_mod_cast hle
    exact hsteps.wider camera (by linarith)

/-! ### Visibility -/

variable (cfg)

/-- The geometry at a horizon. -/
noncomputable def reachableGeometry (geometry : Geometry n) (horizonIndex : ℕ) : Geometry n :=
  { geometry with cameras := fun i => reachableParams cfg (geometry.cameras i) horizonIndex }

theorem pointVisibilityHorizon_eq (geometry : Geometry n) (horizonIndex : ℕ) (i : Fin n)
    (point : ℂ) : pointVisibilityHorizon cfg geometry horizonIndex i point
      = pointVisibility cfg.toFocusConfig (reachableGeometry cfg geometry horizonIndex) i point :=
  rfl

variable {cfg}

theorem reachableGeometry_conservative (h : Conservative cfg) (geometry : Geometry n)
    (horizonIndex : ℕ) : reachableGeometry cfg geometry horizonIndex = geometry := by
  simp only [reachableGeometry, reachableParams_conservative h]

/-- The point is in the sector of the camera. -/
def InSector (cfg : FocusConfig) (camera : CameraFov) (point : ℂ) : Prop :=
  let rel := point - camera.position
  let bearing := Complex.arg rel
  √(rel.re ^ 2 + rel.im ^ 2 + cfg.eps) ≤ camera.sightRange ∧
    |Complex.arg ⟨Real.cos (bearing - camera.orientation), Real.sin (bearing - camera.orientation)⟩|
      ≤ camera.halfAngle

/-- An angle is at most half a turn, so a half angle beyond that is as good as half a turn. -/
theorem Wider.inSector {cfg : FocusConfig} {camera camera' : CameraFov} (h : Wider camera camera')
    {point : ℂ} (hseen : InSector cfg camera point) : InSector cfg camera' point := by
  obtain ⟨hdist, hangle⟩ := hseen
  unfold InSector
  rw [h.position, h.orientation]
  exact ⟨hdist.trans h.sightRange, (le_min hangle (Complex.abs_arg_le_pi _)).trans h.halfAngle⟩

open Classical in
theorem pointVisibility_clear {cfg : FocusConfig} (hclear : geometry.obstacles = []) (i : Fin n)
    (point : ℂ) : pointVisibility cfg geometry i point
      = if InSector cfg (geometry.cameras i) point then 1 else 0 := by
  have hnone : ¬ ∃ obstacle ∈ geometry.obstacles,
      Blocks cfg (geometry.cameras i) point obstacle := by
    simp [hclear]
  unfold pointVisibility
  dsimp only
  rw [if_neg hnone]
  exact if_congr Iff.rfl rfl rfl

/-- Without obstacles, more is visible to a wider camera. -/
theorem pointVisibility_wider {cfg : FocusConfig} {geometry geometry' : Geometry n} {i : Fin n}
    (hclear : geometry.obstacles = []) (hclear' : geometry'.obstacles = [])
    (h : Wider (geometry.cameras i) (geometry'.cameras i)) (point : ℂ) :
    pointVisibility cfg geometry i point ≤ pointVisibility cfg geometry' i point := by
  rw [pointVisibility_clear hclear, pointVisibility_clear hclear']
  by_cases hseen : InSector cfg (geometry.cameras i) point
  · rw [if_pos hseen, if_pos (h.inSector hseen)]
  · rw [if_neg hseen]
    split
    · exact zero_le_one
    · exact le_refl _

/-- **More is visible** at later horizons. -/
theorem NonnegSteps.visibility (hsteps : NonnegSteps cfg) (hclear : geometry.obstacles = [])
    (i : Fin n) (point : ℂ) (k : ℕ) :
    pointVisibility cfg.toFocusConfig geometry i point
        ≤ pointVisibilityHorizon cfg geometry k i point ∧
      ∀ k', k ≤ k' → pointVisibilityHorizon cfg geometry k i point
        ≤ pointVisibilityHorizon cfg geometry k' i point := by
  obtain ⟨hbase, hlater⟩ := hsteps.reachable (geometry.cameras i) k
  simp only [pointVisibilityHorizon_eq]
  refine ⟨pointVisibility_wider hclear ?_ ?_ point, fun k' hle => ?_⟩
  · exact hclear
  · exact hbase
  · refine pointVisibility_wider ?_ ?_ ?_ point
    · exact hclear
    · exact hclear
    · exact hlater k' hle

end Visibility

/-! ## The integrals -/

section Integrals

variable {cfg : FocusV2Config} (h : Conservative cfg) {n J H : ℕ} (geometry : Geometry n)
  (selection : Selection n J)

include h

theorem creditChunkSumHorizon_conservative {S : ℕ} (samples : Fin J → Fin S → ℂ) (k : ℕ)
    (i : Fin n) : creditChunkSumHorizon cfg geometry selection samples k i
      = (creditChunkSum cfg.toFocusConfig geometry selection samples none).camera i := by
  simp only [creditChunkSumHorizon, creditChunkSum, pointVisibilityHorizon_eq,
    reachableGeometry_conservative h, mul_one]
  rfl

/-- **The samples of FOCUS-v2** are integrated as those of FOCUS without weights. -/
theorem creditFromSigmaPoints_conservative {S : ℕ} (samples : Fin H → Fin J → Fin S → ℂ) :
    creditFromSigmaPoints cfg geometry selection samples
      = Focus.creditFromSigmaPoints cfg.toFocusConfig geometry selection samples none := by
  funext i
  refine Finset.sum_congr rfl (fun k _ => Finset.sum_congr rfl (fun c _ => ?_))
  dsimp only
  rw [creditChunkSumHorizon_conservative h, mul_div_assoc]
  rfl

/-- **The draws of FOCUS-v2** are integrated as those of FOCUS. -/
theorem creditFromMcPoints_conservative [Quadrature] (mean std : Fin H → Fin J → ℂ) :
    creditFromMcPoints cfg geometry selection mean std
      = (Focus.creditFromMcPoints cfg.toFocusConfig geometry selection mean std).camera := by
  funext i
  refine Finset.sum_congr rfl (fun k _ => Finset.sum_congr rfl (fun c _ => ?_))
  dsimp only
  rw [creditChunkSumHorizon_conservative h]

end Integrals

/-! ## Calls of the super class -/

section Dispatch

variable [Quadrature] {D H n : ℕ}

/-- With its own methods, the super class asks for the gains of FOCUS. -/
theorem learnedGains_base (cfg : FocusConfig) {ι : Type} (blend : ℝ)
    (belief : Belief ι H cfg.nTargets) (state : ι → Fin D → ℝ)
    (selection : ι → Selection n cfg.nTargets) :
    learnedGains (baseMethods cfg n) blend belief state selection
      = Focus.learnedGains cfg blend belief state selection := by
  cases belief with
  | categorical grid probabilities => rfl
  | gaussian mean std =>
      unfold learnedGains Focus.learnedGains
      dsimp only
      split
      · rfl
      · split
        · refine congrArg (_ >>= ·) (funext (fun sigma => ?_))
          rfl
        · split
          · rfl
          · rfl

/-- **Called on itself**, `_focus_credit_target` of the super class is that of FOCUS. -/
theorem superFocusCreditTarget_base (cfg : FocusConfig) (nActions : ℤ)
    (loss : FocusLoss D H cfg.nTargets) (batch : FocusBatch D n) (updateBeliefEma : Bool) :
    superFocusCreditTarget (baseMethods cfg n) nActions loss batch updateBeliefEma
      = Focus.focusCreditTarget cfg nActions loss batch updateBeliefEma := by
  unfold superFocusCreditTarget Focus.focusCreditTarget
  simp only [learnedGains_base]
  rfl

variable {cfg : FocusV2Config} (nActions : ℤ) (loss : FocusLoss D H cfg.nTargets)
  (batch : FocusBatch D n)

/-- A Gaussian belief is asked for its gains. -/
structure ReachesGaussian (loss : FocusLoss D H cfg.nTargets) (batch : FocusBatch D n) : Prop where
  state : batch.state ≠ none
  nextState : batch.nextState ≠ none
  requiredDim_le : requiredDim n cfg.nTargets ≤ D
  learned : cfg.beliefMode = "learned"
  gaussian : ∃ model, loss.occupancyModel = some (.gaussian model)

/-- Where no Gaussian belief is reached, the overridden methods return what those of FOCUS do. -/
theorem superFocusCreditTarget_congr (hconservative : Conservative cfg)
    (h : ¬ ReachesGaussian loss batch) :
    superFocusCreditTarget (v2Methods cfg n) nActions loss batch true
      = superFocusCreditTarget (baseMethods cfg.toFocusConfig n) nActions loss batch true := by
  obtain ⟨B, T, state, nextState, actions, mask⟩ := batch
  unfold superFocusCreditTarget
  cases state with
  | none => rfl
  | some state =>
      dsimp only
      by_cases hdim : D < requiredDim n cfg.nTargets
      · rw [if_pos hdim, if_pos hdim]
      · rw [if_neg hdim, if_neg hdim]
        by_cases hlearned : cfg.beliefMode = "learned"
        · rw [if_pos hlearned, if_pos hlearned]
          obtain ⟨model, gate⟩ := loss
          cases nextState with
          | none => cases model <;> rfl
          | some nextState =>
              cases model with
              | none => rfl
              | some model =>
                  cases model with
                  | categorical model => rfl
                  | gaussian model =>
                      exact absurd ⟨Option.some_ne_none _, Option.some_ne_none _, not_lt.mp hdim,
                        hlearned, model, rfl⟩ h
        · rw [if_neg hlearned, if_neg hlearned]
          cases nextState with
          | none => rfl
          | some nextState =>
              -- the only overridden method that an oracle calls
              have horacle : ∀ selection, oracleGains (v2Methods cfg n)
                  (fun step : Fin B × Fin T => state step.1 step.2)
                  (fun step => nextState step.1 step.2) selection
                    = oracleGains (baseMethods cfg.toFocusConfig n)
                      (fun step => state step.1 step.2) (fun step => nextState step.1 step.2)
                      selection :=
                fun selection => congrArg Except.ok (funext (fun step =>
                  creditFromSigmaPoints_conservative hconservative _ _ _))
              simp only [horacle]

/-- What has been computed of a Gaussian belief. -/
theorem gains_of_reaches {methods : CreditMethods cfg.toFocusConfig n}
    (h : ReachesGaussian loss batch)
    {r : CreditTarget batch.B batch.T n cfg.nTargets × FocusLoss D H cfg.nTargets}
    (hok : superFocusCreditTarget methods nActions loss batch true = .ok r) :
    checkStacks n cfg.nTargets = .ok () ∧
      ∃ selection, targetSelections cfg.toFocusConfig nActions
          (fun step : Fin batch.B × Fin batch.T => batch.actions step.1 step.2) = .ok selection ∧
        ∃ blend mean std state gains, learnedGains (D := D) (H := H) methods blend
          (.gaussian mean std) state selection = .ok gains := by
  obtain ⟨B, T, state, nextState, actions, mask⟩ := batch
  obtain ⟨model, gate⟩ := loss
  obtain ⟨hstate, hnext, hdim, hlearned, gaussian, hgaussian⟩ := h
  obtain rfl : model = some (.gaussian gaussian) := hgaussian
  cases state with
  | none => exact absurd rfl hstate
  | some state =>
      cases nextState with
      | none => exact absurd rfl hnext
      | some nextState =>
          unfold superFocusCreditTarget at hok
          dsimp only at hok
          rw [if_neg (not_lt.mpr hdim), if_pos hlearned] at hok
          obtain ⟨_, hstacks, hok⟩ := bind_eq_ok.mp hok
          obtain ⟨selection, hselection, hok⟩ := bind_eq_ok.mp hok
          obtain ⟨gains, hgains, -⟩ := bind_eq_ok.mp hok
          exact ⟨hstacks, selection, hselection, _, _, _, _, gains, hgains⟩

/-- **FOCUS-v2 raises** for a Gaussian belief. -/
theorem not_ok_of_reaches (hmode : cfg.integralMode = "MC" ∨ cfg.integralMode = "sigma")
    (h : ReachesGaussian loss batch)
    (r : CreditTarget batch.B batch.T n cfg.nTargets × FocusLoss D H cfg.nTargets) :
    superFocusCreditTarget (v2Methods cfg n) nActions loss batch true ≠ .ok r := by
  intro hok
  obtain ⟨-, selection, -, blend, mean, std, state, gains, hgains⟩ :=
    gains_of_reaches nActions loss batch h hok
  unfold learnedGains at hgains
  dsimp only at hgains
  rcases hmode with hmode | hmode
  · rw [hmode, if_neg (by decide), if_neg (by decide), if_pos rfl] at hgains
    cases hgains
  · rw [hmode, if_neg (by decide), if_pos rfl] at hgains
    obtain ⟨sigma, -, hgains⟩ := bind_eq_ok.mp hgains
    obtain ⟨g, hg, -⟩ := bind_eq_ok.mp hgains
    cases hg

/-- A Gaussian belief is integrated: there is something to integrate, the actions can be decoded,
and the configuration names an integral. -/
structure IntegratesGaussian (nActions : ℤ) (loss : FocusLoss D H cfg.nTargets)
    (batch : FocusBatch D n) : Prop extends ReachesGaussian loss batch where
  agents_pos : 0 < n
  targets_pos : 0 < cfg.nTargets
  decodes : cfg.useActionSelection = true → nActions = 2 ^ cfg.nTargets → cfg.nTargets ≤ 63
  integral : KnownIntegral cfg.toFocusConfig

theorem knownIntegral_of_sigmaPoints {cfg : FocusConfig} (hmode : cfg.integralMode = "sigma")
    {ι : Type} {J : ℕ} {mean std : ι → Fin H → Fin J → ℂ} {sigma : ι → SigmaPoints H J}
    (h : sigmaPoints cfg mean std = .ok sigma) : KnownIntegral cfg := by
  unfold sigmaPoints at h
  dsimp only at h
  split at h
  · rename_i hmethod
    exact .legacy hmode (by simpa using hmethod)
  · split at h
    · rename_i hmethod
      split at h
      · cases h
      · rename_i horder
        exact .gaussHermite hmode (by simpa using hmethod) (not_lt.mp horder)
    · cases h

/-- **Where FOCUS returns** for a Gaussian belief, it has integrated it. -/
theorem integratesGaussian_of_ok (hmode : cfg.integralMode = "MC" ∨ cfg.integralMode = "sigma")
    (h : ReachesGaussian loss batch)
    {r : CreditTarget batch.B batch.T n cfg.nTargets × FocusLoss D H cfg.nTargets}
    (hok : Focus.focusCreditTarget cfg.toFocusConfig nActions loss batch true = .ok r) :
    IntegratesGaussian nActions loss batch := by
  rw [← superFocusCreditTarget_base] at hok
  obtain ⟨hstacks, selection, hselection, blend, mean, std, state, gains, hgains⟩ :=
    gains_of_reaches nActions loss batch h hok
  obtain ⟨hn, hpos⟩ := checkStacks_pos n cfg.nTargets _ hstacks
  refine ⟨h, hn, hpos, fun huse hactions => ?_, ?_⟩
  · obtain ⟨bits, hbits, -⟩ := bind_eq_ok.mp hselection
    rw [huse, hactions] at hbits
    exact le_of_decodeTargetSelection hbits
  · rcases hmode with hmode | hmode
    · exact .mc hmode
    · unfold learnedGains at hgains
      dsimp only at hgains
      rw [hmode, if_neg (by decide), if_pos rfl] at hgains
      obtain ⟨sigma, hsigma, -⟩ := bind_eq_ok.mp hgains
      exact knownIntegral_of_sigmaPoints hmode hsigma

theorem IntegratesGaussian.returns (h : IntegratesGaussian nActions loss batch) :
    Returns (Focus.focusCreditTarget cfg.toFocusConfig nActions loss batch true) (fun _ => True) :=
  focusCreditTarget_returns cfg.toFocusConfig (Or.inr ⟨h.learned, Or.inl h.integral⟩) nActions batch
    true h.agents_pos h.targets_pos h.decodes h.nextState

/-! ## The credit of FOCUS -/

/-- The same flags, total credit and belief loss. -/
structure SameCredit {B T J : ℕ} (target target' : CreditTarget B T n J) : Prop where
  valid : ∀ b t, (target'.steps b t).valid = (target.steps b t).valid
  totalG : ∀ b t, (target'.steps b t).totalG = (target.steps b t).totalG
  beliefLoss : target'.supervision.beliefLoss = target.supervision.beliefLoss

/-- Where FOCUS returns a target, FOCUS-v2 returns one with the same credit. -/
def Specializes : Prop :=
  ∀ target loss', Focus.focusCreditTarget cfg.toFocusConfig nActions loss batch true
      = .ok (target, loss') →
    ∃ target' loss'', focusCreditTarget cfg nActions loss batch = .ok (target', loss'') ∧
      SameCredit target target'

theorem specializes_of_not_reaches (hconservative : Conservative cfg)
    (h : ¬ ReachesGaussian loss batch) : Specializes nActions loss batch := by
  intro target loss' hok
  have hsuper : superFocusCreditTarget (v2Methods cfg n) nActions loss batch true
      = .ok (target, loss') := by
    rw [superFocusCreditTarget_congr nActions loss batch hconservative h,
      superFocusCreditTarget_base, hok]
  refine ⟨_, _, bind_eq_ok.mpr ⟨_, hsuper, rfl⟩, ⟨fun b t => rfl, fun b t => rfl, rfl⟩⟩

theorem not_specializes_of_integrates
    (hmode : cfg.integralMode = "MC" ∨ cfg.integralMode = "sigma")
    (h : IntegratesGaussian nActions loss batch) : ¬ Specializes nActions loss batch := by
  intro hspecializes
  obtain ⟨⟨target, loss'⟩, hok, -⟩ := h.returns
  obtain ⟨target', loss'', hok', -⟩ := hspecializes target loss' hok
  obtain ⟨r, hsuper, -⟩ := bind_eq_ok.mp hok'
  exact not_ok_of_reaches nActions loss batch hmode h.toReachesGaussian r hsuper

/-- **When FOCUS-v2 returns the credit of FOCUS**, where nothing is added to what can be reached: if
and only if no Gaussian belief is integrated. The overridden integrals are not to blame: without the
arguments that they lack they are those of FOCUS. Where something is added, it is only ever more
that is visible. -/
theorem specializes_iff (cfg : FocusV2Config) :
    (∀ {D H n : ℕ} (nActions : ℤ) (loss : FocusLoss D H cfg.nTargets) (batch : FocusBatch D n),
      (cfg.integralMode = "MC" ∨ cfg.integralMode = "sigma") → Conservative cfg →
      (Specializes nActions loss batch ↔ ¬ IntegratesGaussian nActions loss batch)) ∧
    (Conservative cfg → ∀ {n J H S : ℕ} (geometry : Geometry n) (selection : Selection n J),
      (∀ samples : Fin H → Fin J → Fin S → ℂ, creditFromSigmaPoints cfg geometry selection samples
        = Focus.creditFromSigmaPoints cfg.toFocusConfig geometry selection samples none) ∧
      ∀ mean std : Fin H → Fin J → ℂ, creditFromMcPoints cfg geometry selection mean std
        = (Focus.creditFromMcPoints cfg.toFocusConfig geometry selection mean std).camera) ∧
    (NonnegSteps cfg → ∀ {n : ℕ} (geometry : Geometry n), geometry.obstacles = [] →
      ∀ (i : Fin n) (point : ℂ) (k : ℕ),
        pointVisibility cfg.toFocusConfig geometry i point
            ≤ pointVisibilityHorizon cfg geometry k i point ∧
          ∀ k', k ≤ k' → pointVisibilityHorizon cfg geometry k i point
            ≤ pointVisibilityHorizon cfg geometry k' i point) := by
  refine ⟨fun nActions loss batch hmode hconservative => ?_, fun hconservative => ?_,
    fun hsteps n geometry hclear => hsteps.visibility hclear⟩
  · constructor
    · exact fun hspecializes h =>
        not_specializes_of_integrates nActions loss batch hmode h hspecializes
    · intro h target loss' hok
      have hreaches : ¬ ReachesGaussian loss batch := fun hreaches =>
        h (integratesGaussian_of_ok nActions loss batch hmode hreaches hok)
      exact specializes_of_not_reaches nActions loss batch hconservative hreaches target loss' hok
  · intro n J H S geometry selection
    exact ⟨creditFromSigmaPoints_conservative hconservative geometry selection,
      creditFromMcPoints_conservative hconservative geometry selection⟩

end Dispatch

/-- A camera, a target and a Gaussian belief: FOCUS integrates it with draws, and FOCUS-v2 calls its
integral with an argument that it does not have. -/
theorem not_specializes_gaussian :
    let _ := oneNode
    let cfg : FocusV2Config := { nTargets := 1, reachableVisibilityEnabled := false }
    let loss : FocusLoss (requiredDim 1 1) 1 1 :=
      ⟨some (.gaussian ⟨⟨none, true, fun _ _ _ _ => 0⟩, 1, 1⟩), FocusGate.init⟩
    let batch : FocusBatch (requiredDim 1 1) 1 :=
      ⟨1, 1, some (fun _ _ _ => 0), some (fun _ _ _ => 0), fun _ _ _ => 0, fun _ _ => 1⟩
    (∃ r, Focus.focusCreditTarget cfg.toFocusConfig 2 loss batch true = .ok r) ∧
      focusCreditTarget cfg 2 loss batch = .error (.typeError
        "_credit_from_mc_points() got an unexpected keyword argument 'return_pair_gains'") := by
  intro _ cfg loss batch
  have h : @IntegratesGaussian _ _ _ cfg 2 loss batch := by
    refine ⟨⟨?_, ?_, ?_, rfl, _, rfl⟩, Nat.one_pos, Nat.one_pos, fun _ _ => ?_, .mc rfl⟩
    · exact Option.some_ne_none _
    · exact Option.some_ne_none _
    · exact le_refl _
    · show 1 ≤ 63
      omega
  obtain ⟨r, hr, -⟩ := h.returns
  exact ⟨⟨r, hr⟩, rfl⟩

end Mate.Rllib.Focus.V2
