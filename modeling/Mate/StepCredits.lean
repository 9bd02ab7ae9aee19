import Mate.PaddedBeliefs

set_option autoImplicit false

/-! # Which rows the credit of a step depends on

The estimator of FOCUS treats all steps of a batch alike: the steps of a batch may be taken in
another arrangement, with some left out, as long as the belief forecasts the same for them
(`focusCreditTarget_reindex`). What the belief forecasts for a step depends on the states of the
sequence up to it, and with a network that looks at one state on this state only, unless the
normalizer learns from the batch.
-/

namespace Mate.Rllib.Focus

open Fallible Nets

/-! ## Arrangements -/

section Arrangements

variable {D H J n : ℕ}

/-- The batch whose steps are those at `f`. -/
def FocusBatch.reindex (batch : FocusBatch D n) {B T : ℕ}
    (f : Fin B × Fin T → Fin batch.B × Fin batch.T) : FocusBatch D n where
  B := B
  T := T
  state := batch.state.map (fun x b t => x (f (b, t)).1 (f (b, t)).2)
  nextState := batch.nextState.map (fun x b t => x (f (b, t)).1 (f (b, t)).2)
  actions := fun b t => batch.actions (f (b, t)).1 (f (b, t)).2
  mask := fun b t => batch.mask (f (b, t)).1 (f (b, t)).2

def Belief.reindex {ι κ : Type} (f : κ → ι) : Belief ι H J → Belief κ H J
  | .gaussian mean std => .gaussian (fun step => mean (f step)) (fun step => std (f step))
  | .categorical grid probabilities => .categorical grid (fun step => probabilities (f step))

/-- The model forecasts the same for the steps at `f`. -/
def SameForecast (n : ℕ) {B T B' T' : ℕ} (model : OccupancyModel D H J)
    (state : Fin B → Fin T → Fin D → ℝ) (f : Fin B' × Fin T' → Fin B × Fin T) : Prop :=
  let state' := fun b t => state (f (b, t)).1 (f (b, t)).2
  (model.observe state').forecast n state' = ((model.observe state).forecast n state).reindex f

end Arrangements

/-! ## Selections and gains -/

section Steps

variable (cfg : FocusConfig) {D H n : ℕ} {ι κ : Type} (f : κ → ι)

/-- The entries of tensors at `f k`. -/
theorem map_apply_reindex (k : κ) {xs : List (ι → ℤ)} {xs' : List (κ → ℤ)}
    (h : List.Forall₂ (fun x x' => x' = fun k => x (f k)) xs xs') :
    xs'.map (fun x' => x' k) = xs.map (fun x => x (f k)) := by
  induction h with
  | nil => rfl
  | cons hx _ ih => rw [List.map_cons, List.map_cons, hx, ih]

theorem decodeTargetSelection_reindex (useActionSelection : Bool) (nActions : ℤ) (actions : ι → ℤ)
    (nTargets : ℕ) :
    Alike (fun bits bits' => bits' = bits.map (fun x k => x (f k)))
      (decodeTargetSelection useActionSelection nActions actions nTargets)
      (decodeTargetSelection useActionSelection nActions (fun k => actions (f k)) nTargets) := by
  unfold decodeTargetSelection
  split
  · exact rfl
  · split
    · exact rfl
    · -- one target after the other, and then the stack of them
      refine Alike.bind (R := List.Forall₂ (fun x x' => x' = fun k => x (f k))) ?_ ?_
      · refine Alike.mapM (fun j _ => ?_)
        refine Alike.bind (R := fun x x' => x' = fun k => x (f k)) ?_ ?_
        · unfold torchFloorDivide
          split
          · exact rfl
          · exact rfl
        · rintro quotient _ rfl
          exact rfl
      · intro bits bits' hbits
        refine Alike.bind (R := fun x x' => x' = fun k => x (f k)) ?_ ?_
        · unfold torchStack
          cases hbits with
          | nil => exact rfl
          | cons hx hrest =>
              exact funext (fun k => map_apply_reindex f k (List.Forall₂.cons hx hrest))
        · rintro selection _ rfl
          exact rfl

theorem targetSelections_reindex (nActions : ℤ) (actions : ι → Fin n → ℤ) :
    Alike (fun selection selection' => selection' = fun k => selection (f k))
      (targetSelections cfg nActions actions)
      (targetSelections cfg nActions (fun k => actions (f k))) := by
  unfold targetSelections
  refine (decodeTargetSelection_reindex (fun k : κ × Fin n => (f k.1, k.2)) cfg.useActionSelection
    nActions (fun k : ι × Fin n => actions k.1 k.2) cfg.nTargets).bind ?_
  rintro bits _ rfl
  cases bits with
  | none => exact rfl
  | some bits => exact rfl

variable [Quadrature]

theorem learnedGains_reindex (blend : ℝ) (belief : Belief ι H cfg.nTargets) (state : ι → Fin D → ℝ)
    (selection : ι → Selection n cfg.nTargets) :
    Alike (fun g g' => g' = fun k => g (f k)) (learnedGains cfg blend belief state selection)
      (learnedGains cfg blend (belief.reindex f) (fun k => state (f k))
        (fun k => selection (f k))) := by
  unfold learnedGains
  cases belief with
  | categorical grid probabilities => exact rfl
  | gaussian mean std =>
      dsimp only [Belief.reindex]
      by_cases hgrid : cfg.integralMode = "grid"
      · rw [if_pos hgrid, if_pos hgrid]
        unfold creditFromGrid
        split
        · exact rfl
        · exact rfl
      · rw [if_neg hgrid, if_neg hgrid]
        by_cases hsigma : cfg.integralMode = "sigma"
        · rw [if_pos hsigma, if_pos hsigma]
          refine Alike.bind (R := fun sigma sigma' => sigma' = fun k => sigma (f k)) ?_ ?_
          · unfold sigmaPoints
            dsimp only
            split
            · exact rfl
            · split
              · split
                · exact rfl
                · exact rfl
              · exact rfl
          · rintro sigma _ rfl
            exact rfl
        · rw [if_neg hsigma, if_neg hsigma]
          split
          · exact rfl
          · exact rfl

/-! ## The target -/

/-- **The steps of a batch are treated alike.** -/
theorem focusCreditTarget_reindex (nActions : ℤ) (loss : FocusLoss D H cfg.nTargets)
    (batch : FocusBatch D n) (updateBeliefEma : Bool) {B T : ℕ}
    (f : Fin B × Fin T → Fin batch.B × Fin batch.T)
    (hforecast : ∀ model state, loss.occupancyModel = some model → batch.state = some state →
      SameForecast n model state f) :
    Alike (fun r r' => ∀ b t, r'.1.steps b t = r.1.steps (f (b, t)).1 (f (b, t)).2)
      (focusCreditTarget cfg nActions loss batch updateBeliefEma)
      (focusCreditTarget cfg nActions loss (batch.reindex f) updateBeliefEma) := by
  -- uniform weights are the same at every step
  have huniform : Alike (fun (r : CreditTarget batch.B batch.T n cfg.nTargets × _)
        (r' : CreditTarget B T n cfg.nTargets × _) =>
        ∀ b t, r'.1.steps b t = r.1.steps (f (b, t)).1 (f (b, t)).2)
      (do return (← uniformTarget batch.B batch.T n cfg.nTargets, loss))
      (do return (← uniformTarget B T n cfg.nTargets, loss)) := by
    unfold uniformTarget
    split
    · exact rfl
    · exact fun b t => rfl
  unfold focusCreditTarget FocusBatch.reindex
  obtain ⟨B₀, T₀, state, nextState, actions, mask⟩ := batch
  dsimp only at f hforecast huniform ⊢
  cases state with
  | none => exact huniform
  | some state =>
      dsimp only [Option.map_some]
      by_cases hdim : D < requiredDim n cfg.nTargets
      · rw [if_pos hdim, if_pos hdim]
        exact huniform
      · rw [if_neg hdim, if_neg hdim]
        by_cases hlearned : cfg.beliefMode = "learned"
        · rw [if_pos hlearned, if_pos hlearned]
          cases hmodel : loss.occupancyModel with
          | none => exact huniform
          | some model =>
              cases nextState with
              | none => exact huniform
              | some nextState =>
                  dsimp only [Option.map_some]
                  -- the forecast of the model is the only thing that looks beyond one step
                  have hsame := hforecast model state hmodel rfl
                  refine Alike.bind (R := Eq) (Alike.of_eq (fun _ => rfl) rfl) (fun _ _ _ => ?_)
                  refine (targetSelections_reindex cfg f nActions
                    (fun step : Fin B₀ × Fin T₀ => actions step.1 step.2)).bind ?_
                  rintro selection _ rfl
                  refine Alike.bind (R := fun g g' => g' = fun k => g (f k)) ?_ ?_
                  · rw [hsame]
                    exact learnedGains_reindex cfg f _ _ (fun step => state step.1 step.2) selection
                  · rintro g _ rfl
                    exact fun b t => rfl
        · rw [if_neg hlearned, if_neg hlearned]
          split
          · cases nextState with
            | none => exact rfl
            | some nextState =>
                dsimp only [Option.map_some]
                refine Alike.bind (R := Eq) (Alike.of_eq (fun _ => rfl) rfl) (fun _ _ _ => ?_)
                refine (targetSelections_reindex cfg f nActions
                  (fun step : Fin B₀ × Fin T₀ => actions step.1 step.2)).bind ?_
                rintro selection _ rfl
                exact fun b t => rfl
          · exact rfl

end Steps

/-! ## Forecasts -/

section Forecasts

variable {D H J B T B' T' : ℕ}

/-- A network that looks at one state gives the same output for it in every batch. -/
theorem output_rowWise {O : ℕ} {net : BeliefNet D H J O} (h : RowWise net.net)
    (state : Fin T → Fin D → ℝ) (state' : Fin T' → Fin D → ℝ) {t : Fin T} {t' : Fin T'}
    (hrow : state t = state' t') : net.output state t = net.output state' t' := by
  unfold BeliefNet.output
  rw [List.ofFn_succ', List.ofFn_succ', List.concat_eq_append, List.concat_eq_append]
  have hlast : net.features (state t) = net.features (state' t') := by rw [hrow]
  calc net.net (List.ofFn (fun k : Fin t => net.features (state ⟨k, by omega⟩))
          ++ [net.features (state t)])
      = net.net (List.ofFn (fun k : Fin t' => net.features (state' ⟨k, by omega⟩))
          ++ [net.features (state t)]) := h _ _ _
    _ = _ := by
        rw [hlast]
        rfl

/-- One state at a time, the forecasts do not depend on what else is in the batch. -/
theorem sameForecast_rowWise {model : OccupancyModel D H J} (hscale : model.learnsScale = false)
    (hrow : model.RowWise) (n : ℕ) (state : Fin B → Fin T → Fin D → ℝ)
    (f : Fin B' × Fin T' → Fin B × Fin T) : SameForecast n model state f := by
  unfold SameForecast
  dsimp only
  rw [observe_eq hscale, observe_eq hscale]
  cases model with
  | gaussian model =>
      have hout : ∀ step : Fin B' × Fin T',
          model.beliefNet.output (fun t => state (f (step.1, t)).1 (f (step.1, t)).2) step.2
            = model.beliefNet.output (state (f step).1) (f step).2 :=
        fun step => output_rowWise hrow _ _ rfl
      simp only [OccupancyModel.forecast, Belief.reindex, hout]
  | categorical model =>
      have hout : ∀ step : Fin B' × Fin T',
          model.beliefNet.output (fun t => state (f (step.1, t)).1 (f (step.1, t)).2) step.2
            = model.beliefNet.output (state (f step).1) (f step).2 :=
        fun step => output_rowWise hrow _ _ rfl
      simp only [OccupancyModel.forecast, Belief.reindex, hout]

/-- The first steps of all sequences. -/
def firstSteps (B : ℕ) (h : T' ≤ T) (step : Fin B × Fin T') : Fin B × Fin T :=
  (step.1, Fin.castLE h step.2)

/-- The forecasts for the first steps do not depend on what comes after them. -/
theorem sameForecast_firstSteps {model : OccupancyModel D H J} (hscale : model.learnsScale = false)
    (n : ℕ) (state : Fin B → Fin T → Fin D → ℝ) (h : T' ≤ T) :
    SameForecast n model state (firstSteps B h) := by
  unfold SameForecast
  dsimp only
  rw [observe_eq hscale, observe_eq hscale]
  cases model with
  | gaussian model => rfl
  | categorical model => rfl

end Forecasts

end Mate.Rllib.Focus
