import Mate.TrajectoryJoin
import Mathlib.Analysis.SpecialFunctions.Artanh

set_option autoImplicit false

/-! # What is written next to the rows of a trajectory

The engine is called once for all joint rows. What it says of the own agent is written next to the
rows that it was called for (`addFocusToTrajectory_joined`). The gains of a row are those of the
row itself, as far as its belief is: a recurrent one has seen the joint rows before it. The
confidence is another matter, since it compares the loss of a row with the mean over all rows, and
with it goes the weight.
-/

namespace Mate.Rllib.Focus

open Dicts Fallible Layout Nets

/-! ## One call of the engine -/

section Engine

variable (cfg : FocusConfig) {D H n A count : ℕ} [Quadrature]

/-- The engine, called for joint rows. -/
noncomputable def callEngine (A : ℕ) (engine : FocusLoss D H cfg.nTargets)
    (rows : List (MatchedRow count D n)) :
    Except Error (FocusOutput 1 rows.length n cfg.nTargets × FocusLoss D H cfg.nTargets) :=
  FocusResponsibilityEngine.forward cfg A engine (focusBatch rows) false

/-- What the engine says of the own agent at step `k`, without the confidence. -/
structure OwnCredit {K : ℕ} (focus : FocusOutput 1 K n cfg.nTargets) (k : Fin K) (own : Fin n)
    (row : FocusRow A) : Prop where
  rho : row.rho = focus.rho 0 k own
  gain : row.gain = focus.gains 0 k own
  valid : row.valid = focus.valid 0 k
  totalGain : row.totalGain = focus.totalGain 0 k
  rhoEntropy : row.rhoEntropy
    = -∑ i, focus.rho 0 k i * Real.log (focus.rho 0 k i + cfg.eps)
  actionGains : ∀ a, row.actionGains a = match focus.pairGains 0 k with
    | some pairGains =>
      ∑ j : Fin cfg.nTargets, pairGains own j * ((targetBits cfg.nTargets a).getD j 0 : ℤ)
    | none => 0

/-- Two outputs agree at a step, the confidence apart. -/
structure SameStep {K K' : ℕ} (focus : FocusOutput 1 K n cfg.nTargets) (k : Fin K)
    (focus' : FocusOutput 1 K' n cfg.nTargets) (k' : Fin K') : Prop where
  rho : focus'.rho 0 k' = focus.rho 0 k
  gains : focus'.gains 0 k' = focus.gains 0 k
  pairGains : focus'.pairGains 0 k' = focus.pairGains 0 k
  totalGain : focus'.totalGain 0 k' = focus.totalGain 0 k
  valid : focus'.valid 0 k' = focus.valid 0 k

variable {cfg}

omit [Quadrature] in
theorem OwnCredit.transfer {K K' : ℕ} {focus : FocusOutput 1 K n cfg.nTargets} {k : Fin K}
    {focus' : FocusOutput 1 K' n cfg.nTargets} {k' : Fin K'} {own : Fin n} {row : FocusRow A}
    (h : OwnCredit cfg focus k own row) (hsame : SameStep cfg focus k focus' k') :
    OwnCredit cfg focus' k' own row where
  rho := by rw [hsame.rho, h.rho]
  gain := by rw [hsame.gains, h.gain]
  valid := by rw [hsame.valid, h.valid]
  totalGain := by rw [hsame.totalGain, h.totalGain]
  rhoEntropy := by rw [hsame.rho, h.rhoEntropy]
  actionGains := fun a => by rw [hsame.pairGains, h.actionGains]

/-- Rows for which the belief forecasts the same get the same credit. -/
theorem callEngine_reindex (A : ℕ) (engine : FocusLoss D H cfg.nTargets)
    {rows rows' : List (MatchedRow count D n)} (place : Fin rows'.length → Fin rows.length)
    (h : ∀ k, rows'.get k = rows.get (place k))
    (hforecast : ∀ model, engine.occupancyModel = some model →
      ∀ state : Fin 1 → Fin rows.length → Fin D → ℝ,
        SameForecast n model state
          (fun step : Fin 1 × Fin rows'.length => (step.1, place step.2))) :
    Alike (fun p p' => ∀ k, SameStep cfg p.1 (place k) p'.1 k) (callEngine cfg A engine rows)
      (callEngine cfg A engine rows') := by
  have hbatch : ∀ get : Fin rows'.length → MatchedRow count D n,
      get = (fun k => rows.get (place k)) →
      Alike (fun p p' => ∀ k, SameStep cfg p.1 (place k) p'.1 k) (callEngine cfg A engine rows)
        (FocusResponsibilityEngine.forward cfg A engine ⟨1, rows'.length,
          some (fun _ k => (get k).state), some (fun _ k => (get k).nextState),
          fun _ k => (get k).actions, fun _ _ => 1⟩ false) := by
    rintro _ rfl
    refine (focusCreditTarget_reindex cfg A engine (focusBatch rows) false
      (fun step => (step.1, place step.2))
      (fun model state hmodel _ => hforecast model hmodel state)).bind ?_
    intro r r' hsteps
    refine Alike.pure (fun k => ?_)
    have hstep := hsteps (0 : Fin 1) k
    constructor
    · exact congrArg CreditStep.rho hstep
    · exact congrArg (fun step : CreditStep n cfg.nTargets => fun i => step.rho i * step.totalG)
        hstep
    · exact congrArg CreditStep.pairGains hstep
    · exact congrArg CreditStep.totalG hstep
    · exact congrArg CreditStep.valid hstep
  exact hbatch rows'.get (funext h)

/-- The normalizer of the belief, if it has one, is in evaluation mode, as it is where actions are
computed. -/
def FocusLoss.Evaluating {J : ℕ} (engine : FocusLoss D H J) : Prop :=
  ∀ model, engine.occupancyModel = some model → model.learnsScale = false

/-- The belief looks at one state at a time. -/
def FocusLoss.RowWise {J : ℕ} (engine : FocusLoss D H J) : Prop :=
  ∀ model, engine.occupancyModel = some model → model.RowWise

end Engine

/-! ## Annotations -/

section Annotations

variable {cfg : FocusConfig} {O D H n A count : ℕ} (model : MAPPOModel cfg O D H n A)

theorem axisIndex_self (own : Fin n) : axisIndex n ((own : ℕ) : ℤ) = .ok own := by
  have hlt := own.2
  rw [axisIndex, dif_pos ⟨by omega, by exact_mod_cast hlt⟩]
  simp

/-- The table of the bits, where it is made. -/
theorem entry_subsetActionMatrix {bits : List (List ℤ)} {J : ℕ}
    (hbits : subsetActionMatrix A J = .ok bits) (a : Fin A) (j : Fin J) :
    Rllib.entry bits a j = ((targetBits J a).getD j 0 : ℤ) := by
  have hpow : (A : ℤ) = 2 ^ J := by
    by_contra hne
    rw [subsetActionMatrix, if_pos hne] at hbits
    cases hbits
  have hlt : J < 63 := by
    by_contra hge
    have hbig : (2 : ℤ) ^ 63 ≤ 2 ^ J := pow_le_pow_right₀ (by norm_num) (not_lt.mp hge)
    rw [subsetActionMatrix, if_neg (not_not_intro hpow)] at hbits
    obtain ⟨actions, hactions, -⟩ := bind_eq_ok.mp hbits
    rw [torchArange, hpow, if_pos hbig] at hactions
    cases hactions
  obtain ⟨matrix, hmatrix, hrows⟩ := subsetActionMatrix_eq hlt
  rw [hpow, hmatrix] at hbits
  cases hbits
  have ha : ((a : ℕ) : ℤ) < 2 ^ J := by rw [← hpow]; exact_mod_cast a.2
  have hrow := hrows a (by positivity) ha
  rw [Int.toNat_natCast] at hrow
  have hget : bits.getD a [] = targetBits J a := by
    rw [List.getD_eq_getElem?_getD, hrow, Option.getD_some]
  rw [Rllib.entry, hget]

/-- The bits are there, if there are pair gains. -/
theorem ownCredit_annotation {K : ℕ} (adapter : MAPPOFocusAdapter) {bits : List (List ℤ)}
    (focus : FocusOutput 1 K n cfg.nTargets) (k : Fin K) (own : Fin n)
    (hbits : (focus.pairGains 0 k).isSome → subsetActionMatrix A cfg.nTargets = .ok bits) :
    OwnCredit cfg focus k own (model.annotation adapter bits focus k own) where
  rho := rfl
  gain := rfl
  valid := rfl
  totalGain := rfl
  rhoEntropy := rfl
  actionGains a := by
    unfold MAPPOModel.annotation
    dsimp only
    cases hpair : focus.pairGains 0 k with
    | none => rfl
    | some pairGains =>
        rw [hpair] at hbits
        refine Finset.sum_congr rfl (fun j _ => ?_)
        show pairGains own j * Rllib.entry bits a j = _
        rw [entry_subsetActionMatrix (hbits rfl)]

/-- The bits of the actions can be tabulated: they are subsets of the targets. -/
def Subsets (A J : ℕ) : Prop := A = 2 ^ J ∧ J < 63

theorem annotations_returns (adapter : MAPPOFocusAdapter) {own : Fin n}
    {rows : List (MatchedRow count D n)} (hown : ∀ m ∈ rows, m.agentIndex = (own : ℕ))
    (focus : FocusOutput 1 rows.length n cfg.nTargets)
    (hsubsets : (∃ k, (focus.pairGains 0 k).isSome) → Subsets A cfg.nTargets) :
    ∃ annotated, model.annotations adapter rows focus = .ok annotated := by
  have hbits : ∃ bits, MAPPOModel.actionBits A focus = .ok bits := by
    unfold MAPPOModel.actionBits
    by_cases hpair : ∃ k, (focus.pairGains 0 k).isSome
    · obtain ⟨hA, hlt⟩ := hsubsets hpair
      obtain ⟨matrix, hmatrix, -⟩ := subsetActionMatrix_eq hlt
      rw [if_pos hpair, hA]
      exact ⟨matrix, by exact_mod_cast hmatrix⟩
    · exact ⟨[], if_neg hpair⟩
  obtain ⟨bits, hbits⟩ := hbits
  refine ⟨_, bind_eq_ok.mpr ⟨bits, hbits, mapM_eq_ok
    (g := fun k => model.annotation adapter bits focus k own) (fun k _ => ?_)⟩⟩
  rw [hown _ (List.get_mem rows k), axisIndex_self]
  rfl

theorem annotations_eq (adapter : MAPPOFocusAdapter) {own : Fin n}
    {rows : List (MatchedRow count D n)} (hown : ∀ m ∈ rows, m.agentIndex = (own : ℕ))
    (focus : FocusOutput 1 rows.length n cfg.nTargets) :
    Ensures (model.annotations adapter rows focus) (fun annotated => ∃ bits,
      ((∃ k, (focus.pairGains 0 k).isSome) → subsetActionMatrix A cfg.nTargets = .ok bits) ∧
        annotated = (List.finRange rows.length).map (fun k =>
          model.annotation adapter bits focus k own)) := by
  intro annotated h
  obtain ⟨bits, hbits, h⟩ := bind_eq_ok.mp h
  refine ⟨bits, fun hpair => ?_, ?_⟩
  · rwa [MAPPOModel.actionBits, if_pos hpair] at hbits
  · have hmap := mapM_eq_ok (l := List.finRange rows.length)
      (f := fun k => do
        let agent ← axisIndex n (rows.get k).agentIndex
        return model.annotation adapter bits focus k agent)
      (g := fun k => model.annotation adapter bits focus k own) (fun k _ => by
        rw [hown _ (List.get_mem rows k), axisIndex_self]
        rfl)
    exact Except.ok.inj (h.symm.trans hmap)

end Annotations

/-! ## Writing -/

section Writing

variable {D n A count : ℕ}

/-- The columns, once what is said of the rows is written. -/
noncomputable def writeRows (rows : List (MatchedRow count D n)) (annotated : List (FocusRow A)) :
    Fin count → FocusRow A :=
  (rows.zip annotated).foldl (fun columns e => Function.update columns e.1.row e.2)
    (fun _ => defaultRow n A)

theorem zip_annotated (rows : List (MatchedRow count D n))
    (written : Fin rows.length → FocusRow A) :
    rows.zip ((List.finRange rows.length).map written)
      = (List.finRange rows.length).map (fun k => (rows.get k, written k)) := by
  calc rows.zip ((List.finRange rows.length).map written)
      = ((List.finRange rows.length).map rows.get).zip
          ((List.finRange rows.length).map written) := by
        rw [List.map_get_finRange]
    _ = _ := List.zip_map'

theorem writeRows_of_notMem {rows : List (MatchedRow count D n)} {row : Fin count}
    (h : row ∉ rows.map MatchedRow.row) (written : Fin rows.length → FocusRow A) :
    writeRows rows ((List.finRange rows.length).map written) row = defaultRow n A := by
  unfold writeRows
  rw [zip_annotated]
  refine foldl_update_of_notMem (fun e : MatchedRow count D n × FocusRow A => e.1.row) Prod.snd
    ?_ _
  rw [List.map_map]
  intro hmem
  obtain ⟨k, -, rfl⟩ := List.mem_map.mp hmem
  exact h (List.mem_map_of_mem (List.get_mem rows k))

theorem writeRows_get {rows : List (MatchedRow count D n)}
    (hnodup : (rows.map MatchedRow.row).Nodup) (written : Fin rows.length → FocusRow A)
    (k : Fin rows.length) :
    writeRows rows ((List.finRange rows.length).map written) (rows.get k).row = written k := by
  unfold writeRows
  rw [zip_annotated]
  refine foldl_update_of_mem (fun e : MatchedRow count D n × FocusRow A => e.1.row) Prod.snd
    (a := (rows.get k, written k)) ?_ (List.mem_map.mpr ⟨k, List.mem_finRange k, rfl⟩) _
  have hrows : ((List.finRange rows.length).map (fun k => (rows.get k, written k))).map
      (fun e => e.1.row) = rows.map MatchedRow.row := by
    calc ((List.finRange rows.length).map (fun k => (rows.get k, written k))).map (fun e => e.1.row)
        = ((List.finRange rows.length).map rows.get).map MatchedRow.row := by
          rw [List.map_map, List.map_map]
          rfl
      _ = rows.map MatchedRow.row := by rw [List.map_get_finRange]
  rwa [hrows]

end Writing

/-! ## The columns of a trajectory -/

section Columns

variable [Quadrature] [Numerals] {cfg : FocusConfig} {O D H n A : ℕ}
  (model : MAPPOModel cfg O D H n A) (engine : FocusLoss D H cfg.nTargets)
  (adapter : MAPPOFocusAdapter) (tr : Trajectory O n)

def MAPPOModel.withFocus : MAPPOModel cfg O D H n A :=
  { model with focusEngine := some engine, focusAdapter := some adapter }

/-- `add_focus_to_trajectory` for the own batch. -/
noncomputable def Trajectory.run :
    Except Error ((Fin tr.count → FocusRow A) × MAPPOModel cfg O D H n A) :=
  (model.withFocus engine adapter).addFocusToTrajectory tr.sampleBatch (some tr.others)

/-- The rest of the call, once the rows are joined. -/
noncomputable def annotateRows {count : ℕ} (rows : List (MatchedRow count D n)) :
    Except Error ((Fin count → FocusRow A) × MAPPOModel cfg O D H n A) :=
  if rows.isEmpty then .ok (fun _ => defaultRow n A, model.withFocus engine adapter)
  else do
    let (focus, engine') ← callEngine cfg A engine rows
    let annotated ← model.annotations adapter rows focus
    return (writeRows rows annotated, model.withFocus engine' adapter)

theorem Trajectory.run_eq :
    tr.run model engine adapter = annotateRows model engine adapter (tr.matched model) := by
  -- the engine is there and the team is complete, so that only the alignment decides
  have hrun : tr.run model engine adapter =
      if useTimestepKey tr.allBatches = false ∧ ∃ e ∈ tr.allBatches, e.2.count ≠ tr.count then
        .ok (fun _ => defaultRow n A, model.withFocus engine adapter)
      else annotateRows model engine adapter
        (model.matchedRows (currentAgentIndex n (otherEntries tr.others))
          (useTimestepKey tr.allBatches) tr.ownBatch
          (Dicts.group (keyedRows (useTimestepKey tr.allBatches) tr.allBatches))) := by
    unfold Trajectory.run MAPPOModel.addFocusToTrajectory
    rw [tr.own?_sampleBatch]
    dsimp only [MAPPOModel.withFocus]
    rw [if_neg (not_not_intro tr.length_otherEntries)]
    rfl
  rw [hrun, tr.useTimestepKey_allBatches]
  by_cases hkeyed : tr.Keyed
  · have hjoin : ¬ (allTimed tr.batch = false ∧ ∃ e ∈ tr.allBatches, e.2.count ≠ tr.count) := by
      rintro ⟨huntimed, e, he, hcount⟩
      obtain ⟨a, rfl⟩ := tr.mem_allBatches.mp he
      rcases hkeyed with h | h
      · rw [h] at huntimed
        cases huntimed
      · exact hcount (h a)
    rw [if_neg hjoin]
    exact congrArg (annotateRows model engine adapter) (tr.matchedRows_eq model hkeyed)
  · -- the rows cannot be told apart
    have hjoin : allTimed tr.batch = false ∧ ∃ e ∈ tr.allBatches, e.2.count ≠ tr.count := by
      unfold Trajectory.Keyed at hkeyed
      push Not at hkeyed
      obtain ⟨huntimed, a, ha⟩ := hkeyed
      exact ⟨Bool.eq_false_of_not_eq_true huntimed, _, tr.mem_allBatches.mpr ⟨a, rfl⟩, ha⟩
    rw [if_pos hjoin, tr.matched_eq_nil model hkeyed]
    rfl

/-- The joint rows are the complete ones, with what the agents have recorded. -/
structure Trajectory.Joint (tr : Trajectory O n) (rows : List (MatchedRow tr.count D n)) :
    Prop where
  complete : ∀ row, tr.Complete row ↔ ∃ k, (rows.get k).row = row
  sorted : (rows.map MatchedRow.row).Pairwise (· < ·)
  states : ∀ k, (rows.get k).state = model.globalState (tr.curObs (rows.get k).row) ∧
    (rows.get k).nextState = model.globalState (tr.nextObs (rows.get k).row)
  /-- the actions are in the order of the agents -/
  actions : ∀ k a row', agentKey tr.batch a row' = tr.ownKey (rows.get k).row →
    (rows.get k).actions a = (tr.batch a).actions row'

/-- The columns say of the complete rows what the engine says of the own agent. -/
structure Trajectory.Annotated (tr : Trajectory O n) (columns : Fin tr.count → FocusRow A) :
    Prop where
  default : ∀ row, ¬ tr.Complete row → columns row = defaultRow n A
  credit : ∀ k, Returns (callEngine cfg A engine (tr.matched model)) (fun p =>
    OwnCredit cfg p.1 k tr.own (columns ((tr.matched model).get k).row) ∧
      (columns ((tr.matched model).get k).row).confidence = p.1.confidence 0 k)
  /-- the rows after a row make no difference to what is said of it, the confidence apart -/
  earlier : engine.Evaluating → ∀ k : Fin (tr.matched model).length,
    Returns (callEngine cfg A engine ((tr.matched model).take (k + 1))) (fun p =>
      ∀ last : Fin ((tr.matched model).take (k + 1)).length, (last : ℕ) = k →
        OwnCredit cfg p.1 last tr.own (columns ((tr.matched model).get k).row))
  /-- with a belief that looks at one state, no other row does -/
  alone : engine.Evaluating → engine.RowWise → ∀ k,
    Returns (callEngine cfg A engine [(tr.matched model).get k]) (fun p =>
      OwnCredit cfg p.1 (0 : Fin 1) tr.own (columns ((tr.matched model).get k).row))
  /-- the weight is a function of the confidence and of the own responsibility -/
  weight : ∀ row, tr.Complete row → (columns row).weight =
    if (columns row).valid then
      1 - adapter.eta * (if model.useConfidence then (columns row).confidence else 1)
        + adapter.eta * (if model.useConfidence then (columns row).confidence else 1)
          * n * (columns row).rho
    else 1

omit [Quadrature] in
theorem Trajectory.joint_matched : tr.Joint model (tr.matched model) where
  complete row := by
    constructor
    · intro h
      have hmem : tr.matchedRow model row h ∈ tr.matched model :=
        (tr.mem_matched model).mpr ⟨h, rfl⟩
      obtain ⟨k, hk⟩ := List.mem_iff_get.mp hmem
      exact ⟨k, by rw [hk]; rfl⟩
    · rintro ⟨k, rfl⟩
      exact ((tr.mem_matched model).mp (List.get_mem _ k)).1
  sorted := tr.sorted_matched model
  states k := by
    obtain ⟨h, hk⟩ := (tr.mem_matched model).mp (List.get_mem _ k)
    rw [hk]
    exact ⟨rfl, rfl⟩
  actions k a row' hkey := by
    obtain ⟨h, hk⟩ := (tr.mem_matched model).mp (List.get_mem _ k)
    have hrow : row' = (h.2 a).choose := tr.once a (hkey.trans (h.2 a).choose_spec.symm)
    rw [hk, hrow]
    rfl

omit [Quadrature] in
theorem Trajectory.agentIndex_matched :
    ∀ m ∈ tr.matched model, m.agentIndex = (tr.own : ℕ) := by
  intro m hm
  obtain ⟨h, hm⟩ := (tr.mem_matched model).mp hm
  rw [hm]
  rfl

omit [Numerals] in
/-- Fewer rows say the same of the own agent, if the belief forecasts the same for them. -/
theorem ownCredit_fewer {count : ℕ} {rows rows' : List (MatchedRow count D n)} {own : Fin n}
    {k' : Fin rows'.length} {row : FocusRow A} (place : Fin rows'.length → Fin rows.length)
    (hplace : ∀ k, rows'.get k = rows.get (place k))
    (hforecast : ∀ model, engine.occupancyModel = some model →
      ∀ state : Fin 1 → Fin rows.length → Fin D → ℝ,
        SameForecast n model state (fun step : Fin 1 × Fin rows'.length => (step.1, place step.2)))
    (hcredit : Returns (callEngine cfg A engine rows)
      (fun p => OwnCredit cfg p.1 (place k') own row)) :
    Returns (callEngine cfg A engine rows') (fun p => OwnCredit cfg p.1 k' own row) := by
  obtain ⟨p, hp, hrow⟩ := hcredit
  have halike := callEngine_reindex A engine place hplace hforecast
  rw [hp] at halike
  cases hcall : callEngine cfg A engine rows' with
  | error e =>
      rw [hcall] at halike
      exact halike.elim
  | ok p' =>
      rw [hcall] at halike
      exact ⟨p', rfl, hrow.transfer (halike k')⟩

section Fewer

variable {engine} {count : ℕ} {rows : List (MatchedRow count D n)} {own : Fin n} {row : FocusRow A}
  {k : Fin rows.length}
  (hcredit : Returns (callEngine cfg A engine rows) (fun p => OwnCredit cfg p.1 k own row))

include hcredit

omit [Numerals] in
theorem ownCredit_earlier (heval : engine.Evaluating) :
    Returns (callEngine cfg A engine (rows.take (k + 1))) (fun p =>
      ∀ last : Fin (rows.take (k + 1)).length, (last : ℕ) = k →
        OwnCredit cfg p.1 last own row) := by
  have hle : (rows.take (k + 1)).length ≤ rows.length := by
    rw [List.length_take]
    exact min_le_right _ _
  have hlt : (k : ℕ) < (rows.take (k + 1)).length := by
    have := k.2
    rw [List.length_take]
    omega
  obtain ⟨p, hp, hk⟩ : Returns (callEngine cfg A engine (rows.take (k + 1)))
      (fun p => OwnCredit cfg p.1 ⟨k, hlt⟩ own row) :=
    ownCredit_fewer engine (Fin.castLE hle) (fun i => by simp)
      (fun belief hbelief state => sameForecast_firstSteps (heval belief hbelief) n state hle)
      hcredit
  refine ⟨p, hp, fun last hlast => ?_⟩
  have hlast : last = ⟨k, hlt⟩ := Fin.ext hlast
  rwa [hlast]

omit [Numerals] in
theorem ownCredit_alone (heval : engine.Evaluating) (hrow : engine.RowWise) :
    Returns (callEngine cfg A engine [rows.get k]) (fun p =>
      OwnCredit cfg p.1 (0 : Fin 1) own row) :=
  ownCredit_fewer engine (fun _ : Fin [rows.get k].length => k)
    (fun i => by simp)
    (fun belief hbelief state =>
      sameForecast_rowWise (heval belief hbelief) (hrow belief hbelief) n state _) hcredit

end Fewer

/-- Where no row is complete, the columns keep the defaults. -/
theorem Trajectory.annotated_default (h : tr.matched model = []) :
    tr.Annotated model engine adapter (fun _ => defaultRow n A) := by
  have hlength : (tr.matched model).length = 0 := by rw [h, List.length_nil]
  have hk : Fin (tr.matched model).length → False := fun k => by
    have hlt := k.2
    omega
  have hnone : ∀ row, ¬ tr.Complete row := fun row hrow =>
    (((tr.joint_matched model).complete row).mp hrow).elim (fun k _ => hk k)
  exact ⟨fun _ _ => rfl, fun k => (hk k).elim, fun _ k => (hk k).elim, fun _ _ k => (hk k).elim,
    fun row hrow => absurd hrow (hnone row)⟩

/-- What is written at the row of step `k` is said at step `k`. -/
theorem Trajectory.annotated_writeRows
    {focus : FocusOutput 1 (tr.matched model).length n cfg.nTargets}
    {engine' : FocusLoss D H cfg.nTargets}
    (hcall : callEngine cfg A engine (tr.matched model) = .ok (focus, engine'))
    {bits : List (List ℤ)}
    (hbits : (∃ k, (focus.pairGains 0 k).isSome) → subsetActionMatrix A cfg.nTargets = .ok bits) :
    tr.Annotated model engine adapter (writeRows (tr.matched model)
      ((List.finRange (tr.matched model).length).map (fun k =>
        model.annotation adapter bits focus k tr.own))) := by
  have hjoint := tr.joint_matched model
  have hnodup : ((tr.matched model).map MatchedRow.row).Nodup :=
    hjoint.sorted.imp (fun h => ne_of_lt h)
  have hget := writeRows_get hnodup (fun k => model.annotation adapter bits focus k tr.own)
  have hcredit : ∀ k, OwnCredit cfg focus k tr.own (writeRows (tr.matched model)
      ((List.finRange (tr.matched model).length).map (fun k =>
        model.annotation adapter bits focus k tr.own)) ((tr.matched model).get k).row) := by
    intro k
    rw [hget k]
    exact ownCredit_annotation model adapter focus k tr.own (fun hpair => hbits ⟨k, hpair⟩)
  constructor
  · intro row hrow
    refine writeRows_of_notMem (fun hmem => hrow ?_) _
    obtain ⟨m, hm, rfl⟩ := List.mem_map.mp hmem
    exact ((tr.mem_matched model).mp hm).1
  · exact fun k => ⟨_, hcall, hcredit k, congrArg FocusRow.confidence (hget k)⟩
  · exact fun heval k => ownCredit_earlier ⟨_, hcall, hcredit k⟩ heval
  · exact fun heval hrow k => ownCredit_alone ⟨_, hcall, hcredit k⟩ heval hrow
  · intro row hrow
    obtain ⟨k, rfl⟩ := (hjoint.complete row).mp hrow
    rw [hget k]
    unfold MAPPOModel.annotation MAPPOFocusAdapter.responsibilityToWeight
    dsimp only
    cases model.useConfidence with
    | true => rfl
    | false => simp

theorem Trajectory.annotated_run :
    Ensures (tr.run model engine adapter)
      (fun result => tr.Annotated model engine adapter result.1) := by
  intro result hrun
  rw [tr.run_eq, annotateRows] at hrun
  by_cases hempty : (tr.matched model).isEmpty
  · rw [if_pos hempty] at hrun
    cases hrun
    exact tr.annotated_default model engine adapter (List.isEmpty_iff.mp hempty)
  · rw [if_neg hempty] at hrun
    obtain ⟨⟨focus, engine'⟩, hcall, hrun⟩ := bind_eq_ok.mp hrun
    obtain ⟨annotated, hannotated, hrun⟩ := bind_eq_ok.mp hrun
    cases hrun
    obtain ⟨bits, hbits, rfl⟩ :=
      annotations_eq model adapter (tr.agentIndex_matched model) focus annotated hannotated
    exact tr.annotated_writeRows model engine adapter hcall hbits

theorem Trajectory.run_returns
    (hcall : tr.matched model = [] ∨ Returns (callEngine cfg A engine (tr.matched model)) (fun p =>
      (∃ k, (p.1.pairGains 0 k).isSome) → Subsets A cfg.nTargets)) :
    ∃ result, tr.run model engine adapter = .ok result := by
  rw [tr.run_eq, annotateRows]
  by_cases hempty : (tr.matched model).isEmpty
  · rw [if_pos hempty]
    exact ⟨_, rfl⟩
  · rw [if_neg hempty]
    obtain ⟨p, hp, hsubsets⟩ := hcall.resolve_left (fun h => hempty (List.isEmpty_iff.mpr h))
    obtain ⟨annotated, hannotated⟩ :=
      annotations_returns model adapter (tr.agentIndex_matched model) p.1 hsubsets
    exact ⟨_, bind_eq_ok.mpr ⟨p, hp, bind_eq_ok.mpr ⟨annotated, hannotated, rfl⟩⟩⟩

/-- **The join of the trajectories.** -/
theorem Trajectory.addFocusToTrajectory_joined :
    tr.Joint model (tr.matched model) ∧
      Ensures (tr.run model engine adapter) (fun result =>
        tr.Annotated model engine adapter result.1) ∧
      ((tr.matched model = [] ∨ Returns (callEngine cfg A engine (tr.matched model)) (fun p =>
          (∃ k, (p.1.pairGains 0 k).isSome) → Subsets A cfg.nTargets)) →
        ∃ result, tr.run model engine adapter = .ok result) :=
  ⟨tr.joint_matched model, tr.annotated_run model engine adapter,
    tr.run_returns model engine adapter⟩

end Columns

/-! ## Rows of other keys -/

/-- Two cameras and one target, and the integral that only uses the forecast. -/
@[reducible] def watchConfig : FocusConfig := { nTargets := 1, integralMode := "sigma" }

/-- The model of the configuration, with any network. -/
noncomputable def watcher (net : List (Fin 45 → ℝ) → Fin 1 → Fin 1 → Fin 4 → ℝ) :
    LearnedOccupancyModel 45 1 1 :=
  ⟨⟨none, false, net⟩, 400, 25⟩

noncomputable def watchEngine (net : List (Fin 45 → ℝ) → Fin 1 → Fin 1 → Fin 4 → ℝ) :
    FocusLoss 45 1 watchConfig.nTargets :=
  ⟨some (.gaussian (watcher net)), FocusGate.init⟩

section Watch

variable {count : ℕ} (net : List (Fin 45 → ℝ) → Fin 1 → Fin 1 → Fin 4 → ℝ)
  (rows : List (MatchedRow count 45 2))

/-- The outputs of the network along the rows. -/
noncomputable def outAt (k : Fin rows.length) : Fin 1 → Fin 1 → Fin 4 → ℝ :=
  (watcher net).beliefNet.output (fun k => (rows.get k).state) k

/-- The forecast of the target. -/
noncomputable def meanAt (k : Fin rows.length) : ℂ :=
  (watcher net).mean (outAt net rows k) (fun j => targetPosition (rows.get k).state 2 j) 0 0

noncomputable def stdAt (k : Fin rows.length) : ℂ := (watcher net).std (outAt net rows k) 0 0

/-- The points that the first camera is credited for. -/
noncomputable def pointsAt (k : Fin rows.length) : Fin 5 → ℂ :=
  (legacySigmaPoints (fun (_ : Fin 1) (_ : Fin 1) => meanAt net rows k)
    (fun _ _ => stdAt net rows k)).points 0 0

/-- The gain of the first camera, which alone selects the target. -/
noncomputable def gainAt (k : Fin rows.length) : ℝ :=
  horizonWeights watchConfig 1 0 * ∑ s, pointVisibility watchConfig
    (creditGeometry watchConfig 2 (rows.get k).state) 0 (pointsAt net rows k s) * (1 / 5)

/-- The loss of the forecast at a row. -/
noncomputable def lossAt (_b : Fin 1) (k : Fin rows.length) : ℝ :=
  horizonWeights watchConfig 1 0 * ((watcher net).stepErrors (outAt net rows k)
    (fun j => targetPosition (rows.get k).state 2 j)
    (fun j => targetPosition (rows.get k).nextState 2 j) 0).loss

theorem effectiveBlend_watch : FocusGate.init.effectiveBlend watchConfig = 1 := by
  simp [FocusGate.effectiveBlend, FocusGate.beliefBlendSchedule, FocusGate.beliefPerformanceGate]

/-- The first camera selects the target, and the other one does not. -/
def watchSelection : Selection 2 1 := some (fun i _ => if i = 0 then 1 else 0)

theorem targetSelections_watch {ι : Type} {actions : ι → Fin 2 → ℤ} (h : ∀ k, actions k = ![1, 0]) :
    targetSelections watchConfig 2 actions = .ok (fun _ => watchSelection) := by
  unfold targetSelections
  have hdecode := decodeTargetSelection_eq (n := 1) (by decide) (by decide)
    (fun k : ι × Fin 2 => actions k.1 k.2)
  refine bind_eq_ok.mpr ⟨_, hdecode, congrArg Except.ok (funext (fun step => ?_))⟩
  refine congrArg some (funext (fun i => funext (fun j => ?_)))
  show (((targetBits 1 (actions step i)).getD j 0 : ℤ) : ℝ) = if i = 0 then 1 else 0
  rw [h, Fin.fin_one_eq_zero j]
  fin_cases i
  · simp [targetBits]
  · simp [targetBits]

/-- A camera that selects nothing has no gain, and takes none from the other one. -/
theorem creditFromSigmaPoints_watch (geometry : Geometry 2) (samples : Fin 1 → Fin 1 → Fin 5 → ℂ)
    (i : Fin 2) :
    creditFromSigmaPoints watchConfig geometry watchSelection samples (some fun _ => 1 / 5) i
      = if i = 0 then horizonWeights watchConfig 1 0
          * ∑ s, pointVisibility watchConfig geometry 0 (samples 0 0 s) * (1 / 5)
        else 0 := by
  rw [creditFromSigmaPoints_eq]
  show ∑ h, horizonWeights watchConfig 1 h
    * (creditChunkSum watchConfig geometry watchSelection (samples h)
        (some fun _ => 1 / 5)).camera i = _
  simp only [creditChunkSum, Finset.univ_unique, Finset.sum_singleton]
  fin_cases i
  · simp [visible, rawVisible, Selection.apply, watchSelection, uncoveredByOthers, List.ofFn_succ]
  · simp [visible, rawVisible, Selection.apply, watchSelection, uncoveredByOthers]

variable [Quadrature]

theorem learnedGains_watch {ι : Type} (mean std : ι → Fin 1 → Fin 1 → ℂ) (state : ι → Fin 45 → ℝ) :
    learnedGains watchConfig 1 (.gaussian mean std) state (fun _ => watchSelection)
      = .ok (fun step => (creditFromSigmaPoints watchConfig
          (creditGeometry watchConfig 2 (state step)) watchSelection
          (legacySigmaPoints (mean step) (std step)).points (some fun _ => 1 / 5), none)) := by
  have hblend : ∀ step, blendMean 1 (mean step) (fun j => targetPosition (state step) 2 j)
      = mean step := by
    intro step
    funext h j
    rw [blendMean, Complex.ofReal_one, one_mul, add_sub_cancel]
  have hsigma : sigmaPoints watchConfig mean std
      = .ok (fun step => legacySigmaPoints (mean step) (std step)) :=
    if_pos (by decide +kernel)
  unfold learnedGains
  dsimp only
  have hmode : watchConfig.integralMode = "sigma" := rfl
  rw [if_neg (by decide), if_pos hmode]
  simp only [hblend]
  exact bind_eq_ok.mpr ⟨_, hsigma, rfl⟩

/-- The credit of every row, and the supervision by all of them. -/
theorem focusCreditTarget_watch (hactions : ∀ k, (rows.get k).actions = ![1, 0]) :
    Returns (focusCreditTarget watchConfig 2 (watchEngine net) (focusBatch rows) false) (fun r =>
      (∀ k, r.1.steps (0 : Fin 1) k = creditStep watchConfig 1
        (fun i => if i = 0 then gainAt net rows k else 0) none) ∧
      r.1.supervision = supervise watchConfig (.gaussian (watcher net)) 2
        (fun _ k => (rows.get k).state) (fun _ k => (rows.get k).nextState) (fun _ _ => 1)) := by
  have hdim : ¬ 45 < requiredDim 2 watchConfig.nTargets := by decide
  have hlearned : watchConfig.beliefMode = "learned" := rfl
  have hobserve : ∀ state : Fin 1 → Fin rows.length → Fin 45 → ℝ,
      (OccupancyModel.gaussian (watcher net)).observe state = .gaussian (watcher net) :=
    fun _ => rfl
  have hselection : targetSelections watchConfig 2
      (fun step : Fin 1 × Fin rows.length => (rows.get step.2).actions)
        = .ok (fun _ => watchSelection) :=
    targetSelections_watch (fun step => hactions step.2)
  have hgains := learnedGains_watch
    (fun step : Fin 1 × Fin rows.length => (watcher net).mean (outAt net rows step.2)
      (fun j => targetPosition (rows.get step.2).state 2 j))
    (fun step => (watcher net).std (outAt net rows step.2))
    (fun step => (rows.get step.2).state)
  unfold focusCreditTarget focusBatch watchEngine
  dsimp only
  rw [if_neg hdim, if_pos hlearned, effectiveBlend_watch]
  simp only [hobserve]
  refine ⟨_, bind_eq_ok.mpr ⟨(), rfl, bind_eq_ok.mpr ⟨_, hselection, bind_eq_ok.mpr ⟨_, hgains,
    rfl⟩⟩⟩, fun k => ?_, rfl⟩
  show creditStep watchConfig 1 _ none = _
  congr 1
  funext i
  exact creditFromSigmaPoints_watch _ _ i

omit [Quadrature] in
theorem weightedError_watch (b : Fin 1) (k : Fin rows.length) :
    weightedError watchConfig (.gaussian (watcher net) : OccupancyModel 45 1 1) 2 StepErrors.loss
      (fun _ k => (rows.get k).state) (fun _ k => (rows.get k).nextState) b k
      = lossAt net rows b k := by
  unfold weightedError OccupancyModel.nll lossAt
  rw [Finset.univ_unique, Finset.sum_singleton]
  congr 1
  exact congrArg StepErrors.loss (dif_pos k.2)

/-- What the engine says of the first camera. -/
theorem callEngine_watch (hactions : ∀ k, (rows.get k).actions = ![1, 0]) :
    Returns (callEngine watchConfig 2 (watchEngine net) rows) (fun p => ∀ k,
      p.1.valid 0 k = decide ((watchConfig.minCreditSignal : ℝ) < gainAt net rows k) ∧
      (p.1.valid 0 k = true →
        p.1.rho 0 k 0 = gainAt net rows k / (gainAt net rows k + watchConfig.eps)) ∧
      p.1.confidence 0 k = lossConfidence watchConfig (fun _ _ => True) (lossAt net rows) 0 k) := by
  obtain ⟨r, hr, hsteps, hsupervision⟩ := focusCreditTarget_watch net rows hactions
  refine ⟨_, bind_eq_ok.mpr ⟨r, hr, rfl⟩, fun k => ?_⟩
  have hsum : ∑ i : Fin 2, (if i = 0 then gainAt net rows k else 0) = gainAt net rows k := by
    simp
  have hvalid : (r.1.steps (0 : Fin 1) k).valid
      = decide ((watchConfig.minCreditSignal : ℝ) < gainAt net rows k) := by
    rw [hsteps k]
    simp [creditStep]
  refine ⟨hvalid, fun h => ?_, ?_⟩
  · show (r.1.steps (0 : Fin 1) k).rho 0 = _
    have h : (r.1.steps (0 : Fin 1) k).valid = true := h
    rw [hsteps k] at h ⊢
    simp only [creditStep, hsum] at h ⊢
    rw [if_pos h, if_true]
  · show r.1.supervision.confidence (0 : Fin 1) k = _
    -- the confidence comes from the loss, over steps that all count
    have hmode : confidenceMode watchConfig "loss" = "loss" := by decide +kernel
    have hmask : (fun (_ : Fin 1) (_ : Fin rows.length) => (0 : ℝ) < 1) = fun _ _ => True := by
      simp only [zero_lt_one]
    have hloss : weightedError watchConfig (.gaussian (watcher net) : OccupancyModel 45 1 1) 2
        StepErrors.loss (fun _ k => (rows.get k).state) (fun _ k => (rows.get k).nextState)
        = lossAt net rows :=
      funext (fun b => funext (weightedError_watch net rows b))
    have hconfidence : lossConfidence watchConfig
        (fun (_ : Fin 1) (_ : Fin rows.length) => (0 : ℝ) < 1)
        (weightedError watchConfig (.gaussian (watcher net) : OccupancyModel 45 1 1) 2
          StepErrors.loss (fun _ k => (rows.get k).state) (fun _ k => (rows.get k).nextState)) 0 k
        = lossConfidence watchConfig (fun _ _ => True) (lossAt net rows) 0 k := by
      rw [hmask, hloss]
    rw [hsupervision, supervise_confidence, resolveConfidence, hmode, if_pos rfl]
    exact hconfidence

end Watch

/-! ### The scene -/

/-- The first camera looks to the right, and the target is ahead of it, at `2000 * x`. -/
noncomputable def ahead (x : ℝ) (k : Fin 45) : ℝ :=
  if (k : ℕ) = 16 ∨ (k : ℕ) = 18 then 1 else if (k : ℕ) = 31 then x else 0

theorem targetPosition_ahead (x : ℝ) (j : Fin 1) :
    targetPosition (ahead x) 2 j = ⟨2000 * x, 0⟩ := by
  rw [Fin.fin_one_eq_zero j]
  apply Complex.ext
  · simp [targetPosition, location, column, ahead, PRESERVED_DIM, CAMERA_STATE_DIM_PRIVATE, toWorld]
    ring
  · norm_num [targetPosition, location, column, ahead, PRESERVED_DIM, CAMERA_STATE_DIM_PRIVATE,
      toWorld]

theorem camera_ahead (x : ℝ) : (creditGeometry watchConfig 2 (ahead x)).cameras 0
    = ⟨0, 0, √(2000 ^ 2 + 1 / 10 ^ 8), Real.pi / 2⟩ := by
  have hzero : denormCamera 0 0 = 0 ∧ denormCamera 0 1 = 0 ∧ denormCamera 0 4 = 0 := by
    refine ⟨?_, ?_, ?_⟩
    · rw [denormCamera, show CAM_HIGH 0 = 2000 from rfl, show CAM_LOW 0 = -2000 from rfl]
      norm_num
    · rw [denormCamera, show CAM_HIGH 1 = 2000 from rfl, show CAM_LOW 1 = -2000 from rfl]
      norm_num
    · rw [denormCamera, show CAM_HIGH 4 = 2000 from rfl, show CAM_LOW 4 = -2000 from rfl]
      norm_num
  have hspeed : denormCamera 1 3 = 2000 := by
    rw [denormCamera, show CAM_HIGH 3 = 2000 from rfl, show CAM_LOW 3 = -2000 from rfl]
    norm_num
  have hangle : denormCamera 1 5 = 180 := by
    rw [denormCamera, show CAM_HIGH 5 = 180 from rfl, show CAM_LOW 5 = 0 from rfl]
    norm_num
  have hcolumns : column (ahead x) 13 = 0 ∧ column (ahead x) 14 = 0 ∧ column (ahead x) 16 = 1 ∧
      column (ahead x) 17 = 0 ∧ column (ahead x) 18 = 1 := by
    simp [column, ahead]
  obtain ⟨h13, h14, h16, h17, h18⟩ := hcolumns
  show cameraFov (ahead x) 13 = _
  unfold cameraFov
  rw [h13, h14, h16, h17, h18, hzero.1, hzero.2.1, hzero.2.2, hspeed, hangle]
  have harg : Complex.arg ⟨(2000 : ℝ), 0⟩ = 0 := Complex.arg_ofReal_of_nonneg (by norm_num)
  rw [CameraFov.mk.injEq]
  refine ⟨rfl, harg, ?_, ?_⟩
  · norm_num
  · ring

theorem obstacles_ahead (x : ℝ) : (creditGeometry watchConfig 2 (ahead x)).obstacles = [] := by
  simp [creditGeometry]

theorem pointVisibility_ahead (x : ℝ) (point : ℂ) :
    pointVisibility watchConfig (creditGeometry watchConfig 2 (ahead x)) 0 point =
      if √(point.re ^ 2 + point.im ^ 2 + watchConfig.eps) ≤ √(2000 ^ 2 + 1 / 10 ^ 8) ∧
        |Complex.arg ⟨Real.cos (Complex.arg point), Real.sin (Complex.arg point)⟩| ≤ Real.pi / 2
      then 1 else 0 := by
  unfold pointVisibility
  rw [camera_ahead, obstacles_ahead]
  simp

/-- A point straight ahead is seen. -/
theorem pointVisibility_near (x : ℝ) {r : ℝ} (h0 : 0 ≤ r) (hr : r ≤ 2000) :
    pointVisibility watchConfig (creditGeometry watchConfig 2 (ahead x)) 0 ⟨r, 0⟩ = 1 := by
  have harg : Complex.arg ⟨r, 0⟩ = 0 := Complex.arg_ofReal_of_nonneg h0
  have hone : Complex.arg ⟨1, 0⟩ = 0 := Complex.arg_ofReal_of_nonneg zero_le_one
  rw [pointVisibility_ahead, if_pos]
  refine ⟨Real.sqrt_le_sqrt ?_, ?_⟩
  · show r ^ 2 + 0 ^ 2 + ((1 / 10 ^ 8 : ℚ) : ℝ) ≤ 2000 ^ 2 + 1 / 10 ^ 8
    push_cast
    nlinarith
  · rw [harg, Real.cos_zero, Real.sin_zero, hone, abs_zero]
    positivity

/-- A point that is far off is not. -/
theorem pointVisibility_far (x : ℝ) {point : ℂ} (h : 2001 ≤ point.re) :
    pointVisibility watchConfig (creditGeometry watchConfig 2 (ahead x)) 0 point = 0 := by
  rw [pointVisibility_ahead, if_neg]
  rintro ⟨hle, -⟩
  have heps : (0 : ℝ) < watchConfig.eps := eps_pos watchConfig
  have hle := (Real.sqrt_le_sqrt_iff (by positivity)).mp hle
  nlinarith [sq_nonneg point.im]

section Gains

variable {count : ℕ} {net : List (Fin 45 → ℝ) → Fin 1 → Fin 1 → Fin 4 → ℝ}
  {rows : List (MatchedRow count 45 2)} {k : Fin rows.length}

theorem horizonWeights_watch : horizonWeights watchConfig 1 0 = 1 / (1 + watchConfig.eps) := by
  simp [horizonWeights]

/-- The forecast that the target rests, a little to either side. -/
theorem gainAt_near (hstate : (rows.get k).state = ahead (95 / 100))
    (hout : outAt net rows k 0 0 0 = 0 ∧ outAt net rows k 0 0 1 = 0) :
    1 / 10 < gainAt net rows k := by
  have hmean : pointsAt net rows k 0 = ⟨1900, 0⟩ := by
    show meanAt net rows k = _
    rw [meanAt, LearnedOccupancyModel.mean, hout.1, hout.2, hstate, targetPosition_ahead,
      Real.tanh_zero, zero_mul]
    apply Complex.ext
    · norm_num
    · norm_num
  have hnonneg : ∀ s, 0 ≤ pointVisibility watchConfig
      (creditGeometry watchConfig 2 (rows.get k).state) 0 (pointsAt net rows k s) * (1 / 5) :=
    fun s => mul_nonneg (pointVisibility_mem watchConfig le_rfl zero_le_one _ _ _).1 (by norm_num)
  have hcenter : 1 / 5 ≤ ∑ s, pointVisibility watchConfig
      (creditGeometry watchConfig 2 (rows.get k).state) 0 (pointsAt net rows k s) * (1 / 5) := by
    refine le_trans (le_of_eq ?_) (Finset.single_le_sum (fun s _ => hnonneg s) (Finset.mem_univ 0))
    rw [hmean, hstate, pointVisibility_near _ (by norm_num) (by norm_num), one_mul]
  unfold gainAt
  rw [horizonWeights_watch]
  have hweight : 1 / 2 < 1 / (1 + (watchConfig.eps : ℝ)) := by
    rw [lt_div_iff₀ (by linarith [eps_pos watchConfig])]
    norm_num
  nlinarith

/-- The forecast that the target is out of sight. -/
theorem gainAt_far (hstate : (rows.get k).state = ahead (95 / 100))
    (hout : Real.tanh (outAt net rows k 0 0 0) = 1 / 2 ∧ outAt net rows k 0 0 2 = 0) :
    gainAt net rows k = 0 := by
  have hmean : (meanAt net rows k).re = 2100 := by
    rw [meanAt, LearnedOccupancyModel.mean, hstate, targetPosition_ahead, Complex.add_re, hout.1]
    norm_num [watcher]
  have hstd : (stdAt net rows k).re = Real.log 2 + 25 := by
    show softplus (outAt net rows k 0 0 2) + ((25 : ℚ) : ℝ) = _
    rw [hout.2, softplus, Real.exp_zero]
    norm_num
  have hlog : Real.log 2 ≤ 1 := by linarith [Real.log_le_sub_one_of_pos (x := 2) (by norm_num)]
  have hlog0 : 0 < Real.log 2 := Real.log_pos (by norm_num)
  have hfar : ∀ s, 2001 ≤ (pointsAt net rows k s).re := by
    intro s
    unfold pointsAt legacySigmaPoints
    fin_cases s
    · simp only [Fin.zero_eta, Matrix.cons_val_zero, hmean]
      norm_num
    · simp only [Fin.mk_one, Matrix.cons_val_one, Matrix.cons_val_zero, Complex.add_re, hmean, hstd]
      linarith
    · simp [hmean, hstd]
      linarith
    · simp [hmean]
      norm_num
    · simp [hmean]
      norm_num
  unfold gainAt
  rw [Finset.sum_eq_zero, mul_zero]
  intro s _
  rw [hstate, pointVisibility_far _ (hfar s), zero_mul]

/-- The loss of the forecast that the target rests. -/
theorem lossAt_rest {x y : ℝ} (hstate : (rows.get k).state = ahead x)
    (hnext : (rows.get k).nextState = ahead y) (hout : outAt net rows k = 0) (b : Fin 1) :
    lossAt net rows b k = 1 / (1 + watchConfig.eps)
      * (1 / 2 * ((2000 * y - 2000 * x) / (Real.log 2 + 25)) ^ 2
        + 2 * (Real.log (Real.log 2 + 25) + 1 / 2 * Real.log (2 * Real.pi))) := by
  have hstd : softplus 0 + ((25 : ℚ) : ℝ) = Real.log 2 + 25 := by
    rw [softplus, Real.exp_zero]
    norm_num
  unfold lossAt
  rw [horizonWeights_watch, hstate, hnext, hout]
  simp only [LearnedOccupancyModel.stepErrors, LearnedOccupancyModel.mean,
    LearnedOccupancyModel.std, targetPosition_ahead, meanTargets, watcher, Pi.zero_apply,
    Real.tanh_zero, zero_mul, Complex.add_re, Complex.add_im, add_zero, hstd,
    Finset.univ_unique, Finset.sum_singleton]
  norm_num
  ring

end Gains

/-! ### The recordings -/

/-- Digits and white space of ASCII. -/
instance asciiNumerals : Numerals where
  digit? c := if c.isDigit then some (c.toNat - 48) else none
  isSpace c := c.isWhitespace

/-- The target rests until step `1`. -/
noncomputable def targetAt (t : ℤ) : ℝ := if t ≤ 1 then 95 / 100 else 0

/-- What a camera records in `K` steps. -/
def cameraRows (first : ℤ) (K : ℕ) (a : Fin 2) : MemberBatch where
  count := K
  epsId := fun _ => 1
  agentIndex := fun _ => (a : ℕ)
  actions := fun _ => ![1, 0] a
  envId := none
  t := some (fun row => first + (row : ℕ))

/-- The rows of the steps from `first` on, as the first camera sees them. -/
noncomputable def recorded (first : ℤ) (K : ℕ) : Trajectory 45 2 where
  own := 0
  batch := cameraRows first K
  curObs := fun row => ahead (targetAt (first + (row : ℕ)))
  nextObs := fun row => ahead (targetAt (first + (row : ℕ) + 1))
  agentId := !["camera_0", "camera_1"]
  others := [("camera_1", .withPolicy (some ⟨K, some (fun _ => 1), some (fun _ => 1),
    some (fun _ => 0), none, some (fun row => first + (row : ℕ)), none, none⟩))]
  listed := List.Perm.of_eq rfl
  numbered := by
    have hname : ∀ a : Fin 2, a ≠ 0 →
        agentIdToIndex ((!["camera_0", "camera_1"] : Fin 2 → String) a) = some ((a : ℕ) : ℤ) := by
      decide +kernel
    exact ⟨fun a ha => Or.inl (hname a ha), Or.inl hname⟩
  once := by
    intro a row row' h
    have hstep : first + ((row : ℕ) : ℤ) = first + ((row' : ℕ) : ℤ) :=
      congrArg (fun key : ℤ × ℤ × ℤ => key.2.2) h
    exact Fin.ext (by omega)

def watchModel : MAPPOModel watchConfig 45 45 1 2 2 where
  globalStateStart := 0
  focusEngine := none
  focusAdapter := none
  globalState_le := le_rfl

/-- The joint rows of a recording. -/
noncomputable def rowsOf (first : ℤ) (K : ℕ) : List (MatchedRow (recorded first K).count 45 2) :=
  (List.finRange (recorded first K).count).map (fun row =>
    ⟨row, 0, ahead (targetAt (first + (row : ℕ))), ahead (targetAt (first + (row : ℕ) + 1)),
      ![1, 0]⟩)

theorem complete_recorded (first : ℤ) (K : ℕ) (row : Fin (recorded first K).count) :
    (recorded first K).Complete row :=
  ⟨Or.inl rfl, fun _ => ⟨row, rfl⟩⟩

theorem matched_recorded (first : ℤ) (K : ℕ) :
    (recorded first K).matched watchModel = rowsOf first K := by
  have hrow : ∀ row : Fin (recorded first K).count,
      (recorded first K).matchedRow watchModel row (complete_recorded first K row)
        = ⟨row, 0, ahead (targetAt (first + (row : ℕ))), ahead (targetAt (first + (row : ℕ) + 1)),
          ![1, 0]⟩ := by
    intro row
    have hglobal : ∀ obs : Fin 45 → ℝ, watchModel.globalState obs = obs := by
      intro obs
      funext d
      exact congrArg obs (Fin.ext (Nat.zero_add _))
    unfold Trajectory.matchedRow
    rw [hglobal, hglobal]
    rfl
  unfold Trajectory.matched rowsOf
  rw [← List.filterMap_eq_map]
  refine List.filterMap_congr (fun row _ => ?_)
  rw [dif_pos (complete_recorded first K row), hrow row]
  rfl

/-- What the first camera is told about the rows. -/
noncomputable def told (net : List (Fin 45 → ℝ) → Fin 1 → Fin 1 → Fin 4 → ℝ) (first : ℤ) (K : ℕ) :
    Except Error ((Fin (recorded first K).count → FocusRow 2)
      × MAPPOModel watchConfig 45 45 1 2 2) :=
  let _ : Quadrature := oneNode
  (recorded first K).run watchModel (watchEngine net) ⟨1 / 2⟩

theorem told_returns (net : List (Fin 45 → ℝ) → Fin 1 → Fin 1 → Fin 4 → ℝ) (first : ℤ) (K : ℕ) :
    Returns (told net first K) (fun result => ∀ k : Fin (rowsOf first K).length,
      let row := result.1 ((rowsOf first K).get k).row
      let gain := gainAt net (rowsOf first K) k
      let c := lossConfidence watchConfig (fun _ _ => True) (lossAt net (rowsOf first K)) 0 k
      row.valid = decide ((watchConfig.minCreditSignal : ℝ) < gain) ∧
      (row.valid = true →
        row.weight = 1 - 1 / 2 * c + 1 / 2 * c * 2 * (gain / (gain + watchConfig.eps)))) := by
  let _ : Quadrature := oneNode
  have hactions : ∀ k, ((rowsOf first K).get k).actions = ![1, 0] := by
    intro k
    obtain ⟨row, -, hrow⟩ := List.mem_map.mp (List.get_mem (rowsOf first K) k)
    rw [← hrow]
  obtain ⟨p, hp, hk⟩ := callEngine_watch net (rowsOf first K) hactions
  obtain ⟨result, hresult⟩ := (recorded first K).run_returns watchModel (watchEngine net) ⟨1 / 2⟩
    (Or.inr (by
      rw [matched_recorded]
      exact ⟨p, hp, fun _ => ⟨rfl, by decide⟩⟩))
  have hannotated := (recorded first K).annotated_run watchModel (watchEngine net) ⟨1 / 2⟩ result
    hresult
  have hcredit := hannotated.credit
  rw [matched_recorded] at hcredit
  refine ⟨result, hresult, fun k => ?_⟩
  obtain ⟨p', hp', hown, hconfidence⟩ := hcredit k
  obtain rfl : p = p' := Except.ok.inj (hp.symm.trans hp')
  obtain ⟨hvalid, hrho, hc⟩ := hk k
  refine ⟨hown.valid.trans hvalid, fun h => ?_⟩
  have hweight := hannotated.weight ((rowsOf first K).get k).row (complete_recorded first K _)
  rw [if_pos h, hconfidence.trans hc, hown.rho.trans (hrho (hown.valid.symm.trans h))] at hweight
  exact hweight

/-! ### Confidence -/

/-- Where the losses are alike, the confidence is a half. -/
theorem lossConfidence_alike {K : ℕ} {loss : Fin 1 → Fin K → ℝ} {k : Fin K}
    (h : ∀ t, loss 0 t = loss 0 k) :
    lossConfidence watchConfig (fun _ _ => True) loss 0 k = 2⁻¹ := by
  have hmean : maskedMean (fun _ _ => True) loss = loss 0 k := by
    calc maskedMean (fun _ _ => True) loss
        = maskedMean (fun _ _ => True) (fun (_ : Fin 1) (_ : Fin K) => loss 0 k) :=
          maskedMean_congr (fun b t _ => by rw [Fin.fin_one_eq_zero b, h t])
      _ = loss 0 k := maskedMean_const ⟨0, k, trivial⟩ _
  unfold lossConfidence
  dsimp only
  rw [if_pos ⟨0, k, trivial⟩, hmean, sub_self, zero_div, Real.sigmoid_zero]

/-- Where another loss is greater, it is more than a half. -/
theorem lossConfidence_least {K : ℕ} {loss : Fin 1 → Fin K → ℝ} {k t : Fin K}
    (hle : ∀ t, loss 0 k ≤ loss 0 t) (hlt : loss 0 k < loss 0 t) :
    2⁻¹ < lossConfidence watchConfig (fun _ _ => True) loss 0 k := by
  have hmean : loss 0 k < maskedMean (fun _ _ => True) loss := by
    calc loss 0 k = maskedMean (fun _ _ => True) (fun (_ : Fin 1) (_ : Fin K) => loss 0 k) :=
          (maskedMean_const ⟨0, k, trivial⟩ _).symm
      _ < maskedMean (fun _ _ => True) loss :=
          maskedMean_lt (fun b t _ => by rw [Fin.fin_one_eq_zero b]; exact hle t)
            ⟨0, t, trivial, hlt⟩
  have htemperature :
      (0 : ℝ) < ((max watchConfig.confidenceLossTemperature watchConfig.eps : ℚ) : ℝ) := by
    exact_mod_cast lt_max_of_lt_right watchConfig.eps_pos
  unfold lossConfidence
  dsimp only
  rw [if_pos ⟨0, k, trivial⟩, ← Real.sigmoid_zero]
  exact Real.sigmoid_lt (div_pos (by linarith) htemperature)

/-! ### The networks -/

/-- The perceptron whose head is zero, as `belief_persistence_initialization` has it. -/
noncomputable def resting : List (Fin 45 → ℝ) → Fin 1 → Fin 1 → Fin 4 → ℝ :=
  (Architecture.mlp (⟨0, 0⟩ : Linear (Fin 45) (Fin 1)) ⟨0, 0⟩ ⟨0, 0⟩).net

theorem resting_eq : resting = fun _ _ _ _ => 0 := by
  funext states h j o
  simp [resting, Architecture.net, Linear.apply]

/-- A cell that only looks at itself. -/
noncomputable def counting : LSTMCell (Fin 45) (Fin 1) :=
  ⟨⟨0, 0⟩, ⟨0, 0⟩, ⟨0, fun _ => 1⟩, ⟨0, 0⟩, ⟨0, 0⟩, ⟨0, 0⟩, ⟨0, 0⟩, ⟨0, 0⟩⟩

theorem counting_apply (x : Fin 45 → ℝ) (state : LSTMState (Fin 1)) :
    counting.apply x state = (fun k => 2⁻¹ * Real.tanh (2⁻¹ * state.2 k + 2⁻¹ * Real.tanh 1),
      fun k => 2⁻¹ * state.2 k + 2⁻¹ * Real.tanh 1) := by
  simp [LSTMCell.apply, counting, Linear.apply, Real.sigmoid_zero]

/-- The hidden state after one state, and after two. -/
noncomputable def afterOne : ℝ := 2⁻¹ * Real.tanh (2⁻¹ * Real.tanh 1)

noncomputable def afterTwo : ℝ :=
  2⁻¹ * Real.tanh (2⁻¹ * (2⁻¹ * Real.tanh 1) + 2⁻¹ * Real.tanh 1)

theorem afterOne_ne_afterTwo : afterTwo - afterOne ≠ 0 := by
  intro h
  have htanh := Real.tanh_injective
    (mul_left_cancel₀ (by norm_num : (2⁻¹ : ℝ) ≠ 0) (sub_eq_zero.mp h))
  have hzero : Real.tanh 1 = Real.tanh 0 := by
    rw [Real.tanh_zero]
    linarith
  exact one_ne_zero (Real.tanh_injective hzero)

/-- A head that is zero after one state, and moves the target ahead after two. -/
noncomputable def moving : Linear (Fin 1) (Fin 1 × Fin 1 × Fin 4) where
  weight o _ := if o.2.2 = 0 then Real.artanh (1 / 2) / (afterTwo - afterOne) else 0
  bias o := if o.2.2 = 0 then -(Real.artanh (1 / 2) / (afterTwo - afterOne) * afterOne) else 0

theorem moving_apply (x : ℝ) (h j : Fin 1) (o : Fin 4) : moving.apply (fun _ => x) (h, j, o)
    = if o = 0 then Real.artanh (1 / 2) / (afterTwo - afterOne) * (x - afterOne) else 0 := by
  by_cases ho : o = 0
  · simp only [moving, Linear.apply, ho, if_true, Finset.univ_unique, Finset.sum_singleton]
    ring
  · simp [moving, Linear.apply, ho]

noncomputable def remembering : List (Fin 45 → ℝ) → Fin 1 → Fin 1 → Fin 4 → ℝ :=
  (Architecture.lstm counting [] moving).net

theorem remembering_one (x : Fin 45 → ℝ) : remembering [x] = 0 := by
  have hhidden : hiddenStates counting [x] (0, 0) = [fun _ => afterOne] := by
    simp [hiddenStates, counting_apply, afterOne]
  funext h j o
  simp [remembering, Architecture.net, hhidden, moving_apply]

theorem remembering_two (x y : Fin 45 → ℝ) (o : Fin 4) :
    remembering [x, y] 0 0 o = if o = 0 then Real.artanh (1 / 2) else 0 := by
  have hhidden : hiddenStates counting [x, y] (0, 0) = [fun _ => afterOne, fun _ => afterTwo] := by
    simp [hiddenStates, counting_apply, afterOne, afterTwo]
  simp only [remembering, Architecture.net, hhidden, List.foldl_nil, List.getLast?_cons_cons,
    List.getLast?_singleton, Option.getD_some, moving_apply]
  rw [div_mul_cancel₀ _ afterOne_ne_afterTwo]


section Outputs

variable {count : ℕ} {rows : List (MatchedRow count 45 2)} {k : Fin rows.length}

theorem outAt_resting : outAt resting rows k = 0 := by
  show resting _ = 0
  rw [resting_eq]
  rfl

theorem outAt_remembering_one (hk : (k : ℕ) = 0) : outAt remembering rows k = 0 := by
  obtain ⟨k, hlt⟩ := k
  subst hk
  exact remembering_one _

theorem outAt_remembering_two (hk : (k : ℕ) = 1) (o : Fin 4) :
    outAt remembering rows k 0 0 o = if o = 0 then Real.artanh (1 / 2) else 0 := by
  obtain ⟨k, hlt⟩ := k
  subst hk
  exact remembering_two _ _ o

end Outputs

/-! ### The comparison -/

/-- What the agents have recorded under the keys of two rows is the same. -/
structure Trajectory.SameRecord {O n : ℕ} (tr tr' : Trajectory O n) (row : Fin tr.count)
    (row' : Fin tr'.count) : Prop where
  key : tr'.ownKey row' = tr.ownKey row
  curObs : tr'.curObs row' = tr.curObs row
  nextObs : tr'.nextObs row' = tr.nextObs row
  actions : ∀ a r r', agentKey tr.batch a r = tr.ownKey row →
    agentKey tr'.batch a r' = tr'.ownKey row' → (tr'.batch a).actions r' = (tr.batch a).actions r

theorem sameRecord_recorded {first first' : ℤ} {K K' : ℕ} (row : Fin K) (row' : Fin K')
    (h : first' + ((row' : ℕ) : ℤ) = first + ((row : ℕ) : ℤ)) :
    (recorded first K).SameRecord (recorded first' K') row row' where
  key := by
    show ((1 : ℤ), (0 : ℤ), first' + ((row' : ℕ) : ℤ)) = (1, 0, first + ((row : ℕ) : ℤ))
    rw [h]
  curObs := by
    show ahead (targetAt (first' + ((row' : ℕ) : ℤ))) = ahead (targetAt (first + ((row : ℕ) : ℤ)))
    rw [h]
  nextObs := by
    show ahead (targetAt (first' + ((row' : ℕ) : ℤ) + 1))
      = ahead (targetAt (first + ((row : ℕ) : ℤ) + 1))
    rw [h]
  actions := fun _ _ _ _ _ => rfl

theorem length_rowsOf (first : ℤ) (K : ℕ) : (rowsOf first K).length = K := by
  rw [rowsOf, List.length_map, List.length_finRange]
  rfl

/-- The row of step `k`. -/
noncomputable def stepOf (first : ℤ) {K : ℕ} (k : Fin K) : Fin (rowsOf first K).length :=
  Fin.cast (length_rowsOf first K).symm k

theorem get_rowsOf (first : ℤ) {K : ℕ} (k : Fin K) : (rowsOf first K).get (stepOf first k)
    = ⟨k, 0, ahead (targetAt (first + (k : ℕ))), ahead (targetAt (first + (k : ℕ) + 1)),
      ![1, 0]⟩ := by
  rw [List.get_eq_getElem]
  simp only [rowsOf, List.getElem_map, List.getElem_finRange]
  rfl

/-- The target has not moved when step `0` or `1` is recorded. -/
theorem state_rowsOf {first : ℤ} {K : ℕ} {k : Fin K} (h : first + ((k : ℕ) : ℤ) ≤ 1) :
    ((rowsOf first K).get (stepOf first k)).state = ahead (95 / 100) := by
  rw [get_rowsOf]
  show ahead (targetAt _) = _
  rw [targetAt, if_pos h]

/-- What is told about the row of step `k`. -/
theorem told_row (net : List (Fin 45 → ℝ) → Fin 1 → Fin 1 → Fin 4 → ℝ) (first : ℤ) (K : ℕ) :
    Returns (told net first K) (fun result => ∀ k : Fin K,
      let gain := gainAt net (rowsOf first K) (stepOf first k)
      let c := lossConfidence watchConfig (fun _ _ => True) (lossAt net (rowsOf first K)) 0
        (stepOf first k)
      (result.1 k).valid = decide ((watchConfig.minCreditSignal : ℝ) < gain) ∧
      ((result.1 k).valid = true →
        (result.1 k).weight
          = 1 - 1 / 2 * c + 1 / 2 * c * 2 * (gain / (gain + watchConfig.eps)))) := by
  refine (told_returns net first K).mono (fun result h k => ?_)
  have hk := h (stepOf first k)
  rw [get_rowsOf] at hk
  exact hk

/-- A target that is seen is credited. -/
theorem valid_of_gain {gain : ℝ} (h : 1 / 10 < gain) :
    decide ((watchConfig.minCreditSignal : ℝ) < gain) = true := by
  refine decide_eq_true (lt_trans ?_ h)
  show (((1 / 10 ^ 6 : ℚ)) : ℝ) < 1 / 10
  norm_num

/-- The more confidence, the more weight for the camera that has all the responsibility. -/
theorem weight_lt {gain c c' : ℝ} (hgain : 1 / 10 < gain) (hc : c < c') :
    1 - 1 / 2 * c + 1 / 2 * c * 2 * (gain / (gain + watchConfig.eps))
      < 1 - 1 / 2 * c' + 1 / 2 * c' * 2 * (gain / (gain + watchConfig.eps)) := by
  have heps := eps_pos watchConfig
  have heps' : (watchConfig.eps : ℝ) < 1 / 10 := by
    show (((1 / 10 ^ 8 : ℚ)) : ℝ) < 1 / 10
    norm_num
  have hrho : 1 / 2 < gain / (gain + watchConfig.eps) := by
    rw [lt_div_iff₀ (by linarith)]
    linarith
  nlinarith [mul_pos (sub_pos.mpr hc) (sub_pos.mpr hrho)]

/-- The same row at both places is credited alike, if the network finds the same for it. -/
theorem gainAt_congr {count count' : ℕ} {net : List (Fin 45 → ℝ) → Fin 1 → Fin 1 → Fin 4 → ℝ}
    {rows : List (MatchedRow count 45 2)} {rows' : List (MatchedRow count' 45 2)}
    {k : Fin rows.length} {k' : Fin rows'.length}
    (hstate : (rows'.get k').state = (rows.get k).state)
    (hout : outAt net rows' k' = outAt net rows k) : gainAt net rows' k' = gainAt net rows k := by
  unfold gainAt pointsAt meanAt stdAt
  rw [hstate, hout]

/-- The loss at a step before the target has moved. -/
theorem lossAt_recorded {first : ℤ} {K : ℕ} {k : Fin K} (h : first + ((k : ℕ) : ℤ) ≤ 1) :
    lossAt resting (rowsOf first K) 0 (stepOf first k) = 1 / (1 + watchConfig.eps)
      * (1 / 2 * ((2000 * targetAt (first + (k : ℕ) + 1) - 2000 * (95 / 100))
          / (Real.log 2 + 25)) ^ 2
        + 2 * (Real.log (Real.log 2 + 25) + 1 / 2 * Real.log (2 * Real.pi))) :=
  lossAt_rest (state_rowsOf h) (by rw [get_rowsOf]) outAt_resting 0

/-- In a recording of step `0` alone, the confidence is a half. -/
theorem lossConfidence_alone : lossConfidence watchConfig (fun _ _ => True)
    (lossAt resting (rowsOf 0 1)) 0 (stepOf 0 (0 : Fin 1)) = 2⁻¹ := by
  refine lossConfidence_alike (fun t => ?_)
  have hlength := length_rowsOf 0 1
  have ht : t = stepOf 0 (0 : Fin 1) := by
    refine Fin.ext ?_
    have hlt := t.2
    show (t : ℕ) = 0
    omega
  rw [ht]

/-- When step `1` is recorded as well, in which the target moves, it is greater. -/
theorem lossConfidence_both : 2⁻¹ < lossConfidence watchConfig (fun _ _ => True)
    (lossAt resting (rowsOf 0 2)) 0 (stepOf 0 (0 : Fin 2)) := by
  have hlt : lossAt resting (rowsOf 0 2) 0 (stepOf 0 (0 : Fin 2))
      < lossAt resting (rowsOf 0 2) 0 (stepOf 0 (1 : Fin 2)) := by
    have hrest : targetAt (0 + ((0 : Fin 2) : ℕ) + 1) = 95 / 100 := if_pos (by decide)
    have hmoved : targetAt (0 + ((1 : Fin 2) : ℕ) + 1) = 0 := if_neg (by decide)
    have hlog : 0 < Real.log 2 := Real.log_pos (by norm_num)
    have heps := eps_pos watchConfig
    rw [lossAt_recorded (by decide), lossAt_recorded (by decide), hrest, hmoved]
    have hmove : (2000 * 0 - 2000 * (95 / 100)) / (Real.log 2 + 25) ≠ 0 :=
      div_ne_zero (by norm_num) (by linarith)
    refine mul_lt_mul_of_pos_left ?_ (by positivity)
    rw [sub_self, zero_div]
    have hsq := sq_pos_of_ne_zero hmove
    linarith
  refine lossConfidence_least (t := stepOf 0 (1 : Fin 2)) (fun t => ?_) hlt
  have hlength := length_rowsOf 0 2
  have ht : t = stepOf 0 (0 : Fin 2) ∨ t = stepOf 0 (1 : Fin 2) := by
    have ht := t.2
    rcases (by omega : (t : ℕ) = 0 ∨ (t : ℕ) = 1) with h | h
    · exact Or.inl (Fin.ext h)
    · exact Or.inr (Fin.ext h)
  rcases ht with rfl | rfl
  · exact le_rfl
  · exact hlt.le

/-- **What is said of a row depends on the rows of other keys.** The same row of a recording gets
another weight when a later step is recorded too, even if the belief looks at one state at a time.
With a recurrent belief it is valid, or not, according to whether an earlier step is recorded. -/
theorem Trajectory.told_by_other_rows :
    ((recorded 0 1).SameRecord (recorded 0 2) (0 : Fin 1) (0 : Fin 2) ∧
      Returns (told resting 0 1) (fun alone => Returns (told resting 0 2) (fun both =>
        (both.1 (0 : Fin 2)).weight ≠ (alone.1 (0 : Fin 1)).weight))) ∧
    (recorded 1 1).SameRecord (recorded 0 2) (0 : Fin 1) (1 : Fin 2) ∧
      Returns (told remembering 1 1) (fun alone => Returns (told remembering 0 2) (fun both =>
        (alone.1 (0 : Fin 1)).valid = true ∧ (both.1 (1 : Fin 2)).valid = false)) := by
  refine ⟨⟨sameRecord_recorded _ _ (by decide), ?_⟩, sameRecord_recorded _ _ (by decide), ?_⟩
  · refine (told_row resting 0 1).mono (fun alone halone => ?_)
    refine (told_row resting 0 2).mono (fun both hboth => ?_)
    obtain ⟨hvalid, hweight⟩ := halone 0
    obtain ⟨hvalid', hweight'⟩ := hboth 0
    -- the gain is the same, and the confidence is not
    have hgain : 1 / 10 < gainAt resting (rowsOf 0 1) (stepOf 0 0) :=
      gainAt_near (state_rowsOf (by decide)) (by rw [outAt_resting]; exact ⟨rfl, rfl⟩)
    have hsame : gainAt resting (rowsOf 0 2) (stepOf 0 0)
        = gainAt resting (rowsOf 0 1) (stepOf 0 0) :=
      gainAt_congr ((state_rowsOf (by decide)).trans (state_rowsOf (by decide)).symm)
        (outAt_resting.trans outAt_resting.symm)
    rw [hweight (hvalid.trans (valid_of_gain hgain)),
      hweight' (hvalid'.trans (by rw [hsame]; exact valid_of_gain hgain)), hsame,
      lossConfidence_alone]
    exact (weight_lt hgain lossConfidence_both).ne'
  · refine (told_row remembering 1 1).mono (fun alone halone => ?_)
    refine (told_row remembering 0 2).mono (fun both hboth => ?_)
    have hgain : 1 / 10 < gainAt remembering (rowsOf 1 1) (stepOf 1 0) :=
      gainAt_near (state_rowsOf (by decide)) (by
        rw [outAt_remembering_one rfl]
        exact ⟨rfl, rfl⟩)
    have hgain' : gainAt remembering (rowsOf 0 2) (stepOf 0 1) = 0 :=
      gainAt_far (state_rowsOf (by decide)) (by
        rw [outAt_remembering_two rfl, outAt_remembering_two rfl, if_pos rfl,
          Real.tanh_artanh (by norm_num)]
        exact ⟨rfl, rfl⟩)
    refine ⟨(halone 0).1.trans (valid_of_gain hgain), (hboth 1).1.trans ?_⟩
    rw [hgain']
    refine decide_eq_false (not_lt.mpr ?_)
    exact_mod_cast watchConfig.minCreditSignal_nonneg

end Mate.Rllib.Focus
