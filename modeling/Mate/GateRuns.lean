import Mate.Library.Runs
import Mate.Rllib.GateBuffers

set_option autoImplicit false

/-! # Loading a checkpoint without the buffers of the gate

`_load_from_state_dict` puts the buffers that a checkpoint lacks into its dictionary, so that the
loader does not miss them. It takes them from the module that is loading, which therefore keeps the
state it is in (`loadFromStateDict_eq`): closed if it has observed nothing, and only then
(`legacy_closed_iff`).
-/

namespace Mate.Rllib.GateBuffers

open Floats Dicts

variable {F : Format}

/-! ## Default values -/

theorem get?_setDefault {V : Type} (dict : Dicts.Dict String V) (key : String) (value : V)
    (key' : String) :
    (setDefault dict key value).get? key'
      = if key' = key then (dict.get? key).or (some value) else dict.get? key' := by
  unfold setDefault
  cases h : dict.get? key with
  | some stored =>
      by_cases hkey : key' = key
      · rw [if_pos hkey, hkey, h]
        rfl
      · rw [if_neg hkey]
  | none => exact Dicts.Dict.lookup_insert key value dict.entries key'

theorem key_inj {keyPrefix : String} {name name' : BufferName} :
    keyPrefix ++ name.key = keyPrefix ++ name'.key ↔ name = name' := by
  constructor
  · intro h
    have hkey : name.key = name'.key := String.append_right_inj keyPrefix |>.mp h
    cases name <;> cases name' <;> first | rfl | exact absurd hkey (by decide)
  · rintro rfl
    rfl

/-- The defaults of the first names, one after the other. -/
theorem get?_foldl_setDefault (keyPrefix : String) (g : GateBuffers F) (names : List BufferName)
    (dict : Dicts.Dict String (Tensor F)) (name : BufferName)
    (hlacks : dict.get? (keyPrefix ++ name.key) = none) :
    (names.foldl (fun dict name => setDefault dict (keyPrefix ++ name.key) (g.buffer name)) dict).get?
        (keyPrefix ++ name.key)
      = if name ∈ names then some (g.buffer name) else none := by
  -- the last name is set last
  induction names using List.reverseRecOn with
  | nil => exact hlacks
  | append_singleton names last ih =>
      rw [List.foldl_append, List.foldl_cons, List.foldl_nil, get?_setDefault]
      by_cases hlast : name = last
      · subst hlast
        rw [if_pos rfl, ih, if_pos (List.mem_append_right names List.mem_cons_self)]
        split <;> rfl
      · rw [if_neg (fun h => hlast (key_inj.mp h)), ih]
        simp only [List.mem_append, List.mem_singleton, hlast, or_false]

theorem ext_buffer {g g' : GateBuffers F} (h : ∀ name, g.buffer name = g'.buffer name) : g = g' := by
  obtain ⟨updates, model, baseline, count⟩ := g
  obtain ⟨updates', model', baseline', count'⟩ := g'
  have hupdates := h .focusLearnerUpdate
  have hmodel := h .beliefModelErrorEma
  have hbaseline := h .beliefBaselineErrorEma
  have hcount := h .beliefErrorEmaUpdates
  simp only [buffer, Tensor.count.injEq, Tensor.number.injEq] at hupdates hmodel hbaseline hcount
  rw [hupdates, hmodel, hbaseline, hcount]

/-- **A checkpoint without the buffers** leaves those of the module as they are. -/
theorem loadFromStateDict_eq (loader : ModuleLoader F) {keyPrefix : String} (g : GateBuffers F)
    {dict : Dicts.Dict String (Tensor F)}
    (hlacks : ∀ name : BufferName, dict.get? (keyPrefix ++ name.key) = none) :
    loadFromStateDict loader keyPrefix g dict = g := by
  refine ext_buffer (fun name => loader.copies keyPrefix _ g g name ?_)
  rw [fillMissing, get?_foldl_setDefault keyPrefix g BufferName.all dict name (hlacks name),
    if_pos (by cases name <;> decide)]

/-! ## The conservative state -/

/-- No averages, no updates, and a gate that is closed. -/
structure Closed (cfg : TrustConfig F) (g : GateBuffers F) : Prop where
  modelError : g.beliefModelErrorEma = none
  baselineError : g.beliefBaselineErrorEma = none
  updates : g.beliefErrorEmaUpdatesState = 0
  learnerUpdate : g.focusLearnerUpdateState = 0
  gate : g.beliefPerformanceGate cfg = .ok (.zero F)

theorem readEma_eq_none {v : FloatValue F} : readEma v = none ↔ v = .nan := by
  cases v <;> simp [readEma]

theorem closed_iff {cfg : TrustConfig F} {g : GateBuffers F} :
    Closed cfg g ↔ cfg.beliefPerformanceGate = true ∧ g = init F := by
  constructor
  · intro h
    have hmodel := readEma_eq_none.mp h.modelError
    have hbaseline := readEma_eq_none.mp h.baselineError
    refine ⟨?_, ?_⟩
    · by_contra hoff
      have hgate := h.gate
      rw [beliefPerformanceGate, if_pos (by simpa using hoff)] at hgate
      simp [FloatValue.one, FloatValue.zero] at hgate
    · obtain ⟨updates, model, baseline, count⟩ := g
      obtain rfl : updates = 0 := h.learnerUpdate
      obtain rfl : model = .nan := hmodel
      obtain rfl : baseline = .nan := hbaseline
      obtain rfl : count = 0 := h.updates
      rfl
  · rintro ⟨hon, rfl⟩
    refine ⟨rfl, rfl, rfl, rfl, ?_⟩
    rw [beliefPerformanceGate, if_neg (by simp [hon])]
    rfl

/-- **When a legacy checkpoint closes the gate**: there is a gate, and it has not been used. -/
theorem legacy_closed_iff (cfg : TrustConfig F) (loader : ModuleLoader F) (keyPrefix : String)
    (g : GateBuffers F) (dict : Dicts.Dict String (Tensor F))
    (hlacks : ∀ name : BufferName, dict.get? (keyPrefix ++ name.key) = none) :
    Closed cfg (loadFromStateDict loader keyPrefix g dict)
      ↔ cfg.beliefPerformanceGate = true ∧ g = init F := by
  rw [loadFromStateDict_eq loader g hlacks, closed_iff]

/-! ## An engine that has observed errors -/

/-- Exact arithmetic up to the greatest power of two of double precision. -/
noncomputable def doubleRange : Format :=
  Format.exact (2 ^ 1023) (one_le_pow₀ one_le_two)

/-- The gate of `zero_ema`, with the defaults of the reads. -/
noncomputable def zeroEma : TrustConfig doubleRange where
  beliefPerformanceGate := true
  beliefProgressiveBlend := false
  beliefBlendWarmupUpdates := 0
  beliefBlendRampUpdates := 0
  eps := .ofReal doubleRange (1 / 10 ^ 8)
  beliefGateMargin := .ofReal doubleRange 0
  beliefGateFullImprovement := .ofReal doubleRange (2 / 10)
  beliefErrorEmaDecay := .ofReal doubleRange (95 / 100)

theorem legacy_closed_fresh : Closed zeroEma
    (loadFromStateDict (ModuleLoader.copying doubleRange) "estimator." (init doubleRange) ⟨[]⟩) :=
  (legacy_closed_iff zeroEma (ModuleLoader.copying doubleRange) "estimator." _ ⟨[]⟩
    (fun _ => rfl)).mpr ⟨rfl, rfl⟩

/-- After one batch, with no error of the model, the gate stays open. -/
theorem legacy_stays_open : ∃ g,
    (init doubleRange).observeBeliefErrors zeroEma (.zero doubleRange) (.one doubleRange) none
      = .ok (true, g) ∧
    ¬ Closed zeroEma
      (loadFromStateDict (ModuleLoader.copying doubleRange) "estimator." g ⟨[]⟩) := by
  refine ⟨⟨1, .zero doubleRange, .one doubleRange, 1⟩, rfl, fun h => ?_⟩
  rw [loadFromStateDict_eq (ModuleLoader.copying doubleRange) _ (fun _ => rfl)] at h
  exact absurd h.learnerUpdate (by decide)

end Mate.Rllib.GateBuffers

/-! # Runs of the trust gate

That there is no average yet is written down twice: an average that is not a number reads as `None`,
and there is a count of updates. The two go together (`Coherent`) as long as nothing that is fed to
the gate makes an average that is not a number, or an infinite baseline (`Fed`, `TrustConfig.Sound`).
Then nothing raises and the gate is in the unit interval (`run_trusted`). An error that is not a number
drives them apart, and the next one raises (`nan_error_raises`); an infinite baseline leaves a gate
that is not a number (`infinite_baseline_gate`).
-/

namespace Mate.Rllib

open Floats Fallible Runs

variable {F : Format}

/-! ## What the gate may be fed -/

/-- Settings that keep the arithmetic of the gate among numbers. -/
structure TrustConfig.Sound (cfg : TrustConfig F) : Prop where
  gate_on : cfg.beliefPerformanceGate = true
  eps_positive : cfg.eps.IsPositive
  margin_ne_nan : cfg.beliefGateMargin ≠ .nan
  fullImprovement_belowTop : cfg.beliefGateFullImprovement.BelowTop
  decay_ne_nan : cfg.beliefErrorEmaDecay ≠ .nan
  ramp_le : |F.round (max cfg.beliefBlendRampUpdates 0 : ℤ)| ≤ F.largest

namespace GateBuffers

/-- An infinity that is averaged has a weight. -/
def Weighted (decay ema error : FloatValue F) : Prop :=
  (ema.IsInfinite → decay ≠ .zero F) ∧ (error.IsInfinite → decay ≠ .one F)

/-- Errors that the averages can take. The model may be infinitely wrong, the baseline may not. -/
structure Fed (cfg : TrustConfig F) (g : GateBuffers F) (modelError baselineError : FloatValue F) :
    Prop where
  model : modelError.AtLeast
  baseline : baselineError.AtMost
  room : (g.beliefErrorEmaUpdatesState : ℕ) + 1 < 2 ^ 63
  weighted : (g.beliefErrorEmaUpdatesState : ℕ) ≠ 0 →
    Weighted (decay cfg) g.beliefModelErrorEmaState modelError ∧
      Weighted (decay cfg) g.beliefBaselineErrorEmaState baselineError

/-- The averages are there whenever updates are counted. -/
def Coherent (g : GateBuffers F) : Prop :=
  (g.beliefErrorEmaUpdatesState : ℕ) = 0 ∨
    g.beliefModelErrorEmaState.AtLeast ∧ g.beliefBaselineErrorEmaState.AtMost

/-! ## Values that are there -/

theorem readEma_of_ne_nan {v : FloatValue F} (h : v ≠ .nan) : readEma v = some v := by
  cases v with
  | nan => exact absurd rfl h
  | inf negative => rfl
  | finite x hx hle => rfl

@[simp] theorem writeEma_readEma (v : FloatValue F) : writeEma (readEma v) = v := by
  cases v <;> rfl

theorem pyDiv_eq_ok {v w : FloatValue F} (hw : w.IsPositive) : pyDiv v w = .ok (v.div w) := by
  obtain ⟨y, hy, hle, rfl, hpos⟩ := hw
  exact if_neg hpos.ne'

theorem fillCount_eq_ok {value : ℤ} (h : value < 2 ^ 63) : ∃ count : Count,
    fillCount value = .ok count ∧ (count : ℕ) = value.toNat := by
  have hlt : value.toNat < 2 ^ 63 := by omega
  exact ⟨⟨value.toNat, hlt⟩, dif_pos hlt, rfl⟩

@[simp] theorem fillCount_val (count : Count) : fillCount ((count : ℕ) : ℤ) = .ok count := by
  have hlt : ((count : ℕ) : ℤ).toNat < 2 ^ 63 := by
    rw [Int.toNat_natCast]
    exact count.isLt
  rw [fillCount, dif_pos hlt]
  exact congrArg Except.ok (Fin.ext (Int.toNat_natCast _))

/-! ## One step -/

section Step

variable {cfg : TrustConfig F} {g : GateBuffers F}

theorem updateBeliefErrorEma_first (hzero : (g.beliefErrorEmaUpdatesState : ℕ) = 0) {count : Count}
    (hcount : fillCount ((g.beliefErrorEmaUpdatesState : ℕ) + 1) = .ok count)
    (modelError baselineError : FloatValue F) :
    g.updateBeliefErrorEma cfg modelError baselineError
      = .ok ⟨g.focusLearnerUpdateState, modelError, baselineError, count⟩ := by
  rw [updateBeliefErrorEma, if_pos hzero]
  exact bind_eq_ok.mpr ⟨_, rfl, bind_eq_ok.mpr ⟨count, hcount, rfl⟩⟩

theorem updateBeliefErrorEma_later (hne : (g.beliefErrorEmaUpdatesState : ℕ) ≠ 0) {count : Count}
    (hcount : fillCount ((g.beliefErrorEmaUpdatesState : ℕ) + 1) = .ok count)
    (hmodel : g.beliefModelErrorEmaState ≠ .nan) (hbaseline : g.beliefBaselineErrorEmaState ≠ .nan)
    (modelError baselineError : FloatValue F) :
    g.updateBeliefErrorEma cfg modelError baselineError
      = .ok ⟨g.focusLearnerUpdateState,
          FloatValue.average (decay cfg) g.beliefModelErrorEmaState modelError,
          FloatValue.average (decay cfg) g.beliefBaselineErrorEmaState baselineError, count⟩ := by
  have hread : orTypeError g.beliefModelErrorEma = .ok g.beliefModelErrorEmaState :=
    congrArg orTypeError (readEma_of_ne_nan hmodel)
  have hread' : orTypeError g.beliefBaselineErrorEma = .ok g.beliefBaselineErrorEmaState :=
    congrArg orTypeError (readEma_of_ne_nan hbaseline)
  rw [updateBeliefErrorEma, if_neg hne]
  refine bind_eq_ok.mpr ⟨_, hread, bind_eq_ok.mpr ⟨_, hread', bind_eq_ok.mpr ⟨_, rfl, ?_⟩⟩⟩
  exact bind_eq_ok.mpr ⟨count, hcount, rfl⟩

/-- The averages after a batch. -/
theorem updateBeliefErrorEma_returns (hcfg : cfg.Sound) (hg : g.Coherent)
    {modelError baselineError : FloatValue F} (h : g.Fed cfg modelError baselineError) : ∃ next,
    g.updateBeliefErrorEma cfg modelError baselineError = .ok next ∧
      next.focusLearnerUpdateState = g.focusLearnerUpdateState ∧
      next.beliefModelErrorEmaState.AtLeast ∧ next.beliefBaselineErrorEmaState.AtMost := by
  have hroom : ((g.beliefErrorEmaUpdatesState : ℕ) : ℤ) + 1 < 2 ^ 63 := by exact_mod_cast h.room
  obtain ⟨count, hcount, -⟩ := fillCount_eq_ok hroom
  by_cases hzero : (g.beliefErrorEmaUpdatesState : ℕ) = 0
  · exact ⟨_, updateBeliefErrorEma_first hzero hcount modelError baselineError, rfl, h.model,
      h.baseline⟩
  · obtain ⟨hmodel, hbaseline⟩ := hg.resolve_left hzero
    obtain ⟨hwModel, hwBaseline⟩ := h.weighted hzero
    obtain ⟨d, hd, hle, hdecay, h0, h1⟩ := FloatValue.InUnit.clip01 hcfg.decay_ne_nan
    have hdecay' : decay cfg = .finite d hd hle := hdecay
    have hne0 : decay cfg ≠ .zero F → d ≠ 0 := by
      rintro hne rfl
      exact hne hdecay'
    have hne1 : decay cfg ≠ .one F → d ≠ 1 := by
      rintro hne rfl
      exact hne hdecay'
    refine ⟨_, updateBeliefErrorEma_later hzero hcount hmodel.ne_nan hbaseline.ne_nan modelError
      baselineError, rfl, ?_, ?_⟩
    · rw [hdecay']
      exact FloatValue.AtLeast.average hd h0 h1 hmodel h.model (fun hi => hne0 (hwModel.1 hi))
        (fun hi => hne1 (hwModel.2 hi))
    · rw [hdecay']
      exact FloatValue.AtMost.average hd h0 h1 hbaseline h.baseline (fun hi => hne0 (hwBaseline.1 hi))
        (fun hi => hne1 (hwBaseline.2 hi))

/-- **The gate is in the unit interval**, and closed while no update is counted. -/
theorem beliefPerformanceGate_returns (hcfg : cfg.Sound) (hg : g.Coherent) : ∃ v,
    g.beliefPerformanceGate cfg = .ok v ∧ v.InUnit ∧
      ((g.beliefErrorEmaUpdatesState : ℕ) = 0 → v = .zero F) := by
  have hoff : ¬ (!cfg.beliefPerformanceGate) = true := by simp [hcfg.gate_on]
  rw [beliefPerformanceGate, if_neg hoff]
  by_cases hzero : (g.beliefErrorEmaUpdatesState : ℕ) = 0
  · refine ⟨.zero F, ?_, FloatValue.inUnit_zero, fun _ => rfl⟩
    cases g.beliefModelErrorEma with
    | none => rfl
    | some modelError =>
        cases g.beliefBaselineErrorEma with
        | none => rfl
        | some baselineError => exact if_pos hzero
  · obtain ⟨hmodel, hbaseline⟩ := hg.resolve_left hzero
    rw [beliefModelErrorEma, beliefBaselineErrorEma, readEma_of_ne_nan hmodel.ne_nan,
      readEma_of_ne_nan hbaseline.ne_nan]
    dsimp only
    rw [if_neg hzero]
    have hbase := FloatValue.IsPositive.pyMax_left hbaseline.belowTop hcfg.eps_positive
    have hfull := FloatValue.IsPositive.pyMax_left hcfg.fullImprovement_belowTop hcfg.eps_positive
    have hmargin := (FloatValue.NonNeg.pyMax_zero hcfg.margin_ne_nan).one_sub
    have hless := (FloatValue.AtMostOne.mul hbase hmargin).sub_ne_nan hmodel
    have himprovement := FloatValue.div_ne_nan hless hbase
    refine ⟨_, bind_eq_ok.mpr ⟨_, pyDiv_eq_ok hbase, bind_eq_ok.mpr ⟨_, pyDiv_eq_ok hfull, rfl⟩⟩,
      FloatValue.InUnit.clip01 (FloatValue.div_ne_nan himprovement hfull), fun h => absurd h hzero⟩

theorem floatOfInt_eq_ok {value : ℤ} (h : |F.round value| ≤ F.largest) :
    floatOfInt F value = .ok (.finite (F.round value) (F.round_round _) h) := by
  rw [floatOfInt, if_pos h, FloatValue.ofReal_of_le h]

/-- The learner updates after the warmup. -/
theorem updates_fit (hcounts : 2 ^ 63 ≤ F.bound) (count : Count) {warmup : ℤ} (hwarmup : 0 ≤ warmup)
    (hlate : warmup < (count : ℕ)) : |F.round (((count : ℕ) - warmup : ℤ) : ℝ)| ≤ F.largest := by
  have hlt := count.isLt
  have hle : ((((count : ℕ) : ℤ) - warmup : ℤ) : ℝ) ≤ 2 ^ 63 := by
    have h : ((count : ℕ) : ℤ) - warmup ≤ 2 ^ 63 := by omega
    exact_mod_cast h
  have hnonneg : (0 : ℝ) ≤ ((((count : ℕ) : ℤ) - warmup : ℤ) : ℝ) := by
    have h : 0 ≤ ((count : ℕ) : ℤ) - warmup := by omega
    exact_mod_cast h
  refine (F.abs_round_le ?_ F.round_bound).trans F.bound_le_largest
  rw [abs_of_nonneg hnonneg]
  exact hle.trans hcounts

/-- The schedule is in the unit interval as well. -/
theorem beliefBlendSchedule_returns (hcounts : 2 ^ 63 ≤ F.bound) (hcfg : cfg.Sound)
    (g : GateBuffers F) : ∃ v, g.beliefBlendSchedule cfg = .ok v ∧ v.InUnit := by
  unfold beliefBlendSchedule
  split
  · exact ⟨_, rfl, FloatValue.inUnit_one⟩
  · dsimp only
    split
    · exact ⟨_, rfl, FloatValue.inUnit_zero⟩
    · rename_i hlate
      split
      · exact ⟨_, rfl, FloatValue.inUnit_one⟩
      · rename_i hramp
        have hfits := updates_fit hcounts g.focusLearnerUpdateState (le_max_right _ 0)
          (not_le.mp hlate)
        have hrampPos : 1 ≤ max cfg.beliefBlendRampUpdates 0 := by
          have hnonneg := le_max_right cfg.beliefBlendRampUpdates 0
          omega
        have hpositive : (FloatValue.finite _ (F.round_round _) hcfg.ramp_le).IsPositive := by
          refine ⟨_, _, _, rfl, zero_lt_one.trans_le ?_⟩
          rw [← F.round_one]
          exact F.round_mono (by exact_mod_cast hrampPos)
        refine ⟨_, bind_eq_ok.mpr ⟨_, floatOfInt_eq_ok hcfg.ramp_le, bind_eq_ok.mpr ⟨_,
          floatOfInt_eq_ok hfits, bind_eq_ok.mpr ⟨_, pyDiv_eq_ok hpositive, rfl⟩⟩⟩, ?_⟩
        exact FloatValue.InUnit.clip01 (FloatValue.div_ne_nan (fun h => by cases h) hpositive)

end Step

/-! ## Operations -/

/-- The operations on the gate. -/
inductive Operation (F : Format) (γ : Type)
  | observe (modelError baselineError : FloatValue F) (learnerUpdate : Option ℤ)
  | credit (credits : FloatValue F → γ) (pending : Option (FloatValue F × FloatValue F))
      (updateBeliefEma : Bool)
  | setLearnerUpdate (learnerUpdate : Option ℤ)
  | setState (state : RuntimeState F)
  | roundTrip

section Operations

variable {γ : Type}

noncomputable def exec (cfg : TrustConfig F) (g : GateBuffers F) :
    Operation F γ → Except Error (GateBuffers F)
  | .observe modelError baselineError learnerUpdate =>
    return (← g.observeBeliefErrors cfg modelError baselineError learnerUpdate).2
  | .credit credits pending updateBeliefEma =>
    return (← g.focusCreditTarget cfg credits pending updateBeliefEma).2
  | .setLearnerUpdate learnerUpdate => g.setFocusLearnerUpdate learnerUpdate
  | .setState state => setFocusRuntimeState state
  | .roundTrip => setFocusRuntimeState g.getFocusRuntimeState

/-- An operation that brings errors, or averages, into the gate. -/
def Operation.Feeds : Operation F γ → Prop
  | .observe _ _ _ => True
  | .credit _ pending updateBeliefEma => pending.isSome ∧ updateBeliefEma = true
  | .setLearnerUpdate _ => False
  | .setState _ => True
  | .roundTrip => False

/-- An operation whose errors, averages and counts the gate can take. -/
def Admissible (cfg : TrustConfig F) (g : GateBuffers F) : Operation F γ → Prop
  | .observe modelError baselineError learnerUpdate =>
    g.Fed cfg modelError baselineError ∧
      learnerUpdate.getD ((g.focusLearnerUpdateState : ℕ) + 1) < 2 ^ 63
  | .credit _ pending updateBeliefEma =>
    ∀ errors, pending = some errors → updateBeliefEma = true → g.Fed cfg errors.1 errors.2
  | .setLearnerUpdate learnerUpdate => learnerUpdate.getD 0 < 2 ^ 63
  | .setState state =>
    state.learnerUpdate.getD 0 < 2 ^ 63 ∧ state.beliefErrorEmaUpdates.getD 0 < 2 ^ 63 ∧
      (0 < state.beliefErrorEmaUpdates.getD 0 →
        (writeEma state.beliefModelErrorEma).AtLeast ∧ (writeEma state.beliefBaselineErrorEma).AtMost)
  | .roundTrip => True

variable {cfg : TrustConfig F} {g : GateBuffers F}

theorem setFocusLearnerUpdate_returns {learnerUpdate : Option ℤ}
    (h : learnerUpdate.getD 0 < 2 ^ 63) : ∃ count,
    g.setFocusLearnerUpdate learnerUpdate = .ok { g with focusLearnerUpdateState := count } := by
  obtain ⟨count, hcount, -⟩ := fillCount_eq_ok h
  exact ⟨count, bind_eq_ok.mpr ⟨count, hcount, rfl⟩⟩

/-- **A round trip** of the runtime state. -/
theorem setFocusRuntimeState_getFocusRuntimeState (g : GateBuffers F) :
    setFocusRuntimeState g.getFocusRuntimeState = .ok g := by
  refine bind_eq_ok.mpr ⟨_, fillCount_val _, bind_eq_ok.mpr ⟨_, fillCount_val _, ?_⟩⟩
  simp only [getFocusRuntimeState, beliefModelErrorEma, beliefBaselineErrorEma, writeEma_readEma]
  rfl

theorem observeBeliefErrors_returns (hcfg : cfg.Sound) (hg : g.Coherent)
    {modelError baselineError : FloatValue F} (h : g.Fed cfg modelError baselineError)
    {learnerUpdate : Option ℤ}
    (hupdate : learnerUpdate.getD ((g.focusLearnerUpdateState : ℕ) + 1) < 2 ^ 63) : ∃ next,
    g.observeBeliefErrors cfg modelError baselineError learnerUpdate = .ok (true, next) ∧
      next.Coherent := by
  obtain ⟨next, hnext, heq, hmodel, hbaseline⟩ := updateBeliefErrorEma_returns hcfg hg h
  have hlt : (some (learnerUpdate.getD ((next.focusLearnerUpdateState : ℕ) + 1))).getD 0 < 2 ^ 63 := by
    rw [heq]
    exact hupdate
  obtain ⟨count, hset⟩ := setFocusLearnerUpdate_returns (g := next) hlt
  refine ⟨{ next with focusLearnerUpdateState := count }, ?_, .inr ⟨hmodel, hbaseline⟩⟩
  rw [observeBeliefErrors, if_neg (by simp [hcfg.gate_on])]
  exact bind_eq_ok.mpr ⟨next, hnext, bind_eq_ok.mpr ⟨_, hset, rfl⟩⟩

/-- The credits are made before the errors of the batch are averaged. -/
theorem focusCreditTarget_returns (hcounts : 2 ^ 63 ≤ F.bound) (hcfg : cfg.Sound) (hg : g.Coherent)
    (credits : FloatValue F → γ) {pending : Option (FloatValue F × FloatValue F)}
    {updateBeliefEma : Bool}
    (h : ∀ errors, pending = some errors → updateBeliefEma = true → g.Fed cfg errors.1 errors.2) :
    ∃ result next, g.focusCreditTarget cfg credits pending updateBeliefEma = .ok (result, next) ∧
      next.Coherent ∧
      (¬ (pending.isSome ∧ updateBeliefEma = true) → next = g) := by
  obtain ⟨schedule, hschedule, -⟩ := beliefBlendSchedule_returns hcounts hcfg g
  obtain ⟨gate, hgate, -⟩ := beliefPerformanceGate_returns hcfg hg
  refine ⟨credits (schedule.mul gate), ?_⟩
  cases pending with
  | none =>
      refine ⟨g, ?_, hg, fun _ => rfl⟩
      exact bind_eq_ok.mpr ⟨_, hschedule, bind_eq_ok.mpr ⟨_, hgate, rfl⟩⟩
  | some errors =>
      cases updateBeliefEma with
      | false =>
          refine ⟨g, ?_, hg, fun _ => rfl⟩
          exact bind_eq_ok.mpr ⟨_, hschedule, bind_eq_ok.mpr ⟨_, hgate, rfl⟩⟩
      | true =>
          obtain ⟨next, hnext, -, hmodel, hbaseline⟩ :=
            updateBeliefErrorEma_returns hcfg hg (h errors rfl rfl)
          refine ⟨next, bind_eq_ok.mpr ⟨_, hschedule, bind_eq_ok.mpr ⟨_, hgate, ?_⟩⟩,
            .inr ⟨hmodel, hbaseline⟩, fun hquiet => absurd ⟨rfl, rfl⟩ hquiet⟩
          -- both averages are read again, and are there now
          have hread : orTypeError next.beliefModelErrorEma = .ok next.beliefModelErrorEmaState :=
            congrArg orTypeError (readEma_of_ne_nan hmodel.ne_nan)
          have hread' :
              orTypeError next.beliefBaselineErrorEma = .ok next.beliefBaselineErrorEmaState :=
            congrArg orTypeError (readEma_of_ne_nan hbaseline.ne_nan)
          simp only [Bool.true_and, hcfg.gate_on, if_true]
          refine bind_eq_ok.mpr ⟨next, hnext, bind_eq_ok.mpr ⟨_, hread, ?_⟩⟩
          exact bind_eq_ok.mpr ⟨_, hread', rfl⟩

theorem setFocusRuntimeState_returns {state : RuntimeState F}
    (h : Admissible cfg g (.setState state : Operation F γ)) : ∃ next,
    setFocusRuntimeState state = .ok next ∧ next.Coherent := by
  obtain ⟨hupdate, hcount, haverages⟩ := h
  obtain ⟨update, hupdate', -⟩ := fillCount_eq_ok hupdate
  obtain ⟨count, hcount', heq⟩ := fillCount_eq_ok hcount
  refine ⟨_, bind_eq_ok.mpr ⟨_, hupdate', bind_eq_ok.mpr ⟨_, hcount', rfl⟩⟩, ?_⟩
  by_cases hpos : 0 < state.beliefErrorEmaUpdates.getD 0
  · exact .inr (haverages hpos)
  · exact .inl (heq.trans (Int.toNat_of_nonpos (not_lt.mp hpos)))

/-- **One step**: what is admissible returns, and keeps the averages and the count together. -/
theorem exec_returns (hcounts : 2 ^ 63 ≤ F.bound) (hcfg : cfg.Sound) (hg : g.Coherent)
    {op : Operation F γ} (hop : g.Admissible cfg op) : ∃ next, g.exec cfg op = .ok next ∧
      next.Coherent ∧
      (¬ op.Feeds → next.beliefErrorEmaUpdatesState = g.beliefErrorEmaUpdatesState) := by
  cases op with
  | observe modelError baselineError learnerUpdate =>
      obtain ⟨next, hnext, hcoherent⟩ := observeBeliefErrors_returns hcfg hg hop.1 hop.2
      exact ⟨next, bind_eq_ok.mpr ⟨_, hnext, rfl⟩, hcoherent, fun h => absurd trivial h⟩
  | credit credits pending updateBeliefEma =>
      obtain ⟨result, next, hnext, hcoherent, hquiet⟩ :=
        focusCreditTarget_returns hcounts hcfg hg credits hop
      refine ⟨next, bind_eq_ok.mpr ⟨_, hnext, rfl⟩, hcoherent, fun h => ?_⟩
      rw [hquiet h]
  | setLearnerUpdate learnerUpdate =>
      obtain ⟨count, hcount⟩ := setFocusLearnerUpdate_returns (g := g) hop
      exact ⟨_, hcount, hg, fun _ => rfl⟩
  | setState state =>
      obtain ⟨next, hnext, hcoherent⟩ := setFocusRuntimeState_returns hop
      exact ⟨next, hnext, hcoherent, fun h => absurd trivial h⟩
  | roundTrip => exact ⟨g, setFocusRuntimeState_getFocusRuntimeState g, hg, fun _ => rfl⟩

/-- What a batch returns depends on the blend before the batch only. -/
theorem focusCreditTarget_fst {credits : FloatValue F → γ}
    {pending : Option (FloatValue F × FloatValue F)} {updateBeliefEma : Bool} {result : γ × GateBuffers F}
    (h : g.focusCreditTarget cfg credits pending updateBeliefEma = .ok result) :
    ∃ schedule gate, g.beliefBlendSchedule cfg = .ok schedule ∧
      g.beliefPerformanceGate cfg = .ok gate ∧ result.1 = credits (schedule.mul gate) := by
  obtain ⟨schedule, hschedule, h⟩ := bind_eq_ok.mp h
  obtain ⟨gate, hgate, h⟩ := bind_eq_ok.mp h
  refine ⟨schedule, gate, hschedule, hgate, ?_⟩
  cases pending with
  | none =>
      obtain rfl := Except.ok.inj h
      rfl
  | some errors =>
      dsimp only at h
      split at h
      · obtain ⟨next, -, h⟩ := bind_eq_ok.mp h
        obtain ⟨_, -, h⟩ := bind_eq_ok.mp h
        obtain ⟨_, -, h⟩ := bind_eq_ok.mp h
        obtain rfl := Except.ok.inj h
        rfl
      · obtain rfl := Except.ok.inj h
        rfl

theorem focusCreditTarget_causal {credits : FloatValue F → γ}
    {pending pending' : Option (FloatValue F × FloatValue F)} {update update' : Bool}
    {result result' : γ × GateBuffers F}
    (h : g.focusCreditTarget cfg credits pending update = .ok result)
    (h' : g.focusCreditTarget cfg credits pending' update' = .ok result') : result.1 = result'.1 := by
  obtain ⟨schedule, gate, hschedule, hgate, heq⟩ := focusCreditTarget_fst h
  obtain ⟨schedule', gate', hschedule', hgate', heq'⟩ := focusCreditTarget_fst h'
  obtain rfl := Except.ok.inj (hschedule.symm.trans hschedule')
  obtain rfl := Except.ok.inj (hgate.symm.trans hgate')
  rw [heq, heq']

/-! ## Runs -/

/-- What the gate promises in a state. -/
structure Trusted (γ : Type) (cfg : TrustConfig F) (g : GateBuffers F) : Prop where
  returns : ∀ op : Operation F γ, g.Admissible cfg op → ∃ next, g.exec cfg op = .ok next
  gate : ∃ v, g.beliefPerformanceGate cfg = .ok v ∧ v.InUnit
  restores : setFocusRuntimeState g.getFocusRuntimeState = .ok g
  causal : ∀ (credits : FloatValue F → γ) (pending pending' : Option (FloatValue F × FloatValue F))
    (update update' : Bool) (result result' : γ × GateBuffers F),
    g.focusCreditTarget cfg credits pending update = .ok result →
    g.focusCreditTarget cfg credits pending' update' = .ok result' → result.1 = result'.1

/-- An operation that is admissible, with the state it ends in. -/
def Step (cfg : TrustConfig F) (g : GateBuffers F) (op : Operation F γ) (next : GateBuffers F) :
    Prop :=
  g.Admissible cfg op ∧ g.exec cfg op = .ok next

theorem coherent_run (hcounts : 2 ^ 63 ≤ F.bound) (hcfg : cfg.Sound) {ops : List (Operation F γ)}
    (h : Run (Step cfg) (init F) ops g) : g.Coherent ∧
      ((∀ op ∈ ops, ¬ op.Feeds) → (g.beliefErrorEmaUpdatesState : ℕ) = 0) := by
  refine h.induct (fun ops g => g.Coherent ∧
    ((∀ op ∈ ops, ¬ op.Feeds) → (g.beliefErrorEmaUpdatesState : ℕ) = 0)) ⟨.inl rfl, fun _ => rfl⟩ ?_
  rintro ops g op next ⟨hg, hzero⟩ ⟨hop, hexec⟩
  obtain ⟨next', hexec', hcoherent, hcount⟩ := exec_returns hcounts hcfg hg hop
  obtain rfl := Except.ok.inj (hexec.symm.trans hexec')
  refine ⟨hcoherent, fun hquiet => ?_⟩
  rw [hcount (hquiet op (by simp))]
  exact hzero (fun op hmem => hquiet op (by simp [hmem]))

/-- **The trust gate over whole runs**: with sound settings, after any admissible operations, nothing
admissible raises, the gate is in the unit interval, and closed before anything has fed it. -/
theorem run_trusted (hcounts : 2 ^ 63 ≤ F.bound) (hcfg : cfg.Sound) {ops : List (Operation F γ)}
    (h : Run (Step cfg) (init F) ops g) : Trusted γ cfg g ∧
      ((∀ op ∈ ops, ¬ op.Feeds) → g.beliefPerformanceGate cfg = .ok (.zero F)) := by
  obtain ⟨hg, hquiet⟩ := coherent_run hcounts hcfg h
  obtain ⟨v, hv, hunit, hzero⟩ := beliefPerformanceGate_returns hcfg hg
  refine ⟨⟨fun op hop => ?_, ⟨v, hv, hunit⟩, setFocusRuntimeState_getFocusRuntimeState g,
    fun _ _ _ _ _ _ _ => focusCreditTarget_causal⟩, fun hnone => ?_⟩
  · obtain ⟨next, hnext, -⟩ := exec_returns hcounts hcfg hg hop
    exact ⟨next, hnext⟩
  · rw [hv, hzero (hquiet hnone)]

end Operations

theorem zeroEma_sound : zeroEma.Sound where
  gate_on := rfl
  eps_positive := by
    have hle : |doubleRange.round (1 / 10 ^ 8)| ≤ doubleRange.largest := by
      have h : |(1 / 10 ^ 8 : ℝ)| ≤ 1 := by norm_num
      exact h.trans doubleRange.one_le_largest
    have hpos : (0 : ℝ) < doubleRange.round (1 / 10 ^ 8) := by
      have h : (0 : ℝ) < 1 / 10 ^ 8 := by norm_num
      exact h
    exact ⟨_, doubleRange.round_round _, hle, FloatValue.ofReal_of_le hle, hpos⟩
  margin_ne_nan := FloatValue.ofReal_ne_nan _
  fullImprovement_belowTop :=
    FloatValue.belowTop_ofReal (by norm_num) doubleRange.round_one doubleRange.one_le_largest
  decay_ne_nan := FloatValue.ofReal_ne_nan _
  ramp_le := by
    have hmax : ((max zeroEma.beliefBlendRampUpdates 0 : ℤ) : ℝ) = 0 := by simp [zeroEma]
    rw [hmax, doubleRange.round_zero, abs_zero]
    exact zero_le_one.trans doubleRange.one_le_largest

/-- A model that is infinitely wrong at first, and a restart. -/
theorem run_trusted_infinite :
    Trusted (FloatValue doubleRange) zeroEma ⟨1, .inf false, .one doubleRange, 1⟩ := by
  have hcounts : (2 : ℝ) ^ 63 ≤ doubleRange.bound := pow_le_pow_right₀ one_le_two (by norm_num)
  have hone : (FloatValue.one doubleRange).AtMost := one_le_pow₀ (one_le_two : (1 : ℝ) ≤ 2)
  have hfed : (init doubleRange).Fed zeroEma (.inf false) (.one doubleRange) :=
    ⟨rfl, hone, show 0 + 1 < 2 ^ 63 by norm_num, fun h => absurd rfl h⟩
  have hobserve : Step zeroEma (init doubleRange)
      (.observe (.inf false) (.one doubleRange) none : Operation doubleRange (FloatValue doubleRange))
      ⟨1, .inf false, .one doubleRange, 1⟩ :=
    ⟨⟨hfed, show (0 : ℤ) + 1 < 2 ^ 63 by norm_num⟩, rfl⟩
  have hrestart : Step zeroEma ⟨1, .inf false, .one doubleRange, 1⟩
      (.roundTrip : Operation doubleRange (FloatValue doubleRange))
      ⟨1, .inf false, .one doubleRange, 1⟩ :=
    ⟨trivial, setFocusRuntimeState_getFocusRuntimeState _⟩
  exact (run_trusted hcounts zeroEma_sound (Run.snoc (Run.single hobserve) hrestart)).1

/-! ## Errors that are not numbers -/

/-- **An average that is not a number**, once updates are counted, makes the next one raise. -/
theorem nan_error_raises (cfg : TrustConfig F) {g : GateBuffers F}
    (hne : (g.beliefErrorEmaUpdatesState : ℕ) ≠ 0) (hnan : g.beliefModelErrorEmaState = .nan)
    (modelError baselineError : FloatValue F) :
    g.updateBeliefErrorEma cfg modelError baselineError
      = .error (.typeError "unsupported operand type: 'NoneType'") := by
  have hread : orTypeError g.beliefModelErrorEma
      = .error (.typeError "unsupported operand type: 'NoneType'") := by
    rw [beliefModelErrorEma, hnan]
    rfl
  rw [updateBeliefErrorEma, if_neg hne, hread]
  rfl

/-- **A baseline that is infinitely wrong** makes the gate no number. -/
theorem infinite_baseline_gate {cfg : TrustConfig F} (hcfg : cfg.Sound) {g : GateBuffers F}
    (hne : (g.beliefErrorEmaUpdatesState : ℕ) ≠ 0) (hmodel : g.beliefModelErrorEmaState ≠ .nan)
    (hbaseline : g.beliefBaselineErrorEmaState = .inf false) :
    g.beliefPerformanceGate cfg = .ok .nan := by
  have hmax : FloatValue.pyMax (.inf false) cfg.eps = .inf false := by
    refine if_neg ?_
    rintro ⟨x, y, hx, -, hlt⟩
    obtain rfl := Option.some.inj hx
    exact not_top_lt hlt
  have hfull := FloatValue.IsPositive.pyMax_left hcfg.fullImprovement_belowTop hcfg.eps_positive
  have hoff : ¬ (!cfg.beliefPerformanceGate) = true := by simp [hcfg.gate_on]
  rw [beliefPerformanceGate, if_neg hoff, beliefModelErrorEma, beliefBaselineErrorEma,
    readEma_of_ne_nan hmodel, hbaseline, readEma_of_ne_nan (fun h => by cases h)]
  dsimp only
  rw [if_neg hne, hmax]
  refine bind_eq_ok.mpr ⟨.nan, ?_, bind_eq_ok.mpr ⟨.nan, ?_, rfl⟩⟩
  · have hnonzero : ¬ (FloatValue.inf false : FloatValue F).IsZero := fun h => h
    rw [pyDiv, if_neg hnonzero, FloatValue.inf_mul_sub_div_inf]
  · rw [pyDiv_eq_ok hfull]
    rfl

/-- What a first batch without a number leaves. -/
theorem observe_nan (baselineError : FloatValue doubleRange) : ∃ g,
    (init doubleRange).observeBeliefErrors zeroEma .nan baselineError none = .ok (true, g) ∧
      (g.beliefErrorEmaUpdatesState : ℕ) ≠ 0 ∧ g.beliefModelErrorEmaState = .nan :=
  ⟨⟨1, .nan, baselineError, 1⟩, rfl, show (1 : ℕ) ≠ 0 from one_ne_zero, rfl⟩

/-- A batch without a number is taken, and then every batch raises. -/
theorem diverged_model_raises : ∃ g : GateBuffers doubleRange,
    (init doubleRange).exec zeroEma
        (.observe .nan (.one doubleRange) none : Operation doubleRange (FloatValue doubleRange))
      = .ok g ∧
    ∀ modelError baselineError learnerUpdate,
      g.exec zeroEma (.observe modelError baselineError learnerUpdate :
          Operation doubleRange (FloatValue doubleRange))
        = .error (.typeError "unsupported operand type: 'NoneType'") := by
  obtain ⟨g, hg, hne, hnan⟩ := observe_nan (.one doubleRange)
  refine ⟨g, bind_eq_ok.mpr ⟨_, hg, rfl⟩, fun modelError baselineError learnerUpdate => ?_⟩
  rw [exec, observeBeliefErrors, if_neg (by simp [zeroEma]), nan_error_raises zeroEma hne hnan]
  rfl

end GateBuffers

end Mate.Rllib
