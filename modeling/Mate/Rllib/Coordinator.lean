import Mate.Library.Machines
import Mate.Preprocessing

set_option autoImplicit false

/-! # The coordinator of a camera

An `HRLMAPPOCameraAgent` selects targets for its camera. It lets its policy decide every
`frame_skip` steps by the clock of `check_inputs`, which goes forward at every second call. When
nothing but `act` is called, that are the calls whose half is a multiple of `frame_skip`
(`decided`). The agent's continuous action is left out: it is computed from the selection, and
nothing is computed from it.
-/

namespace Mate.Rllib

open Fallible Mealy

/-! ## Selections -/

/-- The actions of a policy: a bit for every target, or one of the targets or none. -/
def Selection (numTargets : ℕ) : Bool → Type
  | true => Fin numTargets → Bool
  | false => Fin (numTargets + 1)

/-- `np.asarray(selection, dtype=np.bool8)`, or `index2onehot[selection]`. -/
def Selection.bits {numTargets : ℕ} :
    {multiSelection : Bool} → Selection numTargets multiSelection → Fin numTargets → Bool
  | true, bits => bits
  | false, index => fun t => decide ((t : ℕ) = Fin.val index)

/-- Some selections differ, if there is a target. -/
theorem Selection.exists_bits_ne {numTargets : ℕ} (h : 0 < numTargets) (multiSelection : Bool) :
    ∃ selection selection' : Selection numTargets multiSelection,
      selection.bits ≠ selection'.bits := by
  cases multiSelection with
  | true =>
      refine ⟨fun _ => true, fun _ => false, fun hbits => ?_⟩
      cases congrFun hbits ⟨0, h⟩
  | false =>
      refine ⟨⟨0, Nat.succ_pos _⟩, Fin.last numTargets, fun hbits => ?_⟩
      have hzero := congrFun hbits ⟨0, h⟩
      have hlast : decide ((0 : ℕ) = numTargets) = true := hzero.symm
      rw [decide_eq_true_iff] at hlast
      omega

/-- A policy of `HierarchicalCamera`, as `compute_single_action` uses it, without exploration. The
padding of its input is a part of it. -/
abbrev SelectionPolicy (Hidden : Type) (numTargets : ℕ) (multiSelection : Bool) : Type :=
  Machine Hidden (List ℝ) (Selection numTargets multiSelection)

/-! ## The agent -/

/-- What the constructor of `HRLMAPPOCameraAgent` sets. -/
structure Coordinator (Hidden : Type) (numTargets : ℕ) where
  multiSelection : Bool
  policy : SelectionPolicy Hidden numTargets multiSelection
  flags : Preprocessing
  frameSkip : ℕ
  frameSkip_pos : 0 < frameSkip

/-- An agent after its first `reset`. -/
structure HRLMAPPOCameraAgent (Hidden G : Type) (numTargets : ℕ) where
  settings : Coordinator Hidden numTargets
  base : AgentBase .camera G
  hiddenState : Hidden
  lastSelection : Option (Fin numTargets → Bool)

namespace HRLMAPPOCameraAgent

variable {Hidden G : Type} {numTargets : ℕ}

noncomputable def reset [RandomState G] (settings : Coordinator Hidden numTargets) (npRandom : G)
    (observation : List ℝ) : Except Error (HRLMAPPOCameraAgent Hidden G numTargets) := do
  let base ← AgentBase.reset .camera npRandom observation
  return { settings, base, hiddenState := settings.policy.start, lastSelection := none }

noncomputable def act (self : HRLMAPPOCameraAgent Hidden G numTargets) (observation : List ℝ) :
    Except Error (HRLMAPPOCameraAgent Hidden G numTargets) := do
  let (state, base) ← self.base.checkInputs observation
  if base.episodeStep % (self.settings.frameSkip : ℤ) = 0 then
    let input ← base.preprocessRawObservation self.settings.flags observation
    let (selection, hiddenState) := self.settings.policy.step input self.hiddenState
    return { self with
      base := { base with state }, hiddenState, lastSelection := some selection.bits }
  else return { self with base := { base with state } }

end HRLMAPPOCameraAgent

/-! ## Decisions -/

section

variable {α : Type}

/-- What is left of the inputs of calls in which nothing but `act` is called. -/
def decided (frameSkip : ℕ) (inputs : List α) : List α :=
  (inputs.zipIdx.filter (fun input => input.2 / 2 % frameSkip = 0)).map Prod.fst

theorem decided_concat (frameSkip : ℕ) (inputs : List α) (input : α) :
    decided frameSkip (inputs ++ [input])
      = if inputs.length / 2 % frameSkip = 0 then decided frameSkip inputs ++ [input]
        else decided frameSkip inputs := by
  unfold decided
  rw [List.zipIdx_append, List.filter_append, List.map_append, Nat.zero_add]
  by_cases h : inputs.length / 2 % frameSkip = 0
  · simp [h]
  · simp [h]

theorem decided_eq_self {frameSkip : ℕ} {inputs : List α}
    (h : ∀ m < inputs.length, m / 2 % frameSkip = 0) : decided frameSkip inputs = inputs := by
  have hall : inputs.zipIdx.filter (fun input => input.2 / 2 % frameSkip = 0) = inputs.zipIdx := by
    refine List.filter_eq_self.mpr (fun input hmem => decide_eq_true (h _ ?_))
    have := List.snd_lt_of_mem_zipIdx hmem
    omega
  rw [decided, hall, List.zipIdx_map_fst]

/-- The first input is always decided on. -/
theorem decided_ne_nil {frameSkip : ℕ} {inputs : List α} (h : inputs ≠ []) :
    decided frameSkip inputs ≠ [] := by
  obtain ⟨input, inputs, rfl⟩ := List.exists_cons_of_ne_nil h
  unfold decided
  rw [List.zipIdx_cons, List.filter_cons_of_pos (by simp)]
  exact List.cons_ne_nil _ _

theorem decided_one (inputs : List α) : decided 1 inputs = inputs :=
  decided_eq_self (fun _ _ => Nat.mod_one _)

/-- If nothing is left out, the half of every number is a multiple. -/
theorem mod_eq_zero_of_length_decided {frameSkip : ℕ} {inputs : List α}
    (h : (decided frameSkip inputs).length = inputs.length) :
    ∀ m < inputs.length, m / 2 % frameSkip = 0 := by
  rw [decided, List.length_map] at h
  have hall := List.length_filter_eq_length_iff.mp (h.trans List.length_zipIdx.symm)
  intro m hm
  have hmem : (inputs[m], m) ∈ inputs.zipIdx :=
    List.mem_zipIdx_iff_getElem?.mpr (List.getElem?_eq_getElem hm)
  exact of_decide_eq_true (hall _ hmem)

/-- **All inputs are decided on** only without frames skipped, or in the first two calls. -/
theorem decided_eq_iff {frameSkip : ℕ} (hpos : 0 < frameSkip) {inputs inputs' : List α}
    (hlength : inputs.length = inputs'.length) :
    decided frameSkip inputs = inputs'
      ↔ (frameSkip = 1 ∨ inputs.length ≤ 2) ∧ inputs = inputs' := by
  constructor
  · intro h
    have hmod := mod_eq_zero_of_length_decided (h ▸ hlength.symm)
    refine ⟨?_, (decided_eq_self hmod).symm.trans h⟩
    by_cases hle : inputs.length ≤ 2
    · exact Or.inr hle
    · -- the third call is the first one of the next step
      have hone : 1 % frameSkip = 0 := hmod 2 (by omega)
      exact Or.inl (Nat.dvd_one.mp (Nat.dvd_of_mod_eq_zero hone))
  · rintro ⟨hskip, rfl⟩
    refine decided_eq_self (fun m hm => ?_)
    rcases hskip with rfl | hle
    · exact Nat.mod_one _
    · have hzero : m / 2 = 0 := by omega
      rw [hzero, Nat.zero_mod]

end

/-! ## An agent that nothing but `act` is called of -/

section

variable {cfg : Config} {Hidden G : Type} {i : Fin (cfg.teamSize .camera)}

/-- What the policy is given for a row. -/
noncomputable def Coordinator.input (settings : Coordinator Hidden cfg.numTargets) (row : List ℝ) :
    List ℝ :=
  settings.flags.transform .camera cfg.numCameras cfg.numTargets cfg.numObstacles row

/-- The agent of camera `i` after calls of `act` on these rows: its clock has gone forward at every
second one, and its policy has seen what was decided on. -/
structure Acted (settings : Coordinator Hidden cfg.numTargets)
    (i : Fin (cfg.teamSize .camera)) (rows : List (List ℝ))
    (agent : HRLMAPPOCameraAgent Hidden G cfg.numTargets) : Prop where
  settings_eq : agent.settings = settings
  knows : agent.base.Knows cfg i
  stepCounter : agent.base.stepCounter = rows.length
  episodeStep : agent.base.episodeStep = (((rows.length + 1) / 2 : ℕ) : ℤ) - 1
  hiddenState : agent.hiddenState
    = settings.policy.after (decided settings.frameSkip (rows.map settings.input))
  lastSelection : agent.lastSelection
    = (settings.policy.last (decided settings.frameSkip (rows.map settings.input))).map
        Selection.bits

theorem Acted.reset [RandomState G] {settings : Coordinator Hidden cfg.numTargets}
    {row : List ℝ} (hrow : Env.ObservationRow cfg .camera i row) (npRandom : G) :
    ∃ agent, HRLMAPPOCameraAgent.reset settings npRandom row = .ok agent
      ∧ Acted settings i [] agent := by
  obtain ⟨base, hbase, hknows, -, -, hepisode, hcounter⟩ := hrow.reset npRandom
  refine ⟨⟨settings, base, settings.policy.start, none⟩, ?_, ?_⟩
  · exact bind_eq_ok.mpr ⟨base, hbase, rfl⟩
  · exact ⟨rfl, hknows, hcounter, hepisode, rfl, rfl⟩

/-- **A call of `act`.** -/
theorem Acted.act {settings : Coordinator Hidden cfg.numTargets} {rows : List (List ℝ)}
    {agent : HRLMAPPOCameraAgent Hidden G cfg.numTargets} (h : Acted settings i rows agent)
    {row : List ℝ} (hrow : Env.ObservationRow cfg .camera i row) :
    ∃ agent', agent.act row = .ok agent' ∧ Acted settings i (rows ++ [row]) agent' := by
  obtain rfl := h.settings_eq
  obtain ⟨state, hcheck, -, -⟩ := hrow.checkInputs h.knows
  have hclock : (if agent.base.stepCounter % 2 = 0 then agent.base.episodeStep + 1
      else agent.base.episodeStep) = ((rows.length / 2 : ℕ) : ℤ) := by
    rw [h.stepCounter, h.episodeStep]
    split <;> omega
  have hnext : ((rows.length / 2 : ℕ) : ℤ) = ((((rows ++ [row]).length + 1) / 2 : ℕ) : ℤ) - 1 := by
    rw [List.length_append, List.length_singleton]
    omega
  have hcounter : agent.base.stepCounter + 1 = (rows ++ [row]).length := by
    rw [h.stepCounter, List.length_append, List.length_singleton]
  have hmod : ((rows.length / 2 : ℕ) : ℤ) % agent.settings.frameSkip = 0
      ↔ (rows.map agent.settings.input).length / 2 % agent.settings.frameSkip = 0 := by
    rw [List.length_map]
    omega
  have hdecided := decided_concat agent.settings.frameSkip (rows.map agent.settings.input)
    (agent.settings.input row)
  -- the agent that `check_inputs` leaves, with its clock read off
  rw [hclock] at hcheck
  have hknows : ∀ state, ({ agent.base with
      state
      episodeStep := ((rows.length / 2 : ℕ) : ℤ)
      stepCounter := agent.base.stepCounter + 1 } : AgentBase .camera G).Knows cfg i :=
    fun state => h.knows.observed state _ _
  have hinput := hrow.preprocessRawObservation (hknows agent.base.state) agent.settings.flags
  unfold HRLMAPPOCameraAgent.act
  rw [hcheck]
  by_cases hdecides : (rows.map agent.settings.input).length / 2 % agent.settings.frameSkip = 0
  · rw [if_pos hdecides] at hdecided
    refine ⟨_, (if_pos (hmod.mpr hdecides)).trans (bind_eq_ok.mpr ⟨_, hinput, rfl⟩), ?_⟩
    refine ⟨rfl, hknows state, hcounter, hnext, ?_, ?_⟩
    · rw [List.map_append, List.map_singleton, hdecided, Machine.after_concat, ← h.hiddenState]
      rfl
    · rw [List.map_append, List.map_singleton, hdecided, Machine.last_concat, ← h.hiddenState]
      rfl
  · rw [if_neg hdecides] at hdecided
    refine ⟨_, if_neg (mt hmod.mp hdecides), ?_⟩
    refine ⟨rfl, hknows state, hcounter, hnext, ?_, ?_⟩
    · rw [List.map_append, List.map_singleton, hdecided]
      exact h.hiddenState
    · rw [List.map_append, List.map_singleton, hdecided]
      exact h.lastSelection

end

end Mate.Rllib
