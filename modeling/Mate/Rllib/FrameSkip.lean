import Mate.Library.Fallible
import Mate.Rllib.Metrics
import Mate.Utils

set_option autoImplicit false

/-! # Skipping frames

`FrameSkip` holds the actions of a team for some steps of the environment, or until all agents are
done, and returns the last outcome with the sums of the rewards. It has a `MetricCollector` for
every agent, and puts what these return into the infos.
-/

namespace Mate.Rllib

variable {S A O : Type}

/-! ## Environments of a team -/

/-- What `step` returns, with an entry for every agent of the team. -/
structure Outcome (O : Type) where
  observations : List O
  rewards : List ℝ
  dones : List Bool
  infos : List Dict

/-- `all(dones)`. -/
def Outcome.allDone (outcome : Outcome O) : Bool := outcome.dones.all id

/-- The numbers that `MultiAgentTracking.step` puts into the info of every agent. -/
def STEP_KEYS : List String :=
  ["raw_reward", "normalized_raw_reward", "out_communication_edges", "in_communication_edges",
    "coverage_rate", "real_coverage_rate", "mean_transport_rate", "num_delivered_cargoes"]

/-- There is an observation and an info for every agent, with the numbers of the environment. -/
structure Outcome.Complete (outcome : Outcome O) (numTeammates : ℕ) : Prop where
  observations : outcome.observations.length = numTeammates
  infos : outcome.infos.length = numTeammates
  keys : ∀ info ∈ outcome.infos, ∀ key ∈ STEP_KEYS, key ∈ info

/-- A `MultiCamera` or a `MultiTarget`, whatever is around it or inside it. The states are those
of the environment and of the agents that are in it. -/
structure TeamEnv (S A O : Type) where
  numTeammates : ℕ
  numTeammates_pos : 0 < numTeammates
  reset : Option ℕ → S → Except Error (List O × S)
  step : S → A → Except Error (Outcome O × S)
  length_reset : ∀ {seed s observations s'}, reset seed s = .ok (observations, s') →
    observations.length = numTeammates
  step_complete : ∀ {s action outcome s'}, step s action = .ok (outcome, s') →
    outcome.Complete numTeammates

/-! ## Episodes -/

/-- The outcomes along a list of actions, until all agents are done. -/
def rollout (step : S → A → Except Error (Outcome O × S)) :
    List A → S → Except Error (List (Outcome O) × S)
  | [], s => pure ([], s)
  | action :: actions, s => do
      let (outcome, s) ← step s action
      if outcome.allDone then return ([outcome], s)
      let (outcomes, s) ← rollout step actions s
      return (outcome :: outcomes, s)

/-- The outcomes of an episode, after a reset. -/
def episode (reset : Option ℕ → S → Except Error (List O × S))
    (step : S → A → Except Error (Outcome O × S)) (seed : Option ℕ) (actions : List A) (s : S) :
    Except Error (List (Outcome O) × S) := do
  let (_, s) ← reset seed s
  rollout step actions s

section

open Fallible

variable {step : S → A → Except Error (Outcome O × S)} {s s' : S} {outcomes : List (Outcome O)}

/-- The last outcome is one that all agents are done after. -/
def Ended (outcomes : List (Outcome O)) : Prop :=
  ∃ outcome, outcomes.getLast? = some outcome ∧ outcome.allDone = true

theorem not_ended_nil : ¬ Ended ([] : List (Outcome O)) := by
  rintro ⟨outcome, h, -⟩
  cases h

theorem ended_cons {outcome : Outcome O} (h : outcome.allDone = false) :
    Ended (outcome :: outcomes) ↔ Ended outcomes := by
  unfold Ended
  cases outcomes with
  | nil =>
      constructor
      · rintro ⟨last, hlast, hdone⟩
        obtain rfl : outcome = last := Option.some.inj hlast
        rw [h] at hdone
        cases hdone
      · rintro ⟨last, hlast, -⟩
        cases hlast
  | cons outcome' outcomes => rw [List.getLast?_cons_cons]

/-- One step of a rollout, and the rest of it. -/
theorem rollout_cons {action : A} {actions : List A} :
    rollout step (action :: actions) s = .ok (outcomes, s') ↔
      ∃ outcome s₁, step s action = .ok (outcome, s₁) ∧
        ((outcome.allDone = true ∧ outcomes = [outcome] ∧ s' = s₁) ∨
          (outcome.allDone = false ∧ ∃ rest, rollout step actions s₁ = .ok (rest, s') ∧
            outcomes = outcome :: rest)) := by
  rw [rollout, bind_eq_ok]
  constructor
  · rintro ⟨⟨outcome, s₁⟩, hstep, h⟩
    refine ⟨outcome, s₁, hstep, ?_⟩
    cases hdone : outcome.allDone with
    | true =>
        simp only [hdone, if_true] at h
        cases h
        exact Or.inl ⟨rfl, rfl, rfl⟩
    | false =>
        simp only [hdone, Bool.false_eq_true, if_false] at h
        obtain ⟨⟨rest, s₂⟩, hrest, h⟩ := bind_eq_ok.mp h
        cases h
        exact Or.inr ⟨rfl, rest, hrest, rfl⟩
  · rintro ⟨outcome, s₁, hstep, ⟨hdone, rfl, rfl⟩ | ⟨hdone, rest, hrest, rfl⟩⟩
    · refine ⟨(outcome, s'), hstep, ?_⟩
      simp only [hdone, if_true]
      rfl
    · refine ⟨(outcome, s₁), hstep, ?_⟩
      simp only [hdone, Bool.false_eq_true, if_false]
      exact bind_eq_ok.mpr ⟨(rest, s'), hrest, rfl⟩

/-- A rollout ends in the first part of the actions, or goes on with the second. -/
theorem rollout_append {first second : List A}
    (h : rollout step (first ++ second) s = .ok (outcomes, s')) :
    ∃ before s₁, rollout step first s = .ok (before, s₁) ∧
      ((Ended before ∧ outcomes = before ∧ s' = s₁) ∨
        (¬ Ended before ∧ before.length = first.length ∧
          ∃ after, rollout step second s₁ = .ok (after, s') ∧ outcomes = before ++ after)) := by
  induction first generalizing s outcomes with
  | nil => exact ⟨[], s, rfl, Or.inr ⟨not_ended_nil, rfl, outcomes, h, rfl⟩⟩
  | cons action first ih =>
      obtain ⟨outcome, s₁, hstep, ⟨hdone, rfl, rfl⟩ | ⟨hdone, rest, hrest, rfl⟩⟩ :=
        rollout_cons.mp h
      · exact ⟨[outcome], s', rollout_cons.mpr ⟨outcome, s', hstep, Or.inl ⟨hdone, rfl, rfl⟩⟩,
          Or.inl ⟨⟨outcome, rfl, hdone⟩, rfl, rfl⟩⟩
      · obtain ⟨before, s₂, hbefore, hcases⟩ := ih hrest
        refine ⟨outcome :: before, s₂,
          rollout_cons.mpr ⟨outcome, s₁, hstep, Or.inr ⟨hdone, before, hbefore, rfl⟩⟩, ?_⟩
        rcases hcases with ⟨hended, rfl, rfl⟩ | ⟨hended, hlength, after, hafter, rfl⟩
        · exact Or.inl ⟨(ended_cons hdone).mpr hended, rfl, rfl⟩
        · exact Or.inr ⟨mt (ended_cons hdone).mp hended, congrArg (· + 1) hlength, after, hafter, rfl⟩

/-- There is an outcome for every action, unless the rollout ends before. -/
theorem length_rollout {actions : List A} (h : rollout step actions s = .ok (outcomes, s')) :
    outcomes.length ≤ actions.length ∧ (actions ≠ [] → 0 < outcomes.length) := by
  induction actions generalizing s outcomes with
  | nil => cases h; exact ⟨le_refl _, fun hne => absurd rfl hne⟩
  | cons action actions ih =>
      obtain ⟨outcome, s₁, -, ⟨-, rfl, -⟩ | ⟨-, rest, hrest, rfl⟩⟩ := rollout_cons.mp h
      · exact ⟨Nat.succ_le_succ (Nat.zero_le _), fun _ => Nat.one_pos⟩
      · exact ⟨Nat.succ_le_succ (ih hrest).1, fun _ => Nat.succ_pos _⟩

theorem complete_rollout {env : TeamEnv S A O} {actions : List A}
    (h : rollout env.step actions s = .ok (outcomes, s')) :
    ∀ outcome ∈ outcomes, outcome.Complete env.numTeammates := by
  induction actions generalizing s outcomes with
  | nil => cases h; exact fun outcome hmem => absurd hmem List.not_mem_nil
  | cons action actions ih =>
      obtain ⟨outcome, s₁, hstep, ⟨-, rfl, -⟩ | ⟨-, rest, hrest, rfl⟩⟩ := rollout_cons.mp h
      · exact fun outcome' hmem => List.mem_singleton.mp hmem ▸ env.step_complete hstep
      · exact List.forall_mem_cons.mpr ⟨env.step_complete hstep, ih hrest⟩

end

/-! ## The wrapper -/

namespace FrameSkip

def INFO_KEYS : Metrics :=
  [(.key "raw_reward", .sum),
    (.key "normalized_raw_reward", .sum),
    (.family "auxiliary_reward", .sum),
    (.family "reward_coefficient", .mean),
    (.key "coverage_rate", .mean),
    (.key "real_coverage_rate", .mean),
    (.key "mean_transport_rate", .last),
    (.key "num_delivered_cargoes", .last),
    (.key "num_tracked", .mean)]

structure State (S O : Type) where
  env : S
  lastObservations : Option (List O)

/-- The variables of the loop in `step`. Before the first frame there is no outcome. -/
structure Fragment (O : Type) where
  outcome : Option (Outcome O) := none
  fragmentRewards : List (List ℝ) := []
  infoCollectors : List MetricCollector

section

variable [WordCharacters]

/-- `for collector, info in zip(info_collectors, infos): collector.add(info)`. -/
noncomputable def addEach : List MetricCollector → List Dict → List MetricCollector
  | collector :: collectors, info :: infos => collector.add [info] :: addEach collectors infos
  | collectors, _ => collectors

noncomputable def Fragment.add (fragment : Fragment O) (outcome : Outcome O) : Fragment O where
  outcome := some outcome
  fragmentRewards := fragment.fragmentRewards ++ [outcome.rewards]
  infoCollectors := addEach fragment.infoCollectors outcome.infos

/-- The loop over at most so many frames. -/
noncomputable def frames (env : TeamEnv S A O) (action : A) :
    ℕ → Fragment O → S → Except Error (Fragment O × S)
  | 0, fragment, s => pure (fragment, s)
  | f + 1, fragment, s => do
      let (outcome, s) ← env.step s action
      if outcome.allDone then return (fragment.add outcome, s)
      frames env action f (fragment.add outcome) s

end

/-- `for collector, info in zip(info_collectors, infos): info.update(collector.collect())`. -/
noncomputable def updateEach : List MetricCollector → List Dict → List Dict
  | collector :: collectors, info :: infos =>
      (collector.collect ∪ info) :: updateEach collectors infos
  | _, infos => infos

/-- `np.sum(fragment_rewards, axis=0)`. -/
noncomputable def sumRows : List (List ℝ) → List ℝ
  | [] => []
  | [row] => row
  | row :: rows => List.zipWith (· + ·) row (sumRows rows)

/-- What is returned after the loop. -/
noncomputable def Fragment.result (fragment : Fragment O) : Except Error (Outcome O) :=
  match fragment.outcome with
  | none => .error (.runtimeError "local variable 'observations' referenced before assignment")
  | some outcome =>
      .ok { outcome with
        rewards := sumRows fragment.fragmentRewards
        infos := updateEach fragment.infoCollectors outcome.infos }

/-- The fragment before the first frame. -/
def start (numAgents : ℕ) : Fragment O where
  infoCollectors := List.replicate numAgents { metrics := INFO_KEYS }

variable [WordCharacters]

noncomputable def step (env : TeamEnv S A O) (frameSkip : ℕ) (s : State S O) (action : A) :
    Except Error (Outcome O × State S O) := do
  let lastObservations ←
    match s.lastObservations with
    | some observations => .ok observations
    | none => .error (.typeError "object of type 'NoneType' has no len()")
  let (fragment, e) ← frames env action frameSkip (start lastObservations.length) s.env
  let outcome ← fragment.result
  return (outcome, { env := e, lastObservations := some outcome.observations })

def reset (env : TeamEnv S A O) (seed : Option ℕ) (s : State S O) :
    Except Error (List O × State S O) := do
  let (observations, e) ← env.reset seed s.env
  return (observations, { env := e, lastObservations := some observations })

/-! ## Fragments -/

open Fallible

variable {env : TeamEnv S A O} {k m : ℕ} {outcomes : List (Outcome O)} {s s' : S}

/-- The loop goes through a rollout in which the action is held. -/
theorem frames_eq_ok {action : A} {fragment : Fragment O}
    (h : rollout env.step (List.replicate k action) s = .ok (outcomes, s')) :
    frames env action k fragment s = .ok (outcomes.foldl Fragment.add fragment, s') := by
  induction k generalizing s outcomes fragment with
  | zero => cases h; rfl
  | succ k ih =>
      rw [List.replicate_succ] at h
      obtain ⟨outcome, s₁, hstep, hcases⟩ := rollout_cons.mp h
      unfold frames
      rw [hstep]
      rcases hcases with ⟨hdone, rfl, rfl⟩ | ⟨hdone, rest, hrest, rfl⟩
      · show (if outcome.allDone = true then _ else _) = _
        rw [if_pos hdone]
        rfl
      · show (if outcome.allDone = true then _ else _) = _
        rw [if_neg (by rw [hdone]; exact Bool.false_ne_true), ih hrest]
        rfl

/-- The outcome of a fragment with these frames. -/
def Merges (numAgents : ℕ) (outcomes : List (Outcome O)) (outcome : Outcome O) : Prop :=
  (outcomes.foldl Fragment.add (start numAgents)).result = .ok outcome

theorem outcome_foldl_add (outcomes : List (Outcome O)) (fragment : Fragment O) :
    (outcomes.foldl Fragment.add fragment).outcome = outcomes.getLast?.or fragment.outcome := by
  induction outcomes using List.reverseRecOn with
  | nil => rfl
  | append_singleton outcomes outcome _ =>
      rw [List.foldl_append, List.getLast?_concat]
      rfl

omit [WordCharacters] in
/-- Elements of two lists of one length, one pair after the other. -/
theorem eq_zipWith {α β γ : Type} {f : α → β → γ} {each : List α → List β → List γ}
    (hnil : each [] [] = [])
    (hcons : ∀ a l b l', each (a :: l) (b :: l') = f a b :: each l l') {l : List α} {l' : List β}
    (h : l.length = l'.length) : each l l' = List.zipWith f l l' := by
  induction l generalizing l' with
  | nil =>
      obtain rfl := List.length_eq_zero_iff.mp h.symm
      exact hnil
  | cons a l ih =>
      cases l' with
      | nil => cases h
      | cons b l' => rw [hcons, List.zipWith_cons_cons, ih (Nat.succ.inj h)]

theorem addEach_eq {collectors : List MetricCollector} {infos : List Dict}
    (h : collectors.length = infos.length) :
    addEach collectors infos
      = List.zipWith (fun collector info => collector.add [info]) collectors infos :=
  eq_zipWith rfl (fun _ _ _ _ => rfl) h

omit [WordCharacters] in
theorem updateEach_eq {collectors : List MetricCollector} {infos : List Dict}
    (h : collectors.length = infos.length) :
    updateEach collectors infos
      = List.zipWith (fun collector info => collector.collect ∪ info) collectors infos :=
  eq_zipWith rfl (fun _ _ _ _ => rfl) h

/-- The info of agent `i`. -/
def infoOf (i : ℕ) (outcome : Outcome O) : Dict := outcome.infos.getD i ∅

omit [WordCharacters] in
theorem infos_eq {outcome : Outcome O} (h : outcome.Complete m) :
    outcome.infos = (List.range m).map (fun i => infoOf i outcome) := by
  refine List.ext_getElem (by rw [List.length_map, List.length_range, h.infos]) (fun i hi _ => ?_)
  rw [List.getElem_map, List.getElem_range, infoOf, List.getD_eq_getElem?_getD,
    List.getElem?_eq_getElem hi]
  rfl

omit [WordCharacters] in
theorem infoOf_mem {outcome : Outcome O} (h : outcome.Complete m) {i : ℕ} (hi : i < m) :
    infoOf i outcome ∈ outcome.infos := by
  have hi' : i < outcome.infos.length := h.infos.symm ▸ hi
  rw [infoOf, List.getD_eq_getElem?_getD, List.getElem?_eq_getElem hi']
  exact List.getElem_mem hi'

/-- Every agent has a collector of its own, which is told the infos of that agent. -/
theorem infoCollectors_eq (h : ∀ outcome ∈ outcomes, outcome.Complete m) :
    (outcomes.foldl Fragment.add (start m)).infoCollectors
      = (List.range m).map (fun i =>
          (outcomes.map (fun outcome => [infoOf i outcome])).foldl MetricCollector.add
            { metrics := INFO_KEYS }) := by
  induction outcomes using List.reverseRecOn with
  | nil =>
      show List.replicate m _ = (List.range m).map (fun _ => ({ metrics := INFO_KEYS } :
        MetricCollector))
      rw [List.map_const', List.length_range]
  | append_singleton outcomes outcome ih =>
      have hlast : outcome.Complete m := h outcome (by simp)
      have hrest := ih (fun outcome' hmem => h outcome' (List.mem_append_left _ hmem))
      rw [List.foldl_append, List.foldl_cons, List.foldl_nil]
      show addEach _ outcome.infos = _
      rw [hrest, addEach_eq (by rw [List.length_map, List.length_range, hlast.infos]),
        infos_eq hlast, List.zipWith_map_left, List.zipWith_map_right, List.zipWith_self]
      refine List.map_congr_left (fun i _ => ?_)
      rw [List.map_append, List.foldl_append]
      rfl

/-- The outcome of a fragment, with the infos that the collectors were told of. -/
theorem Merges.eq {outcome : Outcome O} (h : Merges m outcomes outcome)
    (hcomplete : ∀ outcome ∈ outcomes, outcome.Complete m) :
    ∃ last ∈ outcomes, outcomes.getLast? = some last ∧
      outcome.observations = last.observations ∧ outcome.dones = last.dones ∧
      outcome.infos = (List.range m).map (fun i =>
        ((outcomes.map (fun outcome => [infoOf i outcome])).foldl MetricCollector.add
          { metrics := INFO_KEYS }).collect ∪ infoOf i last) := by
  unfold Merges Fragment.result at h
  rw [outcome_foldl_add] at h
  cases hlast : outcomes.getLast? with
  | none =>
      rw [hlast] at h
      cases h
  | some last =>
      rw [hlast] at h
      have hmem : last ∈ outcomes := List.mem_of_getLast? hlast
      have hlength : (outcomes.foldl Fragment.add (start m)).infoCollectors.length
          = last.infos.length := by
        rw [infoCollectors_eq hcomplete, List.length_map, List.length_range,
          (hcomplete last hmem).infos]
      obtain rfl := (Except.ok.inj h).symm
      refine ⟨last, hmem, rfl, rfl, rfl, ?_⟩
      show updateEach _ last.infos = _
      rw [updateEach_eq hlength, infoCollectors_eq hcomplete, infos_eq (hcomplete last hmem),
        List.zipWith_map_left, List.zipWith_map_right, List.zipWith_self]

theorem exists_merges (m : ℕ) (hne : outcomes ≠ []) : ∃ outcome, Merges m outcomes outcome := by
  obtain ⟨last, hlast⟩ : ∃ last, outcomes.getLast? = some last :=
    ⟨outcomes.getLast hne, List.getLast?_eq_some_getLast hne⟩
  unfold Merges Fragment.result
  rw [outcome_foldl_add, hlast]
  exact ⟨_, rfl⟩

theorem Merges.complete {outcome : Outcome O} (h : Merges m outcomes outcome)
    (hcomplete : ∀ outcome ∈ outcomes, outcome.Complete m) : outcome.Complete m := by
  obtain ⟨last, hmem, -, hobservations, -, hinfos⟩ := h.eq hcomplete
  have hlast := hcomplete last hmem
  refine ⟨hobservations ▸ hlast.observations, ?_, fun info hinfo key hkey => ?_⟩
  · rw [hinfos, List.length_map, List.length_range]
  · rw [hinfos] at hinfo
    obtain ⟨i, hi, rfl⟩ := List.mem_map.mp hinfo
    refine AList.mem_union.mpr (Or.inr ?_)
    exact hlast.keys _ (infoOf_mem hlast (List.mem_range.mp hi)) key hkey

/-- The infos of a fragment are reduced as the table says. -/
theorem Merges.entry {outcome : Outcome O} (h : Merges m outcomes outcome)
    (hcomplete : ∀ outcome ∈ outcomes, outcome.Complete m) {key : String} {pattern : Pattern}
    {reducer : Reducer} (hselects : MetricCollector.Selects INFO_KEYS key pattern reducer)
    (hkey : key ∈ STEP_KEYS) {i : ℕ} (hi : i < m) :
    MetricCollector.entry key (infoOf i outcome) = reducer.reduce
      (outcomes.map (fun outcome => MetricCollector.entry key (infoOf i outcome))) := by
  have hmerged := h.complete hcomplete
  obtain ⟨last, hmem, -, -, -, hinfos⟩ := h.eq hcomplete
  have hinfo : infoOf i outcome
      = ((outcomes.map (fun outcome => [infoOf i outcome])).foldl MetricCollector.add
          { metrics := INFO_KEYS }).collect ∪ infoOf i last := by
    rw [infoOf, hinfos, List.getD_eq_getElem?_getD, List.getElem?_map,
      List.getElem?_eq_getElem (by rwa [List.length_range]), List.getElem_range]
    rfl
  -- the collector has one value for each of the frames
  have hdata := MetricCollector.data_foldl_add (outcomes.map (fun outcome => [infoOf i outcome]))
    { metrics := INFO_KEYS } hselects (by
      intro infos hinfos
      obtain ⟨outcome, houtcome, rfl⟩ := List.mem_map.mp hinfos
      refine ⟨List.cons_ne_nil _ _, fun info hinfo => ?_⟩
      rw [List.mem_singleton.mp hinfo]
      have houtcome := hcomplete outcome houtcome
      exact houtcome.keys _ (infoOf_mem houtcome hi) key hkey)
  have hvalues : (outcomes.map (fun outcome => [infoOf i outcome])).map
      (fun infos => Batches.mean (infos.map (MetricCollector.entry key)))
      = outcomes.map (fun outcome => MetricCollector.entry key (infoOf i outcome)) := by
    rw [List.map_map]
    exact List.map_congr_left (fun outcome _ => Batches.mean_singleton _)
  have hmetrics : ((outcomes.map (fun outcome => [infoOf i outcome])).foldl MetricCollector.add
      { metrics := INFO_KEYS }).metrics = INFO_KEYS := MetricCollector.metrics_foldl_add _ _
  have hcollect := MetricCollector.lookup_collect
    ((MetricCollector.sound_start INFO_KEYS).foldl_add
      (outcomes.map (fun outcome => [infoOf i outcome]))) (hmetrics.symm ▸ hselects) (by
      rw [hdata]
      refine List.ne_nil_of_length_pos ?_
      rw [List.nil_append, List.length_map, List.length_map]
      exact List.length_pos_of_mem hmem)
  rw [hdata, List.nil_append, hvalues] at hcollect
  -- what is collected takes the place of what the last frame says
  rw [MetricCollector.entry, hinfo,
    AList.lookup_union_left (AList.lookup_isSome.mp (Option.isSome_iff_exists.mpr ⟨_, hcollect⟩)),
    hcollect]
  rfl

/-! ## Episodes in fragments -/

/-- One step, given the frames of the rollout that it goes through. -/
theorem step_eq_ok {action : A} {before : List O} (hbefore : before.length = env.numTeammates)
    (hk : 0 < k) (h : rollout env.step (List.replicate k action) s = .ok (outcomes, s')) :
    ∃ outcome, Merges env.numTeammates outcomes outcome ∧
      outcome.observations.length = env.numTeammates ∧
      (outcome.allDone = true ↔ Ended outcomes) ∧
      step env k ⟨s, some before⟩ action
        = .ok (outcome, ⟨s', some outcome.observations⟩) := by
  have hcomplete := complete_rollout h
  have hne : outcomes ≠ [] := by
    refine List.ne_nil_of_length_pos ((length_rollout h).2 ?_)
    exact List.ne_nil_of_length_pos (by rwa [List.length_replicate])
  obtain ⟨outcome, hmerges⟩ := exists_merges env.numTeammates hne
  obtain ⟨last, -, hlast, hobservations, hdones, -⟩ := hmerges.eq hcomplete
  refine ⟨outcome, hmerges, (hmerges.complete hcomplete).observations, ?_, ?_⟩
  · unfold Outcome.allDone Ended
    rw [hdones]
    constructor
    · exact fun hdone => ⟨last, hlast, hdone⟩
    · rintro ⟨last', hlast', hdone⟩
      rw [hlast] at hlast'
      cases hlast'
      exact hdone
  · show (frames env action k (start before.length) s >>= fun r => _) = _
    rw [hbefore, frames_eq_ok h]
    show (Fragment.result _ >>= fun r => _) = _
    rw [hmerges]
    rfl

/-- The frames of an episode are cut into fragments, one for every step of the wrapper. -/
theorem rollout_eq_ok (hk : 0 < k) {actions : List A} {before : List O}
    (hbefore : before.length = env.numTeammates)
    (h : rollout env.step (actions.flatMap (List.replicate k)) s = .ok (outcomes, s')) :
    ∃ fragments merged after, Batches.Cut k fragments ∧ outcomes = fragments.flatten ∧
      List.Forall₂ (Merges env.numTeammates) fragments merged ∧
      rollout (step env k) actions ⟨s, some before⟩ = .ok (merged, ⟨s', some after⟩) := by
  induction actions generalizing s outcomes before with
  | nil =>
      cases h
      exact ⟨[], [], before, Batches.Cut.nil, rfl, List.Forall₂.nil, rfl⟩
  | cons action actions ih =>
      rw [List.flatMap_cons] at h
      obtain ⟨frames, s₁, hframes, hcases⟩ := rollout_append h
      obtain ⟨outcome, hmerges, hlength, hdone, hstep⟩ := step_eq_ok hbefore hk hframes
      rcases hcases with ⟨hended, rfl, rfl⟩ | ⟨hended, hfull, rest, hrest, rfl⟩
      · refine ⟨[outcomes], [outcome], outcome.observations, ?_, (List.flatten_singleton).symm,
          List.Forall₂.cons hmerges List.Forall₂.nil, ?_⟩
        · have hlengths := length_rollout hframes
          rw [List.length_replicate] at hlengths
          refine Batches.Cut.last (hlengths.2 ?_) hlengths.1
          exact List.ne_nil_of_length_pos (by rwa [List.length_replicate])
        · exact rollout_cons.mpr ⟨outcome, _, hstep, Or.inl ⟨hdone.mpr hended, rfl, rfl⟩⟩
      · obtain ⟨fragments, merged, after, hcut, rfl, hall, hrollout⟩ := ih hlength hrest
        rw [List.length_replicate] at hfull
        refine ⟨frames :: fragments, outcome :: merged, after, Batches.Cut.cons hfull hcut,
          List.flatten_cons.symm, List.Forall₂.cons hmerges hall, ?_⟩
        refine rollout_cons.mpr ⟨outcome, _, hstep, Or.inr ⟨?_, merged, hrollout, rfl⟩⟩
        exact Bool.eq_false_iff.mpr (mt hdone.mp hended)

end FrameSkip

end Mate.Rllib
