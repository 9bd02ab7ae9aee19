import Mate.FrameSkipMetrics
import Mate.Rllib.HierarchicalCameraV2

set_option autoImplicit false

/-! # The assignment that executors are told

A step of `HierarchicalCameraV2` asks the assigner first, and puts the answer behind the
observations of its last frame. There the executors act on it at the next step, which asks again.
`decisions` are the answers along an episode, and the executors are told the one before the one
that is used.
-/

namespace Mate.Rllib.HierarchicalCameraV2

open Fallible

variable {numTargets : ℕ} {S A V Q : Type}

/-! ## Decisions -/

/-- What the assigner is asked for at the beginning of the steps, along the frames of the
environment. -/
noncomputable def decisions (base : Base S A V)
    (settings : Settings base.numTeammates numTargets V Q) :
    List A → Q → S → List (List ℝ) → Except Error (List (List (Fin numTargets → Bool)))
  | [], _, _, _ => pure []
  | action :: actions, q, s, observations => do
      let (assignments, q) ← settings.assigner.assign q (base.entities s) observations
      let (outcomes, s) ← rollout base.step (List.replicate settings.frameSkip action) s
      match outcomes.getLast? with
      | none => .error (.runtimeError "local variable 'rewards' referenced before assignment")
      | some last =>
          if last.allDone then return [assignments]
          let rest ← decisions base settings actions q s last.observations
          return assignments :: rest

/-- All decisions of an episode, with the one after the reset. -/
noncomputable def allDecisions (base : Base S A V)
    (settings : Settings base.numTeammates numTargets V Q) (seed : Option ℕ) (actions : List A)
    (q : Q) (s : S) :
    Except Error (List (Fin numTargets → Bool) × List (List (Fin numTargets → Bool))) := do
  let (observations, s) ← base.reset seed s
  let (assignments, q) ← settings.assigner.assign q (base.entities s) observations
  let rest ← decisions base settings actions q s observations
  return (assignments, rest)

/-- The assigner decides at every step what it decided after the reset. -/
def Steady (base : Base S A V) (settings : Settings base.numTeammates numTargets V Q)
    (seed : Option ℕ) (actions : List A) (q : Q) (s : S) : Prop :=
  ∀ first rest, allDecisions base settings seed actions q s = .ok (first, rest) →
    ∀ assignments ∈ rest, assignments = first

/-! ## Exchanges -/

/-- What the executors are told by a step, and the assignment that the step used. -/
structure Exchange (numTargets : ℕ) where
  told : List (Option (Fin numTargets → Bool))
  used : List (Fin numTargets → Bool)

variable [WordCharacters]

/-- The steps along a list of actions, until all agents are done. -/
noncomputable def exchanges (base : Base S A V)
    (settings : Settings base.numTeammates numTargets V Q) :
    List A → State numTargets S Q → Except Error (List (Exchange numTargets))
  | [], _ => pure []
  | action :: actions, before => do
      let (outcome, after) ← step base settings before action
      let exchange :=
        ⟨outcome.observations.map AssignedObservation.assignment, after.currentAssignments⟩
      if outcome.allDone then return [exchange]
      let rest ← exchanges base settings actions after
      return exchange :: rest

/-- What the executors are told by the reset, and the steps of the episode after it. -/
noncomputable def episodeOf (base : Base S A V)
    (settings : Settings base.numTeammates numTargets V Q) (seed : Option ℕ) (actions : List A)
    (q : Q) (s : S) :
    Except Error (List (Option (Fin numTargets → Bool)) × List (Exchange numTargets)) := do
  let (observations, after) ← reset base settings seed q s
  let rest ← exchanges base settings actions after
  return (observations.map AssignedObservation.assignment, rest)

omit [WordCharacters] in
/-- What the executors are told, by the reset or by a step, is used by the next step. -/
def InForce (told : List (Option (Fin numTargets → Bool)))
    (exchanges : List (Exchange numTargets)) : Prop :=
  ∀ (k : ℕ) told' exchange, (told :: exchanges.map Exchange.told)[k]? = some told' →
    exchanges[k]? = some exchange →
    ∀ (c : ℕ) bits, told'[c]? = some (some bits) → exchange.used[c]? = some bits

/-! ## One step -/

section

variable {base : Base S A V} {settings : Settings base.numTeammates numTargets V Q}

/-- The loop goes through a rollout in which the action is held. -/
theorem frames_eq_ok_iff {assignments : List (Fin numTargets → Bool)} {action : A} {k : ℕ}
    {fragment fragment' : FrameSkip.Fragment (List ℝ)} {s s' : S} :
    frames base assignments action k fragment s = .ok (fragment', s') ↔
      ∃ outcomes, rollout base.step (List.replicate k action) s = .ok (outcomes, s') ∧
        fragment' = (outcomes.map (withMetrics base.numTeammates assignments)).foldl
          FrameSkip.Fragment.add fragment := by
  induction k generalizing s fragment with
  | zero =>
      constructor
      · intro h
        cases h
        exact ⟨[], rfl, rfl⟩
      · rintro ⟨outcomes, h, rfl⟩
        cases h
        rfl
  | succ k ih =>
      rw [List.replicate_succ]
      unfold frames
      rw [bind_eq_ok]
      constructor
      · rintro ⟨⟨outcome, s₁⟩, hstep, h⟩
        -- the loop breaks at a frame in which all are done
        by_cases hdone : outcome.allDone = true
        · simp only [hdone, if_true] at h
          cases h
          exact ⟨[outcome], rollout_cons.mpr ⟨outcome, s', hstep, Or.inl ⟨hdone, rfl, rfl⟩⟩, rfl⟩
        · simp only [hdone] at h
          obtain ⟨rest, hrest, rfl⟩ := ih.mp h
          refine ⟨outcome :: rest, rollout_cons.mpr ⟨outcome, s₁, hstep, Or.inr ⟨?_, rest, hrest,
            rfl⟩⟩, rfl⟩
          simpa using hdone
      · rintro ⟨outcomes, h, rfl⟩
        obtain ⟨outcome, s₁, hstep, ⟨hdone, rfl, rfl⟩ | ⟨hdone, rest, hrest, rfl⟩⟩ :=
          rollout_cons.mp h
        · refine ⟨(outcome, s'), hstep, ?_⟩
          simp only [hdone, if_true]
          rfl
        · refine ⟨(outcome, s₁), hstep, ?_⟩
          simp only [hdone, Bool.false_eq_true, if_false]
          exact ih.mpr ⟨rest, hrest, rfl⟩

omit [WordCharacters] in
/-- The bits are those of the assignment. -/
theorem map_augmentObservations {included : Bool} {observations : List (List ℝ)}
    {assignments : List (Fin numTargets → Bool)} (h : observations.length = assignments.length) :
    (augmentObservations included observations assignments).map AssignedObservation.assignment
      = assignments.map (fun assignment => if included then some assignment else none) := by
  induction observations generalizing assignments with
  | nil =>
      obtain rfl := List.length_eq_zero_iff.mp h.symm
      rfl
  | cons row rows ih =>
      cases assignments with
      | nil => cases h
      | cons assignment assignments =>
          exact congrArg (_ :: ·) (ih (Nat.succ.inj h))

/-- What a step does: the assigner decides, and the frames go through a rollout. -/
theorem step_eq_ok {before after : State numTargets S Q} {action : A}
    {outcome : Outcome (AssignedObservation numTargets)}
    (h : step base settings before action = .ok (outcome, after)) :
    ∃ assignments q outcomes last,
      settings.assigner.assign before.assigner (base.entities before.env) before.lastObservations
        = .ok (assignments, q) ∧
      rollout base.step (List.replicate settings.frameSkip action) before.env
        = .ok (outcomes, after.env) ∧
      outcomes.getLast? = some last ∧ outcome.dones = last.dones ∧
      after = ⟨after.env, q, last.observations, assignments⟩ ∧
      outcome.observations.map AssignedObservation.assignment = assignments.map
        (fun assignment => if settings.includeAssignmentInObs then some assignment else none) := by
  obtain ⟨⟨assignments, q⟩, hassign, h⟩ := bind_eq_ok.mp h
  obtain ⟨⟨fragment, s⟩, hframes, h⟩ := bind_eq_ok.mp h
  obtain ⟨merged, hresult, h⟩ := bind_eq_ok.mp h
  cases h
  obtain ⟨outcomes, hrollout, rfl⟩ := frames_eq_ok_iff.mp hframes
  cases hlast : outcomes.getLast? with
  | none =>
      -- without a frame there is nothing to return
      obtain rfl := List.getLast?_eq_none_iff.mp hlast
      cases hresult
  | some last =>
      have houtcome : ((outcomes.map (withMetrics base.numTeammates assignments)).foldl
          FrameSkip.Fragment.add (start base.numTeammates settings.frameSkip)).outcome
          = some (withMetrics base.numTeammates assignments last) := by
        rw [FrameSkip.outcome_foldl_add, List.getLast?_map, hlast]
        rfl
      unfold result at hresult
      rw [houtcome] at hresult
      cases hresult
      refine ⟨assignments, q, outcomes, last, hassign, hrollout, hlast, rfl, rfl, ?_⟩
      refine map_augmentObservations ?_
      have hmem : last ∈ outcomes := List.mem_of_getLast? hlast
      rw [settings.assigner.length_assign hassign]
      have hcomplete : last.Complete base.numTeammates := complete_rollout hrollout last hmem
      exact hcomplete.observations

/-! ## Episodes -/

/-- What is told and what is used at a decision. -/
def exchangeAt (included : Bool) (assignments : List (Fin numTargets → Bool)) :
    Exchange numTargets :=
  ⟨assignments.map (fun assignment => if included then some assignment else none), assignments⟩

/-- **A step tells what it decides**, and uses it. -/
theorem exchanges_eq_ok {actions : List A} {before : State numTargets S Q}
    {steps : List (Exchange numTargets)}
    (h : exchanges base settings actions before = .ok steps) :
    ∃ decided, decisions base settings actions before.assigner before.env before.lastObservations
        = .ok decided ∧
      steps = decided.map (exchangeAt settings.includeAssignmentInObs) := by
  induction actions generalizing before steps with
  | nil =>
      cases h
      exact ⟨[], rfl, rfl⟩
  | cons action actions ih =>
      obtain ⟨⟨outcome, after⟩, hstep, h⟩ := bind_eq_ok.mp h
      obtain ⟨assignments, q, outcomes, last, hassign, hrollout, hlast, hdones, hafter, htold⟩ :=
        step_eq_ok hstep
      have hexchange : (⟨outcome.observations.map AssignedObservation.assignment,
          after.currentAssignments⟩ : Exchange numTargets)
          = exchangeAt settings.includeAssignmentInObs assignments := by
        rw [htold, hafter]
        rfl
      -- the merged outcome is done when its last frame is
      have hdone : outcome.allDone = last.allDone := by
        rw [Outcome.allDone, hdones, Outcome.allDone]
      simp only [hexchange, hdone] at h
      unfold decisions
      by_cases hall : last.allDone = true
      · simp only [hall, if_true] at h
        cases h
        refine ⟨[assignments], bind_eq_ok.mpr ⟨_, hassign, bind_eq_ok.mpr ⟨_, hrollout, ?_⟩⟩, rfl⟩
        simp only [hlast, hall, if_true]
        rfl
      · simp only [hall] at h
        obtain ⟨rest, hrest, h⟩ := bind_eq_ok.mp h
        cases h
        obtain ⟨decided, hdecided, rfl⟩ := ih hrest
        rw [hafter] at hdecided
        refine ⟨assignments :: decided,
          bind_eq_ok.mpr ⟨_, hassign, bind_eq_ok.mpr ⟨_, hrollout, ?_⟩⟩, rfl⟩
        simp only [hlast, hall]
        exact bind_eq_ok.mpr ⟨decided, hdecided, rfl⟩

omit [WordCharacters] in
/-- Every camera has a part in a decision. -/
theorem length_of_decisions {actions : List A} {q : Q} {s : S} {observations : List (List ℝ)}
    {decided : List (List (Fin numTargets → Bool))}
    (h : decisions base settings actions q s observations = .ok decided) :
    ∀ assignments ∈ decided, assignments.length = base.numTeammates := by
  induction actions generalizing q s observations decided with
  | nil =>
      cases h
      exact fun assignments hmem => absurd hmem List.not_mem_nil
  | cons action actions ih =>
      obtain ⟨⟨assignments, q₁⟩, hassign, h⟩ := bind_eq_ok.mp h
      obtain ⟨⟨outcomes, s₁⟩, hrollout, h⟩ := bind_eq_ok.mp h
      have hlength := settings.assigner.length_assign hassign
      cases hlast : outcomes.getLast? with
      | none =>
          simp only [hlast] at h
          cases h
      | some last =>
          by_cases hall : last.allDone = true
          · simp only [hlast, hall, if_true] at h
            cases h
            exact fun assignments' hmem => List.mem_singleton.mp hmem ▸ hlength
          · simp only [hlast, hall] at h
            obtain ⟨rest, hrest, h⟩ := bind_eq_ok.mp h
            cases h
            exact List.forall_mem_cons.mpr ⟨hlength, ih hrest⟩

/-- **An episode tells what it decides**, and uses it in the same step. -/
theorem episodeOf_eq_ok {seed : Option ℕ} {actions : List A} {q : Q} {s : S}
    {told : List (Option (Fin numTargets → Bool))} {steps : List (Exchange numTargets)}
    (h : episodeOf base settings seed actions q s = .ok (told, steps)) :
    ∃ first rest, allDecisions base settings seed actions q s = .ok (first, rest) ∧
      told = (exchangeAt settings.includeAssignmentInObs first).told ∧
      steps = rest.map (exchangeAt settings.includeAssignmentInObs) ∧
      ∀ assignments ∈ first :: rest, assignments.length = base.numTeammates := by
  obtain ⟨⟨observations, after⟩, hreset, h⟩ := bind_eq_ok.mp h
  obtain ⟨steps, hsteps, h⟩ := bind_eq_ok.mp h
  cases h
  obtain ⟨⟨baseObservations, s₁⟩, hbase, hreset⟩ := bind_eq_ok.mp hreset
  obtain ⟨⟨first, q₁⟩, hassign, hreset⟩ := bind_eq_ok.mp hreset
  cases hreset
  obtain ⟨rest, hrest, rfl⟩ := exchanges_eq_ok hsteps
  have hlength := settings.assigner.length_assign hassign
  refine ⟨first, rest, bind_eq_ok.mpr ⟨_, hbase, bind_eq_ok.mpr ⟨_, hassign,
    bind_eq_ok.mpr ⟨rest, hrest, rfl⟩⟩⟩, map_augmentObservations ?_, rfl, ?_⟩
  · rw [base.length_reset hbase, hlength]
  · exact List.forall_mem_cons.mpr ⟨hlength, length_of_decisions hrest⟩

end

omit [WordCharacters] in
/-- What each entry shares with the one before it is shared with the first one. -/
theorem eq_first_iff {α : Type} {first : α} {rest : List α} :
    (∀ (k : ℕ) before after, (first :: rest)[k]? = some before → rest[k]? = some after →
      after = before) ↔ ∀ a ∈ rest, a = first := by
  induction rest generalizing first with
  | nil => simp
  | cons a rest ih =>
      constructor
      · intro h
        obtain rfl := h 0 first a rfl rfl
        refine List.forall_mem_cons.mpr ⟨rfl, ih.mp (fun k before after hbefore hafter => ?_)⟩
        exact h (k + 1) before after hbefore hafter
      · intro h k before after hbefore hafter
        have hfirst := (List.forall_mem_cons.mp h).1
        have hsame : ∀ b ∈ first :: a :: rest, b = first :=
          List.forall_mem_cons.mpr ⟨rfl, h⟩
        rw [hsame before (List.mem_of_getElem? hbefore), h after (List.mem_of_getElem? hafter)]

omit [WordCharacters] in
/-- The decisions of an episode are in force if there is nothing told, or nothing new. -/
theorem inForce_exchangeAt {included : Bool} {numCameras : ℕ}
    {first : List (Fin numTargets → Bool)} {rest : List (List (Fin numTargets → Bool))}
    (hlength : ∀ assignments ∈ first :: rest, assignments.length = numCameras) :
    InForce (exchangeAt included first).told (rest.map (exchangeAt included)) ↔
      included = false ∨ ∀ assignments ∈ rest, assignments = first := by
  have htold : (exchangeAt included first).told
      :: (rest.map (exchangeAt included)).map Exchange.told
      = (first :: rest).map (fun assignments => (exchangeAt included assignments).told) := by
    rw [List.map_map]
    rfl
  rw [← eq_first_iff]
  unfold InForce
  rw [htold]
  cases included with
  | false =>
      refine iff_of_true ?_ (Or.inl rfl)
      intro k told exchange hk _ c bits hbits
      rw [List.getElem?_map, Option.map_eq_some_iff] at hk
      obtain ⟨assignments, -, rfl⟩ := hk
      have hmem := List.mem_of_getElem? hbits
      simp [exchangeAt] at hmem
  | true =>
      -- what is told about a camera are its own bits
      have hrow : ∀ {assignments : List (Fin numTargets → Bool)} {c : ℕ}
          {bits : Fin numTargets → Bool},
          (exchangeAt true assignments).told[c]? = some (some bits) ↔
            assignments[c]? = some bits := by
        intro assignments c bits
        simp [exchangeAt]
      constructor
      · refine fun h => Or.inr (fun k before after hbefore hafter => ?_)
        have hsame : after.length = before.length := by
          rw [hlength before (List.mem_of_getElem? hbefore),
            hlength after (List.mem_cons_of_mem _ (List.mem_of_getElem? hafter))]
        -- camera by camera, the later decision repeats the earlier one
        refine (List.ext_getElem hsame.symm (fun c hc hc' => ?_)).symm
        have hc'' := h k (exchangeAt true before).told (exchangeAt true after)
          (by rw [List.getElem?_map, hbefore]; rfl) (by rw [List.getElem?_map, hafter]; rfl)
          c before[c] (hrow.mpr (List.getElem?_eq_getElem hc))
        have hget : after[c]? = some before[c] := hc''
        rw [List.getElem?_eq_getElem hc'] at hget
        exact (Option.some.inj hget).symm
      · rintro (hfalse | h) k told exchange hk hexchange c bits hbits
        · cases hfalse
        · rw [List.getElem?_map, Option.map_eq_some_iff] at hk hexchange
          obtain ⟨before, hbefore, rfl⟩ := hk
          obtain ⟨after, hafter, rfl⟩ := hexchange
          obtain rfl := h k before after hbefore hafter
          exact hrow.mp hbits

/-- **When the executors are told what is in force**: they are told nothing at all, or the assigner
decides at every step what it decided after the reset. -/
theorem inForce_iff (base : Base S A V) (settings : Settings base.numTeammates numTargets V Q)
    (seed : Option ℕ) (actions : List A) (q : Q) (s : S)
    {told : List (Option (Fin numTargets → Bool))} {steps : List (Exchange numTargets)}
    (h : episodeOf base settings seed actions q s = .ok (told, steps)) :
    InForce told steps ↔ settings.includeAssignmentInObs = false ∨
      Steady base settings seed actions q s := by
  obtain ⟨first, rest, hdecided, rfl, rfl, hlength⟩ := episodeOf_eq_ok h
  rw [inForce_exchangeAt hlength]
  refine or_congr_right ⟨fun hall first' rest' h' => ?_, fun hsteady => ?_⟩
  · rw [hdecided] at h'
    cases h'
    exact hall
  · exact hsteady first rest hdecided

/-! ## Targets that pass each other -/

/-- A camera that sees no one, and two targets that pass each other in the first step. -/
noncomputable def passing : Base ℕ Unit (EntityLocations 1 2) where
  numTeammates := 1
  numTeammates_pos := Nat.one_pos
  reset _ _ := .ok ([List.replicate 39 0], 0)
  step t _ := .ok (⟨[List.replicate 39 0], [0], [false], [toDict (infoWith 0)]⟩, t + 1)
  length_reset := by
    intro seed s observations s' h
    cases h
    rfl
  step_complete := by
    intro s action outcome s' h
    cases h
    refine ⟨rfl, rfl, fun info hinfo => ?_⟩
    rw [List.mem_singleton.mp hinfo]
    exact keys_toDict _
  entities t := ⟨fun _ => 0, if t = 0 then ![1, 2] else ![2, 1]⟩

/-- The nearest target is assigned, in steps of one frame. -/
noncomputable def nearestSettings (included : Bool) :
    Settings passing.numTeammates 2 (EntityLocations 1 2) Unit where
  assigner := greedyDistanceAssigner 1 2 1
  frameSkip := 1
  includeAssignmentInObs := included
  frameSkip_pos := Nat.one_pos

omit [WordCharacters] in
theorem assign_nearest (locations : EntityLocations 1 2) {t : Fin 2}
    (hnear : ∀ u, u ≠ t → GreedyDistanceAssigner.distance locations 0 t
      < GreedyDistanceAssigner.distance locations 0 u) :
    (nearestSettings true).assigner.assign () locations [List.replicate 39 0]
      = .ok ([fun u => decide (u = t)], ()) := by
  have hclosest : GreedyDistanceAssigner.closestTarget locations 0 = .ok t := by
    have hmin : (List.finRange 2).argmin (GreedyDistanceAssigner.distance locations 0) = some t := by
      rw [List.argmin_eq_some_iff]
      refine ⟨List.mem_finRange t, fun u _ => ?_, fun u _ hu => ?_⟩
      · by_cases h : u = t
        · rw [h]
        · exact (hnear u h).le
      · by_cases h : u = t
        · rw [h]
        · exact absurd hu (not_le.mpr (hnear u h))
    rw [GreedyDistanceAssigner.closestTarget, hmin]
  have hread : (opponentMaskSlice 1 2).read (List.replicate 39 (0 : ℝ)) = [0, 0] := rfl
  -- no target is visible, so that the nearest one is taken
  have hnone : (List.finRange 2).filter
      (GreedyAssigner.isVisible (opponentMaskSlice 1 2) (List.replicate 39 (0 : ℝ))) = [] := by
    rw [List.filter_eq_nil_iff]
    intro u _
    rw [GreedyAssigner.isVisible, hread]
    fin_cases u <;> simp
  have hone : GreedyDistanceAssigner.assignOne 1 locations [List.replicate 39 0] 0
      = .ok (fun u => decide (u = t)) := by
    refine bind_eq_ok.mpr ⟨List.replicate 39 0, rfl, ?_⟩
    rw [hnone]
    exact bind_eq_ok.mpr ⟨t, hclosest, rfl⟩
  refine bind_eq_ok.mpr ⟨[fun u => decide (u = t)], ?_, rfl⟩
  have hmap := mapM_eq_ok (g := fun _ => fun u => decide (u = t)) (l := List.finRange 1)
    (fun c _ => by rw [Fin.eq_zero c]; exact hone)
  exact hmap

theorem step_passing (before : List (Fin 2 → Bool)) {t : ℕ} {bits : Fin 2 → Bool}
    (h : (nearestSettings true).assigner.assign () (passing.entities t) [List.replicate 39 0]
      = .ok ([bits], ())) :
    ∃ outcome, step passing (nearestSettings true) ⟨t, (), [List.replicate 39 0], before⟩ ()
        = .ok (outcome, ⟨t + 1, (), [List.replicate 39 0], [bits]⟩) ∧ outcome.allDone = false ∧
      outcome.observations.map AssignedObservation.assignment = [some bits] := by
  have hreturns : ∃ r, step passing (nearestSettings true)
      ⟨t, (), [List.replicate 39 0], before⟩ () = .ok r := by
    unfold step
    simp only [h]
    exact ⟨_, rfl⟩
  obtain ⟨⟨outcome, after⟩, hstep⟩ := hreturns
  obtain ⟨assignments, q, outcomes, last, hassign, hrollout, hlast, hdones, hafter, htold⟩ :=
    step_eq_ok hstep
  obtain ⟨rfl, rfl⟩ : assignments = [bits] ∧ q = () := by
    rw [h] at hassign
    cases hassign
    exact ⟨rfl, rfl⟩
  have hrun : rollout passing.step (List.replicate 1 ()) t
      = .ok ([⟨[List.replicate 39 0], [0], [false], [toDict (infoWith 0)]⟩], t + 1) := rfl
  obtain ⟨rfl, henv⟩ := Prod.mk.inj (Except.ok.inj (hrun.symm.trans hrollout))
  cases hlast
  refine ⟨outcome, ?_, ?_, htold⟩
  · rw [hstep, hafter, ← henv]
    rfl
  · rw [Outcome.allDone, hdones]
    rfl

/-- Two steps among the targets that pass each other. -/
theorem episodeOf_passing :
    episodeOf passing (nearestSettings true) none [(), ()] () 0
      = .ok ([some (fun u => decide (u = 0))],
        [⟨[some (fun u => decide (u = 0))], [fun u => decide (u = 0)]⟩,
          ⟨[some (fun u => decide (u = 1))], [fun u => decide (u = 1)]⟩]) := by
  have hbefore := assign_nearest (passing.entities 0) (t := 0) (by
    intro u hu
    fin_cases u
    · exact absurd rfl hu
    · simp [GreedyDistanceAssigner.distance, passing])
  have hafter := assign_nearest (passing.entities 1) (t := 1) (by
    intro u hu
    fin_cases u
    · simp [GreedyDistanceAssigner.distance, passing]
    · exact absurd rfl hu)
  obtain ⟨outcome, hstep, hdone, htold⟩ := step_passing [fun u => decide (u = 0)] hbefore
  obtain ⟨outcome', hstep', hdone', htold'⟩ :=
    step_passing [fun u => decide (u = 0)] hafter
  refine bind_eq_ok.mpr ⟨_, bind_eq_ok.mpr ⟨_, rfl, bind_eq_ok.mpr ⟨_, hbefore, rfl⟩⟩, ?_⟩
  refine bind_eq_ok.mpr ⟨_, bind_eq_ok.mpr ⟨_, hstep, ?_⟩, rfl⟩
  simp only [hdone, htold, Bool.false_eq_true, if_false]
  refine bind_eq_ok.mpr ⟨_, bind_eq_ok.mpr ⟨_, hstep', ?_⟩, rfl⟩
  simp only [hdone', htold', Bool.false_eq_true, if_false]
  rfl

omit [WordCharacters] in
/-- The executor is told the target that was nearest before the two passed each other. -/
theorem not_inForce_passing :
    letI := asciiWords
    ∃ told steps, episodeOf passing (nearestSettings true) none [(), ()] () 0 = .ok (told, steps) ∧
      ¬ InForce told steps := by
  let _ := asciiWords
  refine ⟨_, _, episodeOf_passing, fun h => ?_⟩
  have hused := h 1 _ _ rfl rfl 0 (fun u => decide (u = 0)) rfl
  have hsame := congrFun (Option.some.inj hused) 0
  exact absurd hsame (by decide)

omit [WordCharacters] in
/-- The condition at the targets that pass each other. -/
theorem inForce_iff_passing :
    letI := asciiWords
    ∃ told steps, episodeOf passing (nearestSettings true) none [(), ()] () 0 = .ok (told, steps) ∧
      (InForce told steps ↔ (nearestSettings true).includeAssignmentInObs = false ∨
        Steady passing (nearestSettings true) none [(), ()] () 0) := by
  let _ := asciiWords
  exact ⟨_, _, episodeOf_passing, inForce_iff passing _ none [(), ()] () 0 episodeOf_passing⟩

end Mate.Rllib.HierarchicalCameraV2
