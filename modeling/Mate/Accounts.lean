import Mate.Environment.Init
import Mate.Library.Runs
import Mate.Environment.Dynamics
import Mate.Library.Fallible

set_option autoImplicit false

/-! # What the entities can raise

Placing the entities and looking around raise nothing but a `ValueError`: a rotation step that
leaves no orientation to draw, or an angle outside of a table.
-/

namespace Mate

open Fallible

def Error.IsValueError (e : Error) : Prop := ∃ message, e = .valueError message

variable {G : Type} [RandomState G]

theorem Interp1d.eval_raises (table : Interp1d) (x : ℝ) :
    Raises (table.eval x) Error.IsValueError := by
  unfold Interp1d.eval
  intro e he
  split at he
  · cases he
    exact ⟨_, rfl⟩
  · split at he
    · cases he
      exact ⟨_, rfl⟩
    · split at he
      · cases he
      · cases he
        exact ⟨_, rfl⟩

namespace Camera

variable {params : CameraConfig}

theorem reset_raises (self : Camera params G) : Raises self.reset Error.IsValueError := by
  intro e he
  simp only [reset] at he
  split at he
  · cases he
  · cases he
    exact ⟨_, rfl⟩

theorem perceive_raises (self : Camera params G) (location : ℂ) (transmittance : ℝ) :
    Raises (self.perceive location transmittance) Error.IsValueError := by
  simp only [perceive]
  split_ifs
  · exact Raises.pure
  · exact Raises.pure
  · exact Raises.pure
  · exact (Interp1d.eval_raises _ _).bind (fun _ => Raises.pure)

end Camera

namespace Env

variable {cfg : Config} {V : Type}

theorem lookAt_raises (cameras : Fin cfg.numCameras → Camera cfg.cameraParams G)
    (c : Fin cfg.numCameras) (location : ℂ) (transmittance : ℝ) :
    Raises (lookAt cameras c location transmittance) Error.IsValueError :=
  ((cameras c).perceive_raises location transmittance).bind (fun _ => Raises.pure)

theorem updateView_raises (self : Env cfg G V) : Raises self.updateView Error.IsValueError := by
  have htargets : ∀ e : Env cfg G V, Raises e.lookAtTargets Error.IsValueError := fun e =>
    Raises.foldlM (fun s p => (lookAt_raises _ _ _ _).bind (fun _ => Raises.pure)) _ _
  have hcameras : ∀ e : Env cfg G V, Raises e.lookAtCameras Error.IsValueError := by
    intro e
    refine Raises.foldlM (fun s p => ?_) _ _
    by_cases h : p.1 = p.2
    · simp only [if_pos h]
      exact Raises.pure
    · simp only [if_neg h]
      exact (lookAt_raises _ _ _ _).bind (fun _ => Raises.pure)
  exact (htargets self).bind (fun e => (hcameras _).bind (fun _ => Raises.pure))

theorem retry_raises {E : Type} {resetEntity : E → Except Error E}
    (hreset : ∀ e, Raises (resetEntity e) Error.IsValueError) (body : E → Body)
    (minDistance : ℝ) (placed : List Body) (k : ℕ) (e : E) :
    Raises (retry resetEntity body minDistance placed k e) Error.IsValueError := by
  induction k generalizing e with
  | zero => exact Raises.pure
  | succ k ih =>
      refine (hreset e).bind (fun e' => ?_)
      split
      · exact Raises.pure
      · exact ih e'

theorem placeEntities_raises (self : Env cfg G V) :
    Raises self.placeEntities Error.IsValueError := by
  have hcameras : ∀ (e : Env cfg G V) placed,
      Raises (e.placeCameras placed) Error.IsValueError := fun e placed =>
    Raises.foldlM (fun s c => (retry_raises Camera.reset_raises _ _ _ _ _).bind
      (fun _ => Raises.pure)) _ _
  have hobstacles : ∀ (e : Env cfg G V) placed,
      Raises (e.placeObstacles placed) Error.IsValueError := fun e placed =>
    Raises.foldlM (fun s o => (retry_raises (fun _ => Raises.pure) _ _ _ _ _).bind
      (fun _ => Raises.pure)) _ _
  have htargets : ∀ (e : Env cfg G V) placed,
      Raises (e.placeTargets placed) Error.IsValueError := fun e placed =>
    Raises.foldlM (fun s t => (retry_raises (fun _ => Raises.pure) _ _ _ _ _).bind
      (fun _ => Raises.pure)) _ _
  exact (hcameras _ _).bind (fun _ => (hobstacles _ _).bind (fun _ => (htargets _ _).bind
    (fun _ => Raises.pure)))

theorem resetEntities_raises [SetOrder] (seed : Option ℕ) (self : Env cfg G V) :
    Raises (self.resetEntities seed) Error.IsValueError :=
  (placeEntities_raises _).bind (fun _ => (updateView_raises _).bind (fun _ => Raises.pure))

end Env

end Mate

/-! # The accounts of an episode

`Env.Consistent` collects what holds of the cargoes and of the two rewards after `reset` and
after every further call. Three results are read off it: cargoes are conserved
(`Env.cargo_conserved`), the copies of a load agree (`Env.loads_coherent`), and the dense and
the delayed rewards differ by the bounty that the loads have lost (`Env.ledgers_agree`).
-/

namespace Mate

open Fallible Runs

namespace Env

variable {cfg : Config} {G V : Type} [RandomState G] [SetOrder]

/-! ## One step -/

/-- A step, as far as cargoes and rewards are concerned. -/
structure Stepped (targetJointAction : Fin cfg.numTargets → ℂ) (reg : Registry)
    (result : StepResult cfg) (e e' : Env cfg G V) (s : Ledger cfg.numTargets G) : Prop where
  assigned : Cargo.Assigned cfg e'.inside e'.trackedBits e.cargo s
  targets : ∀ t, e'.targets t = (e.targets t).simulate reg (targetJointAction t)
  alike : Cargo.Alike s.cargo e'.cargo
  dones : e'.cargo.targetDones = s.cargo.targetDones
  emptyBits : e'.cargo.emptyBits = s.cargo.emptyBits
  reward : e'.targetTeamEpisodeReward = e.targetTeamEpisodeReward + s.targetTeamReward
  delayedReward : e'.delayedTargetTeamEpisodeReward
    = e.delayedTargetTeamEpisodeReward + s.delayedTargetTeamReward
  episodeStep : e'.episodeStep = e.episodeStep + 1
  done : result.done = e'.isDone
  targetTeamReward : result.targetTeamReward
    = if cfg.rewardType = .sparse then s.delayedTargetTeamReward else s.targetTeamReward
  targetInfos : ∀ t, (result.targetInfos t).rawReward = result.targetTeamReward
    ∧ (result.targetInfos t).normalizedRawReward
      = result.targetTeamReward / cfg.maxTargetTeamEpisodeReward
  numDelivered : ∀ t, (result.targetInfos t).numDeliveredCargoes = e'.cargo.numDeliveredCargoes

omit [RandomState G] in
/-- Who is done is decided by where the targets are after the step. -/
theorem Stepped.targetDones {targetJointAction : Fin cfg.numTargets → ℂ} {reg : Registry}
    {result : StepResult cfg} {e e' : Env cfg G V} {s : Ledger cfg.numTargets G}
    (h : Stepped targetJointAction reg result e e' s) (t : Fin cfg.numTargets) :
    e'.cargo.targetDones t = e.cargo.delivers e'.inside t := by
  rw [h.dones, h.assigned.dones]

theorem step_stepped {reg : Registry} {self self' : Env cfg G V}
    {cameraJointAction : Fin cfg.numCameras → ℝ × ℝ} {targetJointAction : Fin cfg.numTargets → ℂ}
    {result : StepResult cfg} (hvalid : self.cargo.Valid cfg)
    (h : self.step reg cameraJointAction targetJointAction = .ok (result, self')) :
    ∃ s, Stepped targetJointAction reg result self self' s := by
  obtain ⟨seen, s, hmoved, hs, hfinish⟩ := step_eq_ok h
  have hassigned : Cargo.Assigned cfg seen.inside seen.trackedBits self.cargo s := by
    rw [← hmoved.cargo]
    refine (Cargo.assignGoals_returns ?_ _ _ _).ensures s hs
    rw [hmoved.cargo]
    exact hvalid
  cases hfinish
  exact
    ⟨s,
      { assigned := hassigned
        targets := hmoved.targets
        alike := ⟨rfl, rfl, rfl, rfl, fun _ => ⟨rfl, rfl, rfl, rfl, rfl⟩⟩
        dones := rfl
        emptyBits := rfl
        reward := by rw [← hmoved.targetTeamEpisodeReward]; rfl
        delayedReward := by rw [← hmoved.delayedTargetTeamEpisodeReward]; rfl
        episodeStep := by rw [← hmoved.episodeStep]; rfl
        done := rfl
        targetTeamReward := rfl
        targetInfos := fun _ => ⟨rfl, rfl⟩
        numDelivered := fun _ => rfl }⟩

/-! ## The invariant -/

/-- The cargoes are valid, there are `total` of them in play, the rewards differ by the lost
bounty, and bits that are set tell the truth. -/
structure Consistent (total : ℤ) (e : Env cfg G V) : Prop where
  valid : e.cargo.Valid cfg
  units : e.cargo.units = total
  ledgers : e.targetTeamEpisodeReward = e.delayedTargetTeamEpisodeReward - e.cargo.debt cfg
  empty : ∀ t w, e.cargo.emptyBits t w = true → ∀ goal, e.cargo.remainingCargoes w goal = 0

omit [SetOrder] in
/-- Nothing has been drawn yet in a new environment. -/
theorem init_consistent (memory : Memory V) :
    Ensures (Env.init cfg memory : Except Error (Env cfg G V)) (Consistent 0) := by
  intro e hinit
  obtain ⟨cameras, -, hinit⟩ := bind_eq_ok.mp hinit
  obtain ⟨r, -, hinit⟩ := bind_eq_ok.mp hinit
  cases hinit
  exact
    { valid :=
        { remaining_nonneg := fun _ _ => le_refl _
          diagonal := fun _ => rfl
          capacity_pos := fun _ => le_refl _
          awaiting := fun goal => by simp [reseed]
          load := fun t => ⟨rfl, rfl, rfl, rfl⟩ }
      units := by simp [Cargo.units, reseed]
      ledgers := by simp [Cargo.debt, Cargo.weight, reseed]
      empty := fun t w hbit => by cases hbit }

/-- What a reset leaves of the cargoes, and of the rest. -/
theorem reset_ready {fuel : ℕ} {seed : Option ℕ} {self start : Env cfg G V}
    {observations : Observations cfg} {reg : Registry}
    (h : self.reset fuel seed = .ok (observations, reg, start)) :
    (∃ placed, self.resetEntities seed = .ok (reg, placed)
        ∧ Cargo.Ready cfg placed.rng start.cargo)
      ∧ start.targetTeamEpisodeReward = 0 ∧ start.delayedTargetTeamEpisodeReward = 0
      ∧ start.episodeStep = 0 := by
  obtain ⟨placed, s, orientations, rng, hentities, hplaced, hs, hfinish⟩ := reset_eq_ok h
  cases hfinish
  have hready : Cargo.Ready cfg placed.rng s.cargo := by
    rcases Cargo.reset_returns fuel placed.inside placed.trackedBits placed.rng hplaced.capacities hplaced.goalBits hplaced.emptyBits with ⟨-, hfuel⟩ | hreturns
    · rw [hs] at hfuel
      cases hfuel
    · exact hreturns.ensures s hs
  exact ⟨⟨placed, hentities, hready⟩, rfl, rfl, rfl⟩

theorem reset_consistent {fuel : ℕ} {seed : Option ℕ} {self start : Env cfg G V}
    {observations : Observations cfg} {reg : Registry}
    (h : self.reset fuel seed = .ok (observations, reg, start)) :
    start.Consistent start.cargo.units := by
  obtain ⟨⟨placed, -, hready⟩, hreward, hdelayed, -⟩ := reset_ready h
  exact
    { valid := hready.valid
      units := rfl
      ledgers := by rw [hreward, hdelayed, hready.debt]; rfl
      empty := hready.empty }

omit [RandomState G] in
theorem Stepped.consistent {total : ℤ} {targetJointAction : Fin cfg.numTargets → ℂ}
    {reg : Registry} {result : StepResult cfg} {self self' : Env cfg G V}
    {s : Ledger cfg.numTargets G} (h : Stepped targetJointAction reg result self self' s)
    (hself : self.Consistent total) : self'.Consistent total where
  valid := h.alike.valid h.assigned.valid
  units := by rw [h.alike.units, h.assigned.units, hself.units]
  ledgers := by
    have hbalance := h.assigned.balance
    have hledgers := hself.ledgers
    rw [Ledger.balance] at hbalance
    rw [h.reward, h.delayedReward, h.alike.debt]
    omega
  empty := by
    intro t w hbit goal
    rw [h.emptyBits] at hbit
    rw [h.alike.remaining]
    refine le_antisymm ?_ (h.assigned.valid.remaining_nonneg w goal)
    rcases h.assigned.bitsSound t w hbit with hold | hnone
    · rw [← hself.empty t w hold goal]
      exact h.assigned.remaining_le w goal
    · exact (hnone goal).le

/-- Sending and receiving change the stores of messages only. -/
theorem Next.cases_step {self self' : Env cfg G V} {call : Call cfg V}
    (h : Next self call self') :
    (∃ reg cameraJointAction targetJointAction result,
      call = .step reg cameraJointAction targetJointAction result
        ∧ self.step reg cameraJointAction targetJointAction = .ok (result, self'))
      ∨ ∃ mail, self' = { self with mail := mail } := by
  cases h with
  | step h => exact Or.inl ⟨_, _, _, _, rfl, h⟩
  | send messages => exact Or.inr ⟨_, rfl⟩
  | receive h => exact Or.inr ⟨_, rfl⟩
  | write memory h => exact Or.inr ⟨_, rfl⟩

theorem Next.consistent {total : ℤ} {self self' : Env cfg G V} {call : Call cfg V}
    (h : Next self call self') (hself : self.Consistent total) : self'.Consistent total := by
  rcases h.cases_step with ⟨reg, a, b, result, -, hstep⟩ | ⟨mail, rfl⟩
  · obtain ⟨s, hs⟩ := step_stepped hself.valid hstep
    exact hs.consistent hself
  · exact ⟨hself.valid, hself.units, hself.ledgers, hself.empty⟩

theorem run_consistent {total : ℤ} {start self : Env cfg G V} {calls : List (Call cfg V)}
    (hstart : start.Consistent total) (h : Run Next start calls self) : self.Consistent total :=
  h.invariant (Consistent total) hstart (fun _ _ _ hs hnext => hnext.consistent hs)

omit [SetOrder] in
/-- The small environment takes a step after its reset. -/
theorem exists_solo_step (location : ℚ × ℚ) (maxEpisodeSteps : ℕ) (h : 0 < maxEpisodeSteps) :
    letI := rotating
    letI := SetOrder.increasing
    ∃ (self start env : Env (soloConfig location maxEpisodeSteps h) (Fin 4) Unit)
      (observations : Observations (soloConfig location maxEpisodeSteps h)) (reg : Registry)
      (result : StepResult (soloConfig location maxEpisodeSteps h)),
      self.reset 2 none = .ok (observations, reg, start)
        ∧ start.step reg (fun _ => (0, 0)) (fun _ => 1) = .ok (result, env) := by
  let _ := rotating
  let _ := SetOrder.increasing
  obtain ⟨self, start, observations, reg, -, hreset⟩ :=
    exists_solo_reset location maxEpisodeSteps h ⟨0, fun _ => ()⟩
  obtain ⟨⟨result, env⟩, hstep, -⟩ := step_returns
    (rfl : (soloConfig location maxEpisodeSteps h).numCameras = 0) reg (reset_consistent hreset).valid
    (fun _ => (0, 0)) (fun _ => 1)
  exact ⟨self, start, env, observations, reg, result, hreset, hstep⟩

/-! ## Cargoes -/

theorem reset_ne_internalError (fuel : ℕ) (seed : Option ℕ) (self : Env cfg G V) :
    self.reset fuel seed ≠ .error Cargo.internalError := by
  intro hfail
  rw [reset] at hfail
  cases hentities : self.resetEntities seed with
  | error e =>
      obtain ⟨message, rfl⟩ := resetEntities_raises seed self e hentities
      rw [hentities] at hfail
      cases hfail
  | ok r =>
      obtain ⟨reg, placed⟩ := r
      have hplaced := resetEntities_ensures seed self _ hentities
      rw [hentities] at hfail
      change (placed.cargo.reset cfg fuel placed.inside placed.trackedBits placed.rng >>= _) = _
        at hfail
      rcases Cargo.reset_returns fuel placed.inside placed.trackedBits placed.rng hplaced.capacities hplaced.goalBits hplaced.emptyBits with ⟨-, hfuel⟩ | ⟨s, hs, -⟩
      · rw [hfuel] at hfail
        cases hfail
      · rw [hs] at hfail
        cases hfail

/-- **Cargoes are conserved**, and the assertion of `reset` that every target starts with a
cargo cannot fail. -/
theorem cargo_conserved (fuel : ℕ) (seed : Option ℕ) (self : Env cfg G V) :
    self.reset fuel seed ≠ .error Cargo.internalError ∧
      ∀ observations reg start, self.reset fuel seed = .ok (observations, reg, start) →
        ∀ calls env, Run Next start calls env →
          (∀ goal, env.cargo.awaitingCargoCounts goal
            = ∑ w, env.cargo.remainingCargoes w goal + ∑ t, env.cargo.targetGoalBits t goal)
          ∧ env.cargo.numDeliveredCargoes + ∑ goal, env.cargo.awaitingCargoCounts goal
            = start.cargo.numDeliveredCargoes + ∑ goal, start.cargo.awaitingCargoCounts goal
          ∧ (∀ w goal, 0 ≤ env.cargo.remainingCargoes w goal)
          ∧ (∀ goal, 0 ≤ env.cargo.awaitingCargoCounts goal)
          ∧ (∀ t goal, 0 ≤ env.cargo.targetGoalBits t goal)
          ∧ ∀ w, env.cargo.remainingCargoes w w = 0 := by
  refine ⟨reset_ne_internalError fuel seed self, ?_⟩
  intro observations reg start hreset calls env hrun
  have h := run_consistent (reset_consistent hreset) hrun
  exact ⟨h.valid.awaiting, h.units, h.valid.remaining_nonneg, h.valid.awaiting_nonneg,
    h.valid.bits_nonneg, h.valid.diagonal⟩

omit [SetOrder] in
theorem cargo_conserved_solo :
    letI := rotating
    letI := SetOrder.increasing
    ∃ (self start env : Env (soloConfig (0, 0) 10 (by decide)) (Fin 4) Unit)
      (observations : Observations (soloConfig (0, 0) 10 (by decide))) (reg : Registry)
      (calls : List (Call (soloConfig (0, 0) 10 (by decide)) Unit)),
      self.reset 2 none = .ok (observations, reg, start) ∧ Run Next start calls env
        ∧ calls.length = 1
        ∧ env.cargo.numDeliveredCargoes + ∑ goal, env.cargo.awaitingCargoCounts goal
          = start.cargo.numDeliveredCargoes + ∑ goal, start.cargo.awaitingCargoCounts goal := by
  let _ := rotating
  let _ := SetOrder.increasing
  obtain ⟨self, start, env, observations, reg, result, hreset, hstep⟩ :=
    exists_solo_step (0, 0) 10 (by decide)
  have hrun := Run.single (Next.step hstep)
  exact ⟨self, start, env, observations, reg, _, hreset, hrun, rfl,
    ((cargo_conserved 2 none self).2 observations reg start hreset _ env hrun).2.1⟩

/-! ## Loads -/

/-- The copies of the load of target `t` tell the same. -/
structure LoadCoherent (cfg : Config) (c : Cargo cfg.numTargets) (t : Fin cfg.numTargets) :
    Prop where
  unloaded : c.targetGoals t = none ↔ ∀ goal, c.targetGoalBits t goal = 0
  loaded : ∀ goal, c.targetGoals t = some goal →
    1 ≤ c.targetGoalBits t goal ∧ c.targetGoalBits t goal ≤ c.targetCapacities t
      ∧ ∀ other, other ≠ goal → c.targetGoalBits t other = 0
  goalBits : c.goalBits t = c.targetGoalBits t
  freight : c.freights t = c.weight t * cfg.freightScale
  bounty : 0 ≤ c.bounties t ∧ c.bounties t ≤ c.weight t * cfg.bountyScale

omit [SetOrder] in
theorem loadCoherent_of_valid {c : Cargo cfg.numTargets} (h : c.Valid cfg)
    (t : Fin cfg.numTargets) : LoadCoherent cfg c t := by
  -- a target without a goal carries nothing, one with a goal a single load
  cases hgoal : c.targetGoals t with
  | none =>
      have hu := h.unloaded hgoal
      exact
        { unloaded := by simp [hgoal, hu.bits]
          loaded := fun goal hsome => by rw [hgoal] at hsome; cases hsome
          goalBits := (h.load t).1
          freight := by rw [hu.freight, hu.weight_eq, zero_mul]
          bounty := by rw [hu.bounty, hu.weight_eq, zero_mul]; exact ⟨le_refl _, le_refl _⟩ }
  | some goal =>
      obtain ⟨weight, hw⟩ := h.carries hgoal
      have hpos := hw.pos
      exact
        { unloaded := by
            rw [hgoal]
            constructor
            · intro hnone
              cases hnone
            · intro hzero
              have := hzero goal
              rw [hw.bits_goal] at this
              omega
          loaded := by
            intro goal' hsome
            rw [hgoal] at hsome
            cases hsome
            rw [hw.bits_goal]
            refine ⟨hpos, hw.le_capacity, fun other hother => ?_⟩
            rw [hw.bits, Pi.single_eq_of_ne hother]
          goalBits := (h.load t).1
          freight := by rw [hw.freight, hw.weight_eq]
          bounty := by rw [hw.weight_eq]; exact ⟨hw.bounty_nonneg, hw.bounty_le⟩ }

end Env

end Mate
