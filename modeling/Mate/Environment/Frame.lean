import Mate.Environment.Dynamics
import Mate.Library.Fallible

set_option autoImplicit false

/-! # What each part of a call leaves alone

Looking around and moving touch neither cargoes nor messages (`Env.Looked`, `Env.Moved`), and
`reset` has cleared the bits and drawn the capacities of the targets before the cargoes are
drawn (`Env.Placed`). A step is a motion, a round of goals and an end that computes the rest
(`Env.step_eq_ok`), a reset the same with the entities placed anew (`Env.reset_eq_ok`).
-/

namespace Mate

open Fallible

namespace Camera

variable {params : CameraConfig} {G : Type} [RandomState G]

/-- Looking changes nothing of a camera but its generator. -/
theorem perceive_ensures (self : Camera params G) (location : ℂ) (transmittance : ℝ) :
    Ensures (self.perceive location transmittance)
      (fun r => r.2 = { self with rng := r.2.rng }) := by
  simp only [perceive]
  split_ifs
  · exact Ensures.pure rfl
  · exact Ensures.pure rfl
  · exact Ensures.pure rfl
  · exact Ensures.andThen (fun _ => Ensures.pure rfl)

end Camera

namespace Env

variable {cfg : Config} {G V : Type} [RandomState G]

/-! ## Looking -/

/-- Everything but the masks of the sensors and the generators of the cameras is the same. -/
structure Looked (e e' : Env cfg G V) : Prop where
  rng : e'.rng = e.rng
  targets : e'.targets = e.targets
  obstacles : e'.obstacles = e.obstacles
  cameras : ∀ c, e'.cameras c = { e.cameras c with rng := (e'.cameras c).rng }
  cameraObstacleViewMask : e'.cameraObstacleViewMask = e.cameraObstacleViewMask
  obstacleStatesFlagged : e'.obstacleStatesFlagged = e.obstacleStatesFlagged
  cameraObstacleObservations :
    e'.cameraObstacleObservations = e.cameraObstacleObservations
  cargo : e'.cargo = e.cargo
  targetTeamEpisodeReward : e'.targetTeamEpisodeReward = e.targetTeamEpisodeReward
  delayedTargetTeamEpisodeReward :
    e'.delayedTargetTeamEpisodeReward = e.delayedTargetTeamEpisodeReward
  episodeStep : e'.episodeStep = e.episodeStep
  mail : e'.mail = e.mail

omit [RandomState G] in
theorem Looked.refl (self : Env cfg G V) : Looked self self :=
  ⟨rfl, rfl, rfl, fun _ => rfl, rfl, rfl, rfl, rfl, rfl, rfl, rfl, rfl⟩

omit [RandomState G] in
theorem Looked.trans {self self' self'' : Env cfg G V} (h : Looked self self')
    (h' : Looked self' self'') : Looked self self'' where
  rng := h'.rng.trans h.rng
  targets := h'.targets.trans h.targets
  obstacles := h'.obstacles.trans h.obstacles
  cameras := fun c => by rw [h'.cameras c, h.cameras c]
  cameraObstacleViewMask := h'.cameraObstacleViewMask.trans h.cameraObstacleViewMask
  obstacleStatesFlagged := h'.obstacleStatesFlagged.trans h.obstacleStatesFlagged
  cameraObstacleObservations := h'.cameraObstacleObservations.trans h.cameraObstacleObservations
  cargo := h'.cargo.trans h.cargo
  targetTeamEpisodeReward := h'.targetTeamEpisodeReward.trans h.targetTeamEpisodeReward
  delayedTargetTeamEpisodeReward :=
    h'.delayedTargetTeamEpisodeReward.trans h.delayedTargetTeamEpisodeReward
  episodeStep := h'.episodeStep.trans h.episodeStep
  mail := h'.mail.trans h.mail

/-- After one look, the cameras differ only in a generator. -/
theorem lookAt_ensures (cameras : Fin cfg.numCameras → Camera cfg.cameraParams G)
    (c : Fin cfg.numCameras) (location : ℂ) (transmittance : ℝ) :
    Ensures (lookAt cameras c location transmittance)
      (fun r => ∀ c', r.2 c' = { cameras c' with rng := (r.2 c').rng }) := by
  refine ((cameras c).perceive_ensures location transmittance).bind (fun r hr => ?_)
  refine Ensures.pure (fun c' => ?_)
  by_cases h : c' = c
  · subst h
    simp only [Function.update_self]
    exact hr
  · simp only [Function.update_of_ne h]

theorem lookAtTargets_ensures (self : Env cfg G V) :
    Ensures self.lookAtTargets (Looked self) := by
  refine Ensures.foldlM _ _ ⟨rfl, rfl, rfl, fun _ => rfl, rfl, rfl, rfl, rfl, rfl, rfl, rfl, rfl⟩ ?_
  rintro s ⟨t, c⟩ - hs
  refine (lookAt_ensures s.cameras c (s.targets t).location _).bind (fun r hr => Ensures.pure ?_)
  exact hs.trans ⟨rfl, rfl, rfl, hr, rfl, rfl, rfl, rfl, rfl, rfl, rfl, rfl⟩

theorem lookAtCameras_ensures (self : Env cfg G V) :
    Ensures self.lookAtCameras (Looked self) := by
  refine Ensures.foldlM _ _ ⟨rfl, rfl, rfl, fun _ => rfl, rfl, rfl, rfl, rfl, rfl, rfl, rfl, rfl⟩ ?_
  rintro s ⟨c, other⟩ - hs
  by_cases h : c = other
  · simp only [if_pos h]
    exact Ensures.pure
      (hs.trans ⟨rfl, rfl, rfl, fun _ => rfl, rfl, rfl, rfl, rfl, rfl, rfl, rfl, rfl⟩)
  · simp only [if_neg h]
    refine (lookAt_ensures s.cameras c (s.cameras other).location _).bind
      (fun r hr => Ensures.pure ?_)
    exact hs.trans ⟨rfl, rfl, rfl, hr, rfl, rfl, rfl, rfl, rfl, rfl, rfl, rfl⟩

theorem updateView_ensures (self : Env cfg G V) : Ensures self.updateView (Looked self) := by
  refine self.lookAtTargets_ensures.bind (fun s₁ h₁ => ?_)
  have hlook : Looked s₁ s₁.lookAround :=
    ⟨rfl, rfl, rfl, fun _ => rfl, rfl, rfl, rfl, rfl, rfl, rfl, rfl, rfl⟩
  refine s₁.lookAround.lookAtCameras_ensures.bind (fun s₂ h₂ => Ensures.pure ?_)
  exact (h₁.trans hlook).trans
    (h₂.trans ⟨rfl, rfl, rfl, fun _ => rfl, rfl, rfl, rfl, rfl, rfl, rfl, rfl, rfl⟩)

/-! ## Moving -/

variable [SetOrder]

/-- What `_simulate` does: the targets move, and the rest is the same up to what is seen. -/
structure Moved (reg : Registry) (actions : Fin cfg.numTargets → ℂ) (e e' : Env cfg G V) :
    Prop where
  targets : ∀ t, e'.targets t = (e.targets t).simulate reg (actions t)
  rng : e'.rng = e.rng
  obstacles : e'.obstacles = e.obstacles
  cameraObstacleViewMask : e'.cameraObstacleViewMask = e.cameraObstacleViewMask
  obstacleStatesFlagged : e'.obstacleStatesFlagged = e.obstacleStatesFlagged
  cameraObstacleObservations :
    e'.cameraObstacleObservations = e.cameraObstacleObservations
  cargo : e'.cargo = e.cargo
  targetTeamEpisodeReward : e'.targetTeamEpisodeReward = e.targetTeamEpisodeReward
  delayedTargetTeamEpisodeReward :
    e'.delayedTargetTeamEpisodeReward = e.delayedTargetTeamEpisodeReward
  episodeStep : e'.episodeStep = e.episodeStep
  mail : e'.mail = e.mail

theorem simulate_ensures (reg : Registry) (self : Env cfg G V)
    (cameraJointAction : Fin cfg.numCameras → ℝ × ℝ) (targetJointAction : Fin cfg.numTargets → ℂ) :
    Ensures (self.simulate reg cameraJointAction targetJointAction)
      (Moved reg targetJointAction self) := by
  refine (updateView_ensures _).mono (fun s h => ?_)
  exact ⟨congrFun h.targets, h.rng, h.obstacles, h.cameraObstacleViewMask,
    h.obstacleStatesFlagged, h.cameraObstacleObservations, h.cargo, h.targetTeamEpisodeReward,
    h.delayedTargetTeamEpisodeReward, h.episodeStep, h.mail⟩

/-! ## The step -/

/-- **A step that returns** moves the targets, gives out goals, and computes the rest. -/
theorem step_eq_ok {reg : Registry} {self self' : Env cfg G V}
    {cameraJointAction : Fin cfg.numCameras → ℝ × ℝ} {targetJointAction : Fin cfg.numTargets → ℂ}
    {result : StepResult cfg}
    (h : self.step reg cameraJointAction targetJointAction = .ok (result, self')) :
    ∃ seen s, Moved reg targetJointAction self seen
      ∧ seen.cargo.assignGoals cfg seen.inside seen.trackedBits seen.rng = .ok s
      ∧ (result, self')
        = (seen.withGoals s).finishStep s.targetTeamReward s.delayedTargetTeamReward := by
  obtain ⟨seen, hseen, h⟩ := bind_eq_ok.mp h
  obtain ⟨s, hs, h⟩ := bind_eq_ok.mp h
  cases h
  exact ⟨seen, s, simulate_ensures _ _ _ _ _ hseen, hs, rfl⟩

/-! ## The reset -/

/-- The entities of a reset before the cargoes are drawn. -/
structure Placed (e : Env cfg G V) : Prop where
  goalBits : e.cargo.goalBits = 0
  emptyBits : ∀ t w, e.cargo.emptyBits t w = false
  capacities : ∀ t, 1 ≤ e.cargo.targetCapacities t ∧ e.cargo.targetCapacities t ≤ 2
  obstacleStatesFlagged : ∀ o, e.obstacleStatesFlagged o = flagged (e.obstacles o).state
  cameraObstacleObservations : ∀ c o, e.cameraObstacleObservations c o
    = whereMask (e.cameraObstacleViewMask c o) (e.obstacleStatesFlagged o)

omit [SetOrder] in
theorem placeCameras_ensures (self : Env cfg G V) (placed : List Body) :
    Ensures (self.placeCameras placed) (fun r => r.2.cargo = self.cargo) := by
  refine Ensures.foldlM _ _ rfl ?_
  rintro ⟨placed, s⟩ c - hs
  exact Ensures.andThen (fun _ => Ensures.pure hs)

omit [SetOrder] in
theorem placeObstacles_ensures (self : Env cfg G V) (placed : List Body) :
    Ensures (self.placeObstacles placed) (fun r => r.2.cargo = self.cargo) := by
  refine Ensures.foldlM _ _ rfl ?_
  rintro ⟨placed, s⟩ o - hs
  exact Ensures.andThen (fun _ => Ensures.pure hs)

omit [SetOrder] in
theorem placeTargets_ensures (self : Env cfg G V) (placed : List Body) :
    Ensures (self.placeTargets placed) (fun r => r.2.cargo = self.cargo.resetBits) := by
  refine Ensures.foldlM _ _ rfl ?_
  rintro ⟨placed, s⟩ t - hs
  exact Ensures.andThen (fun _ => Ensures.pure hs)

omit [SetOrder] in
theorem placeEntities_ensures (self : Env cfg G V) :
    Ensures self.placeEntities (fun e => e.cargo = self.cargo.resetBits) := by
  refine (self.placeCameras_ensures _).bind (fun r₁ h₁ => ?_)
  refine (r₁.2.placeObstacles_ensures _).bind (fun r₂ h₂ => ?_)
  refine (r₂.2.placeTargets_ensures _).bind (fun r₃ h₃ => Ensures.pure ?_)
  rw [h₃, h₂, h₁]

omit [SetOrder] in
/-- Every capacity is one or two. -/
theorem drawCapacities_capacities (self : Env cfg G V) (t : Fin cfg.numTargets) :
    ∃ high, self.drawCapacities.cargo.targetCapacities t = capacityOf high := by
  simp only [drawCapacities]
  split_ifs
  · exact ⟨_, rfl⟩
  · exact ⟨_, rfl⟩
  · exact ⟨false, rfl⟩

/-- Whether it is seeded or not, a reset goes on in the same way. -/
theorem exists_resetEntities (seed : Option ℕ) (self : Env cfg G V) :
    ∃ start : Env cfg G V, (start = self ∨ ∃ k, start = self.reseed k) ∧
      self.resetEntities seed
        = start.restoreOrder.shuffle.drawCapacities.placeEntities >>= fun e =>
            e.registerObstacles.2.observeObstacles.updateView >>= fun e' =>
              pure (e.registerObstacles.1, e') := by
  cases seed with
  | none => exact ⟨self, .inl rfl, rfl⟩
  | some k => exact ⟨self.reseed k, .inr ⟨k, rfl⟩, rfl⟩

theorem resetEntities_ensures (seed : Option ℕ) (self : Env cfg G V) :
    Ensures (self.resetEntities seed) (fun r => Placed r.2) := by
  obtain ⟨start, -, hreset⟩ := self.exists_resetEntities seed
  rw [hreset]
  set drawn := start.restoreOrder.shuffle.drawCapacities with hdrawn
  refine drawn.placeEntities_ensures.bind (fun e he => ?_)
  refine (updateView_ensures _).bind (fun e' h => Ensures.pure ?_)
  have hcargo : e'.cargo = drawn.cargo.resetBits := h.cargo.trans he
  exact
    { goalBits := by rw [hcargo]; rfl
      emptyBits := fun t w => by rw [hcargo]; rfl
      capacities := by
        intro t
        obtain ⟨high, hhigh⟩ := drawCapacities_capacities start.restoreOrder.shuffle t
        rw [hcargo]
        show 1 ≤ drawn.cargo.targetCapacities t ∧ drawn.cargo.targetCapacities t ≤ 2
        rw [hhigh]
        cases high <;> decide
      obstacleStatesFlagged := by
        rw [h.obstacleStatesFlagged, h.obstacles]
        exact fun o => rfl
      cameraObstacleObservations := by
        rw [h.cameraObstacleObservations, h.cameraObstacleViewMask, h.obstacleStatesFlagged]
        exact fun c o => rfl }

omit [SetOrder] in
/-- Turning the targets changes nothing else but the generator. -/
theorem orientTargets_eq (self : Env cfg G V) :
    ∃ orientations rng,
      self.orientTargets = { self with targetOrientations := orientations, rng := rng } := by
  unfold orientTargets
  refine List.foldlRecOn
    (motive := fun e => ∃ orientations rng,
      e = { self with targetOrientations := orientations, rng := rng })
    (List.finRange cfg.numTargets) _ ⟨fun _ => 0, self.rng, rfl⟩ ?_
  rintro e ⟨orientations, rng, rfl⟩ t -
  split
  · exact ⟨_, _, rfl⟩
  · exact ⟨_, _, rfl⟩

/-- **A reset that returns** places the entities, draws the cargoes, turns the targets and computes
the rest. -/
theorem reset_eq_ok {fuel : ℕ} {seed : Option ℕ} {self self' : Env cfg G V}
    {observations : Observations cfg} {reg : Registry}
    (h : self.reset fuel seed = .ok (observations, reg, self')) :
    ∃ placed s orientations rng, self.resetEntities seed = .ok (reg, placed) ∧ Placed placed
      ∧ placed.cargo.reset cfg fuel placed.inside placed.trackedBits placed.rng = .ok s
      ∧ (observations, self') = jointObservation { placed.withStock s with
          targetOrientations := orientations, rng := rng, mail := placed.mail.reset
          episodeStep := 0 } := by
  obtain ⟨⟨reg', placed⟩, hplaced, h⟩ := bind_eq_ok.mp h
  obtain ⟨s, hs, h⟩ := bind_eq_ok.mp h
  obtain ⟨orientations, rng, horient⟩ := orientTargets_eq (placed.withStock s)
  cases h
  refine ⟨placed, s, orientations, rng, hplaced, resetEntities_ensures _ _ _ hplaced, hs, ?_⟩
  dsimp only [finishReset]
  rw [horient]
  rfl

end Env

end Mate
