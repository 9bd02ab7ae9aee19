import Mate.Environment.Frame
import Mate.Environment.Stock

set_option autoImplicit false

/-! # New environments, and environments without cameras

`Env.init` is `__init__`. Only cameras can make `reset` and `step` raise (the table of a sight
range may not cover an angle), so without cameras `reset` returns whenever the warehouses get
filled (`Env.reset_returns`), and `step` always does (`Env.step_returns`).
-/

namespace Mate

open Fallible

/-! ## New entities -/

section

variable {G : Type} [RandomState G]

/-- `Camera.__init__`. -/
noncomputable def Camera.init (params : CameraConfig) (range : Box) :
    Except Error (Camera params G) :=
  if (params.minViewingAngle : ℚ) ≤ MAX_CAMERA_VIEWING_ANGLE then
    Camera.reset
      { location := 0
        locationRandomRange := range
        rng := RandomState.seed 0
        orientation := 0
        viewingAngle := (params.minViewingAngle : ℚ)
        sightRange := (params.maxSightRange : ℚ)
        boundary := []
        boundaryOuter := []
        sightRangeFunc := ⟨[]⟩
        sightRangeOuterFunc := none
        obstacles := ∅ }
  else .error (.assertionError
    "The argument `min_viewing_angle` within the range of (0.0, 180.0].")

/-- `Target.__init__`. -/
noncomputable def Target.init (params : TargetConfig) (range : Box) : Target params G :=
  Target.reset
    { location := 0
      locationRandomRange := range
      rng := RandomState.seed 0
      capacity := 1
      stepSize := (params.stepSize : ℚ)
      stepSize_pos := by exact_mod_cast params.stepSize.2
      isColliding := false }

/-- `Obstacle.__init__`, with the generator of the radius and after it. -/
noncomputable def Obstacle.init (params : ObstacleConfig) (range : Box) (radiusRng : G) :
    Except Error (Obstacle G × G) :=
  let transmittance := params.transmittance.getD 0
  let radiusRange := match params.radius, params.radiusRandomRange with
    | some radius, none => some (radius, radius)
    | none, some range => some range
    | _, _ => none
  match radiusRange with
  | none => .error (.assertionError
      "You should specify either a fixed radius or a random range for the radius.")
  | some radiusRandomRange =>
      if 0 ≤ transmittance ∧ transmittance ≤ 1 then
        .ok (Obstacle.reset
          { location := 0, radius := 0, locationRandomRange := range, radiusRandomRange,
            transmittance, rng := RandomState.seed 0 }
          radiusRng)
      else .error (.assertionError
        "The argument `transmittance` within the range of [0.0, 1.0].")

/-- The box of entity `i` of the section `placement`. -/
def Placement.box (placement : Placement) (i : ℕ) : Box :=
  placement.boxes.getD i ⟨(0, 0), (0, 0)⟩

/-- Entities made one after the other. -/
def initAll {E : Type} (make : ℕ → Except Error E) : (n : ℕ) → Except Error (Fin n → E)
  | 0 => .ok Fin.elim0
  | n + 1 => do
      let entities ← initAll make n
      let entity ← make n
      return @Fin.snoc n (fun _ => E) entities entity

theorem initAll_ensures {E : Type} {make : ℕ → Except Error E} {P : E → Prop} :
    ∀ n, (∀ i, i < n → Ensures (make i) P) →
      Ensures (initAll make n) (fun entities => ∀ i, P (entities i))
  | 0, _ => Ensures.pure (fun i => i.elim0)
  | n + 1, h => by
      refine (initAll_ensures n (fun i hi => h i (Nat.lt_succ_of_lt hi))).bind
        (fun entities hentities => ?_)
      refine (h n (Nat.lt_succ_self n)).bind (fun entity hentity => Ensures.pure (fun i => ?_))
      refine Fin.lastCases ?_ (fun j => ?_) i
      · simpa using hentity
      · simpa using hentities j

theorem initAll_returns {E : Type} {make : ℕ → Except Error E} {P : E → Prop} :
    ∀ n, (∀ i, i < n → Returns (make i) P) →
      Returns (initAll make n) (fun entities => ∀ i, P (entities i))
  | 0, _ => Returns.pure (fun i => i.elim0)
  | n + 1, h => by
      obtain ⟨entities, hentities, -⟩ := initAll_returns n (fun i hi => h i (Nat.lt_succ_of_lt hi))
      obtain ⟨entity, hentity, -⟩ := h n (Nat.lt_succ_self n)
      have hall : initAll make (n + 1) = .ok (@Fin.snoc n (fun _ => E) entities entity) :=
        bind_eq_ok.mpr ⟨_, hentities, bind_eq_ok.mpr ⟨_, hentity, rfl⟩⟩
      exact ⟨_, hall, initAll_ensures (n + 1) (fun i hi => (h i hi).ensures) _ hall⟩

/-- The obstacles, and the generator of their radii. Every obstacle seeds the box of the radii
anew. -/
noncomputable def initObstacles (params : ObstacleConfig) (radiusRng : G) :
    (n : ℕ) → Except Error ((Fin n → Obstacle G) × G)
  | 0 => .ok (Fin.elim0, radiusRng)
  | n + 1 => do
      let (obstacles, _) ← initObstacles params radiusRng n
      let (obstacle, radiusRng) ←
        Obstacle.init params (params.placement.box n) (RandomState.seed 0)
      return (@Fin.snoc n (fun _ => Obstacle G) obstacles obstacle, radiusRng)

end

/-- The constants of the obstacles; without a section `obstacle` there are none. -/
def Config.obstacleParams (cfg : Config) : ObstacleConfig :=
  cfg.obstacle.getD ⟨⟨[], []⟩, none, none, none⟩

namespace Env

variable {cfg : Config} {G V : Type} [RandomState G]

/-- `MultiAgentTracking.__init__`. -/
noncomputable def init (cfg : Config) (memory : Memory V) : Except Error (Env cfg G V) := do
  let cameras ← initAll
    (fun i => Camera.init cfg.cameraParams (cfg.cameraParams.placement.box i)) cfg.numCameras
  let (obstacles, radiusRng) ←
    initObstacles cfg.obstacleParams (RandomState.seed 0) cfg.numObstacles
  let self : Env cfg G V :=
    { rng := RandomState.seed 0
      radiusRng
      cameras
      targets := fun t => Target.init cfg.target (cfg.target.placement.box t)
      obstacles
      cameraOrder := 1
      targetOrder := 1
      obstacleOrder := 1
      cameraTargetViewMask := fun _ _ => false
      targetCameraViewMask := fun _ _ => false
      cameraObstacleViewMask := fun _ _ => false
      targetObstacleViewMask := fun _ _ => false
      cameraCameraViewMask := fun _ _ => false
      targetTargetViewMask := fun _ _ => false
      trackedBits := fun _ => false
      obstacleStatesFlagged := fun _ => List.replicate (OBSTACLE_STATE_DIM + 1) 0
      cameraObstacleObservations := fun _ _ => List.replicate (OBSTACLE_STATE_DIM + 1) 0
      -- the arrays of the episode are allocated before its seed is set
      cargo :=
        { remainingCargoes := 0
          awaitingCargoCounts := 0
          numDeliveredCargoes := 0
          targetCapacities := fun _ => 1
          targetGoals := fun _ => none
          targetGoalBits := 0
          goalBits := 0
          emptyBits := fun _ _ => false
          freights := 0
          bounties := 0
          targetDones := fun _ => false
          targetSteps := 0
          trackedSteps := 0 }
      targetWarehouseDistances := 0
      targetOrientations := 0
      targetTeamEpisodeReward := 0
      delayedTargetTeamEpisodeReward := 0
      coverageRate := 0
      realCoverageRate := 0
      meanTransportRate := 0
      episodeStep := 0
      mail :=
        { memory
          lists := fun _ => []
          nextList := 0
          buffer := fun _ _ => none
          queue := fun _ _ => none
          edges := fun _ _ _ => 0
          totalEdges := fun _ _ _ => 0 } }
  return self.reseed 0

/-! ## Without cameras -/

section

variable [SetOrder]

omit [RandomState G] [SetOrder] in
theorem finRange_numCameras (h : cfg.numCameras = 0) : List.finRange cfg.numCameras = [] :=
  List.eq_nil_of_length_eq_zero (by rw [List.length_finRange, h])

omit [SetOrder] in
theorem updateView_returns (h : cfg.numCameras = 0) (self : Env cfg G V) :
    Returns self.updateView (fun _ => True) := by
  have hnil := finRange_numCameras h
  have htargets : ∀ e : Env cfg G V, Returns e.lookAtTargets (fun _ => True) := by
    intro e
    unfold lookAtTargets
    rw [hnil]
    simp only [List.map_nil, List.flatMap_eq_nil_iff.mpr (fun _ _ => rfl), List.foldlM_nil]
    exact Returns.pure trivial
  have hcameras : ∀ e : Env cfg G V, Returns e.lookAtCameras (fun _ => True) := by
    intro e
    unfold lookAtCameras
    rw [hnil]
    exact Returns.pure trivial
  refine (htargets self).bind (fun e _ => ?_)
  exact (hcameras e.lookAround).bind (fun e' _ => Returns.pure trivial)

/-- **Without cameras a step returns.** -/
theorem step_returns (h : cfg.numCameras = 0) (reg : Registry) {self : Env cfg G V}
    (hvalid : self.cargo.Valid cfg) (cameraJointAction : Fin cfg.numCameras → ℝ × ℝ)
    (targetJointAction : Fin cfg.numTargets → ℂ) :
    Returns (self.step reg cameraJointAction targetJointAction) (fun _ => True) := by
  have hseen : Returns (self.simulate reg cameraJointAction targetJointAction)
      (Moved reg targetJointAction self) := by
    obtain ⟨seen, hseen, -⟩ := updateView_returns h
      { self with
        cameras := fun c => (self.cameras c).simulate (cameraJointAction c)
        targets := fun t => (self.targets t).simulate reg (targetJointAction t)
        targetOrientations := fun t =>
          let moved := ((self.targets t).simulate reg (targetJointAction t)).location
            - (self.targets t).location
          if moved ≠ 0 then arctan2Deg moved else self.targetOrientations t }
    exact ⟨seen, hseen, simulate_ensures _ _ _ _ _ hseen⟩
  refine hseen.bind (fun seen hmoved => ?_)
  have hvalid' : seen.cargo.Valid cfg := by rw [hmoved.cargo]; exact hvalid
  exact (Cargo.assignGoals_returns hvalid' _ _ _).bind (fun s _ => Returns.pure trivial)

omit [SetOrder] [RandomState G] in
theorem retry_returns {E : Type} {resetEntity : E → Except Error E}
    (hreset : ∀ e, Returns (resetEntity e) (fun _ => True)) (body : E → Body) (minDistance : ℝ)
    (placed : List Body) (k : ℕ) (e : E) :
    Returns (retry resetEntity body minDistance placed k e) (fun _ => True) := by
  induction k generalizing e with
  | zero => exact Returns.pure trivial
  | succ k ih =>
      refine (hreset e).bind (fun e' _ => ?_)
      split
      · exact Returns.pure trivial
      · exact ih e'

omit [SetOrder] in
theorem placeEntities_returns
    (hcameras : ∀ (e : Env cfg G V) placed, Returns (e.placeCameras placed) (fun _ => True))
    (self : Env cfg G V) : Returns self.placeEntities (fun _ => True) := by
  refine (hcameras self warehouseBodies).bind (fun r₁ _ => ?_)
  have hobstacles : Returns (r₁.2.placeObstacles r₁.1) (fun _ => True) := by
    refine Returns.foldlM (fun _ _ => True) _ _ trivial (fun _ o _ s _ _ => ?_)
    exact (retry_returns (fun e => Returns.pure trivial) _ _ _ _ _).bind
      (fun _ _ => Returns.pure trivial)
  refine hobstacles.bind (fun r₂ _ => ?_)
  have htargets : Returns (r₂.2.placeTargets r₂.1) (fun _ => True) := by
    refine Returns.foldlM (fun _ _ => True) _ _ trivial (fun _ t _ s _ _ => ?_)
    exact (retry_returns (fun e => Returns.pure trivial) _ _ _ _ _).bind
      (fun _ _ => Returns.pure trivial)
  exact htargets.bind (fun _ _ => Returns.pure trivial)

theorem reset_returns_of_view (hview : ∀ e : Env cfg G V, Returns e.updateView (fun _ => True))
    (hcameras : ∀ (e : Env cfg G V) placed, Returns (e.placeCameras placed) (fun _ => True))
    {fuel : ℕ}
    (hfill : ∀ (awaiting : Warehouse → ℤ) (g : G),
      Cargo.fillCargoes cfg fuel 0 awaiting g ≠ .error .outOfFuel)
    (seed : Option ℕ) (self : Env cfg G V) :
    Returns (self.reset fuel seed) (fun _ => True) := by
  have hentities : Returns (self.resetEntities seed) (fun r => Placed r.2) := by
    obtain ⟨r, hr, -⟩ : Returns (self.resetEntities seed) (fun _ => True) := by
      refine (placeEntities_returns hcameras _).bind (fun e _ => ?_)
      exact (hview _).bind (fun e' _ => Returns.pure trivial)
    exact ⟨r, hr, resetEntities_ensures _ _ _ hr⟩
  refine hentities.bind (fun r hplaced => ?_)
  rcases Cargo.reset_returns fuel r.2.inside r.2.trackedBits r.2.rng
    hplaced.capacities hplaced.goalBits hplaced.emptyBits with ⟨hfuel, -⟩ | hreturns
  · exact absurd hfuel (hfill _ _)
  · exact hreturns.bind (fun s _ => Returns.pure trivial)

/-- **Without cameras a reset returns** when the `while` loop ends within its bound. -/
theorem reset_returns (h : cfg.numCameras = 0) {fuel : ℕ}
    (hfill : ∀ (awaiting : Warehouse → ℤ) (g : G),
      Cargo.fillCargoes cfg fuel 0 awaiting g ≠ .error .outOfFuel)
    (seed : Option ℕ) (self : Env cfg G V) :
    Returns (self.reset fuel seed) (fun _ => True) := by
  refine reset_returns_of_view (updateView_returns h) (fun e placed => ?_) hfill seed self
  unfold placeCameras
  rw [finRange_numCameras h]
  exact Returns.pure trivial

end

/-! ## A small environment -/

/-- One target at `location`, one cargo per warehouse, and no cameras or obstacles. -/
def soloConfig (location : ℚ × ℚ) (maxEpisodeSteps : ℕ) (h : 0 < maxEpisodeSteps) : Config where
  maxEpisodeSteps := maxEpisodeSteps
  rewardType := .dense
  target :=
    { placement := ⟨[location], []⟩
      sightRange := ⟨500, Positive.fiveHundred_pos⟩
      stepSize := ⟨10, Positive.ten_pos⟩ }
  numCargoesPerTarget := 4
  highCapacityTargetSplit := 0
  targetsStartWithCargoes := true
  bountyFactor := 1
  shuffleEntities := false
  camera := none
  obstacle := none
  maxEpisodeSteps_pos := h
  numTargets_pos := Nat.one_pos
  le_numCargoesPerTarget := le_refl _
  split_nonneg := le_refl _
  split_le_one := zero_le_one
  bountyFactor_nonneg := zero_le_one

/-- A generator whose permutations are rotations, by as much as `turns` says. -/
noncomputable abbrev turning (m : ℕ) [NeZero m] (turns : Fin m → ℕ) : RandomState (Fin m) where
  seed _ := 0
  randint _ h g := (⟨0, h⟩, g)
  permutation n g := (finRotate n ^ turns g, g + 1)
  random g := (⟨0, by simp⟩, g)
  binomial p g := (decide (p ≠ 0), g)
  binomial_zero g := by simp
  binomial_one g := by simp

/-- A generator whose rotations go round. -/
noncomputable abbrev rotating : RandomState (Fin 4) := turning 4 (fun g => g)

/-- Rotating, the first pass already names every warehouse. -/
theorem fillCargoes_rotating (location : ℚ × ℚ) (maxEpisodeSteps : ℕ) (h : 0 < maxEpisodeSteps)
    (awaiting : Warehouse → ℤ) (g : Fin 4) :
    letI := rotating
    Cargo.fillCargoes (soloConfig location maxEpisodeSteps h) 2 0 awaiting g
      ≠ .error .outOfFuel := by
  let _ := rotating
  have hpass : ∀ g : Fin 4, Cargo.allSend (Cargo.fillPass 4 0 g).1 = true := by decide
  exact Cargo.fillCargoes_ne_outOfFuel 1 0 awaiting g (hpass g)

/-- The small environment and its first reset. -/
theorem exists_solo_reset {V : Type} (location : ℚ × ℚ) (maxEpisodeSteps : ℕ)
    (h : 0 < maxEpisodeSteps) (memory : Memory V) :
    letI := rotating
    letI := SetOrder.increasing
    ∃ (self start : Env (soloConfig location maxEpisodeSteps h) (Fin 4) V)
      (observations : Observations (soloConfig location maxEpisodeSteps h)) (reg : Registry),
      Env.init (soloConfig location maxEpisodeSteps h) memory = .ok self
        ∧ self.reset 2 none = .ok (observations, reg, start) := by
  let _ := rotating
  let _ := SetOrder.increasing
  obtain ⟨self, hself⟩ : ∃ self : Env (soloConfig location maxEpisodeSteps h) (Fin 4) V,
      Env.init (soloConfig location maxEpisodeSteps h) memory = .ok self := ⟨_, rfl⟩
  obtain ⟨⟨observations, reg, start⟩, hreset, -⟩ := reset_returns
    (rfl : (soloConfig location maxEpisodeSteps h).numCameras = 0)
    (fillCargoes_rotating location maxEpisodeSteps h) none self
  exact ⟨self, start, observations, reg, hself, hreset⟩

end Env

end Mate
