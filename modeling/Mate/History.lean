import Mathlib.Data.List.GetD
import Mate.Environment.GlobalState
import Mate.Environment.Places

set_option autoImplicit false

/-! # A seeded reset forgets

What an environment is built from (`Env.build`) no call changes. A reset with a seed draws
everything else from the build and the seed, stage by stage: the entities, what they see, the
cargoes, and the rest. So two environments of one build are the same after it, up to where
Python has put their objects, and behave alike from then on.
-/

namespace Mate

open Fallible Runs

/-! ## Looking, as a function of what is there -/

namespace Env

variable {cfg : Config} {G V : Type} [RandomState G]

/-- What `_update_view` writes. -/
structure Sight (cfg : Config) (G : Type) where
  cameras : Fin cfg.numCameras → Camera cfg.cameraParams G
  cameraTargetViewMask : Fin cfg.numCameras → Fin cfg.numTargets → Bool
  targetCameraViewMask : Fin cfg.numTargets → Fin cfg.numCameras → Bool
  targetObstacleViewMask : Fin cfg.numTargets → Fin cfg.numObstacles → Bool
  cameraCameraViewMask : Fin cfg.numCameras → Fin cfg.numCameras → Bool
  targetTargetViewMask : Fin cfg.numTargets → Fin cfg.numTargets → Bool
  trackedBits : Fin cfg.numTargets → Bool

def see (self : Env cfg G V) (v : Sight cfg G) : Env cfg G V :=
  { self with
    cameras := v.cameras
    cameraTargetViewMask := v.cameraTargetViewMask
    targetCameraViewMask := v.targetCameraViewMask
    targetObstacleViewMask := v.targetObstacleViewMask
    cameraCameraViewMask := v.cameraCameraViewMask
    targetTargetViewMask := v.targetTargetViewMask
    trackedBits := v.trackedBits }

/-- The cameras and their view of the targets. -/
noncomputable def targetSights (cameras : Fin cfg.numCameras → Camera cfg.cameraParams G)
    (targets : Fin cfg.numTargets → Target cfg.target G) :
    Except Error ((Fin cfg.numCameras → Camera cfg.cameraParams G)
      × (Fin cfg.numCameras → Fin cfg.numTargets → Bool)) :=
  ((List.finRange cfg.numTargets).flatMap
      (fun t => (List.finRange cfg.numCameras).map (fun c => (t, c)))).foldlM
    (fun (cameras, mask) (t, c) => do
      let (seen, cameras) ← lookAt cameras c (targets t).location (cfg.obstacleTransmittance : ℚ)
      return (cameras, setMask mask c t seen))
    (cameras, fun _ _ => false)

/-- The cameras and their view of each other. -/
noncomputable def cameraSights (cameras : Fin cfg.numCameras → Camera cfg.cameraParams G) :
    Except Error ((Fin cfg.numCameras → Camera cfg.cameraParams G)
      × (Fin cfg.numCameras → Fin cfg.numCameras → Bool)) :=
  ((List.finRange cfg.numCameras).flatMap
      (fun c => (List.finRange cfg.numCameras).map (fun other => (c, other)))).foldlM
    (fun (cameras, mask) (c, other) =>
      if c = other then .ok (cameras, setMask mask c c true)
      else do
        let (seen, cameras) ← lookAt cameras c (cameras other).location 0
        return (cameras, setMask mask c other seen))
    (cameras, fun _ _ => false)

theorem lookAtTargets_eq (self : Env cfg G V) :
    self.lookAtTargets = (targetSights self.cameras self.targets).map
      (fun v => { self with cameras := v.1, cameraTargetViewMask := v.2 }) := by
  refine foldlM_map (fun v : (Fin cfg.numCameras → Camera cfg.cameraParams G)
    × (Fin cfg.numCameras → Fin cfg.numTargets → Bool) =>
    { self with cameras := v.1, cameraTargetViewMask := v.2 }) ?_ _ (self.cameras, fun _ _ => false)
  rintro ⟨cameras, mask⟩ ⟨t, c⟩
  show lookAt cameras c (self.targets t).location _ >>= _
    = Except.map _ (lookAt cameras c (self.targets t).location _ >>= _)
  cases lookAt cameras c (self.targets t).location (cfg.obstacleTransmittance : ℚ) with
  | error e => rfl
  | ok r => rfl

theorem lookAtCameras_eq (self : Env cfg G V) :
    self.lookAtCameras = (cameraSights self.cameras).map
      (fun v => { self with cameras := v.1, cameraCameraViewMask := v.2 }) := by
  refine foldlM_map (fun v : (Fin cfg.numCameras → Camera cfg.cameraParams G)
    × (Fin cfg.numCameras → Fin cfg.numCameras → Bool) =>
    { self with cameras := v.1, cameraCameraViewMask := v.2 }) ?_ _ (self.cameras, fun _ _ => false)
  rintro ⟨cameras, mask⟩ ⟨c, other⟩
  by_cases h : c = other
  · simp only [if_pos h]
    rfl
  · simp only [if_neg h]
    cases lookAt cameras c (cameras other).location 0 with
    | error e => rfl
    | ok r => rfl

noncomputable def sight (cameras : Fin cfg.numCameras → Camera cfg.cameraParams G)
    (targets : Fin cfg.numTargets → Target cfg.target G)
    (obstacles : Fin cfg.numObstacles → Obstacle G) : Except Error (Sight cfg G) := do
  let (cameras, cameraTargetViewMask) ← targetSights cameras targets
  let (cameras', cameraCameraViewMask) ← cameraSights cameras
  return {
    cameras := cameras'
    cameraTargetViewMask
    targetCameraViewMask := fun t c =>
      (targets t).perceive (cameras c).location (cfg.cameraParams.radius : ℚ)
    targetObstacleViewMask := fun t o =>
      (targets t).perceive (obstacles o).location (obstacles o).radius
    cameraCameraViewMask
    targetTargetViewMask := fun t other =>
      decide (t = other) || (targets t).perceive (targets other).location TARGET_RADIUS
    trackedBits := fun t => decide (∃ c, cameraTargetViewMask c t = true) }

/-- `_update_view` looks at nothing but the entities. -/
theorem updateView_eq (self : Env cfg G V) :
    self.updateView = (sight self.cameras self.targets self.obstacles).map self.see := by
  unfold updateView sight
  rw [lookAtTargets_eq]
  cases targetSights self.cameras self.targets with
  | error e => rfl
  | ok v =>
      show lookAtCameras _ >>= _ = _
      rw [lookAtCameras_eq]
      show (cameraSights v.1).map _ >>= _ = Except.map _ (cameraSights v.1 >>= _)
      cases cameraSights v.1 with
      | error e => rfl
      | ok v' => rfl

end Env

/-! ## The cargoes of a new episode -/

namespace Cargo

variable {n : ℕ} {G : Type} [RandomState G] {cfg : Config}

/-- Without the count of deliveries and the flags, which a reset clears only after it has given
out the first goals. -/
def unmarked (c : Cargo n) : Cargo n :=
  { c with numDeliveredCargoes := 0, targetDones := fun _ => false }

end Cargo

namespace Ledger

variable {n : ℕ} {G : Type} [RandomState G] {cfg : Config}

def unmarked (s : Ledger n G) : Ledger n G := { s with cargo := s.cargo.unmarked }

omit [RandomState G] in
theorem settle_unmarked {s s' : Ledger n G} (h : s.unmarked = s'.unmarked) (t : Fin n)
    (goal : Option Warehouse) :
    (s.settle cfg t goal).unmarked = (s'.settle cfg t goal).unmarked := by
  have hsettle : ∀ s : Ledger n G,
      (s.settle cfg t goal).unmarked = (s.unmarked.settle cfg t goal).unmarked := by
    intro s
    cases goal <;> rfl
  rw [hsettle s, hsettle s', h]

theorem pickUp_unmarked {s s' : Ledger n G} (h : s.unmarked = s'.unmarked) (t : Fin n)
    (w : Warehouse) :
    Alike (fun s s' : Ledger n G => s.unmarked = s'.unmarked) (s.pickUp cfg t w)
      (s'.pickUp cfg t w) := by
  have hpick : ∀ s : Ledger n G,
      (s.pickUp cfg t w).map unmarked = (s.unmarked.pickUp cfg t w).map unmarked := by
    intro s
    show Except.map _ (RandomState.choice (s.cargo.openGoals w) s.rng >>= _)
      = Except.map _ (RandomState.choice (s.cargo.openGoals w) s.rng >>= _)
    cases RandomState.choice (s.cargo.openGoals w) s.rng with
    | error e => rfl
    | ok r => rfl
  refine Alike.of_map_eq ?_
  rw [hpick s, hpick s', h]

theorem visit_unmarked (t : Fin n) (goal : Option Warehouse) :
    ∀ (l : List Warehouse) (s s' : Ledger n G), s.unmarked = s'.unmarked →
      Alike (fun s s' : Ledger n G => s.unmarked = s'.unmarked) (visit cfg t goal l s)
        (visit cfg t goal l s') := by
  intro l
  induction l with
  | nil =>
      intro s s' h
      exact h
  | cons w rest ih =>
      intro s s' h
      unfold visit
      by_cases hgoal : goal = none ∨ goal = some w
      · simp only [if_pos hgoal]
        have hsettle : (s.settle cfg t goal).unmarked = (s'.settle cfg t goal).unmarked :=
          settle_unmarked h t goal
        have hstocked : (s.settle cfg t goal).cargo.stocked w
            = (s'.settle cfg t goal).cargo.stocked w := by
          show (s.settle cfg t goal).unmarked.cargo.stocked w
            = (s'.settle cfg t goal).unmarked.cargo.stocked w
          rw [hsettle]
        rw [hstocked]
        split
        · exact pickUp_unmarked hsettle t w
        · exact ih _ _ hsettle
      · simp only [if_neg hgoal]
        exact ih s s' h

theorem assignTarget_unmarked {s s' : Ledger n G} (h : s.unmarked = s'.unmarked)
    (inside : Fin n → Warehouse → Bool) (t : Fin n) :
    Alike (fun s s' : Ledger n G => s.unmarked = s'.unmarked) (assignTarget cfg inside s t)
      (assignTarget cfg inside s' t) := by
  have hgoal : s.cargo.targetGoals t = s'.cargo.targetGoals t := by
    show s.unmarked.cargo.targetGoals t = s'.unmarked.cargo.targetGoals t
    rw [h]
  unfold assignTarget
  rw [hgoal]
  refine (visit_unmarked t _ _ s s' h).bind (fun s s' h => Alike.pure ?_)
  exact congrArg (fun s : Ledger n G =>
    { s with cargo := s.cargo.refreshEmptyBits t (warehousesOf inside t) }) h

end Ledger

namespace Cargo

variable {n : ℕ} {G : Type} [RandomState G] {cfg : Config}

theorem assignGoals_unmarked {c c' : Cargo n} (h : c.unmarked = c'.unmarked)
    (inside : Fin n → Warehouse → Bool) (tracked : Fin n → Bool) (rng : G) :
    Fallible.Alike (fun s s' : Ledger n G => s.unmarked = s'.unmarked)
      (c.assignGoals cfg inside tracked rng) (c'.assignGoals cfg inside tracked rng) := by
  have hopen : (c.openLedger tracked rng).unmarked = (c'.openLedger tracked rng).unmarked :=
    congrArg (fun c : Cargo n => c.openLedger tracked rng) h
  refine (Fallible.Alike.foldlM (fun _ (s s' : Ledger n G) => s.unmarked = s'.unmarked) _ hopen ?_).bind
    (fun s s' h => Fallible.Alike.pure h)
  intro _ t s s' h
  exact Ledger.assignTarget_unmarked h inside t

/-- The loop that fills the warehouses runs at least once, so it counts the cargoes anew. -/
theorem fillCargoes_awaiting (fuel : ℕ) (awaiting awaiting' : Warehouse → ℤ) (g : G) :
    fillCargoes cfg fuel 0 awaiting g = fillCargoes cfg fuel 0 awaiting' g := by
  have hnone : ¬ allSend 0 = true := by decide
  cases fuel with
  | zero => rfl
  | succ fuel => rw [fillCargoes, fillCargoes, if_neg hnone, if_neg hnone]

/-- The cargoes of a new episode depend only on the capacities and the bits of the targets. -/
theorem reset_congr {c c' : Cargo n} (hcap : c.targetCapacities = c'.targetCapacities)
    (hgoal : c.goalBits = c'.goalBits) (hempty : c.emptyBits = c'.emptyBits) (fuel : ℕ)
    (inside : Fin n → Warehouse → Bool) (tracked : Fin n → Bool) (g : G) :
    c.reset cfg fuel inside tracked g = c'.reset cfg fuel inside tracked g := by
  unfold reset
  rw [fillCargoes_awaiting fuel c.awaitingCargoCounts c'.awaitingCargoCounts]
  refine Fallible.Alike.eq (Fallible.Alike.bind (Fallible.Alike.of_eq (fun _ => rfl) rfl) ?_)
  rintro ⟨remaining, awaiting, g⟩ _ rfl
  have hclear : (c.clear remaining awaiting).unmarked = (c'.clear remaining awaiting).unmarked := by
    simp only [unmarked, clear, hcap, hgoal, hempty]
  refine (assignGoals_unmarked hclear inside tracked g).bind (fun s s' h => ?_)
  exact Fallible.Alike.of_eq (fun _ => rfl) (congrArg (startWithCargoes cfg) h)

end Cargo

/-! ## What an environment is built from -/

namespace Env

variable {cfg : Config} {G V : Type} [RandomState G]

/-- What `__init__` fixes, by the entities in the order of the configuration. Capacities are
drawn anew only with targets of high capacity, the radii only with obstacles. -/
structure Build (cfg : Config) (G : Type) where
  cameras : Fin cfg.numCameras → Box
  targets : Fin cfg.numTargets → Box × Option (ℤ × ℝ)
  obstacles : Fin cfg.numObstacles → Box × (ℚ × ℚ) × ℚ
  radiusRng : Option G

def cameraBuild (c : Camera cfg.cameraParams G) : Box := c.locationRandomRange

def targetBuild (t : Target cfg.target G) : Box × Option (ℤ × ℝ) :=
  (t.locationRandomRange,
    if cfg.numHighCapacityTargets = 0 then some (t.capacity, t.stepSize) else none)

def obstacleBuild (o : Obstacle G) : Box × (ℚ × ℚ) × ℚ :=
  (o.locationRandomRange, o.radiusRandomRange, o.transmittance)

def build (self : Env cfg G V) : Build cfg G where
  cameras := fun i => cameraBuild (self.cameras (self.cameraOrder.symm i))
  targets := fun i => targetBuild (self.targets (self.targetOrder.symm i))
  obstacles := fun i => obstacleBuild (self.obstacles (self.obstacleOrder.symm i))
  radiusRng := if cfg.numObstacles = 0 then some self.radiusRng else none

omit [RandomState G] in
/-- Entities that keep their positions and what they are built from. -/
theorem build_congr {e e' : Env cfg G V} (hcorder : e'.cameraOrder = e.cameraOrder)
    (htorder : e'.targetOrder = e.targetOrder) (hoorder : e'.obstacleOrder = e.obstacleOrder)
    (hcameras : ∀ c, cameraBuild (e'.cameras c) = cameraBuild (e.cameras c))
    (htargets : ∀ t, targetBuild (e'.targets t) = targetBuild (e.targets t))
    (hobstacles : ∀ o, obstacleBuild (e'.obstacles o) = obstacleBuild (e.obstacles o))
    (hradius : cfg.numObstacles = 0 → e'.radiusRng = e.radiusRng) : e'.build = e.build := by
  unfold build
  rw [hcorder, htorder, hoorder]
  congr 1
  · exact funext (fun i => hcameras _)
  · exact funext (fun i => htargets _)
  · exact funext (fun i => hobstacles _)
  · by_cases h : cfg.numObstacles = 0
    · rw [if_pos h, if_pos h, hradius h]
    · rw [if_neg h, if_neg h]

/-! ### Calls that change nothing of the build -/

theorem reseed_build (self : Env cfg G V) (seed : ℕ) : (self.reseed seed).build = self.build := by
  refine build_congr rfl rfl rfl (fun _ => rfl) (fun _ => rfl) (fun _ => rfl) (fun h => ?_)
  show ((List.finRange cfg.numObstacles).getLast?.map _).getD self.radiusRng = self.radiusRng
  have hnil : List.finRange cfg.numObstacles = [] := by rw [h]; rfl
  rw [hnil]
  rfl

omit [RandomState G] in
theorem restoreOrder_build (self : Env cfg G V) : self.restoreOrder.build = self.build := rfl

theorem shuffle_build (self : Env cfg G V) : self.shuffle.build = self.build := by
  unfold shuffle
  split
  · simp only [build, Equiv.symm_trans_apply, Equiv.apply_symm_apply]
  · rfl

theorem drawCapacities_build (self : Env cfg G V) : self.drawCapacities.build = self.build := by
  unfold drawCapacities
  split
  · rename_i hhigh
    refine build_congr rfl rfl rfl (fun _ => rfl) (fun t => ?_) (fun _ => rfl) (fun _ => rfl)
    simp only [targetBuild, if_neg hhigh.ne', Target.setCapacity]
  · rfl

/-- A reset of a camera keeps what it is built from. -/
theorem cameraBuild_reset (e : Camera cfg.cameraParams G) :
    Ensures e.reset (fun e' => cameraBuild e' = cameraBuild e) := by
  intro e' h
  unfold Camera.reset at h
  dsimp only at h
  split at h
  · cases h
    rfl
  · cases h

theorem placeCameras_build (self : Env cfg G V) (placed : List Body) :
    Ensures (self.placeCameras placed) (fun r => r.2.build = self.build) := by
  refine Ensures.foldlM _ _ rfl ?_
  rintro ⟨placed, s⟩ c - hs
  have hretry := retry_ensures (I := fun e => cameraBuild e = cameraBuild (s.cameras c))
    (fun e he => (cameraBuild_reset e).mono (fun e' he' => ⟨he'.trans he, he'.trans he⟩))
    Camera.body (minDistance cfg) placed 499 (s.cameras c) rfl
  refine hretry.bind (fun r hr => Ensures.pure (Eq.trans ?_ hs))
  refine build_congr rfl rfl rfl (fun c' => ?_) (fun _ => rfl) (fun _ => rfl) (fun _ => rfl)
  by_cases h : c' = c
  · subst h
    simpa using hr
  · simp only [Function.update_of_ne h]

theorem placeObstacles_build (self : Env cfg G V) (placed : List Body) :
    Ensures (self.placeObstacles placed) (fun r => r.2.build = self.build) := by
  refine Ensures.foldlM _ _ rfl ?_
  rintro ⟨placed, s⟩ o - hs
  have hreset : ∀ e : Obstacle G × G, obstacleBuild e.1 = obstacleBuild (s.obstacles o) →
      Ensures (.ok (e.1.reset e.2) : Except Error (Obstacle G × G))
        (fun e' => obstacleBuild e'.1 = obstacleBuild (s.obstacles o)
          ∧ obstacleBuild e'.1 = obstacleBuild (s.obstacles o)) :=
    fun e he => Ensures.pure ⟨he, he⟩
  have hretry := retry_ensures hreset (fun e => e.1.body) (minDistance cfg) placed 499
    (s.obstacles o, s.radiusRng) rfl
  refine hretry.bind (fun r hr => Ensures.pure (Eq.trans ?_ hs))
  refine build_congr rfl rfl rfl (fun _ => rfl) (fun _ => rfl) (fun o' => ?_) (fun h => ?_)
  · by_cases h : o' = o
    · subst h
      rw [← hr]
      simp only [Function.update_self]
      split <;> rfl
    · simp only [Function.update_of_ne h]
  · exact absurd o.pos (by omega)

theorem placeTargets_build (self : Env cfg G V) (placed : List Body) :
    Ensures (self.placeTargets placed) (fun r => r.2.build = self.build) := by
  refine Ensures.foldlM _ _ rfl ?_
  rintro ⟨placed, s⟩ t - hs
  have hreset : ∀ e : Target cfg.target G, targetBuild e = targetBuild (s.targets t) →
      Ensures (.ok e.reset : Except Error (Target cfg.target G))
        (fun e' => targetBuild e' = targetBuild (s.targets t)
          ∧ targetBuild e' = targetBuild (s.targets t)) :=
    fun e he => Ensures.pure ⟨he, he⟩
  have hretry := retry_ensures hreset Target.body 0 placed 499 (s.targets t) rfl
  refine hretry.bind (fun r hr => Ensures.pure (Eq.trans ?_ hs))
  refine build_congr rfl rfl rfl (fun _ => rfl) (fun t' => ?_) (fun _ => rfl) (fun _ => rfl)
  by_cases h : t' = t
  · subst h
    simpa using hr
  · simp only [Function.update_of_ne h]

theorem placeEntities_build (self : Env cfg G V) :
    Ensures self.placeEntities (fun e => e.build = self.build) := by
  refine (self.placeCameras_build _).bind (fun r₁ h₁ => ?_)
  refine (r₁.2.placeObstacles_build _).bind (fun r₂ h₂ => ?_)
  exact (r₂.2.placeTargets_build _).bind
    (fun r₃ h₃ => Ensures.pure (h₃.trans (h₂.trans h₁)))

/-- Looking changes generators of cameras only. -/
theorem updateView_build (self : Env cfg G V) :
    Ensures self.updateView (fun e => e.build = self.build) := by
  intro e h
  have hlooked := updateView_ensures self e h
  rw [updateView_eq] at h
  cases hsight : sight self.cameras self.targets self.obstacles with
  | error err =>
      rw [hsight] at h
      cases h
  | ok v =>
      rw [hsight] at h
      cases h
      refine build_congr rfl rfl rfl (fun c => ?_) (fun _ => rfl) (fun _ => rfl) (fun _ => rfl)
      rw [hlooked.cameras c]
      rfl

variable [SetOrder]

theorem resetEntities_build (seed : Option ℕ) (self : Env cfg G V) :
    Ensures (self.resetEntities seed) (fun r => r.2.build = self.build) := by
  obtain ⟨start, hstart, hreset⟩ := self.exists_resetEntities seed
  rw [hreset]
  have hseeded : start.restoreOrder.shuffle.drawCapacities.build = self.build := by
    rw [drawCapacities_build, shuffle_build, restoreOrder_build]
    rcases hstart with rfl | ⟨k, rfl⟩
    · rfl
    · exact reseed_build self k
  refine (placeEntities_build _).bind (fun e he => ?_)
  refine (updateView_build _).bind (fun e' he' => Ensures.pure ?_)
  exact he'.trans (he.trans hseeded)

theorem reset_build {fuel : ℕ} {seed : Option ℕ} {self self' : Env cfg G V}
    {observations : Observations cfg} {reg : Registry}
    (h : self.reset fuel seed = .ok (observations, reg, self')) : self'.build = self.build := by
  obtain ⟨placed, s, orientations, rng, hentities, -, -, hfinish⟩ := reset_eq_ok h
  cases hfinish
  exact resetEntities_build seed self _ hentities

theorem Next.build {self self' : Env cfg G V} {call : Call cfg V} (h : Next self call self') :
    self'.build = self.build := by
  cases h with
  | step h =>
      obtain ⟨seen, hseen, h⟩ := bind_eq_ok.mp h
      obtain ⟨s, -, h⟩ := bind_eq_ok.mp h
      have hbuild : seen.build = self.build := (updateView_build _ _ hseen).trans
        (build_congr rfl rfl rfl (fun _ => rfl) (fun _ => rfl) (fun _ => rfl) (fun _ => rfl))
      cases h
      exact hbuild
  | send messages => rfl
  | receive h => rfl
  | write memory h => rfl

end Env

/-! ## Entities with the same seed -/

section

variable {cfg : Config} {G : Type} [RandomState G]

namespace Camera

variable {params : CameraConfig}

/-- All that a reset does not draw. -/
def SameSeed (c c' : Camera params G) : Prop :=
  c'.locationRandomRange = c.locationRandomRange ∧ c'.rng = c.rng

/-- The same up to what `add_obstacles` leaves. -/
def SameFace (c c' : Camera params G) : Prop :=
  c' = { c with sightRangeOuterFunc := c'.sightRangeOuterFunc, obstacles := c'.obstacles }

omit [RandomState G] in
theorem SameFace.sameSeed {c c' : Camera params G} (h : SameFace c c') : SameSeed c c' := by
  unfold SameFace at h
  constructor
  · rw [h]
  · rw [h]

theorem reset_alike {c c' : Camera params G} (h : SameSeed c c') :
    Alike SameFace c.reset c'.reset := by
  unfold reset
  rw [h.1, h.2]
  dsimp only
  split
  · exact rfl
  · exact rfl

omit [RandomState G] in
theorem extendBoundaries_congr (c : Camera params G) (outerFunc : Option Interp1d)
    (reach : Finset ℕ) (all : List (Obstacle G)) :
    ∀ boundaries,
      ({ c with sightRangeOuterFunc := outerFunc, obstacles := reach } : Camera params G).extendBoundaries
          all boundaries
        = c.extendBoundaries all boundaries := by
  induction all with
  | nil => exact fun _ => rfl
  | cons obstacle rest ih =>
      intro boundaries
      unfold extendBoundaries
      rw [ih, ih]
      rfl

omit [RandomState G] in
/-- `clear_obstacles` and `add_obstacles` leave nothing of the last episode. -/
theorem addObstacles_congr [SetOrder] {c c' : Camera params G} (h : SameFace c c')
    (all : List (Obstacle G)) :
    c'.clearObstacles.addObstacles all = c.clearObstacles.addObstacles all := by
  unfold SameFace at h
  rw [h]
  unfold addObstacles clearObstacles
  dsimp only
  rw [extendBoundaries_congr, extendBoundaries_congr c c.sightRangeOuterFunc ∅]

end Camera

namespace Target

variable {params : TargetConfig}

def SameSeed (t t' : Target params G) : Prop :=
  t'.locationRandomRange = t.locationRandomRange ∧ t'.rng = t.rng ∧ t'.capacity = t.capacity
    ∧ t'.stepSize = t.stepSize

theorem reset_congr {t t' : Target params G} (h : SameSeed t t') : t'.reset = t.reset := by
  obtain ⟨hrange, hrng, hcapacity, hstep⟩ := h
  obtain ⟨_, _, _, _, _, _, _⟩ := t
  obtain ⟨_, _, _, _, _, _, _⟩ := t'
  cases hrange
  cases hrng
  cases hcapacity
  cases hstep
  rfl

end Target

namespace Obstacle

def SameSeed (o o' : Obstacle G) : Prop :=
  o'.locationRandomRange = o.locationRandomRange ∧ o'.radiusRandomRange = o.radiusRandomRange
    ∧ o'.transmittance = o.transmittance ∧ o'.rng = o.rng

theorem reset_congr {o o' : Obstacle G} (h : SameSeed o o') (radiusRng : G) :
    o'.reset radiusRng = o.reset radiusRng := by
  obtain ⟨hrange, hradius, htransmittance, hrng⟩ := h
  obtain ⟨_, _, _, _, _, _⟩ := o
  obtain ⟨_, _, _, _, _, _⟩ := o'
  cases hrange
  cases hradius
  cases htransmittance
  cases hrng
  rfl

end Obstacle

end

/-! ## Two resets with one seed -/

namespace Env

variable {cfg : Config} {G V : Type} [RandomState G]

/-- Two tries of an entity. `S` holds before a try, `T` after it. -/
theorem retry_alike {E : Type} {f : E → Except Error E} {S T : E → E → Prop} (body : E → Body)
    (hreset : ∀ e e', S e e' → Alike T (f e) (f e'))
    (hT : ∀ e e', T e e' → S e e' ∧ body e' = body e) (d : ℝ) (placed : List Body) (k : ℕ) :
    ∀ e e', S e e' → Alike (fun r r' => T r.1 r'.1 ∧ r'.2 = r.2) (retry f body d placed (k + 1) e)
      (retry f body d placed (k + 1) e') := by
  induction k with
  | zero =>
      intro e e' h
      refine (hreset e e' h).bind (fun a a' ha => ?_)
      rw [(hT a a' ha).2]
      split
      · exact Alike.pure ⟨ha, rfl⟩
      · exact Alike.pure ⟨ha, rfl⟩
  | succ k ih =>
      intro e e' h
      refine (hreset e e' h).bind (fun a a' ha => ?_)
      rw [(hT a a' ha).2]
      split
      · exact Alike.pure ⟨ha, rfl⟩
      · exact ih a a' (hT a a' ha).1

/-- The generators, the order, and what the entities are built from. -/
structure Seeded (e e' : Env cfg G V) : Prop where
  rng : e'.rng = e.rng
  radiusRng : e'.radiusRng = e.radiusRng
  cameraOrder : e'.cameraOrder = e.cameraOrder
  targetOrder : e'.targetOrder = e.targetOrder
  obstacleOrder : e'.obstacleOrder = e.obstacleOrder
  cameras : ∀ c, Camera.SameSeed (e.cameras c) (e'.cameras c)
  targets : ∀ t, targetBuild (e'.targets t) = targetBuild (e.targets t)
    ∧ (e'.targets t).rng = (e.targets t).rng
  obstacles : ∀ o, Obstacle.SameSeed (e.obstacles o) (e'.obstacles o)

theorem reseed_seeded {e e' : Env cfg G V} (h : e'.build = e.build) (seed : ℕ) :
    Seeded (e.reseed seed).restoreOrder (e'.reseed seed).restoreOrder where
  rng := rfl
  radiusRng := by
    show ((List.finRange cfg.numObstacles).getLast?.map _).getD e'.radiusRng
      = ((List.finRange cfg.numObstacles).getLast?.map _).getD e.radiusRng
    by_cases hzero : cfg.numObstacles = 0
    · have hradius : e'.radiusRng = e.radiusRng := by
        have := congrArg Build.radiusRng h
        simpa [build, hzero] using this
      rw [hradius]
    · have hlast : (List.finRange cfg.numObstacles).getLast?.isSome := by
        simp [List.finRange_eq_nil_iff, hzero]
      obtain ⟨last, hlast⟩ := Option.isSome_iff_exists.mp hlast
      rw [hlast]
      rfl
  cameraOrder := rfl
  targetOrder := rfl
  obstacleOrder := rfl
  cameras := fun c => by
    refine ⟨congrFun (congrArg Build.cameras h) c, ?_⟩
    simp only [restoreOrder, reseed, Equiv.apply_symm_apply]
  targets := fun t => by
    refine ⟨congrFun (congrArg Build.targets h) t, ?_⟩
    simp only [restoreOrder, reseed, Equiv.apply_symm_apply]
  obstacles := fun o => by
    have hobstacle := congrFun (congrArg Build.obstacles h) o
    simp only [build, obstacleBuild, Prod.mk.injEq] at hobstacle
    refine ⟨hobstacle.1, hobstacle.2.1, hobstacle.2.2, ?_⟩
    simp only [restoreOrder, reseed, Equiv.apply_symm_apply]

theorem Seeded.shuffle {e e' : Env cfg G V} (h : Seeded e e') : Seeded e.shuffle e'.shuffle := by
  unfold Env.shuffle
  rw [h.rng]
  split
  · exact
      { rng := rfl
        radiusRng := h.radiusRng
        cameraOrder := by rw [h.cameraOrder]
        targetOrder := by rw [h.targetOrder]
        obstacleOrder := by rw [h.obstacleOrder]
        cameras := fun c => h.cameras _
        targets := fun t => h.targets _
        obstacles := fun o => h.obstacles _ }
  · exact h

/-- What a reset has before it places the entities. -/
structure Drawn (e e' : Env cfg G V) : Prop where
  rng : e'.rng = e.rng
  radiusRng : e'.radiusRng = e.radiusRng
  cameraOrder : e'.cameraOrder = e.cameraOrder
  targetOrder : e'.targetOrder = e.targetOrder
  obstacleOrder : e'.obstacleOrder = e.obstacleOrder
  cameras : ∀ c, Camera.SameSeed (e.cameras c) (e'.cameras c)
  targets : ∀ t, Target.SameSeed (e.targets t) (e'.targets t)
  obstacles : ∀ o, Obstacle.SameSeed (e.obstacles o) (e'.obstacles o)

/-- Without targets of high capacity the capacities are those of `__init__`. -/
theorem Seeded.drawCapacities {e e' : Env cfg G V} (h : Seeded e e') :
    Drawn e.drawCapacities e'.drawCapacities
      ∧ e'.drawCapacities.cargo.targetCapacities = e.drawCapacities.cargo.targetCapacities := by
  unfold Env.drawCapacities
  by_cases hhigh : 0 < cfg.numHighCapacityTargets
  · rw [if_pos hhigh, if_pos hhigh, h.rng]
    refine ⟨?_, rfl⟩
    exact
      { rng := rfl
        radiusRng := h.radiusRng
        cameraOrder := h.cameraOrder
        targetOrder := h.targetOrder
        obstacleOrder := h.obstacleOrder
        cameras := h.cameras
        targets := fun t => ⟨congrArg Prod.fst (h.targets t).1, (h.targets t).2, rfl, rfl⟩
        obstacles := h.obstacles }
  · rw [if_neg hhigh, if_neg hhigh]
    refine ⟨?_, rfl⟩
    have hzero : cfg.numHighCapacityTargets = 0 := by omega
    exact
      { rng := h.rng
        radiusRng := h.radiusRng
        cameraOrder := h.cameraOrder
        targetOrder := h.targetOrder
        obstacleOrder := h.obstacleOrder
        cameras := h.cameras
        targets := fun t => by
          have hbuild := (h.targets t).1
          simp only [targetBuild, if_pos hzero, Prod.mk.injEq, Option.some.injEq] at hbuild
          exact ⟨hbuild.1, (h.targets t).2, hbuild.2.1, hbuild.2.2⟩
        obstacles := h.obstacles }

/-- The cameras that are done are the same up to what they see. -/
theorem placeCameras_alike {e e' : Env cfg G V} (h : Drawn e e') (placed : List Body) :
    Alike (fun r r' => r'.1 = r.1 ∧ Drawn r.2 r'.2
        ∧ ∀ c, Camera.SameFace (r.2.cameras c) (r'.2.cameras c))
      (e.placeCameras placed) (e'.placeCameras placed) := by
  refine (Alike.foldlM (fun done (r r' : List Body × Env cfg G V) => r'.1 = r.1 ∧ Drawn r.2 r'.2
    ∧ ∀ c ∈ done, Camera.SameFace (r.2.cameras c) (r'.2.cameras c))
    (List.finRange cfg.numCameras) (s := (placed, e)) (t := (placed, e'))
    ⟨rfl, h, fun _ hc => absurd hc List.not_mem_nil⟩ ?_).mono
    (fun r r' hr => ⟨hr.1, hr.2.1, fun c => hr.2.2 c (List.mem_finRange c)⟩)
  rintro done c ⟨placed, s⟩ ⟨placed', s'⟩ ⟨hplaced, hs, hdone⟩
  obtain rfl : placed' = placed := hplaced
  dsimp only at hs hdone ⊢
  have hretry := retry_alike (T := Camera.SameFace) Camera.body (fun c c' => Camera.reset_alike)
    (fun c c' hc => ⟨hc.sameSeed, by rw [hc]; rfl⟩) (minDistance cfg) placed' 499
    (s.cameras c) (s'.cameras c) (hs.cameras c)
  refine hretry.bind (fun r r' hr => Alike.pure ⟨?_, ?_, ?_⟩)
  · show placed' ++ [r'.1.body] = placed' ++ [r.1.body]
    rw [hr.1]
    rfl
  · refine { hs with cameras := fun c' => ?_ }
    by_cases heq : c' = c
    · subst heq
      simpa using hr.1.sameSeed
    · simpa [Function.update_of_ne heq] using hs.cameras c'
  · intro c' hc'
    by_cases heq : c' = c
    · subst heq
      simpa using hr.1
    · have hold : c' ∈ done := by simpa [heq] using hc'
      simpa [Function.update_of_ne heq] using hdone c' hold

theorem placeObstacles_alike {e e' : Env cfg G V} (h : Drawn e e')
    (hcameras : ∀ c, Camera.SameFace (e.cameras c) (e'.cameras c)) (placed : List Body) :
    Alike (fun r r' => r'.1 = r.1 ∧ Drawn r.2 r'.2
        ∧ (∀ c, Camera.SameFace (r.2.cameras c) (r'.2.cameras c))
        ∧ r'.2.obstacles = r.2.obstacles)
      (e.placeObstacles placed) (e'.placeObstacles placed) := by
  refine (Alike.foldlM (fun done (r r' : List Body × Env cfg G V) => r'.1 = r.1 ∧ Drawn r.2 r'.2
    ∧ (∀ c, Camera.SameFace (r.2.cameras c) (r'.2.cameras c))
    ∧ ∀ o ∈ done, r'.2.obstacles o = r.2.obstacles o)
    (List.finRange cfg.numObstacles) (s := (placed, e)) (t := (placed, e'))
    ⟨rfl, h, hcameras, fun _ ho => absurd ho List.not_mem_nil⟩ ?_).mono
    (fun r r' hr => ⟨hr.1, hr.2.1, hr.2.2.1,
      funext (fun o => hr.2.2.2 o (List.mem_finRange o))⟩)
  rintro done o ⟨placed, s⟩ ⟨placed', s'⟩ ⟨hplaced, hs, hcameras, hdone⟩
  obtain rfl : placed' = placed := hplaced
  dsimp only at hs hcameras hdone ⊢
  -- one obstacle: the same draws from generators in the same state
  have hretry := retry_alike
    (S := fun e e' : Obstacle G × G => Obstacle.SameSeed e.1 e'.1 ∧ e'.2 = e.2)
    (T := fun e e' : Obstacle G × G => e' = e) (f := fun e => .ok (e.1.reset e.2))
    (fun e => e.1.body)
    (fun e e' he => by rw [he.2, Obstacle.reset_congr he.1]; exact Alike.pure rfl)
    (fun e e' he => by subst he; exact ⟨⟨⟨rfl, rfl, rfl, rfl⟩, rfl⟩, rfl⟩) (minDistance cfg) placed'
    499 (s.obstacles o, s.radiusRng) (s'.obstacles o, s'.radiusRng) ⟨hs.obstacles o, hs.radiusRng⟩
  refine hretry.bind ?_
  rintro ⟨⟨obstacle, radiusRng⟩, found⟩ r' ⟨hobstacle, hfound⟩
  obtain rfl : r' = ((obstacle, radiusRng), found) := Prod.ext hobstacle hfound
  refine Alike.pure ⟨rfl, ?_, hcameras, ?_⟩
  · refine { hs with obstacles := fun o' => ?_, radiusRng := rfl }
    by_cases heq : o' = o
    · subst heq
      simp only [Function.update_self]
      exact ⟨rfl, rfl, rfl, rfl⟩
    · simpa [Function.update_of_ne heq] using hs.obstacles o'
  · intro o' ho'
    by_cases heq : o' = o
    · subst heq
      simp only [Function.update_self]
    · have hold : o' ∈ done := by simpa [heq] using ho'
      simpa [Function.update_of_ne heq] using hdone o' hold

theorem placeTargets_alike {e e' : Env cfg G V} (h : Drawn e e')
    (hcameras : ∀ c, Camera.SameFace (e.cameras c) (e'.cameras c))
    (hobstacles : e'.obstacles = e.obstacles) (placed : List Body) :
    Alike (fun r r' => r'.1 = r.1 ∧ Drawn r.2 r'.2
        ∧ (∀ c, Camera.SameFace (r.2.cameras c) (r'.2.cameras c))
        ∧ r'.2.obstacles = r.2.obstacles ∧ r'.2.targets = r.2.targets)
      (e.placeTargets placed) (e'.placeTargets placed) := by
  refine (Alike.foldlM (fun done (r r' : List Body × Env cfg G V) => r'.1 = r.1 ∧ Drawn r.2 r'.2
    ∧ (∀ c, Camera.SameFace (r.2.cameras c) (r'.2.cameras c)) ∧ r'.2.obstacles = r.2.obstacles
    ∧ ∀ t ∈ done, r'.2.targets t = r.2.targets t)
    (List.finRange cfg.numTargets) (s := (placed, { e with cargo := e.cargo.resetBits }))
    (t := (placed, { e' with cargo := e'.cargo.resetBits }))
    ⟨rfl, { h with }, hcameras, hobstacles, fun _ ht => absurd ht List.not_mem_nil⟩ ?_).mono
    (fun r r' hr => ⟨hr.1, hr.2.1, hr.2.2.1, hr.2.2.2.1,
      funext (fun t => hr.2.2.2.2 t (List.mem_finRange t))⟩)
  rintro done t ⟨placed, s⟩ ⟨placed', s'⟩ ⟨hplaced, hs, hcameras, hobstacles, hdone⟩
  obtain rfl : placed' = placed := hplaced
  dsimp only at hs hcameras hobstacles hdone ⊢
  -- one target: the same draws from generators in the same state
  have hretry := retry_alike
    (S := Target.SameSeed) (T := fun e e' : Target cfg.target G => e' = e)
    (f := fun e => .ok e.reset) Target.body
    (fun e e' he => by rw [Target.reset_congr he]; exact Alike.pure rfl)
    (fun e e' he => by subst he; exact ⟨⟨rfl, rfl, rfl, rfl⟩, rfl⟩) 0 placed' 499 (s.targets t)
    (s'.targets t) (hs.targets t)
  refine hretry.bind ?_
  rintro ⟨target, found⟩ r' ⟨htarget, hfound⟩
  obtain rfl : r' = (target, found) := Prod.ext htarget hfound
  refine Alike.pure ⟨rfl, ?_, hcameras, hobstacles, ?_⟩
  · refine { hs with targets := fun t' => ?_ }
    by_cases heq : t' = t
    · subst heq
      simp only [Function.update_self]
      exact ⟨rfl, rfl, rfl, rfl⟩
    · simpa [Function.update_of_ne heq] using hs.targets t'
  · intro t' ht'
    by_cases heq : t' = t
    · subst heq
      simp only [Function.update_self]
    · have hold : t' ∈ done := by simpa [heq] using ht'
      simpa [Function.update_of_ne heq] using hdone t' hold

theorem placeEntities_alike {e e' : Env cfg G V} (h : Drawn e e') :
    Alike (fun p p' => Drawn p p' ∧ (∀ c, Camera.SameFace (p.cameras c) (p'.cameras c))
        ∧ p'.obstacles = p.obstacles ∧ p'.targets = p.targets)
      e.placeEntities e'.placeEntities := by
  refine (placeCameras_alike h _).bind ?_
  rintro ⟨placed, p⟩ ⟨placed', p'⟩ ⟨hplaced, hp, hcameras⟩
  obtain rfl : placed' = placed := hplaced
  refine (placeObstacles_alike hp hcameras _).bind ?_
  rintro ⟨placed, q⟩ ⟨placed', q'⟩ ⟨hplaced, hq, hcameras, hobstacles⟩
  obtain rfl : placed' = placed := hplaced
  refine (placeTargets_alike hq hcameras hobstacles _).bind (fun r r' hr => Alike.pure ?_)
  exact ⟨hr.2.1, hr.2.2.1, hr.2.2.2.1, hr.2.2.2.2⟩

/-! ### After the views -/

/-- `p'` is `p` in what `reset` has written before it draws the cargoes. -/
structure SamePlaces (p p' : Env cfg G V) : Prop where
  rng : p'.rng = p.rng
  radiusRng : p'.radiusRng = p.radiusRng
  cameras : p'.cameras = p.cameras
  targets : p'.targets = p.targets
  obstacles : p'.obstacles = p.obstacles
  cameraOrder : p'.cameraOrder = p.cameraOrder
  targetOrder : p'.targetOrder = p.targetOrder
  obstacleOrder : p'.obstacleOrder = p.obstacleOrder
  cameraTargetViewMask : p'.cameraTargetViewMask = p.cameraTargetViewMask
  targetCameraViewMask : p'.targetCameraViewMask = p.targetCameraViewMask
  cameraObstacleViewMask : p'.cameraObstacleViewMask = p.cameraObstacleViewMask
  targetObstacleViewMask : p'.targetObstacleViewMask = p.targetObstacleViewMask
  cameraCameraViewMask : p'.cameraCameraViewMask = p.cameraCameraViewMask
  targetTargetViewMask : p'.targetTargetViewMask = p.targetTargetViewMask
  trackedBits : p'.trackedBits = p.trackedBits
  obstacleStatesFlagged : p'.obstacleStatesFlagged = p.obstacleStatesFlagged
  cameraObstacleObservations : p'.cameraObstacleObservations = p.cameraObstacleObservations
  targetCapacities : p'.cargo.targetCapacities = p.cargo.targetCapacities
  goalBits : p'.cargo.goalBits = p.cargo.goalBits
  emptyBits : p'.cargo.emptyBits = p.cargo.emptyBits

variable [SetOrder]

omit [RandomState G] in
theorem registerObstacles_congr {e e' : Env cfg G V}
    (hcameras : ∀ c, Camera.SameFace (e.cameras c) (e'.cameras c))
    (hobstacles : e'.obstacles = e.obstacles) :
    e'.registerObstacles.1 = e.registerObstacles.1
      ∧ e'.registerObstacles.2.cameras = e.registerObstacles.2.cameras := by
  have hall : ∀ c, (e'.cameras c).clearObstacles.addObstacles (List.ofFn e'.obstacles)
      = (e.cameras c).clearObstacles.addObstacles (List.ofFn e.obstacles) := by
    intro c
    rw [hobstacles]
    exact Camera.addObstacles_congr (hcameras c) _
  refine ⟨?_, funext hall⟩
  unfold registerObstacles
  dsimp only
  rw [hobstacles] at hall ⊢
  simp only [hall]

theorem resetEntities_alike {e e' : Env cfg G V} (h : e'.build = e.build) (seed : ℕ) :
    Alike (fun r r' => r'.1 = r.1 ∧ SamePlaces r.2 r'.2) (e.resetEntities (some seed))
      (e'.resetEntities (some seed)) := by
  obtain ⟨hdrawn, hcapacities⟩ := (reseed_seeded h seed).shuffle.drawCapacities
  refine ((placeEntities_alike hdrawn).and_ensures (placeEntities_ensures _)
    (placeEntities_ensures _)).bind ?_
  rintro p p' ⟨⟨hp, hcameras, hobstacles, htargets⟩, hcargo, hcargo'⟩
  obtain ⟨hreg, hsame⟩ := registerObstacles_congr hcameras hobstacles
  set q := p.registerObstacles.2.observeObstacles with hq
  set q' := p'.registerObstacles.2.observeObstacles with hq'
  have hqcameras : q'.cameras = q.cameras := hsame
  have hqtargets : q'.targets = q.targets := htargets
  have hqobstacles : q'.obstacles = q.obstacles := hobstacles
  -- with the same cameras and obstacles, all that is computed from them is the same
  have hmask : q'.cameraObstacleViewMask = q.cameraObstacleViewMask := by
    funext c o
    show decide ((o : ℕ) ∈ (q'.cameras c).obstacles) = decide ((o : ℕ) ∈ (q.cameras c).obstacles)
    rw [hqcameras]
  have hflagged : q'.obstacleStatesFlagged = q.obstacleStatesFlagged := by
    funext o
    show flagged (q'.obstacles o).state = flagged (q.obstacles o).state
    rw [hqobstacles]
  show Alike _ (q.updateView >>= fun e => Except.ok (p.registerObstacles.1, e))
    (q'.updateView >>= fun e => Except.ok (p'.registerObstacles.1, e))
  rw [updateView_eq, updateView_eq, hqcameras, hqtargets, hqobstacles]
  cases sight q.cameras q.targets q.obstacles with
  | error err => exact rfl
  | ok v =>
      refine ⟨hreg, ?_⟩
      exact
        { rng := hp.rng
          radiusRng := hp.radiusRng
          cameras := rfl
          targets := htargets
          obstacles := hobstacles
          cameraOrder := hp.cameraOrder
          targetOrder := hp.targetOrder
          obstacleOrder := hp.obstacleOrder
          cameraTargetViewMask := rfl
          targetCameraViewMask := rfl
          cameraObstacleViewMask := hmask
          targetObstacleViewMask := rfl
          cameraCameraViewMask := rfl
          targetTargetViewMask := rfl
          trackedBits := rfl
          obstacleStatesFlagged := hflagged
          cameraObstacleObservations := by
            funext c o
            show whereMask (q'.cameraObstacleViewMask c o) (q'.obstacleStatesFlagged o)
              = whereMask (q.cameraObstacleViewMask c o) (q.obstacleStatesFlagged o)
            rw [hmask, hflagged]
          targetCapacities := by
            show p'.cargo.targetCapacities = p.cargo.targetCapacities
            rw [hcargo, hcargo']
            exact hcapacities
          goalBits := by
            show p'.cargo.goalBits = p.cargo.goalBits
            rw [hcargo, hcargo']
            rfl
          emptyBits := by
            show p'.cargo.emptyBits = p.cargo.emptyBits
            rw [hcargo, hcargo']
            rfl }

/-! ### The same environment at another place -/

/-- Everything but the places of the objects that messages and infos refer to. -/
structure SameButHeap (e e' : Env cfg G V) : Prop where
  eq : e' = { e with mail := { e.mail with
    memory := e'.mail.memory
    lists := e'.mail.lists
    nextList := e'.mail.nextList } }

/-- `e` with what `reset` writes last taken from `old`. -/
def withRest (old e : Env cfg G V) : Env cfg G V :=
  { e with
    coverageRate := old.coverageRate
    realCoverageRate := old.realCoverageRate
    meanTransportRate := old.meanTransportRate
    episodeStep := old.episodeStep
    mail := old.mail }

omit [SetOrder] in
/-- The targets turn to their goals, whatever the rest of the environment is. -/
theorem orientTargets_withRest (old e : Env cfg G V) (orientations : Fin cfg.numTargets → ℝ) :
    (withRest old { e with targetOrientations := orientations }).orientTargets
      = withRest old e.orientTargets := by
  unfold orientTargets
  show List.foldl _ (withRest old { e with targetOrientations := fun _ => 0 }) _ = _
  refine List.foldl_hom (withRest old) ?_
  intro e t
  have hgoals : (withRest old e).cargo.targetGoals t = e.cargo.targetGoals t := rfl
  dsimp only
  rw [hgoals]
  cases e.cargo.targetGoals t <;> rfl

omit [RandomState G] [SetOrder] in
theorem SamePlaces.withStock_eq {p p' : Env cfg G V} (h : SamePlaces p p')
    (s : Ledger cfg.numTargets G) :
    p'.withStock s
      = withRest p' { p.withStock s with targetOrientations := p'.targetOrientations } := by
  unfold withStock measureDistances withRest
  rw [h.radiusRng, h.cameras, h.targets, h.obstacles, h.cameraOrder, h.targetOrder,
    h.obstacleOrder, h.cameraTargetViewMask, h.targetCameraViewMask, h.cameraObstacleViewMask,
    h.targetObstacleViewMask, h.cameraCameraViewMask, h.targetTargetViewMask, h.trackedBits,
    h.obstacleStatesFlagged, h.cameraObstacleObservations]

omit [SetOrder] in
theorem SamePlaces.finishReset {p p' : Env cfg G V} (h : SamePlaces p p')
    (s : Ledger cfg.numTargets G) :
    (p'.withStock s).finishReset.1 = (p.withStock s).finishReset.1
      ∧ SameButHeap (p.withStock s).finishReset.2 (p'.withStock s).finishReset.2 := by
  unfold Env.finishReset
  rw [h.withStock_eq s, orientTargets_withRest]
  exact ⟨rfl, ⟨rfl⟩⟩

/-- Two environments that cannot be told apart, with no message waiting. -/
structure Twin (e e' : Env cfg G V) : Prop where
  same : SameButHeap e e'
  empty : ∀ team i, e.mail.buffer team i = none

/-- **Two resets with one seed.** -/
theorem reset_alike {e e' : Env cfg G V} (h : e'.build = e.build) (fuel seed : ℕ) :
    Alike (fun r r' => r'.1 = r.1 ∧ r'.2.1 = r.2.1 ∧ Twin r.2.2 r'.2.2)
      (e.reset fuel (some seed)) (e'.reset fuel (some seed)) := by
  refine (resetEntities_alike h seed).bind ?_
  rintro ⟨reg, p⟩ ⟨reg', p'⟩ ⟨hreg, hp⟩
  have hinside : p'.inside = p.inside := by
    funext t w
    unfold inside
    rw [show p'.targets = p.targets from hp.targets]
  show Alike _ (p.cargo.reset cfg fuel p.inside p.trackedBits p.rng >>= _)
    (p'.cargo.reset cfg fuel p'.inside p'.trackedBits p'.rng >>= _)
  rw [Cargo.reset_congr hp.targetCapacities hp.goalBits hp.emptyBits, hinside,
    show p'.trackedBits = p.trackedBits from hp.trackedBits, show p'.rng = p.rng from hp.rng]
  refine Alike.bind (Alike.of_eq (fun _ => rfl) rfl) ?_
  rintro s _ rfl
  obtain ⟨hobservations, hsame⟩ := hp.finishReset s
  exact Alike.pure ⟨hobservations, hreg, hsame, fun _ _ => rfl⟩

/-! ### Two steps -/

theorem simulate_withMail (reg : Registry) (e : Env cfg G V) (mail : Mail cfg V)
    (cameraJointAction : Fin cfg.numCameras → ℝ × ℝ) (targetJointAction : Fin cfg.numTargets → ℂ) :
    ({ e with mail } : Env cfg G V).simulate reg cameraJointAction targetJointAction
      = (e.simulate reg cameraJointAction targetJointAction).map (fun e => { e with mail }) := by
  unfold simulate
  rw [updateView_eq, updateView_eq]
  dsimp only
  cases sight (fun c => (e.cameras c).simulate (cameraJointAction c))
    (fun t => (e.targets t).simulate reg (targetJointAction t)) e.obstacles <;> rfl

end Env

/-! ### The lists of messages when nobody has sent any -/

namespace Mail

variable {cfg : Config} {V : Type}

/-- Every list that a buffer refers to is empty. -/
def Quiet (mail : Mail cfg V) : Prop :=
  ∀ team i list, mail.buffer team i = some list → list < mail.nextList ∧ mail.lists list = []

/-- `mail'` has kept the empty lists of `mail`. -/
def Keeps (mail mail' : Mail cfg V) : Prop :=
  mail.nextList ≤ mail'.nextList
    ∧ ∀ list, list < mail.nextList → mail.lists list = [] → mail'.lists list = []

theorem Keeps.trans {mail mail' mail'' : Mail cfg V} (h : Keeps mail mail')
    (h' : Keeps mail' mail'') : Keeps mail mail'' :=
  ⟨h.1.trans h'.1, fun list hlist hempty => h'.2 list (by have := h.1; omega) (h.2 list hlist hempty)⟩

theorem touchBuffer_quiet {mail : Mail cfg V} (h : mail.Quiet) (team : Team) (i : ℤ) :
    (mail.touchBuffer team i).2.Quiet ∧ Keeps mail (mail.touchBuffer team i).2
      ∧ (mail.touchBuffer team i).1 < (mail.touchBuffer team i).2.nextList
      ∧ (mail.touchBuffer team i).2.lists (mail.touchBuffer team i).1 = [] := by
  unfold touchBuffer
  split
  · rename_i list hlist
    exact ⟨h, ⟨le_refl _, fun _ _ => id⟩, h team i list hlist⟩
  · have hkeeps : ∀ list, list < mail.nextList → mail.lists list = [] →
        Function.update mail.lists mail.nextList [] list = [] := by
      intro list hlist hempty
      rw [Function.update_of_ne (by omega)]
      exact hempty
    refine ⟨?_, ⟨Nat.le_succ _, hkeeps⟩, Nat.lt_succ_self _, Function.update_self _ _ _⟩
    intro team' i' list hlist
    dsimp only at hlist ⊢
    by_cases hteam : team' = team
    · subst hteam
      rw [Function.update_self] at hlist
      by_cases hi : i' = i
      · subst hi
        rw [Function.update_self] at hlist
        cases hlist
        exact ⟨Nat.lt_succ_self _, Function.update_self _ _ _⟩
      · rw [Function.update_of_ne hi] at hlist
        obtain ⟨hlt, hempty⟩ := h team' i' list hlist
        exact ⟨by omega, hkeeps list hlt hempty⟩
    · rw [Function.update_of_ne hteam] at hlist
      obtain ⟨hlt, hempty⟩ := h team' i' list hlist
      exact ⟨by omega, hkeeps list hlt hempty⟩

theorem bufferLists_quiet (team : Team) :
    ∀ (agents : List ℕ) {mail : Mail cfg V}, mail.Quiet →
      (mail.bufferLists team agents).2.Quiet ∧ Keeps mail (mail.bufferLists team agents).2
        ∧ (mail.bufferLists team agents).1.length = agents.length
        ∧ ∀ list ∈ (mail.bufferLists team agents).1,
          list < (mail.bufferLists team agents).2.nextList
            ∧ (mail.bufferLists team agents).2.lists list = [] := by
  intro agents
  induction agents with
  | nil =>
      intro mail h
      exact ⟨h, ⟨le_refl _, fun _ _ => id⟩, rfl, fun list hlist => absurd hlist List.not_mem_nil⟩
  | cons agent rest ih =>
      intro mail h
      obtain ⟨hquiet, hkeeps, hlt, hempty⟩ := touchBuffer_quiet h team agent
      obtain ⟨hquiet', hkeeps', hlength, hlists⟩ := ih hquiet
      refine ⟨hquiet', hkeeps.trans hkeeps', congrArg Nat.succ hlength, ?_⟩
      intro list hlist
      rcases List.mem_cons.mp hlist with rfl | hrest
      · exact ⟨hlt.trans_le hkeeps'.1, hkeeps'.2 _ hlt hempty⟩
      · exact hlists list hrest

/-- Handing out lists touches nothing else. -/
theorem bufferLists_frame (team : Team) :
    ∀ (agents : List ℕ) (mail : Mail cfg V),
      (mail.bufferLists team agents).2.edges = mail.edges
        ∧ (mail.bufferLists team agents).2.totalEdges = mail.totalEdges := by
  intro agents
  induction agents with
  | nil => exact fun mail => ⟨rfl, rfl⟩
  | cons agent rest ih =>
      intro mail
      obtain ⟨hedges, htotal⟩ := ih (mail.touchBuffer team agent).2
      have htouch : (mail.touchBuffer team agent).2.edges = mail.edges
          ∧ (mail.touchBuffer team agent).2.totalEdges = mail.totalEdges := by
        unfold touchBuffer
        split <;> exact ⟨rfl, rfl⟩
      exact ⟨hedges.trans htouch.1, htotal.trans htouch.2⟩

/-- What a step hands out: the lists of both teams, and the stores it goes on with. -/
theorem handOut_quiet {mail : Mail cfg V} (h : mail.Quiet) :
    (∀ c : Fin cfg.numCameras,
      ((mail.bufferLists .camera (List.range cfg.numCameras)).2.bufferLists .target
        (List.range cfg.numTargets)).2.lists
          ((mail.bufferLists .camera (List.range cfg.numCameras)).1.getD c 0) = [])
      ∧ ∀ t : Fin cfg.numTargets,
        ((mail.bufferLists .camera (List.range cfg.numCameras)).2.bufferLists .target
          (List.range cfg.numTargets)).2.lists
            (((mail.bufferLists .camera (List.range cfg.numCameras)).2.bufferLists .target
              (List.range cfg.numTargets)).1.getD t 0) = [] := by
  obtain ⟨hquiet, -, hlength, hlists⟩ := bufferLists_quiet .camera (List.range cfg.numCameras) h
  obtain ⟨-, hkeeps, hlength', hlists'⟩ :=
    bufferLists_quiet .target (List.range cfg.numTargets) hquiet
  rw [List.length_range] at hlength hlength'
  constructor
  · intro c
    have hc : (c : ℕ) < (mail.bufferLists .camera (List.range cfg.numCameras)).1.length := by
      rw [hlength]
      exact c.isLt
    rw [List.getD_eq_getElem _ _ hc]
    obtain ⟨hlt, hempty⟩ := hlists _ (List.getElem_mem hc)
    exact hkeeps.2 _ hlt hempty
  · intro t
    rw [List.getD_eq_getElem _ _ (by rw [hlength']; exact t.isLt)]
    exact (hlists' _ (List.getElem_mem _)).2

/-- The end of a step leaves the same stores, but for what has been written before. -/
theorem endStep_eq {mail mail' : Mail cfg V} (hedges : mail'.edges = mail.edges)
    (htotal : mail'.totalEdges = mail.totalEdges) :
    mail'.endStep = { mail.endStep with
      memory := mail'.endStep.memory
      lists := mail'.endStep.lists
      nextList := mail'.endStep.nextList } := by
  unfold endStep clearQueues clearBuffers clearEdges
  rw [hedges, htotal]

/-- The stores after the lists of both teams have been handed out. -/
def handedOut (mail : Mail cfg V) : Mail cfg V :=
  ((mail.bufferLists .camera (List.range cfg.numCameras)).2.bufferLists .target
    (List.range cfg.numTargets)).2

theorem handedOut_edges (mail : Mail cfg V) : mail.handedOut.edges = mail.edges
    ∧ mail.handedOut.totalEdges = mail.totalEdges := by
  have hcameras := bufferLists_frame .camera (List.range cfg.numCameras) mail
  have htargets := bufferLists_frame .target (List.range cfg.numTargets)
    (mail.bufferLists .camera (List.range cfg.numCameras)).2
  exact ⟨htargets.1.trans hcameras.1, htargets.2.trans hcameras.2⟩

end Mail

/-! ### What a caller sees -/

/-- The same info, with the same messages in its list. -/
def SameInfo (lists lists' : ℕ → List Message) (i i' : Info) : Prop :=
  i' = { i with messages := i'.messages } ∧ lists' i'.messages = lists i.messages

/-- The same result of a step, where the lists of messages are found in `lists` and `lists'`. -/
structure SameResult {cfg : Config} (lists lists' : ℕ → List Message) (r r' : StepResult cfg) :
    Prop where
  observations : r'.observations = r.observations
  cameraTeamReward : r'.cameraTeamReward = r.cameraTeamReward
  targetTeamReward : r'.targetTeamReward = r.targetTeamReward
  done : r'.done = r.done
  cameraInfos : ∀ c, SameInfo lists lists' (r.cameraInfos c) (r'.cameraInfos c)
  targetInfos : ∀ t, SameInfo lists lists' (r.targetInfos t) (r'.targetInfos t)

namespace Env

variable {cfg : Config} {G V : Type} [RandomState G]

omit [RandomState G] in
/-- An info is made from the edges of the messages, and the number of its list. -/
theorem info_withMail (e : Env cfg G V) {mail' : Mail cfg V} (hedges : mail'.edges = e.mail.edges)
    (team : Team) (i : Fin (cfg.teamSize team)) (list list' : ℕ) (raw : ℤ) :
    ({ e with mail := mail' } : Env cfg G V).info team i list' raw
      = { e.info team i list raw with messages := list' } := by
  unfold info
  rw [hedges]

omit [RandomState G] in
/-- The environment after a step that began with other stores. -/
theorem finishStep_withMail (e : Env cfg G V) (mail' : Mail cfg V) (reward delayedReward : ℤ) :
    (({ e with mail := mail' } : Env cfg G V).finishStep reward delayedReward).2
      = { e.updateRates.countSteps with
        mail := mail'.handedOut.endStep } := rfl

omit [RandomState G] in
theorem finishStep_alike (e : Env cfg G V) (mail' : Mail cfg V) (hquiet : e.mail.Quiet)
    (hquiet' : mail'.Quiet) (hedges : mail'.edges = e.mail.edges)
    (htotal : mail'.totalEdges = e.mail.totalEdges) (reward delayedReward : ℤ) :
    SameResult (e.finishStep reward delayedReward).2.mail.lists
        (({ e with mail := mail' } : Env cfg G V).finishStep reward delayedReward).2.mail.lists
        (e.finishStep reward delayedReward).1
        (({ e with mail := mail' } : Env cfg G V).finishStep reward delayedReward).1
      ∧ Twin (e.finishStep reward delayedReward).2
        (({ e with mail := mail' } : Env cfg G V).finishStep reward delayedReward).2 := by
  obtain ⟨hcamera, htarget⟩ := Mail.handOut_quiet hquiet
  obtain ⟨hcamera', htarget'⟩ := Mail.handOut_quiet hquiet'
  have hinfo := fun team i list list' raw =>
    e.updateRates.countSteps.info_withMail hedges team i list list' raw
  refine ⟨⟨rfl, rfl, rfl, rfl, fun c => ⟨hinfo .camera c _ _ _, ?_⟩,
    fun t => ⟨hinfo .target t _ _ _, ?_⟩⟩, ⟨⟨?_⟩, fun _ _ => rfl⟩⟩
  · exact (hcamera' c).trans (hcamera c).symm
  · exact (htarget' t).trans (htarget t).symm
  · have hend : mail'.handedOut.endStep = { e.mail.handedOut.endStep with
        memory := mail'.handedOut.endStep.memory
        lists := mail'.handedOut.endStep.lists
        nextList := mail'.handedOut.endStep.nextList } := by
      refine Mail.endStep_eq ?_ ?_
      · rw [mail'.handedOut_edges.1, e.mail.handedOut_edges.1, hedges]
      · rw [mail'.handedOut_edges.2, e.mail.handedOut_edges.2, htotal]
    have hfirst := e.finishStep_withMail e.mail reward delayedReward
    have hsecond := e.finishStep_withMail mail' reward delayedReward
    rw [hsecond, hfirst]
    exact congrArg (fun mail => ({ e.updateRates.countSteps with mail } : Env cfg G V)) hend

variable [SetOrder]

/-- **Two steps with the same actions.** -/
theorem step_alike {e e' : Env cfg G V} (h : Twin e e') (reg : Registry)
    (cameraJointAction : Fin cfg.numCameras → ℝ × ℝ) (targetJointAction : Fin cfg.numTargets → ℂ) :
    Alike (fun r r' => SameResult r.2.mail.lists r'.2.mail.lists r.1 r'.1 ∧ Twin r.2 r'.2)
      (e.step reg cameraJointAction targetJointAction)
      (e'.step reg cameraJointAction targetJointAction) := by
  obtain ⟨mail', hbuffer, hedges, htotal, rfl⟩ : ∃ mail' : Mail cfg V,
      mail'.buffer = e.mail.buffer ∧ mail'.edges = e.mail.edges
        ∧ mail'.totalEdges = e.mail.totalEdges ∧ e' = { e with mail := mail' } :=
    ⟨{ e.mail with memory := e'.mail.memory, lists := e'.mail.lists, nextList := e'.mail.nextList },
      rfl, rfl, rfl, h.same.eq⟩
  unfold step
  rw [simulate_withMail reg e mail']
  cases hseen : e.simulate reg cameraJointAction targetJointAction with
  | error err => exact rfl
  | ok seen =>
      have hmail : seen.mail = e.mail := (simulate_ensures _ _ _ _ seen hseen).mail
      show Alike _ (seen.cargo.assignGoals cfg seen.inside seen.trackedBits seen.rng >>= _)
        (seen.cargo.assignGoals cfg seen.inside seen.trackedBits seen.rng >>= _)
      refine Alike.bind (Alike.of_eq (fun _ => rfl) rfl) ?_
      rintro s _ rfl
      have hquiet : ∀ mail : Mail cfg V, mail.buffer = e.mail.buffer → mail.Quiet := by
        intro mail hmail team i list hlist
        rw [hmail, h.empty] at hlist
        cases hlist
      have hseen' : (seen.withGoals s).mail = e.mail := hmail
      exact finishStep_alike (seen.withGoals s) mail' (hquiet _ (by rw [hseen']))
        (hquiet mail' hbuffer) (by rw [hseen', hedges]) (by rw [hseen', htotal]) _ _

end Env

/-! ## Histories -/

namespace MultiAgentTracking

variable {cfg : Config} {G V : Type} [RandomState G] [SetOrder]

/-- No call changes what an environment is built from. -/
theorem Does.build {e e' : MultiAgentTracking cfg G V} {method : Method cfg V}
    (h : Does e method e') : e'.toEnv.build = e.toEnv.build := by
  cases h with
  | reset h =>
      obtain ⟨⟨observations, reg, env⟩, hreset, h⟩ := bind_eq_ok.mp h
      cases h
      exact Env.reset_build hreset
  | call h => exact h.build
  | state =>
      unfold MultiAgentTracking.state
      split <;> rfl

theorem run_build {start e : MultiAgentTracking cfg G V} {history : List (Method cfg V)}
    (h : Run Does start history e) : e.toEnv.build = start.toEnv.build :=
  h.invariant (fun e => e.toEnv.build = start.toEnv.build) rfl
    (fun _ _ _ hbuild hdoes => hdoes.build.trans hbuild)

/-- The same to a caller, with nothing kept by `state`. -/
structure Same (e e' : MultiAgentTracking cfg G V) : Prop where
  env : Env.Twin e.toEnv e'.toEnv
  cached : e.cachedState = none
  cached' : e'.cachedState = none

/-- What is given to `step`, with the class attributes of `Target` that it finds. -/
structure Actions (cfg : Config) where
  reg : Registry
  camera : Fin cfg.numCameras → ℝ × ℝ
  target : Fin cfg.numTargets → ℂ

/-- The same results, step after step, and the same error if one is raised. -/
def SameFuture : List (Actions cfg) → MultiAgentTracking cfg G V → MultiAgentTracking cfg G V → Prop
  | [], e, e' => Same e e'
  | a :: rest, e, e' =>
      Same e e' ∧ Alike (fun r r' => SameResult r.2.mail.lists r'.2.mail.lists r.1 r'.1
        ∧ SameFuture rest r.2 r'.2) (e.step a.reg a.camera a.target) (e'.step a.reg a.camera a.target)

theorem Same.future (actions : List (Actions cfg)) :
    ∀ {e e' : MultiAgentTracking cfg G V}, Same e e' → SameFuture actions e e' := by
  induction actions with
  | nil => exact fun h => h
  | cons a rest ih =>
      intro e e' h
      refine ⟨h, (Env.step_alike h.env a.reg a.camera a.target).bind (fun r r' hr => ?_)⟩
      exact ⟨hr.1, ih ⟨hr.2, rfl, rfl⟩⟩

/-- **A seeded reset erases history.** After any two histories of one instance, a reset with a
seed returns the same observations, leaves the same class attributes and the same environment,
and every later sequence of actions has the same results. -/
theorem reset_erases_history {start e e' : MultiAgentTracking cfg G V}
    {history history' : List (Method cfg V)} (h : Run Does start history e)
    (h' : Run Does start history' e') (fuel seed : ℕ) (actions : List (Actions cfg)) :
    Alike (fun r r' => r'.1 = r.1 ∧ r'.2.1 = r.2.1 ∧ Same r.2.2 r'.2.2
        ∧ SameFuture actions r.2.2 r'.2.2)
      (e.reset fuel (some seed)) (e'.reset fuel (some seed)) := by
  have hbuild : e'.toEnv.build = e.toEnv.build := (run_build h').trans (run_build h).symm
  refine (Env.reset_alike hbuild fuel seed).bind (fun r r' hr => ?_)
  have hsame : Same (⟨r.2.2, none⟩ : MultiAgentTracking cfg G V) ⟨r'.2.2, none⟩ := ⟨hr.2.2, rfl, rfl⟩
  exact ⟨hr.1, hr.2.1, hsame, hsame.future actions⟩

end MultiAgentTracking

open MultiAgentTracking Env in
/-- The small environment, new and after a reset without a seed. -/
theorem MultiAgentTracking.reset_erases_history_solo :
    letI := rotating
    letI := SetOrder.increasing
    ∃ (start later : MultiAgentTracking (soloConfig (0, 0) 10 (by decide)) (Fin 4) Unit)
      (history : List (Method (soloConfig (0, 0) 10 (by decide)) Unit)),
      Run Does start history later ∧ history ≠ []
        ∧ ∀ (fuel seed : ℕ) (actions : List (Actions (soloConfig (0, 0) 10 (by decide)))),
          Alike (fun r r' => r'.1 = r.1 ∧ r'.2.1 = r.2.1 ∧ Same r.2.2 r'.2.2
              ∧ SameFuture actions r.2.2 r'.2.2)
            (start.reset fuel (some seed)) (later.reset fuel (some seed)) := by
  let _ := rotating
  let _ := SetOrder.increasing
  obtain ⟨start, e, observations, -, hdoes⟩ :=
    MultiAgentTracking.exists_solo_reset (0, 0) 10 (by decide) ⟨0, fun _ => ()⟩
  refine ⟨_, _, _, Run.nil.snoc hdoes, List.cons_ne_nil _ _, fun fuel seed actions => ?_⟩
  exact reset_erases_history .nil (Run.nil.snoc hdoes) fuel seed actions

end Mate
