import Mate.Environment.Init
import Mate.Motion

set_option autoImplicit false

/-! # Where the targets of a new environment are

What holds of every target whatever its generator and its capacity, and is established by
`Target.reset`, holds of the targets after `reset` (`Env.reset_targets`). A target whose box is
a single point is always put there (`Env.reset_targets_at`).
-/

namespace Mate

open Fallible

section

variable {G : Type} [RandomState G]

theorem uniform_self (low : ℝ) (g : G) : (RandomState.uniform low low g).1 = low := by
  show low + (low - low) * _ = low
  rw [sub_self, zero_mul, add_zero]

/-- With the largest viewing angle as the smallest one, too, nothing is left to draw. -/
theorem uniform_maxViewingAngle (g : G) :
    (RandomState.uniform ((180 : ℚ) : ℝ) ((MAX_CAMERA_VIEWING_ANGLE : ℚ) : ℝ) g).1 = 180 := by
  rw [show MAX_CAMERA_VIEWING_ANGLE = 180 from rfl, uniform_self]
  norm_num

theorem resetLocation_single (z : ℚ × ℚ) (radius : ℝ) (g : G) :
    (resetLocation ⟨z, z⟩ radius g).1 = clipTerrain (12 / 10 * radius) ⟨z.1, z.2⟩ := by
  show clipTerrain _ ⟨(RandomState.uniform _ _ _).1, (RandomState.uniform _ _ _).1⟩ = _
  rw [uniform_self, uniform_self]

/-- The box of the target is the point `z`, and its capacity is one or two. -/
structure Target.Held {params : TargetConfig} (z : ℚ × ℚ) (target : Target params G) : Prop where
  range : target.locationRandomRange = ⟨z, z⟩
  le_stepSize : ((params.stepSize : ℚ) : ℝ) / 2 ≤ target.stepSize
  stepSize_le : target.stepSize ≤ ((params.stepSize : ℚ) : ℝ)

/-- The boxes of the obstacle are the point `z` and the radius `r`. -/
structure Obstacle.Held (z : ℚ × ℚ) (r : ℚ) (obstacle : Obstacle G) : Prop where
  range : obstacle.locationRandomRange = ⟨z, z⟩
  radiusRange : obstacle.radiusRandomRange = (r, r)

theorem Obstacle.Held.reset {z : ℚ × ℚ} {r : ℚ} {obstacle : Obstacle G}
    (h : obstacle.Held z r) (radiusRng : G) :
    (obstacle.reset radiusRng).1.location = clipTerrain (12 / 10 * (r : ℝ)) ⟨z.1, z.2⟩
      ∧ (obstacle.reset radiusRng).1.radius = r := by
  have hradius : (RandomState.uniform obstacle.radiusRandomRange.1 obstacle.radiusRandomRange.2
      radiusRng).1 = r := by
    rw [h.radiusRange, uniform_self]
  refine ⟨?_, hradius⟩
  show (resetLocation obstacle.locationRandomRange (RandomState.uniform _ _ _).1 _).1 = _
  rw [hradius, h.range, resetLocation_single]

end

namespace Env

variable {cfg : Config} {G V : Type} [RandomState G]

/-! ## Retrying -/

theorem retry_ensures {E : Type} {resetEntity : E → Except Error E} {I P : E → Prop}
    (hreset : ∀ e, I e → Ensures (resetEntity e) (fun e' => I e' ∧ P e')) (body : E → Body)
    (minDistance : ℝ) (placed : List Body) (k : ℕ) (e : E) (he : I e) :
    Ensures (retry resetEntity body minDistance placed (k + 1) e) (fun r => P r.1) := by
  induction k generalizing e with
  | zero =>
      refine (hreset e he).bind (fun e' he' => ?_)
      split
      · exact Ensures.pure he'.2
      · exact Ensures.pure he'.2
  | succ k ih =>
      refine (hreset e he).bind (fun e' he' => ?_)
      split
      · exact Ensures.pure he'.2
      · exact ih e' he'.1

/-- The first try succeeds, if it overlaps nothing. -/
theorem retry_first {E : Type} (resetEntity : E → Except Error E) (body : E → Body) {e e' : E}
    (hreset : resetEntity e = .ok e') {minDistance : ℝ} {placed : List Body}
    (hfree : ∀ r ∈ placed, (body e').overlap r minDistance = false) (k : ℕ) :
    retry resetEntity body minDistance placed (k + 1) e = .ok (e', true) := by
  rw [retry, hreset]
  have hall : placed.all (fun r => ! (body e').overlap r minDistance) = true :=
    List.all_eq_true.mpr (fun r hr => by rw [hfree r hr]; rfl)
  show (if placed.all _ then _ else _) = _
  rw [hall]
  rfl

/-! ## What a reset establishes of the targets -/

/-- What `reset` does to a target before it is placed preserves `Q`, and placing it keeps `Q`
and establishes `R`. -/
structure PlacesTargets (Q R : Target cfg.target G → Prop) : Prop where
  seed : ∀ target rng, Q target → Q { target with rng := rng }
  capacity : ∀ target high, Q target → Q (target.setCapacity (capacityOf high) (capacityOf_pos high))
  place : ∀ target, Q target → Q target.reset ∧ R target.reset

/-! ### Every target on its own -/

section

variable {Q R : Fin cfg.numTargets → Target cfg.target G → Prop}

theorem placeTargets_each (h : ∀ t, PlacesTargets (Q t) (R t)) (self : Env cfg G V)
    (hself : ∀ t, Q t (self.targets t)) (placed : List Body) :
    Ensures (self.placeTargets placed) (fun r => ∀ t, R t (r.2.targets t)) := by
  -- the targets placed so far have `R`, the others still have `Q`
  refine (Ensures.foldlM_rest
    (fun rest s => rest.Nodup ∧ ∀ t, if t ∈ rest then Q t (s.2.targets t) else R t (s.2.targets t))
    ?_ _ _ ⟨List.nodup_finRange _, fun t => by simpa using hself t⟩).mono
    (fun r hr t => by simpa using hr.2 t)
  rintro t rest s ⟨hnodup, hs⟩
  have hQ : Q t (s.2.targets t) := by simpa using hs t
  have hplace : ∀ e, Q t e → Ensures (.ok e.reset : Except Error (Target cfg.target G))
      (fun e' => Q t e' ∧ R t e') := fun e he => Ensures.pure ((h t).place e he)
  have hretry := retry_ensures hplace Target.body 0 s.1 499 (s.2.targets t) hQ
  refine hretry.bind (fun r hr => Ensures.pure ⟨(List.nodup_cons.mp hnodup).2, fun t' => ?_⟩)
  by_cases heq : t' = t
  · subst heq
    simpa [(List.nodup_cons.mp hnodup).1] using hr
  · simpa [Function.update_of_ne heq, heq] using hs t'

/-- Placing cameras and obstacles leaves the targets alone. -/
theorem placeEntities_each (h : ∀ t, PlacesTargets (Q t) (R t)) (self : Env cfg G V)
    (hself : ∀ t, Q t (self.targets t)) :
    Ensures self.placeEntities (fun e => ∀ t, R t (e.targets t)) := by
  have hcameras : Ensures (self.placeCameras warehouseBodies)
      (fun r => r.2.targets = self.targets) := by
    refine Ensures.foldlM _ _ rfl ?_
    rintro ⟨placed, s⟩ c - hs
    exact Ensures.andThen (fun _ => Ensures.pure hs)
  refine hcameras.bind (fun r₁ h₁ => ?_)
  have hobstacles : Ensures (r₁.2.placeObstacles r₁.1) (fun r => r.2.targets = self.targets) := by
    refine Ensures.foldlM _ _ h₁ ?_
    rintro ⟨placed, s⟩ o - hs
    exact Ensures.andThen (fun _ => Ensures.pure hs)
  refine hobstacles.bind (fun r₂ h₂ => ?_)
  refine (placeTargets_each h r₂.2 (fun t => ?_) r₂.1).bind (fun r₃ h₃ => Ensures.pure h₃)
  rw [h₂]
  exact hself t

theorem drawCapacities_each (h : ∀ t, PlacesTargets (Q t) (R t)) {self : Env cfg G V}
    (hself : ∀ t, Q t (self.targets t)) (t : Fin cfg.numTargets) :
    Q t (self.drawCapacities.targets t) := by
  simp only [drawCapacities]
  split_ifs
  · exact (h t).capacity _ _ (hself t)
  · exact (h t).capacity _ _ (hself t)
  · exact hself t

end

/-! ### All targets alike -/

variable {Q R : Target cfg.target G → Prop}

theorem placeEntities_targets (h : PlacesTargets Q R) (self : Env cfg G V)
    (hself : ∀ t, Q (self.targets t)) :
    Ensures self.placeEntities (fun e => ∀ t, R (e.targets t)) :=
  placeEntities_each (fun _ => h) self hself

theorem drawCapacities_targets (h : PlacesTargets Q R) {self : Env cfg G V}
    (hself : ∀ t, Q (self.targets t)) (t : Fin cfg.numTargets) :
    Q (self.drawCapacities.targets t) :=
  drawCapacities_each (fun _ => h) hself t

theorem shuffle_targets {self : Env cfg G V} (hself : ∀ t, Q (self.targets t))
    (t : Fin cfg.numTargets) : Q (self.shuffle.targets t) := by
  simp only [shuffle]
  split_ifs
  · exact hself _
  · exact hself t

variable [SetOrder]

/-- With a seed, the generators are seeded. -/
def reseedIfAny (seed : Option ℕ) (self : Env cfg G V) : Env cfg G V :=
  match seed with
  | some seed => self.reseed seed
  | none => self

/-- What a reset does before it places the entities. -/
noncomputable def prepare (seed : Option ℕ) (self : Env cfg G V) : Env cfg G V :=
  (self.reseedIfAny seed).restoreOrder.shuffle.drawCapacities

/-- **The entities after a reset** have been placed, and the cameras know the obstacles. -/
theorem reset_placed {fuel : ℕ} {seed : Option ℕ} {self start : Env cfg G V}
    {observations : Observations cfg} {reg : Registry}
    (hreset : self.reset fuel seed = .ok (observations, reg, start)) :
    ∃ e, (self.prepare seed).placeEntities = .ok e
      ∧ start.targets = e.targets ∧ start.obstacles = e.obstacles
      ∧ (∀ c, ∃ rng, start.cameras c
        = { (e.cameras c).clearObstacles.addObstacles (List.ofFn e.obstacles) with rng := rng })
      ∧ reg = e.registerObstacles.1 := by
  obtain ⟨placed, s, orientations, rng, hentities, -, -, hfinish⟩ := reset_eq_ok hreset
  cases hfinish
  obtain ⟨e, he, hentities⟩ := bind_eq_ok.mp hentities
  obtain ⟨seen, hseen, hentities⟩ := bind_eq_ok.mp hentities
  cases hentities
  have hlooked := updateView_ensures _ _ hseen
  exact ⟨e, he, hlooked.targets, hlooked.obstacles, fun c => ⟨_, hlooked.cameras c⟩, rfl⟩

omit [SetOrder] in
theorem prepare_targets (h : PlacesTargets Q R) (seed : Option ℕ) {self : Env cfg G V}
    (hself : ∀ t, Q (self.targets t)) (t : Fin cfg.numTargets) :
    Q ((self.prepare seed).targets t) := by
  have hseeded : ∀ t, Q ((self.reseedIfAny seed).targets t) := by
    cases seed with
    | none => exact hself
    | some seed => exact fun t => h.seed _ _ (hself t)
  have hrestored : ∀ t, Q ((self.reseedIfAny seed).restoreOrder.targets t) := fun t => hseeded _
  exact drawCapacities_targets h (shuffle_targets hrestored) t

omit [SetOrder] in
/-- Without shuffling, a target stays in its place until it is put somewhere. -/
theorem prepare_each {Q R : Fin cfg.numTargets → Target cfg.target G → Prop}
    (h : ∀ t, PlacesTargets (Q t) (R t)) (hshuffle : cfg.shuffleEntities = false)
    (seed : Option ℕ) {self : Env cfg G V} (horder : self.targetOrder = 1)
    (hself : ∀ t, Q t (self.targets t)) (t : Fin cfg.numTargets) :
    Q t ((self.prepare seed).targets t) := by
  have hseeded : ∀ t, Q t ((self.reseedIfAny seed).targets t) := by
    cases seed with
    | none => exact hself
    | some seed => exact fun t => (h t).seed _ _ (hself t)
  have hordered : (self.reseedIfAny seed).targetOrder = 1 := by
    cases seed with
    | none => exact horder
    | some seed => exact horder
  have hrestored : ∀ t, Q t ((self.reseedIfAny seed).restoreOrder.targets t) := by
    intro t
    show Q t ((self.reseedIfAny seed).targets ((self.reseedIfAny seed).targetOrder.symm t))
    rw [hordered]
    exact hseeded t
  have hkept : (self.reseedIfAny seed).restoreOrder.shuffle
      = (self.reseedIfAny seed).restoreOrder := by
    rw [shuffle, hshuffle]
    rfl
  unfold prepare
  rw [hkept]
  exact drawCapacities_each h hrestored t

/-- **The targets after a reset.** -/
theorem reset_targets (h : PlacesTargets Q R) {fuel : ℕ} {seed : Option ℕ}
    {self start : Env cfg G V} {observations : Observations cfg} {reg : Registry}
    (hself : ∀ t, Q (self.targets t))
    (hreset : self.reset fuel seed = .ok (observations, reg, start)) (t : Fin cfg.numTargets) :
    R (start.targets t) := by
  obtain ⟨e, he, htargets, -⟩ := reset_placed hreset
  rw [htargets]
  exact placeEntities_targets h _ (prepare_targets h seed hself) e he t

/-- **The discs that a reset registers** are those of the obstacles and the cameras, where they
have been placed. -/
theorem reset_registry {fuel : ℕ} {seed : Option ℕ} {self start : Env cfg G V}
    {observations : Observations cfg} {reg : Registry}
    (hreset : self.reset fuel seed = .ok (observations, reg, start)) :
    reg = Registry.empty.addObstacles
      (List.ofFn (fun o => (start.obstacles o).disc) ++ List.ofFn (fun c => (start.cameras c).disc)) := by
  obtain ⟨e, -, -, hobstacles, hcameras, rfl⟩ := reset_placed hreset
  have hdiscs : ∀ c, (start.cameras c).disc = (e.registerObstacles.2.cameras c).disc := by
    intro c
    obtain ⟨rng, hcamera⟩ := hcameras c
    rw [hcamera]
    rfl
  show Registry.empty.addObstacles ((List.ofFn e.obstacles).map Obstacle.disc
      ++ List.ofFn (fun c => (e.registerObstacles.2.cameras c).disc))
    = Registry.empty.addObstacles (List.ofFn (fun o => (start.obstacles o).disc)
      ++ List.ofFn (fun c => (start.cameras c).disc))
  rw [List.map_ofFn, hobstacles]
  simp only [hdiscs]
  rfl

/-! ## What a reset establishes of the cameras -/

/-- What `reset` does to a camera before it is placed preserves `Q`, and placing it keeps `Q`
and establishes `R`. -/
structure PlacesCameras (Q R : Camera cfg.cameraParams G → Prop) : Prop where
  seed : ∀ camera rng, Q camera → Q { camera with rng := rng }
  place : ∀ camera, Q camera → Ensures camera.reset (fun camera' => Q camera' ∧ R camera')

section

variable {Q R : Camera cfg.cameraParams G → Prop}

omit [SetOrder] in
theorem placeCameras_cameras (h : PlacesCameras Q R) (self : Env cfg G V)
    (hself : ∀ c, Q (self.cameras c)) (placed : List Body) :
    Ensures (self.placeCameras placed) (fun r => ∀ c, R (r.2.cameras c)) := by
  -- the cameras placed so far have `R`, the others still have `Q`
  refine (Ensures.foldlM_rest
    (fun rest s => rest.Nodup ∧ ∀ c, if c ∈ rest then Q (s.2.cameras c) else R (s.2.cameras c))
    ?_ _ _ ⟨List.nodup_finRange _, fun c => by simpa using hself c⟩).mono
    (fun r hr c => by simpa using hr.2 c)
  rintro c rest s ⟨hnodup, hs⟩
  have hQ : Q (s.2.cameras c) := by simpa using hs c
  have hretry := retry_ensures h.place Camera.body (minDistance cfg) s.1 499 (s.2.cameras c) hQ
  refine hretry.bind (fun r hr => Ensures.pure ⟨(List.nodup_cons.mp hnodup).2, fun c' => ?_⟩)
  by_cases heq : c' = c
  · subst heq
    simpa [(List.nodup_cons.mp hnodup).1] using hr
  · simpa [Function.update_of_ne heq, heq] using hs c'

omit [SetOrder] in
/-- Placing obstacles and targets leaves the cameras alone. -/
theorem placeEntities_cameras (h : PlacesCameras Q R) (self : Env cfg G V)
    (hself : ∀ c, Q (self.cameras c)) :
    Ensures self.placeEntities (fun e => ∀ c, R (e.cameras c)) := by
  refine (placeCameras_cameras h self hself warehouseBodies).bind (fun r₁ h₁ => ?_)
  have hobstacles : Ensures (r₁.2.placeObstacles r₁.1) (fun r => ∀ c, R (r.2.cameras c)) := by
    refine Ensures.foldlM _ _ h₁ ?_
    rintro ⟨placed, s⟩ o - hs
    exact Ensures.andThen (fun _ => Ensures.pure hs)
  refine hobstacles.bind (fun r₂ h₂ => ?_)
  have htargets : Ensures (r₂.2.placeTargets r₂.1) (fun r => ∀ c, R (r.2.cameras c)) := by
    refine Ensures.foldlM _ _ h₂ ?_
    rintro ⟨placed, s⟩ t - hs
    exact Ensures.andThen (fun _ => Ensures.pure hs)
  exact htargets.bind (fun r₃ h₃ => Ensures.pure h₃)

omit [SetOrder] in
theorem shuffle_cameras {self : Env cfg G V} (hself : ∀ c, Q (self.cameras c))
    (c : Fin cfg.numCameras) : Q (self.shuffle.cameras c) := by
  simp only [shuffle]
  split_ifs
  · exact hself _
  · exact hself c

omit [SetOrder] in
theorem prepare_cameras (h : PlacesCameras Q R) (seed : Option ℕ) {self : Env cfg G V}
    (hself : ∀ c, Q (self.cameras c)) (c : Fin cfg.numCameras) :
    Q ((self.prepare seed).cameras c) := by
  have hseeded : ∀ c, Q ((self.reseedIfAny seed).cameras c) := by
    cases seed with
    | none => exact hself
    | some seed => exact fun c => h.seed _ _ (hself c)
  have hrestored : ∀ c, Q ((self.reseedIfAny seed).restoreOrder.cameras c) := fun c => hseeded _
  simp only [prepare, drawCapacities]
  split_ifs
  all_goals exact shuffle_cameras hrestored c

/-- **The cameras after a reset**: where each has been placed, the obstacles have been added. -/
theorem reset_cameras (h : PlacesCameras Q R) {fuel : ℕ} {seed : Option ℕ}
    {self start : Env cfg G V} {observations : Observations cfg} {reg : Registry}
    (hself : ∀ c, Q (self.cameras c))
    (hreset : self.reset fuel seed = .ok (observations, reg, start)) (c : Fin cfg.numCameras) :
    ∃ camera rng, R camera ∧ start.cameras c
      = { camera.clearObstacles.addObstacles (List.ofFn start.obstacles) with rng := rng } := by
  obtain ⟨e, he, -, hobstacles, hcameras, -⟩ := reset_placed hreset
  obtain ⟨rng, hcamera⟩ := hcameras c
  rw [hobstacles]
  exact ⟨_, rng, placeEntities_cameras h _ (prepare_cameras h seed hself) e he c, hcamera⟩

end

/-! ## Targets without room -/

omit [SetOrder] in
theorem placesTargets_held (z : ℚ × ℚ) :
    PlacesTargets (fun target : Target cfg.target G => target.Held z)
      (fun target => target.Held z
        ∧ target.location = clipTerrain (12 / 10 * TARGET_RADIUS) ⟨z.1, z.2⟩) where
  seed := fun target rng h => ⟨h.range, h.le_stepSize, h.stepSize_le⟩
  capacity := by
    intro target high h
    have hpos : (0 : ℝ) < ((cfg.target.stepSize : ℚ) : ℝ) := by
      exact_mod_cast cfg.target.stepSize.2
    have hcapacity : (1 : ℝ) ≤ (capacityOf high : ℤ) ∧ ((capacityOf high : ℤ) : ℝ) ≤ 2 := by
      cases high <;> norm_num [capacityOf]
    refine ⟨h.range, ?_, ?_⟩
    · exact div_le_div_of_nonneg_left hpos.le (by linarith) hcapacity.2
    · exact div_le_self hpos.le hcapacity.1
  place := by
    intro target h
    have hheld : target.reset.Held z := ⟨h.range, h.le_stepSize, h.stepSize_le⟩
    refine ⟨hheld, hheld, ?_⟩
    show (resetLocation target.locationRandomRange _ _).1 = _
    rw [h.range, resetLocation_single]

omit [SetOrder] in
theorem init_held_each {memory : Memory V} {self : Env cfg G V} {z : Fin cfg.numTargets → ℚ × ℚ}
    (hinit : Env.init cfg memory = .ok self)
    (hboxes : ∀ t : Fin cfg.numTargets, cfg.target.placement.box t = ⟨z t, z t⟩)
    (t : Fin cfg.numTargets) : (self.targets t).Held (z t) := by
  obtain ⟨cameras, -, hinit⟩ := bind_eq_ok.mp hinit
  obtain ⟨obstacles, -, hinit⟩ := bind_eq_ok.mp hinit
  cases hinit
  have hpos : (0 : ℝ) < ((cfg.target.stepSize : ℚ) : ℝ) := by
    exact_mod_cast cfg.target.stepSize.2
  refine ⟨hboxes t, ?_, le_refl _⟩
  show _ ≤ ((cfg.target.stepSize : ℚ) : ℝ)
  linarith

omit [SetOrder] in
/-- The targets of a new environment hold their boxes. -/
theorem init_held {memory : Memory V} {self : Env cfg G V} {z : ℚ × ℚ}
    (hinit : Env.init cfg memory = .ok self)
    (hboxes : ∀ t : Fin cfg.numTargets, cfg.target.placement.box t = ⟨z, z⟩)
    (t : Fin cfg.numTargets) : (self.targets t).Held z :=
  init_held_each hinit hboxes t

omit [SetOrder] in
theorem clipTerrain_target {z : ℚ × ℚ} (hterrain : InTerrain ⟨z.1, z.2⟩) :
    clipTerrain (12 / 10 * TARGET_RADIUS) ⟨z.1, z.2⟩ = ⟨z.1, z.2⟩ := by
  rw [show 12 / 10 * ((TARGET_RADIUS : ℚ) : ℝ) = 0 by norm_num [TARGET_RADIUS]]
  exact clipTerrain_of_inTerrain hterrain

/-- **A target without room is put where its box is.** -/
theorem reset_targets_at {fuel : ℕ} {seed : Option ℕ} {memory : Memory V}
    {self start : Env cfg G V} {observations : Observations cfg} {reg : Registry} {z : ℚ × ℚ}
    (hinit : Env.init cfg memory = .ok self)
    (hboxes : ∀ t : Fin cfg.numTargets, cfg.target.placement.box t = ⟨z, z⟩)
    (hterrain : InTerrain ⟨z.1, z.2⟩)
    (hreset : self.reset fuel seed = .ok (observations, reg, start)) (t : Fin cfg.numTargets) :
    (start.targets t).location = ⟨z.1, z.2⟩ ∧ (start.targets t).Held z := by
  obtain ⟨hheld, hlocation⟩ :=
    reset_targets (placesTargets_held z) (init_held hinit hboxes) hreset t
  exact ⟨hlocation.trans (clipTerrain_target hterrain), hheld⟩

omit [SetOrder] in
theorem init_targetOrder {memory : Memory V} {self : Env cfg G V}
    (hinit : Env.init cfg memory = .ok self) : self.targetOrder = 1 := by
  obtain ⟨cameras, -, hinit⟩ := bind_eq_ok.mp hinit
  obtain ⟨obstacles, -, hinit⟩ := bind_eq_ok.mp hinit
  cases hinit
  rfl

/-- **Each target is put where its box is**, if the entities are not shuffled. -/
theorem reset_each_at {fuel : ℕ} {seed : Option ℕ} {memory : Memory V}
    {self start : Env cfg G V} {observations : Observations cfg} {reg : Registry}
    {z : Fin cfg.numTargets → ℚ × ℚ} (hshuffle : cfg.shuffleEntities = false)
    (hinit : Env.init cfg memory = .ok self)
    (hboxes : ∀ t : Fin cfg.numTargets, cfg.target.placement.box t = ⟨z t, z t⟩)
    (hterrain : ∀ t, InTerrain ⟨(z t).1, (z t).2⟩)
    (hreset : self.reset fuel seed = .ok (observations, reg, start)) (t : Fin cfg.numTargets) :
    (start.targets t).location = ⟨(z t).1, (z t).2⟩ := by
  obtain ⟨e, he, htargets, -⟩ := reset_placed hreset
  have hprepared := prepare_each (fun t => placesTargets_held (z t)) hshuffle seed
    (init_targetOrder hinit) (init_held_each hinit hboxes)
  have hplaced := placeEntities_each (fun t => placesTargets_held (z t)) _ hprepared e he t
  rw [htargets, hplaced.2]
  exact clipTerrain_target (hterrain t)

/-! ## One obstacle without room -/

omit [SetOrder] in
/-- The first round of `placeObstacles` is the only one, and its first try succeeds. -/
theorem placeObstacles_single {z : ℚ × ℚ} {r : ℚ} (hone : cfg.numObstacles = 1)
    (hinside : clipTerrain (12 / 10 * (r : ℝ)) ⟨z.1, z.2⟩ = ⟨z.1, z.2⟩) {self : Env cfg G V}
    (hself : ∀ o, (self.obstacles o).Held z r) {placed : List Body}
    (hfree : ∀ b ∈ placed, Body.overlap ⟨⟨z.1, z.2⟩, r, none⟩ b (minDistance cfg) = false) :
    Ensures (self.placeObstacles placed) (fun p => ∀ o, (p.2.obstacles o).disc = ⟨⟨z.1, z.2⟩, r⟩) := by
  refine (Ensures.foldlM_rest
    (fun rest s => (∀ o, o ∉ rest → (s.2.obstacles o).disc = ⟨⟨z.1, z.2⟩, r⟩)
      ∧ (∀ o ∈ rest, rest.length ≤ 1 ∧ s.1 = placed ∧ (s.2.obstacles o).Held z r))
    ?_ _ _ ⟨fun o h => absurd (List.mem_finRange o) h, fun o _ => ⟨?_, rfl, hself o⟩⟩).mono
    (fun p hp o => hp.1 o List.not_mem_nil)
  · rintro o rest ⟨before, e⟩ ⟨hdone, hleft⟩
    obtain ⟨hlength, hplaced, hheld⟩ := hleft o List.mem_cons_self
    have hrest : rest = [] := List.length_eq_zero_iff.mp (by simpa using hlength)
    subst hrest
    obtain ⟨hlocation, hradius⟩ := hheld.reset e.radiusRng
    rw [hinside] at hlocation
    -- the first try is free of overlaps
    have hretry : retry (fun e : Obstacle G × G => .ok (e.1.reset e.2)) (fun e => e.1.body)
        (minDistance cfg) before NUM_RESET_RETRIES (e.obstacles o, e.radiusRng)
        = .ok ((e.obstacles o).reset e.radiusRng, true) := by
      have hfree' : ∀ b ∈ before,
          ((e.obstacles o).reset e.radiusRng).1.body.overlap b (minDistance cfg) = false := by
        intro b hb
        rw [Obstacle.body, hlocation, hradius]
        exact hfree b (hplaced ▸ hb)
      rw [show NUM_RESET_RETRIES = 499 + 1 from rfl]
      exact retry_first (fun e : Obstacle G × G => .ok (e.1.reset e.2)) (fun e => e.1.body)
        (Eq.refl (Except.ok ((e.obstacles o).reset e.radiusRng))) hfree' 499
    simp only [hretry]
    refine Ensures.pure ⟨fun o' _ => ?_, fun o' h => absurd h List.not_mem_nil⟩
    by_cases heq : o' = o
    · subst heq
      show (Function.update e.obstacles o' ((e.obstacles o').reset e.radiusRng).1 o').disc = _
      rw [Function.update_self, Obstacle.disc, hlocation, hradius]
    · refine Eq.trans ?_ (hdone o' (by simpa using heq))
      exact congrArg Obstacle.disc (Function.update_of_ne heq _ _)
  · rw [List.length_finRange, hone]

omit [SetOrder] in
/-- Up to their placement the obstacles are drawn again or permuted, but they keep their boxes. -/
theorem prepare_obstacles_held {z : ℚ × ℚ} {r : ℚ} (seed : Option ℕ) {self : Env cfg G V}
    (hself : ∀ o, (self.obstacles o).Held z r) (o : Fin cfg.numObstacles) :
    ((self.prepare seed).obstacles o).Held z r := by
  have hseeded : ∀ o, ((self.reseedIfAny seed).obstacles o).Held z r := by
    cases seed with
    | none => exact hself
    | some seed => exact fun o => ⟨(hself o).range, (hself o).radiusRange⟩
  simp only [prepare, drawCapacities, shuffle]
  split_ifs
  all_goals exact hseeded _

/-- **A single obstacle without room is put where its box is**, if it overlaps no warehouse. -/
theorem reset_obstacles_at {fuel : ℕ} {seed : Option ℕ} {self start : Env cfg G V}
    {observations : Observations cfg} {reg : Registry} {z : ℚ × ℚ} {r : ℚ}
    (hcameras : cfg.numCameras = 0) (hone : cfg.numObstacles = 1)
    (hself : ∀ o, (self.obstacles o).Held z r)
    (hinside : clipTerrain (12 / 10 * (r : ℝ)) ⟨z.1, z.2⟩ = ⟨z.1, z.2⟩)
    (hfree : ∀ b ∈ warehouseBodies, Body.overlap ⟨⟨z.1, z.2⟩, r, none⟩ b (minDistance cfg) = false)
    (hreset : self.reset fuel seed = .ok (observations, reg, start)) (o : Fin cfg.numObstacles) :
    (start.obstacles o).disc = ⟨⟨z.1, z.2⟩, r⟩ := by
  obtain ⟨e, he, -, hobstacles, -⟩ := reset_placed hreset
  have hentities : Ensures (self.prepare seed).placeEntities
      (fun e => ∀ o, (e.obstacles o).disc = ⟨⟨z.1, z.2⟩, r⟩) := by
    simp only [placeEntities, placeCameras, finRange_numCameras hcameras, List.foldlM_nil,
      pure_bind]
    refine (placeObstacles_single hone hinside (prepare_obstacles_held seed hself) hfree).bind
      (fun p hp => ?_)
    refine Ensures.bind (P := fun q => q.2.obstacles = p.2.obstacles) ?_
      (fun q hq => Ensures.pure (fun o => by rw [hq]; exact hp o))
    refine Ensures.foldlM _ _ rfl ?_
    rintro ⟨before, e⟩ t - he
    exact Ensures.andThen (fun _ => Ensures.pure he)
  rw [hobstacles]
  exact hentities e he o

omit [SetOrder] in
/-- The obstacles of a new environment hold their boxes. -/
theorem init_obstacles_held {memory : Memory V} {self : Env cfg G V} {z : ℚ × ℚ} {r : ℚ}
    (hinit : Env.init cfg memory = .ok self)
    (hradius : cfg.obstacleParams.radius = some r)
    (hrange : cfg.obstacleParams.radiusRandomRange = none)
    (hboxes : ∀ o < cfg.numObstacles, cfg.obstacleParams.placement.box o = ⟨z, z⟩)
    (o : Fin cfg.numObstacles) : (self.obstacles o).Held z r := by
  have hall : ∀ n ≤ cfg.numObstacles, ∀ g : G, Ensures (initObstacles cfg.obstacleParams g n)
      (fun p => ∀ o, (p.1 o).Held z r) := by
    intro n
    induction n with
    | zero => exact fun _ _ => Ensures.pure (fun o => Fin.elim0 o)
    | succ n ih =>
        intro hn g
        refine (ih (by omega) g).bind (fun p hp => ?_)
        have hnew : Ensures (Obstacle.init cfg.obstacleParams (cfg.obstacleParams.placement.box n)
            (RandomState.seed 0 : G)) (fun q => q.1.Held z r) := by
          rw [hboxes n (by omega)]
          simp only [Obstacle.init, hradius, hrange]
          split
          · exact Ensures.pure ⟨rfl, rfl⟩
          · exact fun _ h => by cases h
        refine hnew.bind (fun q hq => Ensures.pure (fun o => ?_))
        refine Fin.lastCases ?_ (fun o => ?_) o
        · simpa using hq
        · simpa using hp o
  obtain ⟨cameras, -, hinit⟩ := bind_eq_ok.mp hinit
  obtain ⟨obstacles, hobstacles, hinit⟩ := bind_eq_ok.mp hinit
  cases hinit
  have hheld := hall cfg.numObstacles (le_refl _) _ _ hobstacles o
  exact ⟨hheld.range, hheld.radiusRange⟩

omit [SetOrder] [RandomState G] in
theorem soloConfig_box (location : ℚ × ℚ) (maxEpisodeSteps : ℕ) (h : 0 < maxEpisodeSteps)
    (t : Fin (soloConfig location maxEpisodeSteps h).numTargets) :
    (soloConfig location maxEpisodeSteps h).target.placement.box t = ⟨location, location⟩ := by
  have hlt : (t : ℕ) < 1 := t.isLt
  rw [Nat.lt_one_iff.mp hlt]
  rfl

end Env

end Mate
