import Mate.Environment.Places

set_option autoImplicit false

/-! # What every entity of an environment keeps

A property of single entities that drawing, placing, moving and looking preserve holds of all
entities of an environment forever, whatever the calls are (`KeptByReset.reset`, `Kept.next`).
-/

namespace Mate

open Fallible

/-- A property for the entities of each kind. -/
structure EntityInvariant (cfg : Config) (G : Type) where
  camera : Camera cfg.cameraParams G → Prop
  target : Target cfg.target G → Prop
  obstacle : Obstacle G → Prop

namespace EntityInvariant

variable {cfg : Config} {G V : Type} [RandomState G] {I : EntityInvariant cfg G}

structure Holds (I : EntityInvariant cfg G) (e : Env cfg G V) : Prop where
  cameras : ∀ c, I.camera (e.cameras c)
  targets : ∀ t, I.target (e.targets t)
  obstacles : ∀ o, I.obstacle (e.obstacles o)

/-- What a reset does to single entities. -/
structure KeptByReset [SetOrder] (I : EntityInvariant cfg G) : Prop where
  cameraRng : ∀ e rng, I.camera e → I.camera { e with rng }
  cameraReset : ∀ e, I.camera e → Ensures e.reset I.camera
  cameraObstacles : ∀ e all, I.camera e → I.camera (e.clearObstacles.addObstacles all)
  targetRng : ∀ e rng, I.target e → I.target { e with rng }
  targetCapacity : ∀ e high, I.target e →
    I.target (e.setCapacity (Env.capacityOf high) (Env.capacityOf_pos high))
  targetReset : ∀ e, I.target e → I.target e.reset
  obstacleRng : ∀ e rng, I.obstacle e → I.obstacle { e with rng }
  obstacleReset : ∀ e rng, I.obstacle e → I.obstacle (e.reset rng).1
  obstacleZero : ∀ e, I.obstacle e → I.obstacle { e with radius := 0 }

/-- What the methods of the entities, and the environment, do to single entities. -/
structure Kept [SetOrder] (I : EntityInvariant cfg G) : Prop extends KeptByReset I where
  cameraSimulate : ∀ e action, I.camera e → I.camera (e.simulate action)
  targetSimulate : ∀ e reg action, I.target e → I.target (e.simulate reg action)

variable {e e' : Env cfg G V}

/-! ## Placing -/

section

variable [SetOrder]

omit [RandomState G] [SetOrder] in
/-- Replacing one entity of a kind by a good one. -/
theorem update_all {ι E : Type} [DecidableEq ι] {P : E → Prop} {f : ι → E} (hf : ∀ i, P (f i))
    (i : ι) {x : E} (hx : P x) : ∀ j, P (Function.update f i x j) := by
  intro j
  by_cases h : j = i
  · subst h
    rw [Function.update_self]
    exact hx
  · rw [Function.update_of_ne h]
    exact hf j

theorem KeptByReset.placeCameras (h : KeptByReset I) (he : I.Holds e) (placed : List Body) :
    Ensures (e.placeCameras placed) (fun r => I.Holds r.2) := by
  refine Ensures.foldlM _ _ he ?_
  rintro ⟨placed, s⟩ c - hs
  have hretry := Env.retry_ensures (I := I.camera)
    (fun e he => (h.cameraReset e he).mono (fun e' he' => ⟨he', he'⟩))
    Camera.body (Env.minDistance cfg) placed 499 (s.cameras c) (hs.cameras c)
  refine hretry.bind (fun r hr => Ensures.pure ?_)
  exact { hs with cameras := update_all hs.cameras c hr }

theorem KeptByReset.placeObstacles (h : KeptByReset I) (he : I.Holds e) (placed : List Body) :
    Ensures (e.placeObstacles placed) (fun r => I.Holds r.2) := by
  refine Ensures.foldlM _ _ he ?_
  rintro ⟨placed, s⟩ o - hs
  have hreset : ∀ e : Obstacle G × G, I.obstacle e.1 →
      Ensures (.ok (e.1.reset e.2) : Except Error (Obstacle G × G))
        (fun e' => I.obstacle e'.1 ∧ I.obstacle e'.1) :=
    fun e he => Ensures.pure ⟨h.obstacleReset e.1 e.2 he, h.obstacleReset e.1 e.2 he⟩
  have hretry := Env.retry_ensures hreset (fun e => e.1.body) (Env.minDistance cfg) placed 499
    (s.obstacles o, s.radiusRng) (hs.obstacles o)
  refine hretry.bind (fun r hr => Ensures.pure ?_)
  refine { hs with obstacles := update_all hs.obstacles o ?_ }
  split
  · exact hr
  · exact h.obstacleZero _ hr

theorem KeptByReset.placeTargets (h : KeptByReset I) (he : I.Holds e) (placed : List Body) :
    Ensures (e.placeTargets placed) (fun r => I.Holds r.2) := by
  refine Ensures.foldlM _ _ { he with } ?_
  rintro ⟨placed, s⟩ t - hs
  have hreset : ∀ e : Target cfg.target G, I.target e →
      Ensures (.ok e.reset : Except Error (Target cfg.target G))
        (fun e' => I.target e' ∧ I.target e') :=
    fun e he => Ensures.pure ⟨h.targetReset e he, h.targetReset e he⟩
  have hretry := Env.retry_ensures hreset Target.body 0 placed 499 (s.targets t) (hs.targets t)
  refine hretry.bind (fun r hr => Ensures.pure ?_)
  exact { hs with targets := update_all hs.targets t hr }

theorem KeptByReset.placeEntities (h : KeptByReset I) (he : I.Holds e) :
    Ensures e.placeEntities (fun e' => I.Holds e') := by
  refine (h.placeCameras he _).bind (fun r₁ h₁ => ?_)
  refine (h.placeObstacles h₁ _).bind (fun r₂ h₂ => ?_)
  exact (h.placeTargets h₂ _).bind (fun r₃ h₃ => Ensures.pure h₃)

/-! ## Looking -/

theorem KeptByReset.looked (h : KeptByReset I) (he : I.Holds e) (hlooked : Env.Looked e e') : I.Holds e' where
  cameras := fun c => by
    rw [hlooked.cameras c]
    exact h.cameraRng _ _ (he.cameras c)
  targets := by
    rw [hlooked.targets]
    exact he.targets
  obstacles := by
    rw [hlooked.obstacles]
    exact he.obstacles

/-! ## The reset -/

theorem KeptByReset.drawCapacities (h : KeptByReset I) (he : I.Holds e) : I.Holds e.drawCapacities := by
  unfold Env.drawCapacities
  split
  · exact { he with targets := fun t => h.targetCapacity _ _ (he.targets t) }
  · exact { he with }

omit [SetOrder] in
theorem Holds.shuffle (he : I.Holds e) : I.Holds e.shuffle := by
  unfold Env.shuffle
  split
  · exact ⟨fun c => he.cameras _, fun t => he.targets _, fun o => he.obstacles _⟩
  · exact he

theorem KeptByReset.reseed (h : KeptByReset I) (he : I.Holds e) (seed : ℕ) : I.Holds (e.reseed seed) :=
  ⟨fun c => h.cameraRng _ _ (he.cameras c), fun t => h.targetRng _ _ (he.targets t),
    fun o => h.obstacleRng _ _ (he.obstacles o)⟩

theorem KeptByReset.prepare (h : KeptByReset I) (he : I.Holds e) (seed : Option ℕ) :
    I.Holds (e.prepare seed) := by
  have hseeded : I.Holds (e.reseedIfAny seed) := by
    cases seed with
    | none => exact he
    | some seed => exact h.reseed he seed
  have hrestored : I.Holds (e.reseedIfAny seed).restoreOrder :=
    ⟨fun c => hseeded.cameras _, fun t => hseeded.targets _, fun o => hseeded.obstacles _⟩
  exact h.drawCapacities hrestored.shuffle

/-- **The reset.** -/
theorem KeptByReset.reset (h : KeptByReset I) (he : I.Holds e) {fuel : ℕ} {seed : Option ℕ}
    {observations : Observations cfg} {reg : Registry}
    (hreset : e.reset fuel seed = .ok (observations, reg, e')) : I.Holds e' := by
  obtain ⟨p, hp, htargets, hobstacles, hcameras, -⟩ := Env.reset_placed hreset
  have hholds : I.Holds p := h.placeEntities (h.prepare he seed) p hp
  refine ⟨fun c => ?_, ?_, ?_⟩
  · obtain ⟨rng, hcamera⟩ := hcameras c
    rw [hcamera]
    exact h.cameraRng _ _ (h.cameraObstacles _ _ (hholds.cameras c))
  · rw [htargets]
    exact hholds.targets
  · rw [hobstacles]
    exact hholds.obstacles

/-- **Any other call.** -/
theorem Kept.next (h : Kept I) (he : I.Holds e) {call : Env.Call cfg V}
    (hnext : Env.Next e call e') : I.Holds e' := by
  cases hnext with
  | step hstep =>
      obtain ⟨seen, hseen, hstep⟩ := bind_eq_ok.mp hstep
      obtain ⟨s, -, hstep⟩ := bind_eq_ok.mp hstep
      have hholds : I.Holds seen := by
        refine h.toKeptByReset.looked ?_ (Env.updateView_ensures _ _ hseen)
        exact ⟨fun c => h.cameraSimulate _ _ (he.cameras c),
          fun t => h.targetSimulate _ _ _ (he.targets t), he.obstacles⟩
      cases hstep
      exact { hholds with }
  | send messages => exact { he with }
  | receive hreceive => exact { he with }
  | write memory hmemory => exact { he with }

end

end EntityInvariant

end Mate
