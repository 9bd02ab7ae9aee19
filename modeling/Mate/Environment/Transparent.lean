import Mate.Environment.Init

set_option autoImplicit false

/-! # A camera that sees through everything

With a transmittance of one a camera never looks into the table of its sight range: what it
sees is what is in its sector (`Camera.InSector`). A single camera of this kind makes neither
`reset` nor `step` raise, and the tracked targets are those in its sector.
-/

namespace Mate

open Fallible

namespace Camera

variable {params : CameraConfig} {G : Type} [RandomState G]

/-- The location is no farther away than the sight range, and between the two edges. -/
def InSector (self : Camera params G) (location : ℂ) : Prop :=
  ‖location - self.location‖ ≤ self.sightRange
    ∧ min |self.orientation - arctan2Deg (location - self.location)|
        (360 - |self.orientation - arctan2Deg (location - self.location)|) * 2 ≤ self.viewingAngle

omit [RandomState G] in
/-- A camera that looks to the right has what is straight ahead in its sector. -/
theorem inSector_ahead {self : Camera params G} {x y : ℝ} (hlocation : self.location = ⟨x, 0⟩)
    (horientation : self.orientation = 0) (hangle : 0 ≤ self.viewingAngle) (hright : x ≤ y)
    (hnear : y - x ≤ self.sightRange) : self.InSector ⟨y, 0⟩ := by
  have hahead : (⟨y, 0⟩ : ℂ) - ⟨x, 0⟩ = ((y - x : ℝ) : ℂ) := by
    apply Complex.ext <;> simp
  unfold InSector
  rw [hlocation, horientation, hahead, arctan2Deg, Complex.arg_ofReal_of_nonneg (by linarith),
    Complex.norm_real, Real.norm_eq_abs, abs_of_nonneg (by linarith)]
  refine ⟨hnear, ?_⟩
  norm_num [rad2deg]
  exact hangle

theorem perceive_transparent (self : Camera params G) (location : ℂ) :
    Returns (self.perceive location 1) (fun r =>
      (r.1 = true ↔ self.InSector location) ∧ r.2 = { self with rng := r.2.rng }) := by
  unfold perceive InSector
  dsimp only
  split
  · rename_i hfar
    refine Returns.pure ⟨?_, rfl⟩
    constructor
    · intro h
      cases h
    · exact fun h => absurd h.1 (not_le.mpr hfar)
  · rename_i hnear
    split
    · rename_i hbeside
      refine Returns.pure ⟨?_, rfl⟩
      constructor
      · intro h
        cases h
      · exact fun h => absurd h.2 (not_le.mpr hbeside)
    · rename_i hbetween
      rw [if_pos (RandomState.binomial_one self.rng)]
      exact Returns.pure
        ⟨⟨fun _ => ⟨not_lt.mp hnear, not_lt.mp hbetween⟩, fun _ => rfl⟩, rfl⟩

theorem reset_returns (hstep : (params.rotationStep : ℚ) ≤ 360) (self : Camera params G) :
    Returns self.reset (fun _ => True) := by
  have hpos : 0 < ⌊360 / (params.rotationStep : ℚ)⌋₊ :=
    Nat.floor_pos.mpr ((one_le_div params.rotationStep.2).mpr hstep)
  unfold reset
  dsimp only
  rw [dif_pos hpos]
  exact Returns.pure trivial

theorem reset_keeps (self : Camera params G) : Ensures self.reset (fun self' =>
    self'.locationRandomRange = self.locationRandomRange
      ∧ self'.sightRangeOuterFunc = self.sightRangeOuterFunc) := by
  intro self' h
  unfold reset at h
  dsimp only at h
  split at h
  · cases h
    exact ⟨rfl, rfl⟩
  · cases h

/-- A new camera has its box, and no outer curve. -/
theorem init_returns (hangle : (params.minViewingAngle : ℚ) ≤ MAX_CAMERA_VIEWING_ANGLE)
    (hstep : (params.rotationStep : ℚ) ≤ 360) (range : Box) :
    Returns (Camera.init params range : Except Error (Camera params G))
      (fun c => c.locationRandomRange = range ∧ c.sightRangeOuterFunc = none) := by
  unfold Camera.init
  rw [if_pos hangle]
  obtain ⟨camera, hcamera, -⟩ := reset_returns hstep
    { location := 0
      locationRandomRange := range
      rng := (RandomState.seed 0 : G)
      orientation := 0
      viewingAngle := (params.minViewingAngle : ℚ)
      sightRange := (params.maxSightRange : ℚ)
      boundary := []
      boundaryOuter := []
      sightRangeFunc := ⟨[]⟩
      sightRangeOuterFunc := none
      obstacles := ∅ }
  exact ⟨camera, hcamera, reset_keeps _ camera hcamera⟩

end Camera

namespace Env

variable {cfg : Config} {G V : Type} [RandomState G]

/-! ## Looking -/

theorem lookAt_transparent (cameras : Fin cfg.numCameras → Camera cfg.cameraParams G)
    (c : Fin cfg.numCameras) (location : ℂ) :
    Returns (lookAt cameras c location 1) (fun r =>
      (r.1 = true ↔ (cameras c).InSector location)
        ∧ ∀ c', r.2 c' = { cameras c' with rng := (r.2 c').rng }) := by
  obtain ⟨r, hr, hseen, -⟩ := (cameras c).perceive_transparent location
  have hlook : lookAt cameras c location 1 = .ok (r.1, Function.update cameras c r.2) := by
    unfold lookAt
    rw [hr]
    rfl
  exact ⟨_, hlook, hseen, lookAt_ensures cameras c location 1 _ hlook⟩

theorem lookAtTargets_transparent (h : cfg.obstacleTransmittance = 1) (self : Env cfg G V) :
    Returns self.lookAtTargets (fun e => Looked self e
      ∧ ∀ c t, e.cameraTargetViewMask c t = true
          ↔ (self.cameras c).InSector (self.targets t).location) := by
  have hone : ((cfg.obstacleTransmittance : ℚ) : ℝ) = 1 := by exact_mod_cast h
  unfold lookAtTargets
  rw [hone]
  -- the mask tells the truth about the pairs that the loop has gone through
  refine (Returns.foldlM (fun done s => Looked self s
      ∧ ∀ c t, s.cameraTargetViewMask c t = true
          ↔ (t, c) ∈ done ∧ (self.cameras c).InSector (self.targets t).location) _ _ ?_ ?_).mono ?_
  · exact ⟨⟨rfl, rfl, rfl, fun _ => rfl, rfl, rfl, rfl, rfl, rfl, rfl, rfl, rfl⟩, by simp⟩
  · rintro done ⟨t, c⟩ rest s - ⟨hs, hmask⟩
    refine (lookAt_transparent s.cameras c (s.targets t).location).bind
      (fun r hr => Returns.pure ⟨?_, fun c' t' => ?_⟩)
    · exact hs.trans ⟨rfl, rfl, rfl, hr.2, rfl, rfl, rfl, rfl, rfl, rfl, rfl, rfl⟩
    · have hsector : (s.cameras c).InSector (s.targets t).location
          ↔ (self.cameras c).InSector (self.targets t).location := by
        rw [hs.cameras c, hs.targets]
        rfl
      show setMask s.cameraTargetViewMask c t r.1 c' t' = true ↔ _
      rw [List.mem_append, List.mem_singleton, Prod.mk.injEq]
      unfold setMask
      by_cases hc : c' = c
      · subst hc
        rw [Function.update_self]
        by_cases ht : t' = t
        · subst ht
          rw [Function.update_self, hr.1, hsector]
          simp
        · rw [Function.update_of_ne ht, hmask]
          simp [ht]
      · rw [Function.update_of_ne hc, hmask]
        simp [hc]
  · rintro s ⟨hs, hmask⟩
    refine ⟨hs, fun c t => ?_⟩
    rw [hmask]
    simp

theorem lookAtCameras_single (h : cfg.numCameras = 1) (self : Env cfg G V) :
    Returns self.lookAtCameras (fun e => Looked self e
      ∧ e.cameraTargetViewMask = self.cameraTargetViewMask) := by
  unfold lookAtCameras
  refine Returns.foldlM (fun _ s => Looked self s
      ∧ s.cameraTargetViewMask = self.cameraTargetViewMask) _ _ ?_ ?_
  · exact ⟨⟨rfl, rfl, rfl, fun _ => rfl, rfl, rfl, rfl, rfl, rfl, rfl, rfl, rfl⟩, rfl⟩
  · rintro done ⟨c, other⟩ rest s - ⟨hs, hmask⟩
    have hsame : c = other := by
      apply Fin.ext
      omega
    dsimp only
    rw [if_pos hsame]
    exact Returns.pure
      ⟨hs.trans ⟨rfl, rfl, rfl, fun _ => rfl, rfl, rfl, rfl, rfl, rfl, rfl, rfl, rfl⟩, hmask⟩

/-- What a single camera sees are the targets in its sector. -/
theorem updateView_mask (hone : cfg.numCameras = 1) (h : cfg.obstacleTransmittance = 1)
    (self : Env cfg G V) :
    Returns self.updateView (fun e => Looked self e
      ∧ (∀ c t, e.cameraTargetViewMask c t = true
          ↔ (self.cameras c).InSector (self.targets t).location)
      ∧ ∀ t, e.trackedBits t = decide (∃ c, e.cameraTargetViewMask c t = true)) := by
  refine (self.lookAtTargets_transparent h).bind (fun s₁ h₁ => ?_)
  have hlook : Looked s₁ s₁.lookAround :=
    ⟨rfl, rfl, rfl, fun _ => rfl, rfl, rfl, rfl, rfl, rfl, rfl, rfl, rfl⟩
  refine (s₁.lookAround.lookAtCameras_single hone).bind
    (fun s₂ h₂ => Returns.pure ⟨?_, fun c t => ?_, fun t => rfl⟩)
  · exact (h₁.1.trans hlook).trans
      (h₂.1.trans ⟨rfl, rfl, rfl, fun _ => rfl, rfl, rfl, rfl, rfl, rfl, rfl, rfl, rfl⟩)
  · show s₂.cameraTargetViewMask c t = true ↔ _
    rw [h₂.2]
    exact h₁.2 c t

/-- **What a single camera tracks** are the targets in its sector. -/
theorem updateView_transparent (hone : cfg.numCameras = 1) (h : cfg.obstacleTransmittance = 1)
    (self : Env cfg G V) :
    Returns self.updateView (fun e => Looked self e
      ∧ ∀ t, e.trackedBits t = true ↔ ∃ c, (self.cameras c).InSector (self.targets t).location) := by
  refine (self.updateView_mask hone h).mono (fun e he => ⟨he.1, fun t => ?_⟩)
  obtain ⟨-, hmask, htracked⟩ := he
  rw [htracked, decide_eq_true_iff]
  exact exists_congr (fun c => hmask c t)

/-! ## Calls that return -/

variable [SetOrder]

omit [SetOrder] in
theorem placeCameras_returns (hstep : (cfg.cameraParams.rotationStep : ℚ) ≤ 360)
    (self : Env cfg G V) (placed : List Body) :
    Returns (self.placeCameras placed) (fun _ => True) := by
  refine Returns.foldlM (fun _ _ => True) _ _ trivial (fun _ c _ s _ _ => ?_)
  exact (retry_returns (Camera.reset_returns hstep) _ _ _ _ _).bind (fun _ _ => Returns.pure trivial)

/-- **With a single camera that sees through everything** a reset returns when the `while` loop
ends within its bound. -/
theorem reset_transparent (hone : cfg.numCameras = 1) (h : cfg.obstacleTransmittance = 1)
    (hstep : (cfg.cameraParams.rotationStep : ℚ) ≤ 360) {fuel : ℕ}
    (hfill : ∀ (awaiting : Warehouse → ℤ) (g : G),
      Cargo.fillCargoes cfg fuel 0 awaiting g ≠ .error .outOfFuel)
    (seed : Option ℕ) (self : Env cfg G V) :
    Returns (self.reset fuel seed) (fun _ => True) :=
  reset_returns_of_view (fun e => (e.updateView_transparent hone h).mono (fun _ _ => trivial))
    (placeCameras_returns hstep) hfill seed self

/-- After a reset the single camera sees the targets in its sector. -/
theorem reset_mask (hone : cfg.numCameras = 1) (h : cfg.obstacleTransmittance = 1) {fuel : ℕ}
    {seed : Option ℕ} {self start : Env cfg G V} {observations : Observations cfg}
    {reg : Registry} (hreset : self.reset fuel seed = .ok (observations, reg, start))
    (c : Fin cfg.numCameras) (t : Fin cfg.numTargets) :
    start.cameraTargetViewMask c t = true
      ↔ (start.cameras c).InSector (start.targets t).location := by
  obtain ⟨placed, s, orientations, rng, hentities, -, -, hfinish⟩ := reset_eq_ok hreset
  cases hfinish
  obtain ⟨e, -, hentities⟩ := bind_eq_ok.mp hentities
  obtain ⟨seen, hseen, hentities⟩ := bind_eq_ok.mp hentities
  cases hentities
  obtain ⟨seen', hseen', hlooked, hmask, -⟩ :=
    e.registerObstacles.2.observeObstacles.updateView_mask hone h
  obtain rfl : seen' = placed := Except.ok.inj (hseen'.symm.trans hseen)
  refine (hmask c t).trans ?_
  show _ ↔ (seen'.cameras c).InSector (seen'.targets t).location
  rw [hlooked.cameras c, hlooked.targets]
  rfl

/-- **A step returns**, too, and counts a target as tracked when it is in the sector. -/
theorem step_transparent (hone : cfg.numCameras = 1) (h : cfg.obstacleTransmittance = 1)
    (reg : Registry) {self : Env cfg G V} (hvalid : self.cargo.Valid cfg)
    (cameraJointAction : Fin cfg.numCameras → ℝ × ℝ) (targetJointAction : Fin cfg.numTargets → ℂ) :
    Returns (self.step reg cameraJointAction targetJointAction) (fun r =>
      ∀ t, r.2.trackedBits t = true ↔ ∃ c, ((self.cameras c).simulate (cameraJointAction c)).InSector
        ((self.targets t).simulate reg (targetJointAction t)).location) := by
  obtain ⟨seen, hseen, hlooked, htracked⟩ := updateView_transparent hone h
    { self with
      cameras := fun c => (self.cameras c).simulate (cameraJointAction c)
      targets := fun t => (self.targets t).simulate reg (targetJointAction t)
      targetOrientations := fun t =>
        let moved := ((self.targets t).simulate reg (targetJointAction t)).location
          - (self.targets t).location
        if moved ≠ 0 then arctan2Deg moved else self.targetOrientations t }
  have hvalid' : seen.cargo.Valid cfg := by
    rw [hlooked.cargo]
    exact hvalid
  obtain ⟨s, hs, -⟩ := Cargo.assignGoals_returns hvalid' seen.inside seen.trackedBits seen.rng
  refine ⟨_, bind_eq_ok.mpr ⟨seen, hseen, bind_eq_ok.mpr ⟨s, hs, rfl⟩⟩, htracked⟩

end Env

end Mate
