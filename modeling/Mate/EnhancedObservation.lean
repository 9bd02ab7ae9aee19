import Mate.SharedFieldOfView

set_option autoImplicit false

/-! # Enhanced observations

`EnhancedObservation` overwrites the same fields as `SharedFieldOfView`, with all there is to see. The
rows it gives are those of the full view (`TeamView.full`), and they are what the environment itself
would show if every view mask was set (`Env.fullyViewed`). A full view is shared already, and stays full
when it is written over a shared one (`observation_full`).
-/

namespace Mate

open Env Fallible Runs

/-! ## The wrapper -/

namespace EnhancedObservation

open SharedFieldOfView (cameraStatesPublicFlagged targetStatesPublicFlagged targetEmptyBitsSlice)

variable {cfg : Config}

def enhancedCamera (team : SharedTeam) : Bool := team = .camera || team = .both

def enhancedTarget (team : SharedTeam) : Bool := team = .target || team = .both

/-- `np.logical_not(self.remaining_cargoes).all(axis=-1)`. -/
noncomputable def emptyWarehouses (remainingCargoes : Warehouse → Warehouse → ℤ) : List ℝ :=
  (List.finRange NUM_WAREHOUSES).map
    (fun w : Warehouse => if ∀ goal, remainingCargoes w goal = 0 then 1 else 0)

variable (obstacleStatesFlagged : Fin cfg.numObstacles → List ℝ)
  (remainingCargoes : Warehouse → Warehouse → ℤ)

/-- The branch `if self.enhanced_camera`. -/
noncomputable def enhanceCamera (observation : Observations cfg) : Fin cfg.numCameras → List ℝ :=
  let slices := cameraObservationSlicesOf cfg.numCameras cfg.numTargets cfg.numObstacles
  fun c =>
    let row := slices.opponentStatesWithMask.write
      (ravel (targetStatesPublicFlagged observation)) (observation.camera c)
    let row := slices.obstacleStatesWithMask.write (ravel obstacleStatesFlagged) row
    slices.teammateStatesWithMask.write (ravel (cameraStatesPublicFlagged observation)) row

/-- The branch `if self.enhanced_target`. -/
noncomputable def enhanceTarget (observation : Observations cfg) : Fin cfg.numTargets → List ℝ :=
  let slices := targetObservationSlicesOf cfg.numCameras cfg.numTargets cfg.numObstacles
  fun t =>
    let row := (targetEmptyBitsSlice cfg).write (emptyWarehouses remainingCargoes)
      (observation.target t)
    let row := slices.opponentStatesWithMask.write
      (ravel (cameraStatesPublicFlagged observation)) row
    let row := slices.obstacleStatesWithMask.write (ravel obstacleStatesFlagged) row
    slices.teammateStatesWithMask.write (ravel (targetStatesPublicFlagged observation)) row

/-- `observation`, where the environment has the obstacles `obstacle_states_flagged` and the cargoes
`remaining_cargoes`. -/
noncomputable def observation (team : SharedTeam) (observation : Observations cfg) :
    Observations cfg :=
  if !(enhancedCamera team || enhancedTarget team) then observation
  else
    -- the public states are copied before the arrays are written
    { camera :=
        if enhancedCamera team then enhanceCamera obstacleStatesFlagged observation
        else observation.camera
      target :=
        if enhancedTarget team then enhanceTarget obstacleStatesFlagged remainingCargoes observation
        else observation.target }

/-- The setting enhances the rows of a team. -/
def enhances (team : SharedTeam) : Team → Bool
  | .camera => enhancedCamera team
  | .target => enhancedTarget team

end EnhancedObservation

/-- Arrays with the same rows are the same. -/
theorem Observations.ext_row {cfg : Config} {x y : Observations cfg}
    (h : ∀ team, x.row team = y.row team) : x = y := by
  obtain ⟨camera, target⟩ := x
  exact congrArg₂ Observations.mk (h .camera) (h .target)

namespace Env

variable {cfg : Config} {G V : Type}

/-- What the wrapper makes of the rows of an environment. -/
noncomputable def enhanced (self : Env cfg G V) (team : SharedTeam) :
    Observations cfg → Observations cfg :=
  EnhancedObservation.observation self.obstacleStatesFlagged self.cargo.remainingCargoes team

/-- The environment with every entry of the view masks set for the agents of the setting, whose targets
know which warehouses are empty. The rows of the obstacles that the cameras are shown follow their
masks. -/
def fullyViewed (self : Env cfg G V) (team : SharedTeam) : Env cfg G V :=
  let camera := EnhancedObservation.enhancedCamera team
  let target := EnhancedObservation.enhancedTarget team
  { self with
    cameraTargetViewMask := fun c t => camera || self.cameraTargetViewMask c t
    cameraObstacleViewMask := fun c o => camera || self.cameraObstacleViewMask c o
    cameraObstacleObservations := fun c o =>
      if camera then whereMask true (self.obstacleStatesFlagged o)
      else self.cameraObstacleObservations c o
    cameraCameraViewMask := fun c other => camera || self.cameraCameraViewMask c other
    targetCameraViewMask := fun t c => target || self.targetCameraViewMask t c
    targetObstacleViewMask := fun t o => target || self.targetObstacleViewMask t o
    targetTargetViewMask := fun t other => target || self.targetTargetViewMask t other
    cargo := { self.cargo with
      emptyBits := fun t w => if target then ! self.cargo.stocked w else self.cargo.emptyBits t w } }

end Env

/-! ## The full view -/

/-- Everyone is shown everyone, and the known obstacles. -/
def TeamView.full {cfg : Config} {team : Team} (emptyBits : Warehouse → Bool)
    (known : Fin cfg.numObstacles → Bool) : TeamView cfg team where
  emptyBits := fun _ => emptyBits
  opponentMask := fun _ _ => true
  obstacleMask := fun _ => known
  teammateMask := fun _ _ => true

/-- What all rows have, the union has. -/
theorem anyRow_const {n : ℕ} {κ : Type} (mask : κ → Bool) :
    anyRow (fun _ : Fin n => mask) = fun _ => mask := by
  funext i k
  have hexists : (∃ _ : Fin n, mask k = true) ↔ mask k = true := ⟨fun ⟨_, h⟩ => h, fun h => ⟨i, h⟩⟩
  unfold anyRow
  simp only [hexists, Bool.decide_eq_true]

theorem TeamView.share_full {cfg : Config} {team : Team} (emptyBits : Warehouse → Bool)
    (known : Fin cfg.numObstacles → Bool) :
    (TeamView.full emptyBits known : TeamView cfg team).share = TeamView.full emptyBits known := by
  ext1
  · exact anyRow_const emptyBits
  · exact anyRow_const (fun _ => true)
  · exact anyRow_const known
  · rfl

namespace Env

variable {cfg : Config} {G V : Type} {self : Env cfg G V}

/-- The empty bits of a team that knows all warehouses. -/
def trueBits (self : Env cfg G V) : Team → Warehouse → Bool
  | .camera => fun _ => false
  | .target => fun w => ! self.cargo.stocked w

/-- The view that the wrapper shows a team. -/
def fullView (self : Env cfg G V) (known : Fin cfg.numObstacles → Bool) (team : Team) :
    TeamView cfg team :=
  TeamView.full (self.trueBits team) known

/-- Sharing the full view adds nothing. -/
theorem sharedView_fullView (self : Env cfg G V) (known : Fin cfg.numObstacles → Bool)
    (setting : SharedTeam) (team : Team) :
    sharedView setting (self.fullView known team) = self.fullView known team := by
  unfold sharedView
  split
  · exact TeamView.share_full _ known
  · rfl

/-- The stored rows of the obstacles are those of the known ones, and zeros. -/
def Stored (self : Env cfg G V) (known : Fin cfg.numObstacles → Bool) : Prop :=
  ∀ o, self.obstacleStatesFlagged o = whereMask (known o) (flagged (self.obstacles o).state)

theorem emptyWarehouses_eq (self : Env cfg G V) :
    EnhancedObservation.emptyWarehouses self.cargo.remainingCargoes
      = bitEntries .target (self.trueBits .target) := by
  unfold EnhancedObservation.emptyWarehouses bitEntries
  refine List.map_congr_left (fun w _ => ?_)
  simp [trueBits, Cargo.stocked]

section Stored

variable {known : Fin cfg.numObstacles → Bool} (h : self.Stored known)
include h

theorem Stored.ravel_eq : ravel self.obstacleStatesFlagged
    = whereRows known (fun o => flagged (self.obstacles o).state) :=
  congrArg ravel (funext h)

theorem Stored.showsStored (team : Team) : self.ShowsStored (self.fullView known team) where
  length := fun o => by rw [h, length_whereMask, length_flagged, self.length_obstacle]
  shown := fun _ o hknown => (h o).trans (by rw [show known o = true from hknown]; rfl)

variable {camera : TeamView cfg .camera} {target : TeamView cfg .target}

theorem enhanceCamera_showing :
    EnhancedObservation.enhanceCamera self.obstacleStatesFlagged (self.showing camera target)
      = self.viewRow (self.fullView known .camera) := by
  funext c
  refine Eq.trans ?_ (write_viewRow self camera (self.fullView known .camera) c rfl)
  show Slice.write _ _ (Slice.write _ _ (Slice.write _ _ _)) = _
  refine congrArg₂ (Slice.write _) ?_ (congrArg₂ (Slice.write _) ?_ (congrArg₂ (Slice.write _) ?_ rfl))
  · exact congrArg ravel cameraStatesPublicFlagged_showing
  · exact h.ravel_eq
  · exact congrArg ravel targetStatesPublicFlagged_showing

theorem enhanceTarget_showing :
    EnhancedObservation.enhanceTarget self.obstacleStatesFlagged self.cargo.remainingCargoes
        (self.showing camera target)
      = self.viewRow (self.fullView known .target) := by
  funext t
  refine Eq.trans ?_ (write_viewRow self { target with emptyBits := fun _ => self.trueBits .target }
    (self.fullView known .target) t rfl)
  show Slice.write _ _ (Slice.write _ _ (Slice.write _ _ _)) = _
  refine congrArg₂ (Slice.write _) ?_ (congrArg₂ (Slice.write _) ?_
    (congrArg₂ (Slice.write _) ?_ ?_))
  · exact congrArg ravel targetStatesPublicFlagged_showing
  · exact h.ravel_eq
  · exact congrArg ravel cameraStatesPublicFlagged_showing
  · refine Eq.trans ?_ (write_emptyBits self target t (self.trueBits .target))
    exact congrArg₂ (Slice.write _) (emptyWarehouses_eq self) rfl

/-- The view of a team after the wrapper. -/
def enhancedView (self : Env cfg G V) (known : Fin cfg.numObstacles → Bool) (setting : SharedTeam)
    {team : Team} (view : TeamView cfg team) : TeamView cfg team :=
  if EnhancedObservation.enhances setting team then self.fullView known team else view

/-- **The wrapper shows the full view** to the teams it is for, whatever they were shown before. -/
theorem enhanced_showing (setting : SharedTeam) :
    self.enhanced setting (self.showing camera target)
      = self.showing (self.enhancedView known setting camera)
          (self.enhancedView known setting target) := by
  cases setting with
  | both =>
      show (⟨_, _⟩ : Observations cfg) = ⟨_, _⟩
      exact congrArg₂ _ (enhanceCamera_showing h) (enhanceTarget_showing h)
  | camera =>
      show (⟨_, _⟩ : Observations cfg) = ⟨_, _⟩
      exact congrArg₂ _ (enhanceCamera_showing h) rfl
  | target =>
      show (⟨_, _⟩ : Observations cfg) = ⟨_, _⟩
      exact congrArg₂ _ rfl (enhanceTarget_showing h)
  | none => rfl

end Stored

/-! ## The environment that shows everything -/

/-- Row `i` is that of the view, where the obstacles in it are those of the row. -/
theorem row_eq_viewRow_of_obstacles (env : Env cfg G V) (team : Team) (i : Fin (cfg.teamSize team))
    (view : TeamView cfg team) (hbits : bitEntries team (view.emptyBits i)
      = bitEntries team ((env.view team).emptyBits i))
    (hopponent : view.opponentMask i = env.viewMask team team.opponent i)
    (hteammate : view.teammateMask i = env.viewMask team team i)
    (hobstacles : whereRows (view.obstacleMask i) (fun o => flagged (env.obstacles o).state)
      = match team, i with
        | .camera, c => ravel (env.cameraObstacleObservations c)
        | .target, t => whereRows (env.targetObstacleViewMask t) env.obstacleStatesFlagged) :
    env.jointObservation.1.row team i = env.viewRow view i := by
  cases team with
  | camera =>
      show (env.cameraObservation i).set 3 _ = _
      unfold cameraObservation
      simp only [List.append_assoc]
      rw [List.set_append_left _ _ (by rw [length_preservedData]; decide)]
      simp only [viewRow, viewFields, List.flatten_cons, List.flatten_nil, List.append_nil, hbits,
        hopponent, hteammate, hobstacles]
      rfl
  | target =>
      show (env.targetObservation i).set 3 _ = _
      unfold targetObservation
      simp only [List.append_assoc]
      rw [List.set_append_left _ _ (by rw [length_preservedData]; decide)]
      simp only [viewRow, viewFields, List.flatten_cons, List.flatten_nil, List.append_nil, hbits,
        hopponent, hteammate, hobstacles]
      rfl

section Fully

variable {known : Fin cfg.numObstacles → Bool} {setting : SharedTeam} {team : Team}

theorem fullyViewed_row_of_enhances (h : self.Stored known)
    (hteam : EnhancedObservation.enhances setting team = true) :
    (self.fullyViewed setting).jointObservation.1.row team
      = self.viewRow (self.fullView known team) := by
  funext i
  cases team with
  | camera =>
      have hcamera : EnhancedObservation.enhancedCamera setting = true := hteam
      refine row_eq_viewRow_of_obstacles (self.fullyViewed setting) .camera i
        (self.fullView known .camera) rfl ?_ ?_ ?_
      · funext t
        simp [fullyViewed, fullView, TeamView.full, viewMask, Team.opponent, hcamera]
      · funext c
        simp [fullyViewed, fullView, TeamView.full, viewMask, hcamera]
      · show whereRows known _ = ravel (fun o => if EnhancedObservation.enhancedCamera setting = true
          then whereMask true (self.obstacleStatesFlagged o) else _)
        simp only [if_pos hcamera]
        exact h.ravel_eq.symm
  | target =>
      have htarget : EnhancedObservation.enhancedTarget setting = true := hteam
      refine row_eq_viewRow_of_obstacles (self.fullyViewed setting) .target i
        (self.fullView known .target) (congrArg (bitEntries .target) (funext fun w => ?_)) ?_ ?_ ?_
      · simp [fullyViewed, fullView, TeamView.full, Env.view, trueBits, htarget]
      · funext c
        simp [fullyViewed, fullView, TeamView.full, viewMask, Team.opponent, htarget]
      · funext t
        simp [fullyViewed, fullView, TeamView.full, viewMask, htarget]
      · show whereRows known _ = ravel (fun o => whereMask
          (EnhancedObservation.enhancedTarget setting || _) (self.obstacleStatesFlagged o))
        simp only [htarget, Bool.true_or]
        exact h.ravel_eq.symm

/-- The rows of the other team do not change. -/
theorem fullyViewed_row_of_not_enhances
    (hteam : EnhancedObservation.enhances setting team = false) :
    (self.fullyViewed setting).jointObservation.1.row team = self.jointObservation.1.row team := by
  cases setting <;> cases team
  all_goals first | rfl | exact absurd hteam (by decide)

end Fully

/-! ## Reached states -/

variable [RandomState G] [SetOrder]

/-- Before the first reset no obstacle is known, after it all are. -/
theorem Reached.exists_stored {e : Env cfg G V} (h : Reached e) : ∃ known, e.Stored known := by
  cases h with
  | init h =>
      obtain ⟨cameras, -, h⟩ := bind_eq_ok.mp h
      obtain ⟨⟨obstacles, radiusRng⟩, -, h⟩ := bind_eq_ok.mp h
      cases h
      exact ⟨fun _ => false, fun o => rfl⟩
  | run hreset hrun => exact ⟨fun _ => true, (knowsObstacles_of_run hreset hrun).flagged⟩

theorem Stored.showsStored_enhanced {e : Env cfg G V} {known : Fin cfg.numObstacles → Bool}
    (hstored : e.Stored known) (h : Reached e) (setting : SharedTeam) (team : Team) :
    e.ShowsStored (e.enhancedView known setting (e.view team)) := by
  unfold enhancedView
  split
  · exact hstored.showsStored team
  · exact h.showsStored team

/-- **The wrapper is full visibility**: its rows are those of the environment with all view masks set,
the rows of the other team are unchanged, and sharing views before or after adds nothing. -/
theorem enhanced_spec {e : Env cfg G V} (h : Reached e) (setting sharing : SharedTeam) :
    e.enhanced setting e.jointObservation.1 = (e.fullyViewed setting).jointObservation.1 ∧
    ∀ team, if EnhancedObservation.enhances setting team then
        (e.enhanced setting (SharedFieldOfView.observation e.obstacleStatesFlagged sharing
            e.jointObservation.1)).row team = (e.enhanced setting e.jointObservation.1).row team ∧
        (SharedFieldOfView.observation e.obstacleStatesFlagged sharing
            (e.enhanced setting e.jointObservation.1)).row team
          = (e.enhanced setting e.jointObservation.1).row team
      else (e.enhanced setting e.jointObservation.1).row team = e.jointObservation.1.row team := by
  obtain ⟨known, hstored⟩ := h.exists_stored
  have hrows := jointObservation_eq_showing h.showsObstacles
  have henhanced : e.enhanced setting e.jointObservation.1
      = e.showing (e.enhancedView known setting (e.view .camera))
          (e.enhancedView known setting (e.view .target)) := by
    rw [hrows]
    exact enhanced_showing hstored setting
  -- the wrapper outside of shared views
  have hafter : e.enhanced setting (e.showing (sharedView sharing (e.view .camera))
      (sharedView sharing (e.view .target))) = _ := enhanced_showing hstored setting
  rw [← observation_showing (h.showsStored .camera) (h.showsStored .target), ← hrows] at hafter
  -- and inside of them
  have hbefore := observation_showing (hstored.showsStored_enhanced h setting .camera)
    (hstored.showsStored_enhanced h setting .target) sharing
  rw [← henhanced] at hbefore
  have hrow : ∀ team, (e.enhanced setting e.jointObservation.1).row team
      = e.viewRow (e.enhancedView known setting (e.view team)) := by
    intro team
    rw [henhanced]
    cases team <;> rfl
  have hrowAfter : ∀ team, (e.enhanced setting (SharedFieldOfView.observation
      e.obstacleStatesFlagged sharing e.jointObservation.1)).row team
      = e.viewRow (e.enhancedView known setting (sharedView sharing (e.view team))) := by
    intro team
    rw [hafter]
    cases team <;> rfl
  have hrowBefore : ∀ team, (SharedFieldOfView.observation e.obstacleStatesFlagged sharing
      (e.enhanced setting e.jointObservation.1)).row team
      = e.viewRow (sharedView sharing (e.enhancedView known setting (e.view team))) := by
    intro team
    rw [hbefore]
    cases team <;> rfl
  constructor
  · refine Observations.ext_row (fun team => ?_)
    rw [hrow]
    by_cases hteam : EnhancedObservation.enhances setting team = true
    · rw [enhancedView, if_pos hteam, fullyViewed_row_of_enhances hstored hteam]
    · rw [enhancedView, if_neg hteam,
        fullyViewed_row_of_not_enhances (Bool.eq_false_iff.mpr hteam), hrows]
      cases team <;> rfl
  · intro team
    rw [hrow, hrowAfter, hrowBefore]
    unfold enhancedView
    split
    · exact ⟨rfl, by rw [sharedView_fullView]⟩
    · rw [hrows]
      cases team <;> rfl

omit [SetOrder] in
/-- The targets of the small environment see everything. -/
theorem enhanced_spec_solo :
    letI := rotating
    letI := SetOrder.increasing
    ∃ e : Env (soloConfig (0, 0) 10 (by decide)) (Fin 4) Unit,
      e.enhanced .target e.jointObservation.1 = (e.fullyViewed .target).jointObservation.1 := by
  let _ := rotating
  let _ := SetOrder.increasing
  obtain ⟨self, start, observations, reg, -, hreset⟩ :=
    exists_solo_reset (0, 0) 10 (by decide) ⟨0, fun _ => ()⟩
  exact ⟨start, (enhanced_spec (.run hreset .nil) .target .both).1⟩

end Env

end Mate
