import Mate.Environment.EntityInvariants
import Mate.Environment.GlobalState
import Mate.Environment.Transparent
import Mate.Horizon
import Mate.Motion
import Mate.Normalization

set_option autoImplicit false

/-! # The mean transport rate

`joint_observation` divides the delayed return of the episode by the worth of the delivered
cargoes. A delivery is paid its freight and what is left of its bounty, less the bounty that it
has lost. When the lost bounty is more than the rest the delivery is *overdrawn*: it is paid
less than nothing. As long as no step delivers an overdrawn load the rate is a rate
(`MultiAgentTracking.transport_rate_fair`); bounties that are worth no more than freights cannot
be overdrawn (`Cargo.not_overdrawn`), others can (`Env.transport_rate_negative`).
-/

namespace Mate

open Fallible Runs

/-! ## Overdrawn loads -/

namespace Cargo

variable {n : ℕ} {cfg : Config} {inside : Fin n → Warehouse → Bool} {c : Cargo n}

/-- The load has lost more of its bounty than what it is still worth. -/
def Overdrawn (cfg : Config) (c : Cargo n) (t : Fin n) : Prop :=
  c.freights t + 2 * c.bounties t < c.weight t * cfg.bountyScale

/-- Overdrawn loads are those whose delivery costs the targets something. -/
theorem delayedPayment_neg_iff {t : Fin n} (h : c.delivers inside t = true) :
    c.delayedPayment cfg inside t < 0 ↔ c.Overdrawn cfg t := by
  unfold delayedPayment Overdrawn
  rw [if_pos h]
  constructor
  · intro hneg
    omega
  · intro hover
    omega

/-- What is delivered is decided by where the load goes, whatever it is worth. -/
theorem delivers_chargeBounties (tracked : Fin n → Bool) (t : Fin n) :
    (c.chargeBounties tracked).delivers inside t = c.delivers inside t := rfl

theorem delayedPayment_nonneg {t : Fin n}
    (h : c.delivers inside t = true → ¬ c.Overdrawn cfg t) : 0 ≤ c.delayedPayment cfg inside t := by
  by_cases hdelivers : c.delivers inside t = true
  · exact not_lt.mp (fun hneg => h hdelivers ((delayedPayment_neg_iff hdelivers).mp hneg))
  · unfold delayedPayment
    rw [if_neg hdelivers]

/-- Bounties that are worth no more than freights cannot be overdrawn. -/
theorem not_overdrawn (h : c.Valid cfg) (hscale : cfg.bountyScale ≤ cfg.freightScale)
    (t : Fin n) : ¬ c.Overdrawn cfg t := by
  unfold Overdrawn
  cases hgoal : c.targetGoals t with
  | none =>
      have hu := h.unloaded hgoal
      rw [hu.freight, hu.bounty, hu.weight_eq, zero_mul]
      omega
  | some goal =>
      obtain ⟨weight, hw⟩ := h.carries hgoal
      have hpos := hw.pos
      have hbounty := hw.bounty_nonneg
      have hle : weight * cfg.bountyScale ≤ weight * cfg.freightScale :=
        mul_le_mul_of_nonneg_left hscale (by omega)
      rw [hw.freight, hw.weight_eq]
      omega

end Cargo

theorem Config.bountyScale_le {cfg : Config} (h : cfg.bountyFactor ≤ 1) :
    cfg.bountyScale ≤ cfg.freightScale := by
  have hscale : (0 : ℚ) ≤ cfg.freightScale := by exact_mod_cast cfg.freightScale_pos.le
  refine Int.ceil_le.mpr ?_
  calc (cfg.freightScale : ℚ) * cfg.bountyFactor
      ≤ cfg.freightScale * 1 := mul_le_mul_of_nonneg_left h hscale
    _ = cfg.freightScale := mul_one _

/-! ## The rate -/

namespace Env

variable {cfg : Config} {G V : Type}

/-- What `joint_observation` computes from the sums so far. -/
def transportRate (self : Env cfg G V) : ℚ :=
  if 0 < self.cargo.numDeliveredCargoes then
    self.delayedTargetTeamEpisodeReward / (cfg.rewardScale * self.cargo.numDeliveredCargoes)
  else 0

/-- The rate is up to date, and the delayed return is between nothing and the worth of the
delivered cargoes. -/
structure Solvent (e : Env cfg G V) : Prop where
  consistent : ∃ total, e.Consistent total
  rate : e.meanTransportRate = e.transportRate
  delayed_nonneg : 0 ≤ e.delayedTargetTeamEpisodeReward
  delayed_le : e.delayedTargetTeamEpisodeReward ≤ cfg.rewardScale * e.cargo.numDeliveredCargoes

theorem Solvent.rate_mem {e : Env cfg G V} (h : e.Solvent) :
    0 ≤ e.meanTransportRate ∧ e.meanTransportRate ≤ 1 := by
  rw [h.rate]
  unfold transportRate
  split
  · rename_i hpos
    have hworth : (0 : ℚ) < cfg.rewardScale * e.cargo.numDeliveredCargoes := by
      exact_mod_cast mul_pos cfg.rewardScale_pos hpos
    constructor
    · exact div_nonneg (by exact_mod_cast h.delayed_nonneg) hworth.le
    · rw [div_le_one hworth]
      exact_mod_cast h.delayed_le
  · exact ⟨le_refl _, zero_le_one⟩

variable [RandomState G] [SetOrder]

/-- No target that has moved into the warehouse of its goal delivers an overdrawn load there,
once this step has charged the tracked targets. -/
def DeliversFairly (reg : Registry) (self : Env cfg G V)
    (cameraJointAction : Fin cfg.numCameras → ℝ × ℝ)
    (targetJointAction : Fin cfg.numTargets → ℂ) : Prop :=
  ∀ seen, self.simulate reg cameraJointAction targetJointAction = .ok seen →
    ∀ t, self.cargo.delivers seen.inside t = true →
      ¬ (self.cargo.chargeBounties seen.trackedBits).Overdrawn cfg t

/-- Where the targets are, and who is tracked, a step finds out first; the rate comes last. -/
theorem step_seen {reg : Registry} {self self' : Env cfg G V}
    {cameraJointAction : Fin cfg.numCameras → ℝ × ℝ} {targetJointAction : Fin cfg.numTargets → ℂ}
    {result : StepResult cfg}
    (h : self.step reg cameraJointAction targetJointAction = .ok (result, self')) :
    (∃ seen, self.simulate reg cameraJointAction targetJointAction = .ok seen
        ∧ self'.inside = seen.inside ∧ self'.trackedBits = seen.trackedBits)
      ∧ self'.meanTransportRate = self'.transportRate := by
  obtain ⟨seen, hseen, h⟩ := bind_eq_ok.mp h
  obtain ⟨s, -, h⟩ := bind_eq_ok.mp h
  cases h
  exact ⟨⟨seen, hseen, rfl, rfl⟩, rfl⟩

theorem Solvent.step {reg : Registry} {self self' : Env cfg G V}
    {cameraJointAction : Fin cfg.numCameras → ℝ × ℝ} {targetJointAction : Fin cfg.numTargets → ℂ}
    {result : StepResult cfg} (h : self.Solvent)
    (hfair : self.DeliversFairly reg cameraJointAction targetJointAction)
    (hstep : self.step reg cameraJointAction targetJointAction = .ok (result, self')) :
    self'.Solvent := by
  obtain ⟨total, hconsistent⟩ := h.consistent
  obtain ⟨⟨seen, hseen, hinside, htracked⟩, hrate⟩ := step_seen hstep
  obtain ⟨s, hs⟩ := step_stepped hconsistent.valid hstep
  have hpaid : 0 ≤ s.delayedTargetTeamReward := by
    rw [hs.assigned.delayedReward, hinside, htracked]
    refine Finset.sum_nonneg (fun t _ => Cargo.delayedPayment_nonneg (fun hdelivers => ?_))
    exact hfair seen hseen t hdelivers
  have hworth := (hs.assigned.reward_le hconsistent.valid).2
  have hnonneg := h.delayed_nonneg
  have hle := h.delayed_le
  refine ⟨⟨total, hs.consistent hconsistent⟩, hrate, ?_, ?_⟩
  · rw [hs.delayedReward]
    omega
  · rw [hs.delayedReward, hs.alike.delivered]
    rw [mul_sub] at hworth
    omega

omit [SetOrder] in
theorem init_solvent (memory : Memory V) :
    Ensures (Env.init cfg memory : Except Error (Env cfg G V)) Solvent := by
  intro e hinit
  have hconsistent := init_consistent memory e hinit
  obtain ⟨cameras, -, hinit⟩ := bind_eq_ok.mp hinit
  obtain ⟨r, -, hinit⟩ := bind_eq_ok.mp hinit
  cases hinit
  exact ⟨⟨0, hconsistent⟩, rfl, le_refl _, (mul_zero cfg.rewardScale).ge⟩

theorem reset_solvent {fuel : ℕ} {seed : Option ℕ} {self start : Env cfg G V}
    {observations : Observations cfg} {reg : Registry}
    (hreset : self.reset fuel seed = .ok (observations, reg, start)) : start.Solvent := by
  have hconsistent := reset_consistent hreset
  obtain ⟨⟨placed, -, hready⟩, -, hdelayed, -⟩ := reset_ready hreset
  refine ⟨⟨_, hconsistent⟩, ?_, hdelayed.ge, ?_⟩
  · obtain ⟨placed, s, orientations, rng, -, -, -, hfinish⟩ := reset_eq_ok hreset
    cases hfinish
    rfl
  · rw [hdelayed, hready.delivered, mul_zero]

end Env

/-! ## Runs -/

namespace MultiAgentTracking

variable {cfg : Config} {G V : Type} [RandomState G] [SetOrder]

/-- A call that is not a step that delivers an overdrawn load. -/
def Fair (self : MultiAgentTracking cfg G V) : Method cfg V → Prop
  | .call (.step reg cameraJointAction targetJointAction _) =>
      self.toEnv.DeliversFairly reg cameraJointAction targetJointAction
  | _ => True

/-- A fair call that returns. -/
def DoesFairly (self : MultiAgentTracking cfg G V) (method : Method cfg V)
    (self' : MultiAgentTracking cfg G V) : Prop :=
  self.Fair method ∧ Does self method self'

theorem Does.solvent {e e' : MultiAgentTracking cfg G V} {method : Method cfg V}
    (h : e.toEnv.Solvent) (hfair : e.Fair method) (hdoes : Does e method e') :
    e'.toEnv.Solvent := by
  cases hdoes with
  | reset hreset =>
      obtain ⟨⟨observations, reg, env⟩, henv, heq⟩ := bind_eq_ok.mp hreset
      cases heq
      exact Env.reset_solvent henv
  | call hnext =>
      cases hnext with
      | step hstep => exact h.step hfair hstep
      | send messages => exact { h with consistent := h.consistent.imp (fun _ hc => { hc with }) }
      | receive hreceive =>
          exact { h with consistent := h.consistent.imp (fun _ hc => { hc with }) }
      | write memory hmemory =>
          exact { h with consistent := h.consistent.imp (fun _ hc => { hc with }) }
  | state =>
      have heq : e.state.2.toEnv = e.toEnv := by
        unfold MultiAgentTracking.state
        split <;> rfl
      rw [heq]
      exact h

omit [SetOrder] in
theorem init_solvent {memory : Memory V} {start : MultiAgentTracking cfg G V}
    (hstart : init cfg memory = .ok start) : start.toEnv.Solvent := by
  obtain ⟨env, henv, heq⟩ := bind_eq_ok.mp hstart
  cases heq
  exact Env.init_solvent memory env henv

/-- The calls between two resets, of an environment that keeps no state. -/
theorem run_does {start e : Env cfg G V} {calls : List (Env.Call cfg V)}
    (h : Run Env.Next start calls e) :
    Run Does (⟨start, none⟩ : MultiAgentTracking cfg G V) (calls.map Method.call) ⟨e, none⟩ := by
  refine h.map (fun e => (⟨e, none⟩ : MultiAgentTracking cfg G V)) Method.call ?_
  intro s call s' hnext
  have hdoes : Does (⟨s, none⟩ : MultiAgentTracking cfg G V) (.call call)
      ⟨s', if call.isStep then none else none⟩ := Does.call hnext
  rw [ite_self] at hdoes
  exact hdoes

end MultiAgentTracking

namespace MultiAgentTracking

variable {cfg : Config} {G V : Type} [RandomState G] [SetOrder]

/-- With bounties that are worth no more than freights every call is fair. -/
theorem fair_of_bountyFactor_le (hfactor : cfg.bountyFactor ≤ 1)
    {e : MultiAgentTracking cfg G V} (h : e.toEnv.Solvent) (method : Method cfg V) :
    e.Fair method := by
  obtain ⟨total, hconsistent⟩ := h.consistent
  unfold Fair
  split
  · intro seen _ t _
    exact Cargo.not_overdrawn (Cargo.valid_chargeBounties hconsistent.valid)
      (Config.bountyScale_le hfactor) t
  · trivial

/-- **With a bounty factor of at most one** the rate is a rate after any history. -/
theorem transport_rate_of_bountyFactor_le (hfactor : cfg.bountyFactor ≤ 1) {memory : Memory V}
    {start e : MultiAgentTracking cfg G V} {history : List (Method cfg V)}
    (hstart : init cfg memory = .ok start) (hrun : Run Does start history e) :
    0 ≤ e.toEnv.meanTransportRate ∧ e.toEnv.meanTransportRate ≤ 1 :=
  (hrun.invariant (fun e : MultiAgentTracking cfg G V => e.toEnv.Solvent) (init_solvent hstart)
    (fun _ _ _ h hdoes =>
      Does.solvent h (fair_of_bountyFactor_le hfactor h _) hdoes)).rate_mem

end MultiAgentTracking

/-! ## A camera without room -/

theorem normalizeAngle_zero : normalizeAngle 0 = 0 := by
  unfold normalizeAngle pyMod
  norm_num

namespace Camera

variable {params : CameraConfig} {G : Type} [RandomState G]

/-- Put where its box is, with a field of view that was drawn, and looking to the right. -/
structure Still (z : ℚ × ℚ) (camera : Camera params G) : Prop where
  range : camera.locationRandomRange = ⟨z, z⟩
  location : camera.location = clipTerrain (12 / 10 * ((params.radius : ℚ) : ℝ)) ⟨z.1, z.2⟩
  orientation : camera.orientation = 0
  viewingAngle : ∃ g : G, camera.viewingAngle
    = (RandomState.uniform (params.minViewingAngle : ℚ) (MAX_CAMERA_VIEWING_ANGLE : ℚ) g).1
  sightRange : camera.sightRange = sightRangeOf params camera.viewingAngle

/-- A rotation step of a full turn leaves one orientation to draw. -/
theorem reset_still (hstep : (params.rotationStep : ℚ) = 360) {z : ℚ × ℚ} {c : Camera params G}
    (h : c.locationRandomRange = ⟨z, z⟩) : Ensures c.reset (Still z) := by
  intro c' hc'
  have hhigh : ⌊360 / (params.rotationStep : ℚ)⌋₊ = 1 := by
    rw [hstep]
    norm_num
  unfold reset at hc'
  dsimp only at hc'
  split at hc'
  · rename_i hpos
    cases hc'
    refine ⟨h, ?_, ?_, ⟨_, rfl⟩, rfl⟩
    · show (resetLocation c.locationRandomRange _ _).1 = _
      rw [h, resetLocation_single]
    · show normalizeAngle (_ * (((RandomState.randint _ hpos _).1 : ℕ) : ℝ)) = 0
      have hzero : ((RandomState.randint _ hpos (resetLocation c.locationRandomRange
          (params.radius : ℚ) c.rng).2).1 : ℕ) = 0 := by
        have hlt := (RandomState.randint _ hpos (resetLocation c.locationRandomRange
          (params.radius : ℚ) c.rng).2).1.isLt
        omega
      rw [hzero, Nat.cast_zero, mul_zero, normalizeAngle_zero]
  · rename_i hnot
    rw [hhigh] at hnot
    exact absurd one_pos hnot

end Camera

/-! ## An overdrawn load -/

namespace Env

/-- Every cargo has a freight of one and a bounty of two. The target starts in the middle, and
the camera at the left border sees through everything. -/
def leakyConfig : Config where
  maxEpisodeSteps := 10
  rewardType := .dense
  target :=
    { placement := ⟨[(0, 0)], []⟩
      sightRange := ⟨500, Positive.fiveHundred_pos⟩
      stepSize := ⟨4000, Positive.fourThousand_pos⟩ }
  numCargoesPerTarget := 4
  highCapacityTargetSplit := 0
  targetsStartWithCargoes := true
  bountyFactor := 2
  shuffleEntities := false
  camera := some
    { placement := ⟨[(-990, 0)], []⟩
      radius := ⟨1, Positive.one_pos⟩
      minViewingAngle := ⟨180, Positive.oneEighty_pos⟩
      maxSightRange := ⟨3000, Positive.threeThousand_pos⟩
      rotationStep := ⟨360, Positive.threeSixty_pos⟩
      zoomingStep := ⟨5 / 2, Positive.five_halves_pos⟩ }
  obstacle := some ⟨⟨[], []⟩, none, none, some 1⟩
  maxEpisodeSteps_pos := by norm_num
  numTargets_pos := Nat.one_pos
  le_numCargoesPerTarget := le_refl _
  split_nonneg := Rat.le_refl
  split_le_one := by norm_num
  bountyFactor_nonneg := by norm_num

theorem leakyConfig_scales :
    leakyConfig.freightScale = 1 ∧ leakyConfig.bountyScale = 2
      ∧ leakyConfig.obstacleTransmittance = 1 := by decide +kernel

/-! ### The camera -/

section

variable {G : Type} [RandomState G]

/-- The camera stands at the left border and looks to the right. -/
structure Facing (c : Camera leakyConfig.cameraParams G) : Prop where
  range : c.locationRandomRange = ⟨(-990, 0), (-990, 0)⟩
  location : c.location = ⟨-990, 0⟩
  orientation : c.orientation = 0
  viewingAngle : c.viewingAngle = 180

theorem reset_facing {c : Camera leakyConfig.cameraParams G}
    (h : c.locationRandomRange = ⟨(-990, 0), (-990, 0)⟩) : Ensures c.reset Facing := by
  refine (Camera.reset_still (rfl : (leakyConfig.cameraParams.rotationStep : ℚ) = 360) h).mono
    (fun c' hc' => ⟨hc'.range, ?_, hc'.orientation, ?_⟩)
  · rw [hc'.location]
    show clipTerrain (12 / 10 * ((1 : ℚ) : ℝ)) ⟨((-990 : ℚ) : ℝ), ((0 : ℚ) : ℝ)⟩ = _
    norm_num [clipTerrain, TERRAIN_SIZE]
  · obtain ⟨g, hangle⟩ := hc'.viewingAngle
    rw [hangle]
    exact uniform_maxViewingAngle g

omit [RandomState G] in
/-- Without a turn it goes on facing right, with the full sight range. -/
theorem Facing.simulate {c : Camera leakyConfig.cameraParams G} (h : Facing c) :
    Facing (c.simulate (0, 0)) ∧ (c.simulate (0, 0)).sightRange = 3000 := by
  have hview : (c.simulate (0, 0)).viewingAngle = 180 := by
    show Camera.clip ((180 : ℚ) : ℝ) ((180 : ℚ) : ℝ) _ = 180
    unfold Camera.clip
    norm_num
  refine ⟨⟨h.range, h.location, ?_, hview⟩, ?_⟩
  · show normalizeAngle (c.orientation + Camera.clip (-((360 : ℚ) : ℝ)) ((360 : ℚ) : ℝ) 0) = 0
    unfold Camera.clip
    rw [h.orientation]
    norm_num [normalizeAngle_zero]
  · show Camera.sightRangeOf leakyConfig.cameraParams (c.simulate (0, 0)).viewingAngle = 3000
    have harea : Camera.areaProduct leakyConfig.cameraParams = 180 * 3000 ^ 2 := by decide +kernel
    unfold Camera.sightRangeOf
    rw [hview, harea]
    push_cast
    rw [mul_div_cancel_left₀ _ (by norm_num), Real.sqrt_sq (by norm_num)]

omit [RandomState G] in
/-- It sees everything to its right. -/
theorem Facing.inSector {c : Camera leakyConfig.cameraParams G} (h : Facing c) {z : ℂ}
    (hright : -990 ≤ z.re) (hnear : ‖z - ⟨-990, 0⟩‖ ≤ 3000) :
    (c.simulate (0, 0)).InSector z := by
  obtain ⟨hfacing, hrange⟩ := h.simulate
  have hangle : |arctan2Deg (z - ⟨-990, 0⟩)| ≤ 90 := by
    have harg : |Complex.arg (z - ⟨-990, 0⟩)| ≤ Real.pi / 2 := by
      rw [Complex.abs_arg_le_pi_div_two_iff, Complex.sub_re]
      linarith
    unfold arctan2Deg rad2deg
    rw [abs_mul, abs_of_pos (div_pos (by norm_num) Real.pi_pos)]
    calc |Complex.arg (z - ⟨-990, 0⟩)| * (180 / Real.pi)
        ≤ Real.pi / 2 * (180 / Real.pi) :=
          mul_le_mul_of_nonneg_right harg (div_pos (by norm_num) Real.pi_pos).le
      _ = 90 := by
          have := Real.pi_ne_zero
          field_simp
          norm_num
  unfold Camera.InSector
  rw [hfacing.location, hrange, hfacing.orientation, hfacing.viewingAngle, zero_sub, abs_neg]
  refine ⟨hnear, ?_⟩
  have hmin := min_le_left |arctan2Deg (z - ⟨-990, 0⟩)| (360 - |arctan2Deg (z - ⟨-990, 0⟩)|)
  linarith

/-! ### The target -/

variable [SetOrder]

omit [RandomState G] in
/-- From the middle, a step that is not blocked by the camera ends where it is meant to. -/
theorem simulate_from_middle {discs : List Disc} (hdiscs : ∀ d ∈ discs, d = ⟨⟨-990, 0⟩, 1⟩)
    {target : Target leakyConfig.target G} (hlocation : target.location = 0)
    (hstep : 2000 ≤ target.stepSize) {z : ℂ} (hnear : ‖z‖ ≤ 2000) (hterrain : InTerrain z)
    (hfree : ¬ (⟨⟨-990, 0⟩, 1⟩ : Ball ℂ).Blocks z) :
    (target.simulate (Registry.empty.addObstacles discs) z).location = z := by
  have hout : ∀ d ∈ discs, d.radius ≤ ‖target.location - d.location‖ := by
    intro d hd
    rw [hdiscs d hd, hlocation, zero_sub, norm_neg]
    refine le_trans ?_ (Complex.abs_re_le_norm _)
    norm_num
  have hdesired : (target.desiredStep z).vector = z := by
    unfold Target.desiredStep
    rw [if_neg]
    · rfl
    · rw [Vector2D.norm_eq, Vector2D.ofVector_vector]
      linarith
  have hballs : ∀ b ∈ target.candidateBalls discs, ¬ b.Blocks z := by
    intro b hb
    obtain ⟨d, hd, rfl⟩ := List.mem_map.mp hb
    rw [hdiscs d (Registry.candidates_subset discs hd)]
    unfold Disc.ball
    rw [hlocation, sub_zero]
    exact hfree
  rw [target.simulate_location z discs hout, hdesired,
    Ball.deflectAll_of_not_blocks _ hballs, hlocation, zero_add, clipTerrain_of_inTerrain hterrain]

end

theorem sq_norm_warehouseLocation (w : Warehouse) : ‖warehouseLocation w‖ ^ 2 = 2 * 925 ^ 2 := by
  rw [Complex.sq_norm, Complex.normSq_apply]
  fin_cases w <;> norm_num [warehouseLocation, WAREHOUSES, TERRAIN_SIZE, WAREHOUSE_RADIUS]

theorem norm_warehouseLocation_le (w : Warehouse) : ‖warehouseLocation w‖ ≤ 2000 := by
  have hsq := sq_norm_warehouseLocation w
  nlinarith [norm_nonneg (warehouseLocation w)]

theorem inTerrain_warehouseLocation (w : Warehouse) : InTerrain (warehouseLocation w) := by
  fin_cases w <;> constructor <;>
    norm_num [warehouseLocation, WAREHOUSES, TERRAIN_SIZE, WAREHOUSE_RADIUS, abs_le]

theorem inWarehouse_warehouseLocation (w : Warehouse) :
    inWarehouse (warehouseLocation w) w = true := by
  unfold inWarehouse
  norm_num [WAREHOUSE_RADIUS, TERRAIN_SIZE]

/-- The camera is not between the middle and a warehouse. -/
theorem not_blocks_warehouse (w : Warehouse) :
    ¬ (⟨⟨-990, 0⟩, 1⟩ : Ball ℂ).Blocks (warehouseLocation w) := by
  rintro ⟨-, hoffset, -⟩
  have hsq := sq_norm_warehouseLocation w
  have hne : warehouseLocation w ≠ 0 := by
    intro hzero
    rw [hzero, norm_zero] at hsq
    norm_num at hsq
  have hinner : (inner ℝ (⟨-990, 0⟩ : ℂ) (warehouseLocation w)) ^ 2 = (990 * 925) ^ 2 := by
    rw [← dot_eq_inner]
    fin_cases w <;> norm_num [dot, warehouseLocation, WAREHOUSES, TERRAIN_SIZE, WAREHOUSE_RADIUS]
  have hcenter : ‖(⟨-990, 0⟩ : ℂ)‖ ^ 2 = 990 ^ 2 := by
    rw [Complex.sq_norm, Complex.normSq_apply]
    norm_num
  have hfar := Ball.offset_sq ⟨⟨-990, 0⟩, 1⟩ hne
  unfold Ball.along at hfar
  rw [div_pow, hinner, hsq, hcenter] at hfar
  have hnonneg := Ball.offset_nonneg ⟨⟨-990, 0⟩, 1⟩ (warehouseLocation w)
  have hlt : Ball.offset ⟨⟨-990, 0⟩, 1⟩ (warehouseLocation w) < 1 := hoffset
  nlinarith

/-! ### Waiting in the middle -/

section

variable {G V : Type} [RandomState G] [SetOrder]

/-- Nothing has been delivered yet, the targets wait in the middle in the sight of the camera,
and the bounties are at most `bounty`. -/
structure Waiting (bounty : ℕ) (e : Env leakyConfig G V) : Prop where
  consistent : ∃ total, e.Consistent total
  cameras : ∀ c, Facing (e.cameras c)
  target : ∀ t, (e.targets t).location = 0 ∧ 2000 ≤ (e.targets t).stepSize
  goal : ∀ t, e.cargo.targetGoals t ≠ none
  bounty_le : ∀ t, e.cargo.bounties t ≤ bounty
  delayed : e.delayedTargetTeamEpisodeReward = 0
  delivered : e.cargo.numDeliveredCargoes = 0

/-- After a step the cameras are those that have been turned. -/
theorem step_cameras {cfg : Config} {reg : Registry} {self self' : Env cfg G V}
    {cameraJointAction : Fin cfg.numCameras → ℝ × ℝ} {targetJointAction : Fin cfg.numTargets → ℂ}
    {result : StepResult cfg}
    (h : self.step reg cameraJointAction targetJointAction = .ok (result, self'))
    (c : Fin cfg.numCameras) : self'.cameras c
      = { (self.cameras c).simulate (cameraJointAction c) with rng := (self'.cameras c).rng } := by
  obtain ⟨seen, hseen, h⟩ := bind_eq_ok.mp h
  obtain ⟨s, -, h⟩ := bind_eq_ok.mp h
  cases h
  exact (updateView_ensures _ _ hseen).cameras c

/-- A target that goes to a point in the sight of the camera is charged. -/
theorem Waiting.step {bounty : ℕ} {e : Env leakyConfig G V} (h : e.Waiting bounty)
    {discs : List Disc} (hdiscs : ∀ d ∈ discs, d = ⟨⟨-990, 0⟩, 1⟩)
    {z : Fin leakyConfig.numTargets → ℂ} (hnear : ∀ t, ‖z t‖ ≤ 2000) (hterrain : ∀ t, InTerrain (z t))
    (hfree : ∀ t, ¬ (⟨⟨-990, 0⟩, 1⟩ : Ball ℂ).Blocks (z t))
    (hsector : ∀ t, -990 ≤ (z t).re ∧ ‖z t - ⟨-990, 0⟩‖ ≤ 3000) :
    ∃ result e' s,
      e.step (Registry.empty.addObstacles discs) (fun _ => (0, 0)) z = .ok (result, e')
        ∧ Stepped z (Registry.empty.addObstacles discs) result e e' s
        ∧ (∀ c, Facing (e'.cameras c))
        ∧ (∀ t, (e'.targets t).location = z t ∧ 2000 ≤ (e'.targets t).stepSize)
        ∧ ∀ t, (e.cargo.chargeBounties e'.trackedBits).bounties t ≤ (bounty - 1 : ℕ) := by
  obtain ⟨total, hconsistent⟩ := h.consistent
  obtain ⟨⟨result, e'⟩, hstep, htracked⟩ := step_transparent rfl leakyConfig_scales.2.2
    (Registry.empty.addObstacles discs) hconsistent.valid (fun _ => (0, 0)) z
  obtain ⟨s, hs⟩ := step_stepped hconsistent.valid hstep
  have hmoved : ∀ t, ((e.targets t).simulate (Registry.empty.addObstacles discs) (z t)).location
      = z t := fun t => simulate_from_middle hdiscs (h.target t).1 (h.target t).2 (hnear t)
        (hterrain t) (hfree t)
  refine ⟨result, e', s, hstep, hs, fun c => ?_, fun t => ?_, fun t => ?_⟩
  · rw [step_cameras hstep c]
    exact { (h.cameras c).simulate.1 with }
  · rw [hs.targets t]
    exact ⟨hmoved t, (h.target t).2⟩
  · have hbit : e'.trackedBits t = true := by
      refine (htracked t).mpr ⟨⟨0, Nat.one_pos⟩, ?_⟩
      rw [hmoved t]
      exact (h.cameras _).inSector (hsector t).1 (hsector t).2
    show max (e.cargo.bounties t - if e'.trackedBits t then 1 else 0) 0 ≤ _
    rw [if_pos hbit]
    have := h.bounty_le t
    omega

/-- **Every step in the middle costs a unit of the bounty.** -/
theorem Waiting.stay {bounty : ℕ} {e : Env leakyConfig G V} (h : e.Waiting bounty)
    {discs : List Disc} (hdiscs : ∀ d ∈ discs, d = ⟨⟨-990, 0⟩, 1⟩) :
    ∃ call e', Next e call e' ∧ e'.Waiting (bounty - 1) := by
  obtain ⟨total, hconsistent⟩ := h.consistent
  obtain ⟨result, e', s, hstep, hs, hcameras, htargets, hbounty⟩ :=
    h.step (z := fun _ => 0) hdiscs (fun _ => by norm_num)
      (fun _ => by constructor <;> norm_num [TERRAIN_SIZE])
      (fun _ hblocks => hblocks.ne_zero (by
        show (1 : ℝ) ≤ ‖(⟨-990, 0⟩ : ℂ)‖
        refine le_trans ?_ (Complex.abs_re_le_norm _)
        norm_num) rfl)
      (fun _ => by
        refine ⟨by norm_num, ?_⟩
        rw [zero_sub, norm_neg, Complex.norm_eq_sqrt_sq_add_sq]
        exact Real.sqrt_le_iff.mpr ⟨by norm_num, by norm_num⟩)
  -- the middle is in no warehouse
  have hstays : ∀ t, e.cargo.delivers e'.inside t = false := by
    intro t
    unfold Cargo.delivers
    split
    · unfold inside
      rw [(htargets t).1]
      exact inWarehouse_eq_false (by norm_num) _
    · rfl
  have hkept : ∀ t, Cargo.SameLoad (e.cargo.chargeBounties e'.trackedBits) e'.cargo t := fun t =>
    (hs.assigned.kept t (h.goal t) (hstays t)).trans (hs.alike.sameLoad t)
  refine ⟨_, e', .step hstep, ⟨total, hs.consistent hconsistent⟩, hcameras, htargets, ?_, ?_, ?_, ?_⟩
  · intro t
    rw [(hkept t).goal]
    exact h.goal t
  · intro t
    rw [(hkept t).bounty]
    exact hbounty t
  · rw [hs.delayedReward, h.delayed, hs.assigned.delayedReward, zero_add]
    refine Finset.sum_eq_zero (fun t _ => ?_)
    unfold Cargo.delayedPayment
    rw [if_neg (by rw [Cargo.delivers_chargeBounties, hstays]; exact Bool.false_ne_true)]
  · rw [hs.alike.delivered, hs.assigned.delivered, h.delivered, zero_add]
    refine Finset.sum_eq_zero (fun t _ => ?_)
    unfold Cargo.delivery
    rw [hstays]
    rfl

/-- So after some time nothing is left of it. -/
theorem Waiting.exhaust {discs : List Disc} (hdiscs : ∀ d ∈ discs, d = ⟨⟨-990, 0⟩, 1⟩) :
    ∀ {bounty : ℕ} {e : Env leakyConfig G V}, e.Waiting bounty →
      ∃ calls e', Run Next e calls e' ∧ e'.Waiting 0 := by
  intro bounty
  induction bounty with
  | zero => exact fun h => ⟨[], _, Run.nil, h⟩
  | succ bounty ih =>
      intro e h
      obtain ⟨call, e', hnext, h'⟩ := h.stay hdiscs
      obtain ⟨calls, e'', hrun, h''⟩ := ih h'
      exact ⟨[call] ++ calls, e'', (Run.single hnext).trans hrun, h''⟩

/-- **Then the delivery costs the freight.** -/
theorem Waiting.deliver {e : Env leakyConfig G V} (h : e.Waiting 0)
    {discs : List Disc} (hdiscs : ∀ d ∈ discs, d = ⟨⟨-990, 0⟩, 1⟩) :
    ∃ call e', Next e call e' ∧ e'.meanTransportRate < 0 := by
  obtain ⟨total, hconsistent⟩ := h.consistent
  choose goal hgoal using fun t => Option.ne_none_iff_exists'.mp (h.goal t)
  obtain ⟨result, e', s, hstep, hs, hcameras, htargets, hbounty⟩ :=
    h.step (z := fun t => warehouseLocation (goal t)) hdiscs
      (fun t => norm_warehouseLocation_le _) (fun t => inTerrain_warehouseLocation _)
      (fun t => not_blocks_warehouse _)
      (fun t => by
        constructor
        · have hterrain := (abs_le.mp (inTerrain_warehouseLocation (goal t)).1).1
          generalize goal t = w
          fin_cases w <;> norm_num [warehouseLocation, WAREHOUSES, TERRAIN_SIZE, WAREHOUSE_RADIUS]
        · refine (norm_sub_le _ _).trans ?_
          have hcenter : ‖(⟨-990, 0⟩ : ℂ)‖ = 990 := by
            rw [Complex.norm_eq_sqrt_sq_add_sq]
            norm_num
          rw [hcenter]
          linarith [norm_warehouseLocation_le (goal t)])
  have hdelivers : ∀ t, e.cargo.delivers e'.inside t = true := by
    intro t
    unfold Cargo.delivers
    rw [hgoal]
    unfold inside
    rw [(htargets t).1]
    exact inWarehouse_warehouseLocation _
  have hvalid : (e.cargo.chargeBounties e'.trackedBits).Valid leakyConfig :=
    Cargo.valid_chargeBounties hconsistent.valid
  -- the freight of a cargo is one, its bounty was two, and nothing of the bounty is left
  have hpaid : ∀ t, (e.cargo.chargeBounties e'.trackedBits).delayedPayment leakyConfig e'.inside t
      < 0 := by
    intro t
    obtain ⟨weight, hw⟩ := hvalid.carries (hgoal t)
    have hcharged : (e.cargo.chargeBounties e'.trackedBits).delivers e'.inside t = true :=
      hdelivers t
    refine (Cargo.delayedPayment_neg_iff hcharged).mpr ?_
    unfold Cargo.Overdrawn
    have hpos := hw.pos
    have hzero := hbounty t
    rw [hw.freight, hw.weight_eq, leakyConfig_scales.1, leakyConfig_scales.2.1]
    omega
  have hworth : ∀ t, 0 < e.cargo.delivery e'.inside t := by
    intro t
    obtain ⟨weight, hw⟩ := hconsistent.valid.carries (hgoal t)
    unfold Cargo.delivery
    rw [if_pos (hdelivers t), hw.weight_eq]
    exact hw.pos
  have hsome : (Finset.univ : Finset (Fin leakyConfig.numTargets)).Nonempty :=
    ⟨⟨0, Nat.one_pos⟩, Finset.mem_univ _⟩
  have hdelayed : e'.delayedTargetTeamEpisodeReward < 0 := by
    rw [hs.delayedReward, h.delayed, hs.assigned.delayedReward, zero_add]
    exact Finset.sum_neg (fun t _ => hpaid t) hsome
  have hdelivered : 0 < e'.cargo.numDeliveredCargoes := by
    rw [hs.alike.delivered, hs.assigned.delivered, h.delivered, zero_add]
    exact Finset.sum_pos (fun t _ => hworth t) hsome
  refine ⟨_, e', .step hstep, ?_⟩
  rw [(step_seen hstep).2]
  unfold transportRate
  rw [if_pos hdelivered]
  refine div_neg_of_neg_of_pos (by exact_mod_cast hdelayed) ?_
  exact_mod_cast mul_pos leakyConfig.rewardScale_pos hdelivered

/-! ### From a new environment -/

omit [SetOrder] in
theorem initCamera_facing : Ensures
    (Camera.init leakyConfig.cameraParams (leakyConfig.cameraParams.placement.box 0)
      : Except Error (Camera leakyConfig.cameraParams G)) Facing := by
  intro c hc
  unfold Camera.init at hc
  split at hc
  · exact reset_facing rfl c hc
  · cases hc

/-- The camera of the leaky configuration is put where its box is, and faces right. -/
noncomputable def facing : EntityInvariant leakyConfig G := ⟨Facing, fun _ => True, fun _ => True⟩

theorem facing_kept : (facing (G := G)).KeptByReset where
  cameraRng _ _ h := { h with }
  cameraReset _ h := reset_facing h.range
  cameraObstacles _ _ h := { h with }
  targetRng _ _ _ := trivial
  targetCapacity _ _ _ := trivial
  targetReset _ _ := trivial
  obstacleRng _ _ _ := trivial
  obstacleReset _ _ _ := trivial
  obstacleZero _ _ := trivial

/-- After a reset of an environment whose camera faces right, the targets wait. -/
theorem reset_waiting {memory : Memory V} {self start : Env leakyConfig G V} {fuel : ℕ}
    {observations : Observations leakyConfig} {reg : Registry}
    (hinit : Env.init leakyConfig memory = .ok self) (hfacing : ∀ c, Facing (self.cameras c))
    (hreset : self.reset fuel none = .ok (observations, reg, start)) :
    (∃ bounty, start.Waiting bounty) ∧
      ∃ discs, (∀ d ∈ discs, d = ⟨⟨-990, 0⟩, 1⟩) ∧ reg = Registry.empty.addObstacles discs := by
  have hholds : facing.Holds start :=
    facing_kept.reset ⟨hfacing, fun _ => trivial, fun _ => trivial⟩ hreset
  obtain ⟨⟨placed, -, hready⟩, -, hdelayed, -⟩ := reset_ready hreset
  have htargets := fun t => reset_targets_at (z := (0, 0)) hinit
    (fun t => by
      have ht : (t : ℕ) = 0 := Nat.lt_one_iff.mp t.isLt
      rw [ht]
      rfl)
    (by constructor <;> norm_num [TERRAIN_SIZE]) hreset t
  constructor
  · refine ⟨∑ t, (start.cargo.bounties t).toNat, ⟨_, reset_consistent hreset⟩, hholds.cameras,
      fun t => ⟨?_, ?_⟩, hready.assigned rfl, fun t => ?_, hdelayed, hready.delivered⟩
    · -- it stands in the middle, where it has been placed
      rw [(htargets t).1]
      apply Complex.ext <;> norm_num
    · refine le_trans ?_ (htargets t).2.le_stepSize
      show (2000 : ℝ) ≤ ((4000 : ℚ) : ℝ) / 2
      norm_num
    · have hle : (start.cargo.bounties t).toNat ≤ ∑ t, (start.cargo.bounties t).toNat :=
        Finset.single_le_sum (f := fun t => (start.cargo.bounties t).toNat)
          (fun _ _ => Nat.zero_le _) (Finset.mem_univ t)
      omega
  · refine ⟨_, fun d hd => ?_, reset_registry hreset⟩
    rcases List.mem_append.mp hd with hd | hd
    · obtain ⟨o, -⟩ := List.mem_ofFn.mp hd
      exact o.elim0
    · obtain ⟨c, rfl⟩ := List.mem_ofFn.mp hd
      unfold Camera.disc
      rw [(hholds.cameras c).location]
      show (⟨⟨-990, 0⟩, ((1 : ℚ) : ℝ)⟩ : Disc) = _
      norm_num

end

/-- The leaky environment can be made, and its camera faces right. -/
theorem exists_leaky :
    letI := rotating
    ∃ self : Env leakyConfig (Fin 4) Unit,
      Env.init leakyConfig ⟨0, fun _ => ()⟩ = .ok self ∧ ∀ c, Facing (self.cameras c) := by
  let _ := rotating
  have hcameras : Returns (initAll (fun i => Camera.init (G := Fin 4) leakyConfig.cameraParams
      (leakyConfig.cameraParams.placement.box i)) leakyConfig.numCameras)
      (fun cameras => ∀ c, Facing (cameras c)) := by
    refine initAll_returns 1 (fun i hi => ?_)
    obtain rfl : i = 0 := Nat.lt_one_iff.mp hi
    obtain ⟨camera, hcamera, -⟩ := Camera.init_returns (G := Fin 4)
      (show (leakyConfig.cameraParams.minViewingAngle : ℚ) ≤ MAX_CAMERA_VIEWING_ANGLE by
        decide +kernel)
      (by decide +kernel) (leakyConfig.cameraParams.placement.box 0)
    exact ⟨camera, hcamera, initCamera_facing camera hcamera⟩
  obtain ⟨cameras, hok, hfacing⟩ := hcameras
  exact ⟨_, bind_eq_ok.mpr ⟨cameras, hok, rfl⟩, fun c => { hfacing c with }⟩

end Env

end Mate
