import Mate.Accounts
import Mate.Environment.Places
import Mate.Library.Interference

set_option autoImplicit false

/-! # Several environments in one process

`Target.OBSTACLES` and `Target.SPATIAL_HASHMAP` are attributes of a class, so all environments of
a process share one `Registry`: every `reset` clears it and fills it with the discs of its own
environment, and every `step` finds what the last `reset` of any environment has left. An
environment is a part of the process in the sense of `Interference`; it behaves as if it were
alone as long as its targets find the discs of their own last reset around them
(`Env.alone_of_undisturbed`), and otherwise it need not (`Env.reset_interferes`).
-/

namespace Mate

open Fallible Runs Interference

namespace Env

variable {cfg : Config} {G V : Type} [RandomState G] [SetOrder]

/-! ## One environment -/

/-- A call of `reset` or `step`, with what can be seen of it from outside: what it returns, and
where it leaves the targets. -/
inductive Visible (cfg : Config)
  | reset (fuel : ℕ) (seed : Option ℕ) (observations : Observations cfg)
      (locations : Fin cfg.numTargets → ℂ)
  | step (cameraJointAction : Fin cfg.numCameras → ℝ × ℝ)
      (targetJointAction : Fin cfg.numTargets → ℂ) (result : StepResult cfg)
      (locations : Fin cfg.numTargets → ℂ)

/-- What is called, and with which arguments. -/
inductive Input (cfg : Config)
  | reset (fuel : ℕ) (seed : Option ℕ)
  | step (cameraJointAction : Fin cfg.numCameras → ℝ × ℝ)
      (targetJointAction : Fin cfg.numTargets → ℂ)

def Visible.input : Visible cfg → Input cfg
  | .reset fuel seed _ _ => .reset fuel seed
  | .step cameraJointAction targetJointAction _ _ => .step cameraJointAction targetJointAction

/-- `reset` clears the class attributes of `Target`. -/
def Visible.isReset : Visible cfg → Bool
  | .reset _ _ _ _ => true
  | .step _ _ _ _ => false

def locations (self : Env cfg G V) (t : Fin cfg.numTargets) : ℂ := (self.targets t).location

/-- A call that returns, on an environment and the class attributes of `Target`. -/
inductive Acts : Registry × Env cfg G V → Visible cfg → Registry × Env cfg G V → Prop
  | reset {reg reg' : Registry} {self self' : Env cfg G V} {fuel : ℕ} {seed : Option ℕ}
      {observations : Observations cfg} :
      self.reset fuel seed = .ok (observations, reg', self') →
      Acts (reg, self) (.reset fuel seed observations self'.locations) (reg', self')
  | step {reg : Registry} {self self' : Env cfg G V}
      {cameraJointAction : Fin cfg.numCameras → ℝ × ℝ}
      {targetJointAction : Fin cfg.numTargets → ℂ} {result : StepResult cfg} :
      self.step reg cameraJointAction targetJointAction = .ok (result, self') →
      Acts (reg, self) (.step cameraJointAction targetJointAction result self'.locations)
        (reg, self')

/-- The targets find the same discs around them. -/
def SameDiscs (self : Env cfg G V) (reg reg' : Registry) : Prop :=
  ∀ t, reg.candidates (self.targets t).location (self.targets t).stepSize
    = reg'.candidates (self.targets t).location (self.targets t).stepSize

/-- A step depends on the class attributes through these discs only. -/
theorem step_congr {self : Env cfg G V} {reg reg' : Registry} (h : self.SameDiscs reg reg')
    (cameraJointAction : Fin cfg.numCameras → ℝ × ℝ) (targetJointAction : Fin cfg.numTargets → ℂ) :
    self.step reg cameraJointAction targetJointAction
      = self.step reg' cameraJointAction targetJointAction := by
  have htargets : ∀ t, (self.targets t).simulate reg (targetJointAction t)
      = (self.targets t).simulate reg' (targetJointAction t) :=
    fun t => (self.targets t).simulate_congr _ (h t)
  simp only [step, simulate, htargets]

variable (cfg G V) in
/-- **An environment as a part of its process.** -/
def asPart : Part Registry (Env cfg G V) (Visible cfg) where
  act := Acts
  claims := Visible.isReset
  agrees self _ reg reg' := self.SameDiscs reg reg'
  agrees_refl _ _ _ _ := rfl
  act_claim := by
    intro reg self call reg' self' h hreset reg₂
    cases h with
    | reset h => exact .reset h
    | step h => cases hreset
  act_use := by
    intro reg self call reg' self' h hstep
    cases h with
    | reset h => cases hstep
    | step h =>
        refine ⟨rfl, fun reg₂ hsame => ?_⟩
        rw [step_congr hsame] at h
        exact .step h

/-- What a call shows and leaves is determined by its arguments. -/
theorem Acts.unique {s s₁ s₂ : Registry × Env cfg G V} {call₁ call₂ : Visible cfg}
    (h₁ : Acts s call₁ s₁) (h₂ : Acts s call₂ s₂) (hinput : call₁.input = call₂.input) :
    call₁ = call₂ ∧ s₁ = s₂ := by
  cases h₁ with
  | reset h₁ =>
      cases h₂ with
      | reset h₂ =>
          cases hinput
          rw [h₁] at h₂
          cases h₂
          exact ⟨rfl, rfl⟩
      | step h₂ => cases hinput
  | step h₁ =>
      cases h₂ with
      | reset h₂ => cases hinput
      | step h₂ =>
          cases hinput
          rw [h₁] at h₂
          cases h₂
          exact ⟨rfl, rfl⟩

/-! ## All of them -/

section

variable {ι : Type} [DecidableEq ι] (config : ι → Config)

/-- The environments of a process, with their own configurations, and the class attributes of
`Target`. -/
abbrev Process (G V : Type) : Type := Shared Registry (fun i => Env (config i) G V)

/-- A call on one of the environments. -/
abbrev ProcessStep : Process config G V → (Σ i, Visible (config i)) → Process config G V → Prop :=
  Step (fun i => asPart (config i) G V)

variable {config}

theorem processStep_reset {s : Process config G V} (i : ι) {fuel : ℕ} {seed : Option ℕ}
    {observations : Observations (config i)} {reg : Registry} {self : Env (config i) G V}
    (h : (s.parts i).reset fuel seed = .ok (observations, reg, self)) :
    ProcessStep config s ⟨i, .reset fuel seed observations self.locations⟩
      ⟨reg, Function.update s.left i reg, Function.update s.parts i self⟩ :=
  Step.act i _ (Acts.reset h)

theorem processStep_step {s : Process config G V} (i : ι)
    {cameraJointAction : Fin (config i).numCameras → ℝ × ℝ}
    {targetJointAction : Fin (config i).numTargets → ℂ} {result : StepResult (config i)}
    {self : Env (config i) G V}
    (h : (s.parts i).step s.cell cameraJointAction targetJointAction = .ok (result, self)) :
    ProcessStep config s ⟨i, .step cameraJointAction targetJointAction result self.locations⟩
      ⟨s.cell, s.left, Function.update s.parts i self⟩ :=
  Step.act i _ (Acts.step h)

/-- **An environment whose steps find its own discs is alone**: in every interleaving of the
calls on all environments, it shows what it shows when only its own calls are made. -/
theorem alone_of_undisturbed (i : ι) {start now : Process config G V}
    {calls : List (Σ i, Visible (config i))} (hstart : start.left i = start.cell)
    (hrun : Run (fun s call s' => ProcessStep config s call s'
      ∧ ∀ a b result locations, call = ⟨i, .step a b result locations⟩ →
          (s.parts i).SameDiscs s.cell (s.left i)) start calls now) :
    Run Acts (start.cell, start.parts i) (own i calls) (now.left i, now.parts i)
      ∧ ∀ calls' state, Run Acts (start.cell, start.parts i) calls' state →
          calls'.map Visible.input = (own i calls).map Visible.input → calls' = own i calls := by
  have hundisturbed : Run (fun s call s' => ProcessStep config s call s'
      ∧ Undisturbed (fun i => asPart (config i) G V) i s call) start calls now := by
    refine hrun.mono ?_
    rintro s call s' ⟨hstep, hsame⟩
    refine ⟨hstep, fun a hcall hclaims => ?_⟩
    cases a with
    | reset fuel seed observations locations => cases hclaims
    | step a b result locations => exact hsame a b result locations hcall
  have halone : Run Acts (start.cell, start.parts i) (own i calls) (now.left i, now.parts i) :=
    run_alone i hstart hundisturbed
  refine ⟨halone, fun calls' state hcalls' hinput => ?_⟩
  exact (Run.unique Visible.input (fun _ _ _ _ _ h₁ h₂ h => h₁.unique h₂ h) hcalls' halone hinput).1

/-- In particular, an environment is alone as long as no other one is reset. -/
theorem alone_of_no_other_reset (i : ι) {start now : Process config G V}
    {calls : List (Σ i, Visible (config i))} (hstart : start.left i = start.cell)
    (hrun : Run (fun s call s' => ProcessStep config s call s'
      ∧ (call.1 ≠ i → call.2.isReset = false)) start calls now) :
    Run Acts (start.cell, start.parts i) (own i calls) (now.left i, now.parts i) :=
  run_alone i hstart (run_undisturbed hstart hrun)

end

/-! ## Two environments, one with an obstacle -/

/-- The small environment with an obstacle to the right of its target. -/
def besideDisc : Config :=
  { soloConfig (0, 0) 10 (by decide) with
    obstacle := some ⟨⟨[(22, 0)], []⟩, some 20, none, some 0⟩ }

/-- One environment with the obstacle, one without. -/
def oneWithDisc : Bool → Config
  | true => besideDisc
  | false => soloConfig (0, 0) 10 (by decide)

/-- The environments of the process. -/
def both (a : Env besideDisc G V) (b : Env (soloConfig (0, 0) 10 (by decide)) G V) :
    (i : Bool) → Env (oneWithDisc i) G V
  | true => a
  | false => b

omit [RandomState G] [SetOrder] in
theorem update_both_true (a a' : Env besideDisc G V)
    (b : Env (soloConfig (0, 0) 10 (by decide)) G V) :
    Function.update (both a b) true a' = both a' b := by
  funext i
  cases i <;> rfl

omit [RandomState G] [SetOrder] in
theorem update_both_false (a : Env besideDisc G V)
    (b b' : Env (soloConfig (0, 0) 10 (by decide)) G V) :
    Function.update (both a b) false b' = both a b' := by
  funext i
  cases i <;> rfl

omit [RandomState G] [SetOrder] in
/-- The obstacle is far from the warehouses. -/
theorem besideDisc_free : ∀ b ∈ warehouseBodies,
    Body.overlap ⟨⟨((22 : ℚ) : ℝ), ((0 : ℚ) : ℝ)⟩, ((20 : ℚ) : ℝ), none⟩ b (minDistance besideDisc)
      = false := by
  intro b hb
  obtain ⟨w, -, rfl⟩ := List.mem_map.mp hb
  have hfar : (900 : ℝ) ≤ ‖(⟨((22 : ℚ) : ℝ), ((0 : ℚ) : ℝ)⟩ : ℂ) - warehouseLocation w‖ := by
    refine le_trans ?_ (Complex.abs_re_le_norm _)
    fin_cases w <;>
      norm_num [warehouseLocation, WAREHOUSES, TERRAIN_SIZE, WAREHOUSE_RADIUS, le_abs]
  have hsmall : ((20 : ℚ) : ℝ) + ((3 / 4 * WAREHOUSE_RADIUS : ℚ) : ℝ) + minDistance besideDisc
      ≤ 900 := by
    norm_num [WAREHOUSE_RADIUS, TERRAIN_SIZE, minDistance, besideDisc, soloConfig]
  refine decide_eq_false (not_lt.mpr (hsmall.trans ?_))
  refine hfar.trans (le_mul_of_one_le_right (norm_nonneg _) ?_)
  norm_num

omit [RandomState G] [SetOrder] in
/-- The environment with the obstacle, and its first reset. -/
theorem exists_besideDisc_reset :
    letI := rotating
    letI := SetOrder.increasing
    ∃ (self start : Env besideDisc (Fin 4) Unit) (observations : Observations besideDisc),
      self.reset 2 none = .ok (observations, Registry.empty.addObstacles [⟨⟨22, 0⟩, 20⟩], start)
        ∧ ∀ t, (start.targets t).location = 0 ∧ 5 ≤ (start.targets t).stepSize := by
  let _ := rotating
  let _ := SetOrder.increasing
  obtain ⟨self, hinit⟩ : ∃ self : Env besideDisc (Fin 4) Unit,
      Env.init besideDisc ⟨0, fun _ => ()⟩ = .ok self := ⟨_, rfl⟩
  -- the cargoes are dealt in one pass
  have hfill : ∀ (awaiting : Warehouse → ℤ) (g : Fin 4),
      Cargo.fillCargoes besideDisc 2 0 awaiting g ≠ .error .outOfFuel := by
    intro awaiting g
    have hpass : ∀ g : Fin 4, Cargo.allSend (Cargo.fillPass 4 0 g).1 = true := by decide
    exact Cargo.fillCargoes_ne_outOfFuel 1 0 awaiting g (hpass g)
  obtain ⟨⟨observations, reg, start⟩, hreset, -⟩ :=
    reset_returns (rfl : besideDisc.numCameras = 0) hfill none self
  have hobstacles : ∀ o : Fin besideDisc.numObstacles, (start.obstacles o).disc = ⟨⟨22, 0⟩, 20⟩ := by
    -- the obstacle is placed in a box of one point, inside of the terrain
    have hboxes : ∀ o < besideDisc.numObstacles,
        besideDisc.obstacleParams.placement.box o = ⟨(22, 0), (22, 0)⟩ := by
      intro o ho
      have hlt : o < 1 := ho
      rw [Nat.lt_one_iff.mp hlt]
      rfl
    have hinside : clipTerrain (12 / 10 * ((20 : ℚ) : ℝ)) ⟨((22 : ℚ) : ℝ), ((0 : ℚ) : ℝ)⟩
        = ⟨((22 : ℚ) : ℝ), ((0 : ℚ) : ℝ)⟩ := by
      norm_num [clipTerrain, TERRAIN_SIZE]
    intro o
    have hdisc := reset_obstacles_at (rfl : besideDisc.numCameras = 0)
      (rfl : besideDisc.numObstacles = 1) (init_obstacles_held hinit rfl rfl hboxes) hinside
      besideDisc_free hreset o
    rw [hdisc]
    norm_num
  have htargets : ∀ t, (start.targets t).location = 0 ∧ 5 ≤ (start.targets t).stepSize := by
    intro t
    have hboxes : ∀ t : Fin besideDisc.numTargets,
        besideDisc.target.placement.box t = ⟨(0, 0), (0, 0)⟩ :=
      soloConfig_box (0, 0) 10 (by decide)
    obtain ⟨hlocation, hheld⟩ := reset_targets_at hinit hboxes
      (by norm_num [InTerrain, TERRAIN_SIZE]) hreset t
    have hstep := hheld.le_stepSize
    refine ⟨?_, ?_⟩
    · rw [hlocation]
      apply Complex.ext <;> simp
    · refine le_trans ?_ hstep
      norm_num [besideDisc, soloConfig]
  have hreg : reg = Registry.empty.addObstacles [⟨⟨22, 0⟩, 20⟩] := by
    rw [reset_registry hreset]
    simp only [hobstacles]
    rfl
  rw [hreg] at hreset
  exact ⟨self, start, observations, hreset, htargets⟩

/-- A reset of the environment with the obstacle. -/
theorem both_reset_true {reg reg' : Registry} {left : Bool → Registry} {a a' : Env besideDisc G V}
    {b : Env (soloConfig (0, 0) 10 (by decide)) G V} {fuel : ℕ} {seed : Option ℕ}
    {observations : Observations besideDisc}
    (h : a.reset fuel seed = .ok (observations, reg', a')) :
    ProcessStep oneWithDisc ⟨reg, left, both a b⟩
      ⟨true, .reset fuel seed observations a'.locations⟩
      ⟨reg', Function.update left true reg', both a' b⟩ := by
  rw [← update_both_true a a' b]
  exact processStep_reset true h

/-- A reset of the other one. -/
theorem both_reset_false {reg reg' : Registry} {left : Bool → Registry} {a : Env besideDisc G V}
    {b b' : Env (soloConfig (0, 0) 10 (by decide)) G V} {fuel : ℕ} {seed : Option ℕ}
    {observations : Observations (soloConfig (0, 0) 10 (by decide))}
    (h : b.reset fuel seed = .ok (observations, reg', b')) :
    ProcessStep oneWithDisc ⟨reg, left, both a b⟩
      ⟨false, .reset fuel seed observations b'.locations⟩
      ⟨reg', Function.update left false reg', both a b'⟩ := by
  rw [← update_both_false a b b']
  exact processStep_reset false h

/-- A step of the environment with the obstacle. -/
theorem both_step_true {reg : Registry} {left : Bool → Registry} {a a' : Env besideDisc G V}
    {b : Env (soloConfig (0, 0) 10 (by decide)) G V}
    {cameraJointAction : Fin besideDisc.numCameras → ℝ × ℝ}
    {targetJointAction : Fin besideDisc.numTargets → ℂ} {result : StepResult besideDisc}
    (h : a.step reg cameraJointAction targetJointAction = .ok (result, a')) :
    ProcessStep oneWithDisc ⟨reg, left, both a b⟩
      ⟨true, .step cameraJointAction targetJointAction result a'.locations⟩
      ⟨reg, left, both a' b⟩ := by
  rw [← update_both_true a a' b]
  exact processStep_step true h

omit [RandomState G] [SetOrder] in
theorem alone_of_undisturbed_beside_disc :
    letI := rotating
    letI := SetOrder.increasing
    ∃ (start now : Process oneWithDisc (Fin 4) Unit)
      (calls : List (Σ i, Visible (oneWithDisc i))),
      calls.length = 3 ∧ start.left true = start.cell
        ∧ Run Acts (start.cell, start.parts true) (own true calls) (now.left true, now.parts true) := by
  let _ := rotating
  let _ := SetOrder.increasing
  obtain ⟨a, a₁, observationsA, hresetA, -⟩ := exists_besideDisc_reset
  obtain ⟨b, b₁, observationsB, regB, -, hresetB⟩ :=
    exists_solo_reset (0, 0) 10 (by decide) ⟨0, fun _ => ()⟩
  obtain ⟨⟨result, a₂⟩, hstep, -⟩ := step_returns (rfl : besideDisc.numCameras = 0)
    (Registry.empty.addObstacles [⟨⟨22, 0⟩, 20⟩]) (reset_consistent hresetA).valid
    (fun _ => (0, 0)) (fun _ => 5)
  -- the other environment is reset first, and not any more before the step
  set start : Process oneWithDisc (Fin 4) Unit :=
    ⟨Registry.empty, fun _ => Registry.empty, both a b⟩
  have hrun : ∃ calls now, calls.length = 3
      ∧ Run (fun s call s' => ProcessStep oneWithDisc s call s'
        ∧ ∀ a b result locations, call = ⟨true, .step a b result locations⟩ →
            (s.parts true).SameDiscs s.cell (s.left true)) start calls now := by
    refine ⟨_, _, ?_, ((Run.nil.snoc ⟨both_reset_false hresetB, ?_⟩).snoc
      ⟨both_reset_true hresetA, ?_⟩).snoc ⟨both_step_true hstep, ?_⟩⟩
    · rfl
    · exact fun _ _ _ _ _ _ => rfl
    · intro _ _ _ _ h
      cases h
    · intro _ _ _ _ h
      cases h
  obtain ⟨calls, now, hlength, hrun⟩ := hrun
  exact ⟨start, now, calls, hlength, rfl, (alone_of_undisturbed true rfl hrun).1⟩

omit [RandomState G] [SetOrder] in
/-- **A reset of another environment removes the obstacle**: with it in between, the target walks
to where it does not get when its environment is alone. -/
theorem reset_interferes :
    letI := rotating
    letI := SetOrder.increasing
    ∃ (start now : Process oneWithDisc (Fin 4) Unit) (calls : List (Σ i, Visible (oneWithDisc i)))
      (calls' : List (Visible besideDisc)) (alone : Registry × Env besideDisc (Fin 4) Unit),
      start.left true = start.cell ∧ Run (ProcessStep oneWithDisc) start calls now
        ∧ Run Acts (start.cell, start.parts true) calls' alone
        ∧ calls.map (fun call => (call.1, call.2.isReset))
          = [(true, true), (false, true), (true, false)]
        ∧ calls'.map Visible.input = [.reset 2 none, .step (fun _ => (0, 0)) (fun _ => 5)]
        ∧ calls'.map Visible.input = (own true calls).map Visible.input
        ∧ ∀ t : Fin besideDisc.numTargets, alone.2.locations t ≠ (now.parts true).locations t := by
  let _ := rotating
  let _ := SetOrder.increasing
  obtain ⟨a, a₁, observationsA, hresetA, htargets⟩ := exists_besideDisc_reset
  obtain ⟨b, b₁, observationsB, regB, -, hresetB⟩ :=
    exists_solo_reset (0, 0) 10 (by decide) ⟨0, fun _ => ()⟩
  have hregB : regB = Registry.empty.addObstacles [] := reset_registry hresetB
  have hvalid := (reset_consistent hresetA).valid
  -- the step, with the discs of the other environment and with its own
  obtain ⟨⟨result, a₂⟩, hstep, -⟩ := step_returns (rfl : besideDisc.numCameras = 0) regB hvalid
    (fun _ => (0, 0)) (fun _ => 5)
  obtain ⟨⟨result', a₃⟩, hstep', -⟩ := step_returns (rfl : besideDisc.numCameras = 0)
    (Registry.empty.addObstacles [⟨⟨22, 0⟩, 20⟩]) hvalid (fun _ => (0, 0)) (fun _ => 5)
  have hfree : ∀ t : Fin besideDisc.numTargets, (a₂.targets t).location = 5 := by
    intro t
    obtain ⟨s, hs⟩ := step_stepped hvalid hstep
    obtain ⟨hzero, hsize⟩ := htargets t
    have hfull : ((a₁.targets t).desiredStep 5).vector = 5 := by
      rw [Target.desiredStep, if_neg]
      · rfl
      · rw [not_lt, Vector2D.norm_eq, Vector2D.ofVector_vector]
        simpa using hsize
    have hlocation := (a₁.targets t).simulate_location 5 []
      (fun _ h => absurd h List.not_mem_nil)
    have hnone : (a₁.targets t).candidateBalls [] = [] := by
      refine List.eq_nil_iff_forall_not_mem.mpr (fun ball hball => ?_)
      obtain ⟨d, hd, -⟩ := List.mem_map.mp hball
      exact absurd (Registry.candidates_subset [] hd) List.not_mem_nil
    rw [hs.targets t, hregB, hlocation, hfull, hzero, zero_add, hnone]
    show clipTerrain 0 5 = 5
    exact clipTerrain_of_inTerrain (by norm_num [InTerrain, TERRAIN_SIZE])
  have hblocked : ∀ t : Fin besideDisc.numTargets,
      20 ≤ ‖(a₃.targets t).location - ⟨22, 0⟩‖ := by
    intro t
    obtain ⟨s, hs⟩ := step_stepped hvalid hstep'
    rw [hs.targets t]
    refine ((a₁.targets t).simulate_safe 5 [⟨⟨22, 0⟩, 20⟩] ?_ (List.pairwise_singleton _ _) ?_ ?_).2.2
      ⟨⟨22, 0⟩, 20⟩ (List.mem_singleton.mpr rfl)
    · intro d hd
      rw [List.mem_singleton.mp hd]
      norm_num [Disc.InTerrain, TERRAIN_SIZE]
    · rw [(htargets t).1]
      norm_num [InTerrain, TERRAIN_SIZE]
    · intro d hd
      rw [List.mem_singleton.mp hd, (htargets t).1, zero_sub, norm_neg]
      refine le_trans ?_ (Complex.abs_re_le_norm _)
      norm_num
  refine ⟨⟨Registry.empty, fun _ => Registry.empty, both a b⟩, _, _, _, _, rfl,
    ((Run.nil.snoc (both_reset_true hresetA)).snoc (both_reset_false hresetB)).snoc
      (both_step_true hstep),
    (Run.nil.snoc (Acts.reset hresetA)).snoc (Acts.step hstep'), rfl, rfl, rfl, ?_⟩
  intro t heq
  have hsame : (a₃.targets t).location = (a₂.targets t).location := heq
  have hinside := hblocked t
  rw [hsame, hfree t] at hinside
  have hdistance : (5 : ℂ) - ⟨22, 0⟩ = ((-17 : ℝ) : ℂ) := by
    apply Complex.ext <;> norm_num
  rw [hdistance, Complex.norm_real] at hinside
  norm_num at hinside

end Env

end Mate
