import Mate.Environment.Frame
import Mate.Library.Radial
import Mate.Library.Runs
import Mate.Wrappers.DiscreteActions

set_option autoImplicit false

/-! # The codec of discrete target actions

The factor of the grid takes the greatest coordinate of a point to its norm (`discreteActionGrid_eq`),
so that the square becomes the disc, point by point. Then no action is cut by `Target.simulate`, and
the nearest point of the grid is the point itself (`indicesOfNearestGridPoint_eq`): with a `reshape`
the codec would be exact. But `reverse_action` calls a shape, and raises.
-/

namespace Mate

open Fallible Radial Runs

/-! ## The grid -/

theorem pyMod_mem {x y : ℝ} (hy : 0 < y) : 0 ≤ pyMod x y ∧ pyMod x y < y := by
  have hfloor := (le_div_iff₀ hy).mp (Int.floor_le (x / y))
  have hceil := (div_lt_iff₀ hy).mp (Int.lt_floor_add_one (x / y))
  unfold pyMod
  constructor <;> linarith

section Grid

variable {levels : ℕ}

/-- The grid of a square whose rays are rescaled. -/
theorem discreteActionGrid_eq (levels : ℕ) (k : Fin (levels * levels)) :
    discreteActionGrid levels k = rescale maxSeminorm (normSeminorm ℝ ℂ) (uniformGrid levels k) := by
  set z := uniformGrid levels k with hz
  set turned := Complex.arg z / Real.pi + 1 / 4 with hturned
  set φ := Real.pi * (pyMod turned (1 / 2) - 1 / 4) with hφ
  have hpi := Real.pi_pos
  obtain ⟨hlow, hhigh⟩ := pyMod_mem (x := turned) (show (0 : ℝ) < 1 / 2 by norm_num)
  -- the angle, less some right angles
  have hangle : Complex.arg z = φ + ⌊turned / (1 / 2)⌋ * (Real.pi / 2) := by
    have harg : Complex.arg z = Real.pi * (turned - 1 / 4) := by
      rw [hturned, add_sub_cancel_right, mul_div_cancel₀ _ hpi.ne']
    rw [hφ, pyMod, harg]
    ring
  have hhalf : |φ| ≤ Real.pi / 4 := by
    rw [hφ, abs_mul, abs_of_pos hpi]
    have habs : |pyMod turned (1 / 2) - 1 / 4| ≤ 1 / 4 := abs_le.mpr ⟨by linarith, by linarith⟩
    linarith [mul_le_mul_of_nonneg_left habs hpi.le]
  have hbound : squareBound z = 1 / Real.cos φ := rfl
  rw [← cos_smul_eq_rescale hangle hhalf, discreteActionGrid, ← hz, hbound, Complex.ofReal_div,
    Complex.ofReal_one, div_div_eq_mul_div, div_one, mul_comm, Complex.real_smul]

theorem uniformGrid_injective (hlevels : 2 ≤ levels) : Function.Injective (uniformGrid levels) := by
  intro k k' h
  have hpos : 0 < levels - 1 := by omega
  have hre : (k : ℕ) % levels = k' % levels :=
    (linspaceAt_inj (by norm_num) hpos).mp (congrArg Complex.re h)
  have him : (k : ℕ) / levels = k' / levels :=
    (linspaceAt_inj (by norm_num) hpos).mp (congrArg Complex.im h)
  refine Fin.ext ?_
  calc (k : ℕ) = levels * (k / levels) + k % levels := (Nat.div_add_mod _ _).symm
    _ = levels * (k' / levels) + k' % levels := by rw [hre, him]
    _ = k' := Nat.div_add_mod _ _

theorem maxSeminorm_uniformGrid_le (hlevels : 2 ≤ levels) (k : Fin (levels * levels)) :
    maxSeminorm (uniformGrid levels k) ≤ 1 := by
  have hpos : 0 < levels - 1 := by omega
  have hmod : (k : ℕ) % levels ≤ levels - 1 := by
    have hlt := Nat.mod_lt (k : ℕ) (show 0 < levels by omega)
    omega
  have hdiv : (k : ℕ) / levels ≤ levels - 1 := by
    have hlt := Nat.div_lt_of_lt_mul k.isLt
    omega
  have hle : (-1 : ℝ) ≤ 1 := by norm_num
  exact max_le (abs_le.mpr (linspaceAt_mem hle hmod hpos)) (abs_le.mpr (linspaceAt_mem hle hdiv hpos))

/-- The norm of an action is the greatest coordinate of the point it comes from. -/
theorem norm_discreteActionGrid (levels : ℕ) (k : Fin (levels * levels)) :
    ‖discreteActionGrid levels k‖ = max |(uniformGrid levels k).re| |(uniformGrid levels k).im| := by
  rw [discreteActionGrid_eq]
  exact rescale_apply (fun _ => eq_zero_of_normSeminorm) (uniformGrid levels k)

theorem norm_discreteActionGrid_le (hlevels : 2 ≤ levels) (k : Fin (levels * levels)) :
    ‖discreteActionGrid levels k‖ ≤ 1 :=
  (norm_discreteActionGrid levels k).trans_le (maxSeminorm_uniformGrid_le hlevels k)

theorem discreteActionGrid_injective (hlevels : 2 ≤ levels) :
    Function.Injective (discreteActionGrid levels) := by
  have heq : discreteActionGrid levels
      = rescale maxSeminorm (normSeminorm ℝ ℂ) ∘ uniformGrid levels :=
    funext (discreteActionGrid_eq levels)
  rw [heq]
  exact (rescale_injective (fun _ => eq_zero_of_maxSeminorm) (fun _ => eq_zero_of_normSeminorm)).comp
    (uniformGrid_injective hlevels)

end Grid

/-! ## The nearest point -/

/-- What is on the grid is found again. -/
theorem argmin_norm_sub {points : ℕ} {grid : Fin points → ℂ} (hgrid : Function.Injective grid)
    (k : Fin points) :
    (List.finRange points).argmin (fun k' => ‖grid k - grid k'‖) = some k := by
  cases hmin : (List.finRange points).argmin (fun k' => ‖grid k - grid k'‖) with
  | none =>
      have hnil := List.argmin_eq_none.mp hmin
      exact absurd (List.mem_finRange k) (by simp [hnil])
  | some nearest =>
      have hle : ‖grid k - grid nearest‖ ≤ ‖grid k - grid k‖ :=
        List.le_of_mem_argmin (f := fun k' => ‖grid k - grid k'‖) (List.mem_finRange k) hmin
      rw [sub_self, norm_zero] at hle
      exact congrArg some (hgrid (sub_eq_zero.mp (norm_le_zero_iff.mp hle))).symm

theorem indicesOfNearestGridPoint_eq {n points : ℕ} {grid : Fin points → ℂ}
    (hgrid : Function.Injective grid) (rows : Fin n → Fin points) :
    indicesOfNearestGridPoint (fun i => grid (rows i)) grid = .ok ((List.finRange n).map rows) := by
  refine mapM_eq_ok (fun i _ => ?_)
  rw [argmin_norm_sub hgrid]

/-! ## The codec -/

namespace DiscreteTarget

variable {numTargets : ℕ} {α : Type} (w : DiscreteTarget numTargets)

theorem two_le : 2 ≤ w.levels := by
  have h := w.three_le
  omega

theorem normalizedActionGrid_injective : Function.Injective w.normalizedActionGrid :=
  discreteActionGrid_injective w.two_le

variable {w} {jointAction : List ℤ}

theorem action_eq_ok (h : w.Contains jointAction) (cameraJointAction : α) :
    w.action (cameraJointAction, jointAction)
      = .ok (cameraJointAction,
        fun t => (w.actionHigh t : ℂ) * w.normalizedActionGrid (h.row t)) := dif_pos h

/-- The rows are the numbers they were taken at. -/
theorem map_row (h : w.Contains jointAction) :
    (List.finRange numTargets).map (fun t => ((h.row t : ℕ) : ℤ)) = jointAction := by
  obtain rfl := h.length_eq
  refine List.ext_getElem (by simp) (fun i hi hi' => ?_)
  have hrange := h.mem_range jointAction[i] (List.getElem_mem hi')
  simp only [List.getElem_map, List.getElem_finRange, Contains.row]
  exact Int.toNat_of_nonneg hrange.1

/-- **The search would undo the action**, whatever the steps of the targets are. -/
theorem reverseActionBy_reshape (h : w.Contains jointAction) (cameraJointAction : α) :
    w.reverseActionBy reshape
        (cameraJointAction, fun t => (w.actionHigh t : ℂ) * w.normalizedActionGrid (h.row t))
      = .ok (cameraJointAction, jointAction) := by
  have hdivide : (fun t => (w.actionHigh t : ℂ) * w.normalizedActionGrid (h.row t) / w.actionHigh t)
      = fun t => w.normalizedActionGrid (h.row t) := by
    funext t
    exact mul_div_cancel_left₀ _ (Complex.ofReal_ne_zero.mpr (w.actionHigh_pos t).ne')
  refine bind_eq_ok.mpr ⟨_, rfl, ?_⟩
  dsimp only
  rw [hdivide, indicesOfNearestGridPoint_eq w.normalizedActionGrid_injective]
  show Except.ok (cameraJointAction, _) = _
  rw [List.map_map]
  exact congrArg (fun joint => Except.ok (cameraJointAction, joint)) (map_row h)

/-- The call of the shape comes first. -/
theorem reverseAction_raises (w : DiscreteTarget numTargets) (action : α × (Fin numTargets → ℂ)) :
    w.reverseAction action = .error (.typeError "'tuple' object is not callable") := rfl

/-- An action is not longer than the step of its target. -/
theorem norm_action_le (h : w.Contains jointAction) (t : Fin numTargets) :
    ‖(w.actionHigh t : ℂ) * w.normalizedActionGrid (h.row t)‖ ≤ w.actionHigh t := by
  have hpos := (w.actionHigh_pos t).le
  rw [norm_mul, Complex.norm_real, Real.norm_of_nonneg hpos]
  exact mul_le_of_le_one_right hpos (norm_discreteActionGrid_le w.two_le (h.row t))

/-- `Target.simulate` starts from the action itself. -/
theorem desiredStep_eq {params : TargetConfig} {G : Type} {target : Target params G} {action : ℂ}
    (h : ‖action‖ ≤ target.stepSize) :
    target.desiredStep action = Vector2D.ofVector target.location action :=
  if_neg (not_lt.mpr h)

/-! ## Episodes -/

section Episode

variable {cfg : Config} {G V : Type} [RandomState G] [SetOrder]

/-- `action_high` has the steps of the targets. -/
def Matches (w : DiscreteTarget cfg.numTargets) (e : Env cfg G V) : Prop :=
  ∀ t, w.actionHigh t = (e.targets t).stepSize

variable {w w' : DiscreteTarget cfg.numTargets} {e e' : Env cfg G V}

theorem reset_matches {fuel : ℕ} {seed : Option ℕ} {observations : Observations cfg} {reg : Registry}
    (h : w.reset fuel seed e = .ok (observations, reg, w', e')) : w'.Matches e' := by
  obtain ⟨⟨observations', reg', e''⟩, -, h⟩ := bind_eq_ok.mp h
  cases h
  exact fun t => rfl

theorem Matches.next (h : w.Matches e) {call : Env.Call cfg V} (hnext : Env.Next e call e') :
    w.Matches e' := by
  cases hnext with
  | step hstep =>
      obtain ⟨seen, s, hmoved, -, hfinish⟩ := Env.step_eq_ok hstep
      cases hfinish
      intro t
      show w.actionHigh t = (seen.targets t).stepSize
      rw [hmoved.targets t]
      exact h t
  | send messages => exact h
  | receive hreceive => exact h
  | write memory hmemory => exact h

/-- **In an episode** every action is a step that `Target.simulate` starts from. -/
theorem run_desiredStep_eq {fuel : ℕ} {seed : Option ℕ} {observations : Observations cfg}
    {reg : Registry} {start : Env cfg G V} {calls : List (Env.Call cfg V)}
    (hreset : w.reset fuel seed start = .ok (observations, reg, w', e))
    (hrun : Run Env.Next e calls e') {jointAction : List ℤ} (h : w'.Contains jointAction)
    (t : Fin cfg.numTargets) :
    (e'.targets t).desiredStep ((w'.actionHigh t : ℂ) * w'.normalizedActionGrid (h.row t))
      = Vector2D.ofVector (e'.targets t).location
          ((w'.actionHigh t : ℂ) * w'.normalizedActionGrid (h.row t)) := by
  have hmatches : w'.Matches e' :=
    hrun.invariant (fun e => w'.Matches e) (reset_matches hreset) (fun _ _ _ h hnext => h.next hnext)
  exact desiredStep_eq ((norm_action_le h t).trans_eq (hmatches t))

end Episode

/-! ## Round trips -/

theorem action_bind_reverseAction (h : w.Contains jointAction) (cameraJointAction : α) :
    (w.action (cameraJointAction, jointAction) >>= w.reverseAction)
      = .error (.typeError "'tuple' object is not callable") := by
  rw [action_eq_ok h]
  exact reverseAction_raises w (cameraJointAction, fun t =>
    (w.actionHigh t : ℂ) * w.normalizedActionGrid (h.row t))

/-- **The codec of discrete target actions**: no two points of the grid are one action, no action is
cut, and the nearest points are the actions themselves. But `reverse_action` raises on all of them. -/
theorem discreteTarget_codec (w : DiscreteTarget numTargets) (cameraJointAction : α)
    {jointAction : List ℤ} (h : w.Contains jointAction) :
    Function.Injective w.normalizedActionGrid ∧
      (∀ k, ‖w.normalizedActionGrid k‖
          = max |(uniformGrid w.levels k).re| |(uniformGrid w.levels k).im| ∧
        ‖w.normalizedActionGrid k‖ ≤ 1) ∧
      (∃ rows, w.action (cameraJointAction, jointAction) = .ok (cameraJointAction, rows) ∧
        (∀ (t : Fin numTargets) (params : TargetConfig) (G : Type) (target : Target params G),
          target.stepSize = w.actionHigh t →
          target.desiredStep (rows t) = Vector2D.ofVector target.location (rows t)) ∧
        w.reverseActionBy reshape (cameraJointAction, rows) = .ok (cameraJointAction, jointAction)) ∧
      (w.action (cameraJointAction, jointAction) >>= w.reverseAction)
        = .error (.typeError "'tuple' object is not callable") := by
  refine ⟨w.normalizedActionGrid_injective, fun k => ⟨norm_discreteActionGrid w.levels k,
    norm_discreteActionGrid_le w.two_le k⟩, ⟨_, action_eq_ok h cameraJointAction, ?_,
    reverseActionBy_reshape h cameraJointAction⟩, action_bind_reverseAction h cameraJointAction⟩
  intro t params G target hstep
  exact desiredStep_eq ((norm_action_le h t).trans_eq hstep.symm)

/-- Two targets, one of them half as fast. -/
def mixedSteps : DiscreteTarget 2 where
  levels := 5
  three_le := by norm_num
  odd := rfl
  actionHigh := ![10, 5]
  actionHigh_pos := by
    intro t
    fin_cases t <;> norm_num

theorem mixedSteps_contains : mixedSteps.Contains [0, 24] where
  length_eq := rfl
  mem_range := by
    intro a ha
    rcases List.mem_pair.mp ha with rfl | rfl <;> simp [mixedSteps]

theorem discreteTarget_codec_mixedSteps :
    (mixedSteps.action ((), [0, 24]) >>= mixedSteps.reverseAction)
      = .error (.typeError "'tuple' object is not callable") :=
  (discreteTarget_codec mixedSteps () mixedSteps_contains).2.2.2

/-- The two corners of the grid are not decoded. -/
theorem reverseAction_not_inverse : ¬ ∀ jointAction, mixedSteps.Contains jointAction →
    (mixedSteps.action ((), jointAction) >>= mixedSteps.reverseAction) = .ok ((), jointAction) := by
  intro hinverse
  have hok := hinverse [0, 24] mixedSteps_contains
  rw [action_bind_reverseAction mixedSteps_contains] at hok
  cases hok

end DiscreteTarget

end Mate
