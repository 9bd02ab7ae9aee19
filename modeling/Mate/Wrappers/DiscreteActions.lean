import Mate.Agents.HeuristicCamera
import Mate.Environment.Dynamics

set_option autoImplicit false

/-! # Discrete actions

`DiscreteTarget` numbers the points of a square grid in the disc of the actions. It scales them by the
steps of the targets, which it reads when the environment is reset. `DiscreteCamera` numbers the
points of the square, and scales them by the steps of a turn and of a zoom.
-/

namespace Mate

/-! ## Grids -/

/-- Row `k` of the grid that `np.meshgrid` makes of `np.linspace(-1.0, +1.0, levels)`. -/
noncomputable def uniformGrid (levels : ℕ) (k : Fin (levels * levels)) : ℂ :=
  -- the first coordinate runs faster
  ⟨linspaceAt (-1) 1 (levels - 1) (k % levels), linspaceAt (-1) 1 (levels - 1) (k / levels)⟩

/-- `indices_of_nearest_grid_point`, of equally near points the first one. -/
noncomputable def indicesOfNearestGridPoint {n points : ℕ} (continuous : Fin n → ℂ)
    (grid : Fin points → ℂ) : Except Error (List (Fin points)) :=
  (List.finRange n).mapM (fun i =>
    match (List.finRange points).argmin (fun k => ‖continuous i - grid k‖) with
    | some k => .ok k
    | none => .error (.valueError "attempt to get argmin of an empty sequence"))

/-- How much farther from the origin the edge of the square is than the disc, in the direction of an
action. -/
noncomputable def squareBound (action : ℂ) : ℝ :=
  let angle := Complex.arg action
  1 / Real.cos (Real.pi * (pyMod (angle / Real.pi + 1 / 4) (1 / 2) - 1 / 4))

/-- `DiscreteTarget.discrete_action_grid`. -/
noncomputable def discreteActionGrid (levels : ℕ) (k : Fin (levels * levels)) : ℂ :=
  uniformGrid levels k / (squareBound (uniformGrid levels k) : ℂ)

/-! ## The wrapper -/

/-- A `DiscreteTarget` for so many targets. The constructor asserts what the proofs about the levels
say. Both entries of a row of `action_high` are the step of the target. -/
structure DiscreteTarget (numTargets : ℕ) where
  levels : ℕ
  three_le : 3 ≤ levels
  odd : levels % 2 = 1
  actionHigh : Fin numTargets → ℝ
  actionHigh_pos : ∀ t, 0 < actionHigh t

namespace DiscreteTarget

variable {numTargets : ℕ} {α : Type}

noncomputable def normalizedActionGrid (w : DiscreteTarget numTargets) :
    Fin (w.levels * w.levels) → ℂ :=
  discreteActionGrid w.levels

/-- `target_joint_action_space.contains`. -/
structure Contains (w : DiscreteTarget numTargets) (jointAction : List ℤ) : Prop where
  length_eq : jointAction.length = numTargets
  mem_range : ∀ a ∈ jointAction, 0 ≤ a ∧ a < ((w.levels * w.levels : ℕ) : ℤ)

/-- The row of the grid that the action of a target is the number of. -/
def Contains.row {w : DiscreteTarget numTargets} {jointAction : List ℤ} (h : w.Contains jointAction)
    (t : Fin numTargets) : Fin (w.levels * w.levels) :=
  ⟨(jointAction.get (t.cast h.length_eq.symm)).toNat, by
    have hrange := h.mem_range _ (List.get_mem jointAction (t.cast h.length_eq.symm))
    omega⟩

open Classical in
/-- `action`. -/
noncomputable def action (w : DiscreteTarget numTargets) (action : α × List ℤ) :
    Except Error (α × (Fin numTargets → ℂ)) :=
  if h : w.Contains action.2 then
    .ok (action.1, fun t => (w.actionHigh t : ℂ) * w.normalizedActionGrid (h.row t))
  else .error (.assertionError "Joint action outside given joint action space.")

/-- `array.shape(...)`. The shape of an array is a tuple. -/
def callShape {A B : Type} (_array : A) : Except Error B :=
  .error (.typeError "'tuple' object is not callable")

/-- `array.reshape(...)`, as in `DiscreteCamera`, of an array of that shape. -/
def reshape {A : Type} (array : A) : Except Error A := .ok array

/-- `reverse_action`, for an array of the shape that `action` returns, where `view` makes the rows of
the targets out of it. -/
noncomputable def reverseActionBy (w : DiscreteTarget numTargets)
    (view : (Fin numTargets → ℂ) → Except Error (Fin numTargets → ℂ))
    (action : α × (Fin numTargets → ℂ)) : Except Error (α × List ℤ) := do
  let continuous ← view action.2
  let rows ← indicesOfNearestGridPoint (fun t => continuous t / (w.actionHigh t : ℂ))
    w.normalizedActionGrid
  return (action.1, rows.map (fun k : Fin _ => ((k : ℕ) : ℤ)))

/-- `reverse_action`. -/
noncomputable def reverseAction (w : DiscreteTarget numTargets) (action : α × (Fin numTargets → ℂ)) :
    Except Error (α × List ℤ) :=
  w.reverseActionBy callShape action

section Reset

variable {cfg : Config} {G V : Type} [RandomState G]

/-- `reset`, where the environment is handed on with the class attributes of `Target`. -/
noncomputable def reset [SetOrder] (fuel : ℕ) (seed : Option ℕ) (w : DiscreteTarget cfg.numTargets)
    (e : Env cfg G V) :
    Except Error (Observations cfg × Registry × DiscreteTarget cfg.numTargets × Env cfg G V) := do
  let (observations, reg, e) ← e.reset fuel seed
  let w := { w with
    actionHigh := fun t => (e.targets t).stepSize
    actionHigh_pos := e.stepSize_pos }
  return (observations, reg, w, e)

end Reset

end DiscreteTarget

/-! ## Cameras -/

/-- A `DiscreteCamera` around an environment. The constructor asserts what the proofs say. -/
structure DiscreteCamera (cfg : Config) where
  levels : ℕ
  three_le : 3 ≤ levels
  odd : levels % 2 = 1
  numCameras_pos : 0 < cfg.numCameras

namespace DiscreteCamera

variable {cfg : Config} {α : Type}

/-- `action_high`, of a turn and of a zoom. -/
def actionHigh (_w : DiscreteCamera cfg) : ℝ × ℝ :=
  ((cfg.cameraParams.rotationStep : ℚ), (cfg.cameraParams.zoomingStep : ℚ))

noncomputable def normalizedActionGrid (w : DiscreteCamera cfg) : Fin (w.levels * w.levels) → ℂ :=
  uniformGrid w.levels

/-- `camera_joint_action_space.contains`. -/
structure Contains (w : DiscreteCamera cfg) (jointAction : List ℤ) : Prop where
  length_eq : jointAction.length = cfg.numCameras
  mem_range : ∀ a ∈ jointAction, 0 ≤ a ∧ a < ((w.levels * w.levels : ℕ) : ℤ)

/-- The row of the grid that the action of a camera is the number of. -/
def Contains.row {w : DiscreteCamera cfg} {jointAction : List ℤ} (h : w.Contains jointAction)
    (c : Fin cfg.numCameras) : Fin (w.levels * w.levels) :=
  ⟨(jointAction.get (c.cast h.length_eq.symm)).toNat, by
    have hrange := h.mem_range _ (List.get_mem jointAction (c.cast h.length_eq.symm))
    omega⟩

/-- The continuous action of a row of the grid. -/
noncomputable def continuous (w : DiscreteCamera cfg) (k : Fin (w.levels * w.levels)) : ℝ × ℝ :=
  (w.actionHigh.1 * (w.normalizedActionGrid k).re, w.actionHigh.2 * (w.normalizedActionGrid k).im)

open Classical in
/-- `action`. -/
noncomputable def action (w : DiscreteCamera cfg) (action : List ℤ × α) :
    Except Error ((Fin cfg.numCameras → ℝ × ℝ) × α) :=
  if h : w.Contains action.1 then .ok (fun c => w.continuous (h.row c), action.2)
  else .error (.assertionError "Joint action outside given joint action space.")

end DiscreteCamera

end Mate
