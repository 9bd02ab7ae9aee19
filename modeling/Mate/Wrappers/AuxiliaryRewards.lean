import Mate.Environment.State
import Mate.Library.Fallible
import Mathlib.Analysis.Complex.Trigonometric

set_option autoImplicit false

/-! # The soft coverage score

`AuxiliaryCameraRewards` and `AuxiliaryTargetRewards` reward the distance of a target to the
boundary of a camera. The boundary is a list of points: the breakpoints of the outer curve of the
camera between the edges of its field of view, and sixteen points of either edge. The distance to
the nearest one is divided by the radius of the incircle of the field of view, and it is negative
for a target that is not tracked.
-/

namespace Mate

/-! ## Arrays -/

/-- `x.min()` and `x.max()`: an empty array has neither. -/
noncomputable def reduceArray (name : String) (op : ℝ → ℝ → ℝ) : List ℝ → Except Error ℝ
  | [] => .error (.valueError
      ("zero-size array to reduction operation " ++ name ++ " which has no identity"))
  | x :: xs => .ok (xs.foldl op x)

/-- The entries of an array, computed one after the other. -/
def collectEntries {α : Type} : {n : ℕ} → (Fin n → Except Error α) → Except Error (Fin n → α)
  | 0, _ => .ok Fin.elim0
  | n + 1, entry => do
      let entries ← collectEntries (fun i : Fin n => entry i.castSucc)
      let last ← entry (Fin.last n)
      return @Fin.snoc n (fun _ => α) entries last

theorem collectEntries_eq_ok {α : Type} {n : ℕ} {entry : Fin n → Except Error α}
    {entries : Fin n → α} : collectEntries entry = .ok entries ↔ ∀ i, entry i = .ok (entries i) := by
  induction n with
  | zero => exact ⟨fun _ i => i.elim0, fun _ => congrArg Except.ok (funext (fun i => i.elim0))⟩
  | succ n ih =>
      constructor
      · intro h i
        obtain ⟨init, hinit, h⟩ := Fallible.bind_eq_ok.mp h
        obtain ⟨last, hlast, h⟩ := Fallible.bind_eq_ok.mp h
        cases h
        refine Fin.lastCases ?_ (fun j => ?_) i
        · rw [Fin.snoc_last, hlast]
        · rw [Fin.snoc_castSucc, ih.mp hinit j]
      · intro h
        refine Fallible.bind_eq_ok.mpr ⟨Fin.init entries, ih.mpr (fun i => h i.castSucc), ?_⟩
        refine Fallible.bind_eq_ok.mpr ⟨entries (Fin.last n), h (Fin.last n), ?_⟩
        exact congrArg Except.ok (Fin.snoc_init_self entries)

/-! ## The score of a camera -/

namespace AuxiliaryCameraRewards

section

variable {params : CameraConfig} {targetParams : TargetConfig} {G : Type}

/-- `dist_max`. -/
noncomputable def distMax (camera : Camera params G) : ℝ :=
  if camera.viewingAngle < 180 then
    camera.sightRange / (1 + 1 / sinDeg (camera.viewingAngle / 2))
  else camera.sightRange / 2

/-- `[phi] * 16` and `np.linspace(start=0.0, stop=rho, num=16, endpoint=False)`. -/
noncomputable def edgePoints (edge : ℝ × ℝ) : List (ℝ × ℝ) :=
  (linspaceOpen 0 edge.2 16).map (fun rho => (edge.1, rho))

/-- The angles `phis` and the radii `rhos` of the points that the distances are measured to. -/
noncomputable def boundaryPoints (camera : Camera params G) : Except Error (List (ℝ × ℝ)) := do
  let angleLeft := camera.orientation - camera.viewingAngle / 2
  let angleRight := camera.orientation + camera.viewingAngle / 2
  let samples ← camera.boundaryBetween angleLeft angleRight true
  match samples.head?, samples.getLast? with
  | some left, some right => .ok (edgePoints left ++ samples ++ edgePoints right)
  | _, _ => .error (.indexError "index 0 is out of bounds for axis 0 with size 0")

/-- `compute_soft_coverage_score`. -/
noncomputable def computeSoftCoverageScore (camera : Camera params G) {n : ℕ}
    (targets : Fin n → Target targetParams G) (trackedBits : Fin n → Bool) :
    Except Error (Fin n → ℝ) := do
  let points ← boundaryPoints camera
  collectEntries (fun t => do
    let direction := (targets t).location - camera.location
    let distances := points.map (fun p => ‖direction - polar2cartesian p.2 p.1‖)
    let dist ← reduceArray "minimum" min distances
    return (if trackedBits t then dist else -dist) / distMax camera)

end

/-- The score of an agent whose mask is `mask`: the sum over what it masks, and otherwise the
hyperbolic tangent of the best score. -/
noncomputable def softCoverageScore {n : ℕ} (mask : Fin n → Bool) (scores : Fin n → ℝ) :
    Except Error ℝ :=
  if ∃ i, mask i = true then .ok (∑ i, if mask i = true then scores i else 0)
  else do
    let best ← reduceArray "maximum" max (List.ofFn scores)
    return Real.tanh best

variable {cfg : Config} {G V : Type}

/-- `compute_soft_coverage_scores`. -/
noncomputable def computeSoftCoverageScores (env : Env cfg G V) :
    Except Error (Fin cfg.numCameras → Fin cfg.numTargets → ℝ) :=
  collectEntries (fun c =>
    computeSoftCoverageScore (env.cameras c) env.targets (env.cameraTargetViewMask c))

/-- The component `soft_coverage_score` of `step`, after the step of the environment. It is zero
when no coefficient asks for it. -/
noncomputable def softCoverageScores (requested : Bool) (env : Env cfg G V) :
    Except Error (Fin cfg.numCameras → ℝ) :=
  if requested then do
    let matrix ← computeSoftCoverageScores env
    collectEntries (fun c => softCoverageScore (env.cameraTargetViewMask c) (matrix c))
  else .ok (fun _ => 0)

end AuxiliaryCameraRewards

/-- The component `soft_coverage_score` of the step of `AuxiliaryTargetRewards`: the same for the
columns of the matrix. -/
noncomputable def AuxiliaryTargetRewards.softCoverageScores {cfg : Config} {G V : Type}
    (requested : Bool) (env : Env cfg G V) : Except Error (Fin cfg.numTargets → ℝ) :=
  if requested then do
    let matrix ← AuxiliaryCameraRewards.computeSoftCoverageScores env
    collectEntries (fun t => AuxiliaryCameraRewards.softCoverageScore
      (fun c => env.cameraTargetViewMask c t) (fun c => matrix c t))
  else .ok (fun _ => 0)

end Mate
