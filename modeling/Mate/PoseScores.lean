import Mate.Agents.HeuristicCamera
import Mate.Angles

set_option autoImplicit false

/-! # The scores of the poses of a camera

`calculate_scores` gives every pose of a camera a score for every point of a grid around it. No
division in it is by zero (`calculateScores?`), and a score is at most one: no point of a sector is
farther from its boundary than the incenter (`min_le_incircle`). Points out of the sector score
zero (`calculateScores_wellScaled`).
-/

namespace Mate

/-! ## Divisions -/

/-- `x / y`, if there is a quotient. -/
noncomputable def divide? (x y : ℝ) : Option ℝ := if y = 0 then none else some (x / y)

theorem divide?_of_ne {x y : ℝ} (h : y ≠ 0) : divide? x y = some (x / y) := if_neg h

open Classical in
/-- An array with the given entries, if there are all of them. -/
noncomputable def everywhere {ι α : Type} (f : ι → Option α) : Option (ι → α) :=
  if h : ∀ i, (f i).isSome then some (fun i => (f i).get (h i)) else none

theorem everywhere_eq_some {ι α : Type} {f : ι → Option α} {g : ι → α}
    (h : ∀ i, f i = some (g i)) : everywhere f = some g := by
  obtain rfl : f = fun i => some (g i) := funext h
  exact dif_pos (fun _ => rfl)

namespace ScoreTable

/-- A row of `state_mesh`, with its division checked. -/
noncomputable def pose? (maxSightRange minViewingAngle : ℝ) (s : Fin NUM_POSES) : Option Pose := do
  let orientation := linspaceAt (-180) 180 36 (s % 36)
  let viewingAngle := linspaceAt minViewingAngle MAX_CAMERA_VIEWING_ANGLE 20 (s / 36)
  let ratio ← divide? minViewingAngle viewingAngle
  return ⟨orientation, viewingAngle, maxSightRange * √ratio⟩

/-- `dist_max`. -/
noncomputable def distMax? (pose : Pose) : Option ℝ :=
  if pose.viewingAngle < 180 then do
    let inverse ← divide? 1 (sinDeg (pose.viewingAngle / 2))
    divide? pose.sightRange (1 + inverse)
  else divide? pose.sightRange 2

/-- The body of the loop, for one point of the grid. -/
noncomputable def score? (pose : Pose) (distMax rho phi : ℝ) : Option ℝ :=
  let halfViewingAngle := pose.viewingAngle / 2
  let deltaAngle := |normalizeAngle (phi - pose.orientation)|
  if rho ≤ pose.sightRange ∧ deltaAngle ≤ halfViewingAngle then do
    let dist2boundary1 := min rho (pose.sightRange - rho)
    let dist2boundary2 := rho * sinDeg (min (halfViewingAngle - deltaAngle) 90)
    let dist2boundary := max (min dist2boundary1 dist2boundary2) 0
    let scores1 ← divide? dist2boundary distMax
    let share ← divide? rho pose.sightRange
    return scores1 * (1 - share)
  else some 0

/-- `calculate_scores`, which gives up at a division by zero. -/
noncomputable def calculateScores? (maxSightRange minViewingAngle : ℝ) : Option ScoreTable := do
  let stateMesh ← everywhere (pose? maxSightRange minViewingAngle)
  let distMax ← everywhere (fun s => distMax? (stateMesh s))
  let scores ← everywhere (fun gs : Fin NUM_GRID_POINTS × Fin NUM_POSES =>
    score? (stateMesh gs.2) (distMax gs.2) (polar maxSightRange gs.1).1 (polar maxSightRange gs.1).2)
  return {
    stateMesh
    coordGrid := fun g => polar2cartesian (polar maxSightRange g).1 (polar maxSightRange g).2
    scores := fun g s => scores (g, s) }

end ScoreTable

/-! ## Sectors -/

/-- The points that a camera sees in a pose, in coordinates around it. -/
def Pose.sector (pose : Pose) : Set ℂ :=
  {z | ∃ rho delta, 0 ≤ rho ∧ rho ≤ pose.sightRange ∧ |delta| ≤ pose.viewingAngle / 2
    ∧ z = polar2cartesian rho (pose.orientation + delta)}

/-- The radius of the incircle of the sector. -/
noncomputable def Pose.incircle (pose : Pose) : ℝ :=
  pose.sightRange * sinDeg (pose.viewingAngle / 2) / (1 + sinDeg (pose.viewingAngle / 2))

/-- The poses of the mesh. -/
structure Pose.Proper (pose : Pose) : Prop where
  viewingAngle_pos : 0 < pose.viewingAngle
  viewingAngle_le : pose.viewingAngle ≤ 180
  sightRange_pos : 0 < pose.sightRange

/-! ## Sines of angles in degrees -/

theorem sinDeg_pos {x : ℝ} (h : 0 < x) (h' : x < 180) : 0 < sinDeg x := by
  have hpi := Real.pi_pos
  unfold sinDeg deg2rad
  apply Real.sin_pos_of_pos_of_lt_pi
  · positivity
  · calc x * (Real.pi / 180) < 180 * (Real.pi / 180) := by gcongr
      _ = Real.pi := by ring

theorem deg2rad_le_pi_div_two {x : ℝ} (hx : x ≤ 90) : deg2rad x ≤ Real.pi / 2 := by
  have hpi := Real.pi_pos
  unfold deg2rad
  calc x * (Real.pi / 180) ≤ 90 * (Real.pi / 180) := by gcongr
    _ = Real.pi / 2 := by ring

theorem neg_pi_div_two_le_deg2rad {x : ℝ} (hx : -90 ≤ x) : -(Real.pi / 2) ≤ deg2rad x := by
  have hpi := Real.pi_pos
  unfold deg2rad
  calc -(Real.pi / 2) = -90 * (Real.pi / 180) := by ring
    _ ≤ x * (Real.pi / 180) := by gcongr

theorem sinDeg_le_sinDeg {x y : ℝ} (hx : -90 ≤ x) (hxy : x ≤ y) (hy : y ≤ 90) :
    sinDeg x ≤ sinDeg y := by
  have hpi := Real.pi_pos
  apply Real.sin_le_sin_of_le_of_le_pi_div_two (neg_pi_div_two_le_deg2rad hx)
    (deg2rad_le_pi_div_two hy)
  unfold deg2rad
  gcongr

theorem sinDeg_90 : sinDeg 90 = 1 := by
  unfold sinDeg deg2rad
  rw [show (90 : ℝ) * (Real.pi / 180) = Real.pi / 2 by ring, Real.sin_pi_div_two]

/-! ## The incircle of a sector -/

/-- **The incircle bound.** The distances to the arc and to a ray are not both larger than the
radius of the incircle, where `s` is the sine of half the angle. -/
theorem min_le_incircle {rho range s : ℝ} (hs : 0 ≤ s) :
    min (range - rho) (rho * s) ≤ range * s / (1 + s) := by
  have hpos : 0 < 1 + s := by linarith
  rw [le_div_iff₀ hpos]
  have harc := min_le_left (range - rho) (rho * s)
  have hray := min_le_right (range - rho) (rho * s)
  calc min (range - rho) (rho * s) * (1 + s)
      = min (range - rho) (rho * s) + s * min (range - rho) (rho * s) := by ring
    _ ≤ rho * s + s * (range - rho) := by gcongr
    _ = range * s := by ring

namespace Pose.Proper

variable {pose : Pose}

theorem sin_pos (h : pose.Proper) : 0 < sinDeg (pose.viewingAngle / 2) :=
  sinDeg_pos (by linarith [h.viewingAngle_pos]) (by linarith [h.viewingAngle_le])

/-- Both formulas of `dist_max` give the radius of the incircle. -/
theorem distMax_eq (h : pose.Proper) :
    (if pose.viewingAngle < 180 then pose.sightRange / (1 + 1 / sinDeg (pose.viewingAngle / 2))
      else pose.sightRange / 2) = pose.incircle := by
  have hsin := h.sin_pos
  unfold Pose.incircle
  split
  · field_simp
    rw [add_comm]
  · have hhalf : pose.viewingAngle / 2 = 90 := by linarith [h.viewingAngle_le]
    rw [hhalf, sinDeg_90]
    norm_num

theorem distMax?_eq (h : pose.Proper) : ScoreTable.distMax? pose = some pose.incircle := by
  have hsin := h.sin_pos
  rw [← h.distMax_eq]
  unfold ScoreTable.distMax?
  split
  · have hsum : 1 + 1 / sinDeg (pose.viewingAngle / 2) ≠ 0 := by positivity
    rw [divide?_of_ne hsin.ne']
    exact divide?_of_ne hsum
  · exact divide?_of_ne two_ne_zero

theorem incircle_pos (h : pose.Proper) : 0 < pose.incircle := by
  have hsin := h.sin_pos
  have hrange := h.sightRange_pos
  unfold Pose.incircle
  positivity

/-- The divisions of a score. -/
theorem score?_eq (h : pose.Proper) (rho phi : ℝ) :
    ScoreTable.score? pose pose.incircle rho phi = some (ScoreTable.score pose rho phi) := by
  unfold ScoreTable.score? ScoreTable.score
  dsimp only
  rw [h.distMax_eq]
  split
  · rw [divide?_of_ne h.incircle_pos.ne', divide?_of_ne h.sightRange_pos.ne']
    rfl
  · rfl

/-- The distance to the boundary, as the source computes it, is at most that of the incenter. -/
theorem dist2boundary_le (h : pose.Proper) {rho delta : ℝ} (hrho : 0 ≤ rho) (hdelta : 0 ≤ delta)
    (hin : delta ≤ pose.viewingAngle / 2) :
    max (min (min rho (pose.sightRange - rho))
      (rho * sinDeg (min (pose.viewingAngle / 2 - delta) 90))) 0 ≤ pose.incircle := by
  apply max_le _ h.incircle_pos.le
  have hhalf : pose.viewingAngle / 2 ≤ 90 := by linarith [h.viewingAngle_le]
  have hsin : sinDeg (min (pose.viewingAngle / 2 - delta) 90) ≤ sinDeg (pose.viewingAngle / 2) := by
    apply sinDeg_le_sinDeg
    · exact le_min (by linarith) (by norm_num)
    · exact (min_le_left _ _).trans (by linarith)
    · exact hhalf
  calc min (min rho (pose.sightRange - rho))
        (rho * sinDeg (min (pose.viewingAngle / 2 - delta) 90))
      ≤ min (pose.sightRange - rho) (rho * sinDeg (pose.viewingAngle / 2)) := by
        apply min_le_min (min_le_right _ _)
        gcongr
    _ ≤ pose.incircle := min_le_incircle h.sin_pos.le

/-- **A score** lies between zero and one. -/
theorem score_mem (h : pose.Proper) {rho : ℝ} (hrho : 0 ≤ rho) (phi : ℝ) :
    ScoreTable.score pose rho phi ∈ Set.Icc 0 1 := by
  unfold ScoreTable.score
  dsimp only
  rw [h.distMax_eq]
  split
  · rename_i hin
    obtain ⟨hrange, hangle⟩ := hin
    have hdist := h.dist2boundary_le hrho (abs_nonneg _) hangle
    have hpos := h.incircle_pos
    have hshare : rho / pose.sightRange ∈ Set.Icc (0 : ℝ) 1 :=
      ⟨div_nonneg hrho h.sightRange_pos.le, (div_le_one h.sightRange_pos).mpr hrange⟩
    constructor
    · apply mul_nonneg
      · exact div_nonneg (le_max_right _ _) hpos.le
      · linarith [hshare.2]
    · apply mul_le_one₀
      · exact (div_le_one hpos).mpr hdist
      · linarith [hshare.2]
      · linarith [hshare.1]
  · exact ⟨le_rfl, zero_le_one⟩

end Pose.Proper

/-- Points that are not in the sector score nothing. -/
theorem ScoreTable.score_eq_zero {pose : Pose} {rho phi : ℝ} (hrho : 0 ≤ rho)
    (hout : polar2cartesian rho phi ∉ pose.sector) : score pose rho phi = 0 := by
  unfold score
  dsimp only
  apply if_neg
  rintro ⟨hrange, hangle⟩
  apply hout
  refine ⟨rho, normalizeAngle (phi - pose.orientation), hrho, hrange, hangle, ?_⟩
  have hturn : pose.orientation + normalizeAngle (phi - pose.orientation)
      = phi + 360 * (-turns (phi - pose.orientation) : ℤ) := by
    rw [normalizeAngle_eq]
    push_cast
    ring
  rw [hturn, polar2cartesian_add_turns]

/-! ## The whole table -/

namespace ScoreTable

variable {maxSightRange minViewingAngle : ℝ}

theorem pose_viewingAngle_mem (maxSightRange : ℝ) (hle : minViewingAngle ≤ 180)
    (s : Fin NUM_POSES) :
    (pose maxSightRange minViewingAngle s).viewingAngle ∈ Set.Icc minViewingAngle 180 := by
  have hs : (s : ℕ) < 36 * 21 := s.isLt
  have hk : (s : ℕ) / 36 ≤ 20 := by omega
  have hmax : ((MAX_CAMERA_VIEWING_ANGLE : ℚ) : ℝ) = 180 := by norm_num [MAX_CAMERA_VIEWING_ANGLE]
  show linspaceAt minViewingAngle MAX_CAMERA_VIEWING_ANGLE 20 (s / 36) ∈ _
  rw [hmax]
  exact linspaceAt_mem hle hk (by norm_num)

theorem pose_proper (hrange : 0 < maxSightRange) (hpos : 0 < minViewingAngle)
    (hle : minViewingAngle ≤ 180) (s : Fin NUM_POSES) :
    (pose maxSightRange minViewingAngle s).Proper := by
  obtain ⟨hlow, hhigh⟩ := pose_viewingAngle_mem maxSightRange hle s
  have hangle := hpos.trans_le hlow
  exact ⟨hangle, hhigh, mul_pos hrange (Real.sqrt_pos.mpr (div_pos hpos hangle))⟩

theorem polar_nonneg (hrange : 0 < maxSightRange) (g : Fin NUM_GRID_POINTS) :
    0 ≤ (polar maxSightRange g).1 := by
  have hk : (g : ℕ) % 41 ≤ 40 := by omega
  exact (linspaceAt_mem hrange.le hk (by norm_num)).1

/-- No division is by zero. -/
theorem calculateScores?_eq (hrange : 0 < maxSightRange) (hpos : 0 < minViewingAngle)
    (hle : minViewingAngle ≤ 180) : calculateScores? maxSightRange minViewingAngle
      = some (calculateScores maxSightRange minViewingAngle) := by
  have hproper := pose_proper hrange hpos hle
  have hmesh : everywhere (pose? maxSightRange minViewingAngle)
      = some (pose maxSightRange minViewingAngle) := by
    apply everywhere_eq_some
    intro s
    have hne : linspaceAt minViewingAngle MAX_CAMERA_VIEWING_ANGLE 20 (s / 36) ≠ 0 :=
      (hproper s).viewingAngle_pos.ne'
    unfold pose?
    dsimp only
    rw [divide?_of_ne hne]
    rfl
  have hdist : everywhere (fun s => distMax? (pose maxSightRange minViewingAngle s))
      = some (fun s => (pose maxSightRange minViewingAngle s).incircle) :=
    everywhere_eq_some (fun s => (hproper s).distMax?_eq)
  unfold calculateScores?
  rw [hmesh]
  dsimp only [bind, Option.bind]
  rw [hdist]
  dsimp only
  rw [everywhere_eq_some (fun gs : Fin NUM_GRID_POINTS × Fin NUM_POSES =>
    (hproper gs.2).score?_eq (polar maxSightRange gs.1).1 (polar maxSightRange gs.1).2)]
  rfl

/-- **The table of scores.** For all parameters of a camera, no division is by zero, every score
lies between zero and one, and points of the grid that are not in the sector of a pose score zero
in it. -/
theorem calculateScores_wellScaled (hrange : 0 < maxSightRange) (hpos : 0 < minViewingAngle)
    (hle : minViewingAngle ≤ 180) :
    ∃ table, calculateScores? maxSightRange minViewingAngle = some table ∧
      ∀ g s, table.scores g s ∈ Set.Icc 0 1
        ∧ (table.coordGrid g ∉ (table.stateMesh s).sector → table.scores g s = 0) := by
  refine ⟨_, calculateScores?_eq hrange hpos hle, fun g s => ⟨?_, ?_⟩⟩
  · exact (pose_proper hrange hpos hle s).score_mem (polar_nonneg hrange g) _
  · exact score_eq_zero (polar_nonneg hrange g)

theorem calculateScores_wellScaled_wide :
    ∃ table, calculateScores? 1000 30 = some table ∧
      ∀ g s, table.scores g s ∈ Set.Icc 0 1
        ∧ (table.coordGrid g ∉ (table.stateMesh s).sector → table.scores g s = 0) :=
  calculateScores_wellScaled (by norm_num) (by norm_num) (by norm_num)

end ScoreTable

end Mate
