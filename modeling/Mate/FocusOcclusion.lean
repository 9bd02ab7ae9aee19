import Mate.RayClipping
import Mate.Rllib.FocusCredit

set_option autoImplicit false

/-! # Occlusion in FOCUS and in the simulator

The learner takes a point to be occluded by a disc when the center of the disc is next to the sight
line and the line passes it at no more than the radius (`BlocksAt`), the simulator when it clips the
ray. Between points that are outside of the disc both look at the foot of the center
(`Ball.blocks_iff_foot`), unless the sight line only touches the disc.
-/

namespace Mate.Rllib.Focus

open Ball

/-! ## Visibility with any `eps` -/

section Visibility

/-- `Blocks` for a given `eps`. -/
def BlocksAt (eps : ℝ) (camera point : ℂ) (obstacle : ℂ × ℝ) : Prop :=
  let ray := point - camera
  let obsRel := obstacle.1 - camera
  let rayLenSq := ray.re ^ 2 + ray.im ^ 2 + eps
  let proj := (obsRel.re * ray.re + obsRel.im * ray.im) / rayLenSq
  let offset := obsRel - proj * ray
  0 < proj ∧ proj < 1 ∧ √(offset.re ^ 2 + offset.im ^ 2 + eps) ≤ obstacle.2

open Classical in
/-- The point is in the sector of the camera. -/
noncomputable def inSectorAt (eps : ℝ) (camera : CameraFov) (point : ℂ) : ℝ :=
  let rel := point - camera.position
  let dist := √(rel.re ^ 2 + rel.im ^ 2 + eps)
  let bearing := Complex.arg rel
  let angle := Complex.arg
    ⟨Real.cos (bearing - camera.orientation), Real.sin (bearing - camera.orientation)⟩
  if dist ≤ camera.sightRange ∧ |angle| ≤ camera.halfAngle then 1 else 0

open Classical in
/-- `_point_visibility` for a given `eps` and transmittance. -/
noncomputable def pointVisibilityAt (eps transmittance : ℝ) (camera : CameraFov)
    (obstacles : List (ℂ × ℝ)) (point : ℂ) : ℝ :=
  if ∃ obstacle ∈ obstacles, BlocksAt eps camera.position point obstacle then
    inSectorAt eps camera point * transmittance
  else inSectorAt eps camera point

/-- `_grid_cell_visibility` for a given `eps` and transmittance. -/
noncomputable def gridCellVisibilityAt (eps transmittance : ℝ) (camera : CameraFov)
    (obstacles : List (ℂ × ℝ)) (cell : ℂ) : ℝ :=
  pointVisibilityAt eps transmittance camera obstacles cell

variable (cfg : FocusConfig) {n : ℕ} (geometry : Geometry n) (i : Fin n) (point : ℂ)

theorem pointVisibility_eq_at : pointVisibility cfg geometry i point
    = pointVisibilityAt cfg.eps cfg.obstacleTransmittance (geometry.cameras i) geometry.obstacles
        point := rfl

theorem gridCellVisibility_eq_at : gridCellVisibility cfg geometry i point
    = gridCellVisibilityAt cfg.eps cfg.obstacleTransmittance (geometry.cameras i) geometry.obstacles
        point := rfl

end Visibility

/-! ## One disc -/

section Disc

/-- The disc as seen from the camera. -/
noncomputable def seenFrom (camera : ℂ) (obstacle : ℂ × ℝ) : Ball ℂ :=
  Disc.ball ⟨obstacle.1, obstacle.2⟩ camera

/-- `Obstacle.obstruct` shortens the ray from the camera to the point. -/
def Shortens (camera point : ℂ) (obstacle : ℂ × ℝ) : Prop :=
  let ray := Vector2D.ofVector camera (point - camera)
  (Disc.obstruct ⟨obstacle.1, obstacle.2⟩ ray false false).norm < ray.norm

/-- Neither end of the sight line is inside of the disc or on it, and the line does not touch it. -/
structure Generic (camera point : ℂ) (obstacle : ℂ × ℝ) : Prop where
  camera_outside : obstacle.2 < ‖obstacle.1 - camera‖
  point_outside : obstacle.2 < ‖obstacle.1 - point‖
  not_tangent : ¬ (seenFrom camera obstacle).Touches (point - camera)

variable {camera point : ℂ} {obstacle : ℂ × ℝ}

/-- The test of the learner, by the foot of the center. -/
theorem blocksAt_zero_iff (hne : point - camera ≠ 0) :
    BlocksAt 0 camera point obstacle ↔ 0 < (seenFrom camera obstacle).along (point - camera) ∧
      (seenFrom camera obstacle).along (point - camera) < ‖point - camera‖ ∧
      (seenFrom camera obstacle).offset (point - camera) ≤ obstacle.2 := by
  set b := seenFrom camera obstacle with hb
  set v := point - camera with hv
  have hpos : 0 < ‖v‖ := norm_pos_iff.mpr hne
  have hsq : ∀ z : ℂ, √(z.re ^ 2 + z.im ^ 2 + 0) = ‖z‖ := by
    intro z
    rw [add_zero, Complex.norm_eq_sqrt_sq_add_sq]
  have hproj : ((obstacle.1 - camera).re * v.re + (obstacle.1 - camera).im * v.im)
      / (v.re ^ 2 + v.im ^ 2 + 0) = b.along v / ‖v‖ := by
    have hlen : v.re ^ 2 + v.im ^ 2 + 0 = ‖v‖ * ‖v‖ := by
      rw [add_zero, ← sq, Complex.sq_norm, Complex.normSq_apply]
      ring
    have hdot : (obstacle.1 - camera).re * v.re + (obstacle.1 - camera).im * v.im
        = inner ℝ b.center v := dot_eq_inner _ _
    rw [hlen, hdot, along, div_div]
  have hfoot : ‖obstacle.1 - camera - ((b.along v / ‖v‖ : ℝ) : ℂ) * v‖ = b.offset v := by
    rw [← norm_along_smul_direction_sub b hne, ← div_norm_smul, Complex.real_smul, norm_sub_rev]
    rfl
  simp only [BlocksAt, ← hv, hproj, hsq, hfoot]
  rw [div_pos_iff_of_pos_right hpos, div_lt_one hpos]

open Classical in
/-- The test of the simulator. -/
theorem shortens_iff_blocks (hout : obstacle.2 ≤ ‖obstacle.1 - camera‖) (hne : point - camera ≠ 0) :
    Shortens camera point obstacle
      ↔ (seenFrom camera obstacle).Blocks (point - camera) := by
  set b := seenFrom camera obstacle with hb
  set d : Disc := ⟨obstacle.1, obstacle.2⟩ with hd
  set ray := Vector2D.ofVector camera (point - camera) with hray
  have hnorm : ray.norm = ‖point - camera‖ := ray.norm_eq
  have heq : d.obstruct ray false false
      = if b.Crossed (point - camera) ∧ b.entry (point - camera) < ray.norm then
          ray.setNorm (b.entry (point - camera))
        else ray := obstruct_eq d ray false false hout hne
  rw [blocks_iff hne, ← hnorm]
  show (d.obstruct ray false false).norm < ray.norm ↔ _
  rw [heq]
  split_ifs with hstop
  · have hshort := shortened_setNorm (hstop.1.entry_nonneg hne hout) hstop.2
    exact iff_of_true (hshort.norm.trans_lt hshort.lt) hstop
  · exact iff_of_false (lt_irrefl _) hstop

/-- **One disc**: the learner and the simulator agree. -/
theorem blocksAt_iff_shortens (h : Generic camera point obstacle) :
    BlocksAt 0 camera point obstacle ↔ Shortens camera point obstacle := by
  set ray := Vector2D.ofVector camera (point - camera) with hray
  set b := seenFrom camera obstacle with hb
  by_cases hne : point - camera = 0
  · -- a ray of no length is not shortened
    have hnorm : ray.norm = 0 := by
      rw [Vector2D.norm_eq, hray, Vector2D.ofVector_vector, hne, norm_zero]
    constructor
    · intro hblocks
      simp [BlocksAt, hne] at hblocks
    · intro hshort
      have hnonneg : 0 ≤ (Disc.obstruct ⟨obstacle.1, obstacle.2⟩ ray false false).norm := by
        rw [Vector2D.norm_eq]
        exact norm_nonneg _
      exact absurd hshort (not_lt.mpr (hnorm.le.trans hnonneg))
  have hend : b.radius < ‖(point - camera) - b.center‖ := by
    have hsub : (point - camera) - b.center = -(obstacle.1 - point) := by
      show (point - camera) - (obstacle.1 - camera) = _
      ring
    rw [hsub, norm_neg]
    exact h.point_outside
  rw [shortens_iff_blocks h.camera_outside.le hne, blocksAt_zero_iff hne,
    blocks_iff_foot hne h.camera_outside hend]
  constructor
  · rintro ⟨halong, hlt, hoff⟩
    refine ⟨halong, hlt, lt_of_le_of_ne hoff (fun heq => h.not_tangent ?_)⟩
    exact touches_of_offset_eq hne heq halong.le hlt.le
  · rintro ⟨halong, hlt, hoff⟩
    exact ⟨halong, hlt, hoff.le⟩

end Disc

/-! ## All discs -/

open Classical in
/-- **Occlusion agrees with the simulator**: a point is occluded exactly when some obstacle shortens
the ray to it, for sampled points and for the cells of a grid. -/
theorem visibility_agrees (transmittance : ℝ) (camera : CameraFov) (point : ℂ)
    (obstacles : List (ℂ × ℝ)) (h : ∀ o ∈ obstacles, Generic camera.position point o) :
    ((∃ o ∈ obstacles, BlocksAt 0 camera.position point o) ↔
      ∃ o ∈ obstacles, Shortens camera.position point o) ∧
    ∀ visibility ∈ [pointVisibilityAt, gridCellVisibilityAt],
      visibility 0 transmittance camera obstacles point
        = if ∃ o ∈ obstacles, Shortens camera.position point o then
            inSectorAt 0 camera point * transmittance
          else inSectorAt 0 camera point := by
  have hiff : (∃ o ∈ obstacles, BlocksAt 0 camera.position point o) ↔
      ∃ o ∈ obstacles, Shortens camera.position point o :=
    exists_congr (fun o => and_congr_right (fun ho => blocksAt_iff_shortens (h o ho)))
  refine ⟨hiff, fun visibility hvisibility => ?_⟩
  have heq : visibility = pointVisibilityAt := by
    rcases List.mem_pair.mp hvisibility with rfl | rfl
    · rfl
    · rfl
  rw [heq, pointVisibilityAt]
  simp only [hiff]

/-- A disc in the middle of the sight line. -/
theorem visibility_agrees_middle :
    (∃ o ∈ [((5 : ℂ), (1 : ℝ))], BlocksAt 0 0 10 o) ↔ ∃ o ∈ [((5 : ℂ), (1 : ℝ))], Shortens 0 10 o := by
  refine (visibility_agrees 0 ⟨0, 0, 20, 1⟩ 10 [(5, 1)] (fun o ho => ?_)).1
  rw [List.mem_singleton.mp ho]
  refine ⟨by norm_num, by norm_num, fun h => ?_⟩
  have hmiddle := h.2 (1 / 2) ⟨by norm_num, by norm_num⟩
  have hzero : ((1 / 2 : ℝ) • ((10 : ℂ) - 0) - (seenFrom 0 (5, 1)).center) = 0 := by
    rw [Complex.real_smul, seenFrom, Disc.ball]
    push_cast
    norm_num
  rw [hzero, norm_zero] at hmiddle
  exact absurd hmiddle (not_le.mpr one_pos)

end Mate.Rllib.Focus
