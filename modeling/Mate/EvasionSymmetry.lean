import Mate.Agents.GreedyCamera
import Mate.Angles
import Mate.RayClipping
import Mate.Library.PlaneReflection
import Mathlib.Analysis.Complex.Polynomial.Basic

set_option autoImplicit false

/-! # Symmetric evasion

A heuristic target drifts away from the center of the field of view of a camera. In a scene that
is reflected about a line through the target it is to drift the reflected way, and a camera is to
count when the target is in front of it, to the left or to the right (`InView`). The test of the
source is on the signed offset from the optical axis, so it is right just when no camera that is
near enough looks elsewhere (`symmetric_iff`).
-/

namespace Mate

open PlaneReflection

/-! ## Cameras as a target sees them -/

namespace StateBase

/-- The vector along which a camera looks, as long as it sees. -/
def sight (camera : CameraStatePublic) : ℂ := ⟨camera.entry 3, camera.entry 4⟩

/-- The state of a camera in a scene reflected about a line through `p`. -/
noncomputable def reflect (axis : Axis) (p : ℂ) (camera : CameraStatePublic) :
    CameraStatePublic where
  state := [(axis.reflectAt p camera.location).re, (axis.reflectAt p camera.location).im,
    camera.entry 2, (axis.reflect camera.sight).re, (axis.reflect camera.sight).im, camera.entry 5]
  index := camera.index
  length_state := rfl

variable (axis : Axis) (p : ℂ) (camera : CameraStatePublic)

@[simp] theorem reflect_location :
    (camera.reflect axis p).location = axis.reflectAt p camera.location := rfl
@[simp] theorem reflect_sight : (camera.reflect axis p).sight = axis.reflect camera.sight := rfl
@[simp] theorem reflect_viewingAngle :
    (camera.reflect axis p).viewingAngle = camera.viewingAngle := rfl

@[simp] theorem reflect_sightRange : (camera.reflect axis p).sightRange = camera.sightRange :=
  axis.norm_reflect camera.sight

end StateBase

/-! ## Offsets -/

namespace HeuristicTargetAgent

variable {state : TargetStatePrivate} {camera : CameraStatePublic}

/-- `angle_diff`. -/
noncomputable def angleDiff (state : TargetStatePrivate) (camera : CameraStatePublic) : ℝ :=
  normalizeAngle ((state.sub camera).angle - camera.orientation)

/-- The target is within 1.2 times the sight range. -/
def Near (state : TargetStatePrivate) (camera : CameraStatePublic) : Prop :=
  ‖state.location - camera.location‖ ≤ 12 / 10 * camera.sightRange

/-- 1.2 times the half viewing angle. -/
noncomputable def margin (camera : CameraStatePublic) : ℝ := 12 / 10 * (camera.viewingAngle / 2)

/-- The target is near and at most the margin off the optical axis, on either side. -/
def InView (state : TargetStatePrivate) (camera : CameraStatePublic) : Prop :=
  Near state camera ∧ |angleDiff state camera| ≤ margin camera

/-- The center of the field of view of a camera, and the radius of a circle in it. -/
noncomputable def fieldCenter (camera : CameraStatePublic) : Vector2D × ℝ :=
  let center := Vector2D.ofPolar camera.location
    (camera.sightRange / (1 + sinDeg (min (camera.viewingAngle / 2) 90))) camera.orientation
  (center, camera.sightRange - center.norm)

theorem cameraCenter_of_pos (h : Near state camera ∧ angleDiff state camera ≤ margin camera) :
    cameraCenter state camera = some (fieldCenter camera) := if_pos h

theorem cameraCenter_of_neg (h : ¬ (Near state camera ∧ angleDiff state camera ≤ margin camera)) :
    cameraCenter state camera = none := if_neg h

/-- The test of the source. -/
theorem isSome_cameraCenter : (cameraCenter state camera).isSome
    ↔ Near state camera ∧ angleDiff state camera ≤ margin camera := by
  by_cases hfront : Near state camera ∧ angleDiff state camera ≤ margin camera
  · rw [cameraCenter_of_pos hfront]
    exact iff_of_true rfl hfront
  · rw [cameraCenter_of_neg hfront]
    exact iff_of_false Bool.false_ne_true hfront

theorem abs_angleDiff_le (state : TargetStatePrivate) (camera : CameraStatePublic) :
    |angleDiff state camera| ≤ 180 :=
  abs_le.mpr ⟨le_normalizeAngle _, (normalizeAngle_lt _).le⟩

/-- A reflection turns the offset between two vectors over. -/
theorem normalizeAngle_reflect (axis : Axis) {v w : ℂ} (hv : v ≠ 0) (hw : w ≠ 0) :
    normalizeAngle (arctan2Deg (axis.reflect v) - arctan2Deg (axis.reflect w))
      = normalizeAngle (-(arctan2Deg v - arctan2Deg w)) := by
  apply normalizeAngle_eq_of_polar2cartesian
  rw [neg_sub, polar2cartesian_one_sub, polar2cartesian_one_sub,
    polar2cartesian_arctan2Deg 1 hv, polar2cartesian_arctan2Deg 1 hw,
    polar2cartesian_arctan2Deg 1 (axis.reflect_eq_zero.not.mpr hv),
    polar2cartesian_arctan2Deg 1 (axis.reflect_eq_zero.not.mpr hw)]
  simp only [Axis.norm_reflect, Complex.real_smul, map_mul, Complex.conj_ofReal]
  have hturn := axis.reflect_mul_conj_reflect v w
  linear_combination ((1 / ‖v‖ : ℝ) * (1 / ‖w‖ : ℝ) : ℂ) * hturn

section

variable (axis : Axis)

theorem near_reflect : Near state (camera.reflect axis state.location) ↔ Near state camera := by
  unfold Near
  rw [StateBase.reflect_location, StateBase.reflect_sightRange, Axis.sub_reflectAt,
    Axis.norm_reflect]

theorem angleDiff_reflect_eq : angleDiff state (camera.reflect axis state.location)
    = normalizeAngle (arctan2Deg (axis.reflect (state.location - camera.location))
      - arctan2Deg (axis.reflect camera.sight)) := by
  rw [← Axis.sub_reflectAt]
  rfl

/-- The target seen from the other side. -/
theorem angleDiff_reflect (hlocation : state.location ≠ camera.location)
    (hsight : camera.sight ≠ 0) : angleDiff state (camera.reflect axis state.location)
      = normalizeAngle (-((state.sub camera).angle - camera.orientation)) := by
  rw [angleDiff_reflect_eq]
  exact normalizeAngle_reflect axis (sub_ne_zero.mpr hlocation) hsight

end

/-- A camera that sees nothing is near only where the target stands, and shows no offset. -/
theorem angleDiff_of_sight_eq_zero (hnear : Near state camera) (hsight : camera.sight = 0) :
    state.location = camera.location ∧ angleDiff state camera = 0 := by
  have hrange : camera.sightRange = 0 := norm_eq_zero.mpr hsight
  unfold Near at hnear
  rw [hrange, mul_zero] at hnear
  have hlocation : state.location = camera.location :=
    sub_eq_zero.mp (norm_eq_zero.mp (le_antisymm hnear (norm_nonneg _)))
  refine ⟨hlocation, ?_⟩
  show normalizeAngle (arctan2Deg (state.location - camera.location) - arctan2Deg camera.sight) = 0
  rw [hlocation, hsight, sub_self, sub_self]
  exact normalizeAngle_of_mem (by norm_num) (by norm_num)

/-! ## Scenes -/

/-- What the evasion is computed from: the target, the greedy action with its noise, and the
cameras with their flags. Viewing angles are not negative, as the observation space says. -/
structure Scene where
  state : TargetStatePrivate
  noiseScale : ℝ
  action : ℂ
  cameras : List (CameraStatePublic × Bool)
  viewingAngle_nonneg : ∀ c ∈ cameras, 0 ≤ c.1.viewingAngle

namespace Scene

/-- `camera_centers`. -/
noncomputable def centers (scene : Scene) : List (Vector2D × ℝ) :=
  scene.cameras.filterMap
    (fun (camera, sensed) => if sensed then cameraCenter scene.state camera else none)

/-- The drift that is added to the action, if any. -/
noncomputable def drift (scene : Scene) : Option ℂ :=
  chosenDrift scene.state scene.noiseScale scene.action scene.centers

/-- The scene reflected about a line through the target, which stays where it is. -/
noncomputable def reflect (scene : Scene) (axis : Axis) : Scene where
  state := scene.state
  noiseScale := scene.noiseScale
  action := axis.reflect scene.action
  cameras := scene.cameras.map (fun c => (c.1.reflect axis scene.state.location, c.2))
  viewingAngle_nonneg := by
    intro c hc
    obtain ⟨c, hmem, rfl⟩ := List.mem_map.mp hc
    exact scene.viewingAngle_nonneg c hmem

/-- The cameras that count are those that have the target in view. -/
def Right (scene : Scene) : Prop :=
  ∀ camera, (camera, true) ∈ scene.cameras →
    ((cameraCenter scene.state camera).isSome ↔ InView scene.state camera)

/-- The right cameras count in the scene and in all of its reflections, and the drift is reflected
with the scene. -/
def Symmetric (scene : Scene) : Prop :=
  scene.Right ∧ ∀ axis : Axis, (scene.reflect axis).Right
    ∧ (scene.reflect axis).drift = scene.drift.map axis.reflect

/-- Every sensed camera that is near has the target in its margin. One that stands where the target
stands sees it at the angle zero, whatever the scene, so it has to look everywhere. -/
def Faced (scene : Scene) : Prop :=
  ∀ camera, (camera, true) ∈ scene.cameras → Near scene.state camera →
    |angleDiff scene.state camera| ≤ margin camera
      ∧ (scene.state.location = camera.location → camera.sight ≠ 0 → 180 ≤ margin camera)

variable {scene : Scene}

theorem mem_reflect {axis : Axis} {camera : CameraStatePublic} {sensed : Bool}
    (h : (camera, sensed) ∈ scene.cameras) :
    (camera.reflect axis scene.state.location, sensed) ∈ (scene.reflect axis).cameras :=
  List.mem_map.mpr ⟨(camera, sensed), h, rfl⟩

/-! ### Where all cameras face the target -/

theorem Faced.right (h : scene.Faced) : scene.Right := by
  intro camera hmem
  rw [isSome_cameraCenter]
  constructor
  · rintro ⟨hnear, -⟩
    exact ⟨hnear, (h camera hmem hnear).1⟩
  · rintro ⟨hnear, hoffset⟩
    exact ⟨hnear, (le_abs_self _).trans hoffset⟩

theorem Faced.reflect (h : scene.Faced) (axis : Axis) : (scene.reflect axis).Faced := by
  intro camera hcamera hnear
  obtain ⟨⟨original, sensed⟩, hmem, heq⟩ := List.mem_map.mp hcamera
  obtain ⟨rfl, rfl⟩ := Prod.mk.inj heq
  have hnear' : Near scene.state original := (near_reflect axis).mp hnear
  obtain ⟨hoffset, hthere⟩ := h original hmem hnear'
  have hmargin : margin (original.reflect axis scene.state.location) = margin original := rfl
  rw [hmargin]
  show |angleDiff scene.state (original.reflect axis scene.state.location)| ≤ _ ∧ _
  constructor
  · by_cases hsight : original.sight = 0
    · have hsight' : (original.reflect axis scene.state.location).sight = 0 :=
        axis.reflect_eq_zero.mpr hsight
      have hzero : angleDiff scene.state (original.reflect axis scene.state.location) = 0 :=
        (angleDiff_of_sight_eq_zero hnear hsight').2
      rw [hzero, abs_zero]
      exact (abs_nonneg _).trans hoffset
    · by_cases hlocation : scene.state.location = original.location
      · exact (abs_angleDiff_le _ _).trans (hthere hlocation hsight)
      · rw [angleDiff_reflect axis hlocation hsight, abs_normalizeAngle_neg]
        exact hoffset
  · intro hlocation hsight
    apply hthere
    · have hzero : axis.reflect (scene.state.location - original.location) = 0 := by
        rw [← Axis.sub_reflectAt]
        exact sub_eq_zero.mpr hlocation
      exact sub_eq_zero.mp (axis.reflect_eq_zero.mp hzero)
    · exact axis.reflect_eq_zero.not.mp hsight

/-! ### The drift -/

/-- Two circles of a field of view are mirror images. -/
def Mirrors (axis : Axis) (p : ℂ) (cr cr' : Vector2D × ℝ) : Prop :=
  cr'.1.endpoint = axis.reflectAt p cr.1.endpoint ∧ cr'.2 = cr.2

/-- Choosing by keys that agree, related lists give related elements. -/
theorem minBy_rel {α β : Type} {R : α → β → Prop} {key : α → ExtendedFloat}
    {key' : β → ExtendedFloat} (hkey : ∀ a b, R a b → key' b = key a) {l : List α} {l' : List β}
    (h : List.Forall₂ R l l') : Option.Rel R (minBy key l) (minBy key' l') := by
  classical
  cases h with
  | nil => exact .none
  | @cons a b rest rest' hab hrest =>
      unfold minBy
      refine .some ?_
      -- the best so far are related at every element of the rest
      induction hrest generalizing a b with
      | nil => exact hab
      | @cons c d rest rest' hcd hrest ih =>
          rw [List.foldl_cons, List.foldl_cons, hkey a b hab, hkey c d hcd]
          apply ih
          by_cases hless : (key c).Lt (key a)
          · rw [if_pos hless, if_pos hless]
            exact hcd
          · rw [if_neg hless, if_neg hless]
            exact hab

theorem dot_reflect (axis : Axis) (z w : ℂ) : dot (axis.reflect z) (axis.reflect w) = dot z w := by
  rw [dot_eq_inner, dot_eq_inner, Axis.inner_reflect]

theorem chosenDrift_reflect (axis : Axis) (state : TargetStatePrivate) (noiseScale : ℝ)
    (action : ℂ) {l l' : List (Vector2D × ℝ)}
    (h : List.Forall₂ (Mirrors axis state.location) l l') :
    chosenDrift state noiseScale (axis.reflect action) l'
      = (chosenDrift state noiseScale action l).map axis.reflect := by
  have haway : ∀ cr cr', Mirrors axis state.location cr cr' →
      state.location - cr'.1.endpoint = axis.reflect (state.location - cr.1.endpoint) := by
    intro cr cr' hmirrors
    rw [hmirrors.1, Axis.sub_reflectAt]
  have hkey : ∀ cr cr', Mirrors axis state.location cr cr' →
      floatRatio ‖state.location - cr'.1.endpoint‖ cr'.2
        = floatRatio ‖state.location - cr.1.endpoint‖ cr.2 := by
    intro cr cr' hmirrors
    rw [haway cr cr' hmirrors, Axis.norm_reflect, hmirrors.2]
  -- the distances are the same, so that the mirrored center is chosen
  have hmin := minBy_rel hkey h
  unfold chosenDrift
  generalize minBy _ l = best, minBy _ l' = best' at hmin ⊢
  cases hmin with
  | none => rfl
  | @some cr cr' hmirrors =>
      obtain ⟨center, radius⟩ := cr
      obtain ⟨center', radius'⟩ := cr'
      dsimp only
      rw [haway _ _ hmirrors, Axis.norm_reflect]
      set away := state.location - center.endpoint
      set bound := state.stepSize * noiseScale
      have hdrift : (if bound < ‖away‖ then (bound / ‖away‖) • axis.reflect away
          else axis.reflect away)
          = axis.reflect (if bound < ‖away‖ then (bound / ‖away‖) • away else away) := by
        split
        · rw [Axis.reflect_smul]
        · rfl
      rw [hdrift, dot_reflect, apply_ite (Option.map axis.reflect)]
      rfl

/-- The center of a field of view is on the optical axis. -/
theorem endpoint_fieldCenter (camera : CameraStatePublic) : (fieldCenter camera).1.endpoint
    = camera.location + (1 / (1 + sinDeg (min (camera.viewingAngle / 2) 90))) • camera.sight := by
  show camera.location + (Vector2D.ofPolar camera.location _ camera.orientation).vector = _
  rw [Vector2D.ofPolar_vector]
  congr 1
  by_cases hsight : camera.sight = 0
  · have hrange : camera.sightRange = 0 := norm_eq_zero.mpr hsight
    rw [hsight, hrange, zero_div, smul_zero, polar2cartesian_eq_smul, zero_smul]
  · have hrange : camera.sightRange ≠ 0 := norm_ne_zero_iff.mpr hsight
    have hpolar := polar2cartesian_arctan2Deg
      (camera.sightRange / (1 + sinDeg (min (camera.viewingAngle / 2) 90))) hsight
    refine hpolar.trans ?_
    show (camera.sightRange / _ / camera.sightRange) • camera.sight = _
    rw [div_right_comm, div_self hrange]

/-- It is reflected with the camera. -/
theorem fieldCenter_reflect (axis : Axis) (p : ℂ) (camera : CameraStatePublic) :
    Mirrors axis p (fieldCenter camera) (fieldCenter (camera.reflect axis p)) := by
  constructor
  · rw [endpoint_fieldCenter, endpoint_fieldCenter, StateBase.reflect_location,
      StateBase.reflect_sight, StateBase.reflect_viewingAngle, ← Axis.reflect_smul]
    unfold Axis.reflectAt
    rw [add_sub_right_comm, Axis.reflect_add, add_assoc]
  · show (camera.reflect axis p).sightRange - |(camera.reflect axis p).sightRange / _|
      = camera.sightRange - |camera.sightRange / _|
    rw [StateBase.reflect_sightRange, StateBase.reflect_viewingAngle]

/-- With a faced camera, its mirror image counts too. -/
theorem Faced.center_reflect (h : scene.Faced) (axis : Axis) {camera : CameraStatePublic}
    (hmem : (camera, true) ∈ scene.cameras) :
    Option.Rel (Mirrors axis scene.state.location) (cameraCenter scene.state camera)
      (cameraCenter scene.state (camera.reflect axis scene.state.location)) := by
  by_cases hnear : Near scene.state camera
  · have hnear' : Near scene.state (camera.reflect axis scene.state.location) :=
      (near_reflect axis).mpr hnear
    have hoffset := (le_abs_self _).trans (h camera hmem hnear).1
    have hoffset' : angleDiff scene.state (camera.reflect axis scene.state.location)
        ≤ margin (camera.reflect axis scene.state.location) :=
      (le_abs_self _).trans (h.reflect axis _ (mem_reflect hmem) hnear').1
    rw [cameraCenter_of_pos ⟨hnear, hoffset⟩, cameraCenter_of_pos ⟨hnear', hoffset'⟩]
    exact .some (fieldCenter_reflect axis _ camera)
  · rw [cameraCenter_of_neg (fun hfront => hnear hfront.1),
      cameraCenter_of_neg (fun hfront => hnear ((near_reflect axis).mp hfront.1))]
    exact .none

/-- The drift of a reflected scene. -/
theorem Faced.drift_reflect (h : scene.Faced) (axis : Axis) :
    (scene.reflect axis).drift = scene.drift.map axis.reflect := by
  apply chosenDrift_reflect
  refine List.rel_filterMap (R := fun c c' => Option.Rel (Mirrors axis scene.state.location)
    (if c.2 then cameraCenter scene.state c.1 else none)
    (if c'.2 then cameraCenter scene.state c'.1 else none)) (fun _ _ hrel => hrel) ?_
  apply List.forall₂_map_right_iff.mpr
  apply List.forall₂_same.mpr
  rintro ⟨camera, sensed⟩ hmem
  cases sensed with
  | false => exact .none
  | true => exact h.center_reflect axis hmem

/-! ### Where a camera does not -/

/-- A camera where the target stands can be turned so that it looks away. -/
theorem exists_axis_behind (hlocation : scene.state.location = camera.location)
    (hsight : camera.sight ≠ 0) : ∃ axis : Axis,
      angleDiff scene.state (camera.reflect axis scene.state.location) = -180 := by
  have hnorm : ‖camera.sight‖ ≠ 0 := norm_ne_zero_iff.mpr hsight
  obtain ⟨u, hu⟩ := IsAlgClosed.exists_pow_nat_eq (-camera.sight / ‖camera.sight‖) zero_lt_two
  have hunit : ‖u‖ = 1 := by
    have hsquare : ‖u‖ ^ 2 = 1 := by
      rw [← norm_pow, hu, norm_div, norm_neg, Complex.norm_real, norm_norm, div_self hnorm]
    exact (pow_eq_one_iff_of_nonneg (norm_nonneg u) two_ne_zero).mp hsquare
  refine ⟨⟨u, hunit⟩, ?_⟩
  have hturned : (⟨u, hunit⟩ : Axis).reflect camera.sight = ((-‖camera.sight‖ : ℝ) : ℂ) := by
    show u ^ 2 * (starRingEnd ℂ) camera.sight = _
    rw [hu, div_mul_eq_mul_div, neg_mul, Complex.mul_conj, Complex.normSq_eq_norm_sq]
    have hne : (‖camera.sight‖ : ℂ) ≠ 0 := Complex.ofReal_ne_zero.mpr hnorm
    push_cast
    field_simp
  have hback : arctan2Deg ((-‖camera.sight‖ : ℝ) : ℂ) = 180 := by
    have hpi := Real.pi_ne_zero
    unfold arctan2Deg rad2deg
    rw [Complex.arg_ofReal_of_neg (neg_lt_zero.mpr (norm_pos_iff.mpr hsight))]
    field_simp
  have hfront : arctan2Deg 0 = 0 := by
    unfold arctan2Deg rad2deg
    rw [Complex.arg_zero, zero_mul]
  rw [angleDiff_reflect_eq, hlocation, sub_self, Axis.reflect_zero, hturned, hback, hfront]
  exact (normalizeAngle_of_mem (by norm_num) (by norm_num)).trans (by norm_num)

/-- **The cameras that count are the right ones** in all reflections only when all are faced. -/
theorem Right.faced (h : scene.Right) (hreflect : ∀ axis : Axis, (scene.reflect axis).Right) :
    scene.Faced := by
  intro camera hmem hnear
  have hmargin : 0 ≤ margin camera := by
    have hwide := scene.viewingAngle_nonneg _ hmem
    unfold margin
    linarith
  -- a camera that passes the signed test passes the one of both sides
  have hscene : angleDiff scene.state camera ≤ margin camera →
      |angleDiff scene.state camera| ≤ margin camera := fun hle =>
    ((h camera hmem).mp (isSome_cameraCenter.mpr ⟨hnear, hle⟩)).2
  have hmirror : ∀ axis : Axis,
      angleDiff scene.state (camera.reflect axis scene.state.location) ≤ margin camera →
      |angleDiff scene.state (camera.reflect axis scene.state.location)| ≤ margin camera :=
    fun axis hle => ((hreflect axis _ (mem_reflect hmem)).mp
      (isSome_cameraCenter.mpr ⟨(near_reflect axis).mpr hnear, hle⟩)).2
  have hthere : scene.state.location = camera.location → camera.sight ≠ 0 →
      180 ≤ margin camera := by
    intro hlocation hsight
    obtain ⟨axis, hbehind⟩ := exists_axis_behind hlocation hsight
    have hback := hmirror axis
    rw [hbehind] at hback
    have h180 := hback (by linarith)
    norm_num at h180
    exact h180
  refine ⟨?_, hthere⟩
  by_cases hsight : camera.sight = 0
  · rw [(angleDiff_of_sight_eq_zero hnear hsight).2, abs_zero]
    exact hmargin
  by_cases hlocation : scene.state.location = camera.location
  · exact (abs_angleDiff_le _ _).trans (hthere hlocation hsight)
  rcases le_or_gt (angleDiff scene.state camera) (margin camera) with hle | hgt
  · exact hscene hle
  · -- the target is on the other side in a mirror image
    have habs : |angleDiff scene.state (camera.reflect ⟨1, norm_one⟩ scene.state.location)|
        = |angleDiff scene.state camera| := by
      rw [angleDiff_reflect _ hlocation hsight, abs_normalizeAngle_neg]
      rfl
    have hother : angleDiff scene.state (camera.reflect ⟨1, norm_one⟩ scene.state.location)
        ≤ margin camera := by
      have hpos : 0 < angleDiff scene.state camera := hmargin.trans_lt hgt
      have hfront : angleDiff scene.state camera ≠ -180 := by linarith
      rw [angleDiff_reflect _ hlocation hsight, normalizeAngle_neg hfront]
      show -angleDiff scene.state camera ≤ _
      linarith
    rw [← habs]
    exact hmirror _ hother

/-- **Symmetric evasion.** The right cameras count in a scene and in all of its reflections, and
the drift is reflected with the scene, if and only if every sensed camera within reach has the
target in its margin, to either side. -/
theorem symmetric_iff (scene : Scene) : scene.Symmetric ↔ scene.Faced := by
  constructor
  · rintro ⟨hright, hreflect⟩
    exact hright.faced (fun axis => (hreflect axis).1)
  · intro h
    exact ⟨h.right, fun axis => ⟨(h.reflect axis).right, h.drift_reflect axis⟩⟩

/-- A target below a camera that looks to the right with a viewing angle of 60 degrees. -/
noncomputable def aside : Scene where
  state := ⟨[0, -5, 0, 0, 20, 1, 0, 0, 0, 0, 0, 0, 0, 0], 0, rfl⟩
  noiseScale := 1 / 2
  action := 0
  cameras := [(⟨[0, 0, 1, 10, 0, 60], 0, rfl⟩, true)]
  viewingAngle_nonneg := by
    intro c hc
    rw [List.mem_singleton.mp hc]
    norm_num [StateBase.viewingAngle, StateBase.entry]

/-- It is ninety degrees off the optical axis, and the camera counts. -/
theorem not_symmetric_aside : ¬ aside.Symmetric := by
  rintro ⟨hright, -⟩
  set camera : CameraStatePublic := ⟨[0, 0, 1, 10, 0, 60], 0, rfl⟩ with hcamera
  have hmem : (camera, true) ∈ aside.cameras := List.mem_singleton.mpr rfl
  have haway : aside.state.location - camera.location = ((5 : ℝ) : ℂ) * -Complex.I := by
    apply Complex.ext <;> simp [aside, hcamera, StateBase.location, StateBase.entry]
  have hsight : camera.sight = ((10 : ℝ) : ℂ) := by
    apply Complex.ext <;> simp [hcamera, StateBase.sight, StateBase.entry]
  have hrange : camera.sightRange = 10 := by
    show ‖camera.sight‖ = 10
    rw [hsight, Complex.norm_real]
    norm_num
  have hmargin : margin camera = 36 := by
    norm_num [margin, hcamera, StateBase.viewingAngle, StateBase.entry]
  -- the target stands to the right of the camera
  have hdiff : angleDiff aside.state camera = -90 := by
    have hpi := Real.pi_ne_zero
    have hangle : arctan2Deg (((5 : ℝ) : ℂ) * -Complex.I) = -90 := by
      unfold arctan2Deg rad2deg
      rw [Complex.arg_real_mul _ (by norm_num), Complex.arg_neg_I]
      field_simp
      norm_num
    have horientation : arctan2Deg ((10 : ℝ) : ℂ) = 0 := by
      unfold arctan2Deg rad2deg
      rw [Complex.arg_ofReal_of_nonneg (by norm_num), zero_mul]
    show normalizeAngle (arctan2Deg (aside.state.location - camera.location)
      - arctan2Deg camera.sight) = -90
    rw [haway, hsight, hangle, horientation, sub_zero]
    exact normalizeAngle_of_mem (by norm_num) (by norm_num)
  have hnear : Near aside.state camera := by
    unfold Near
    rw [haway, hrange, norm_mul, Complex.norm_real, norm_neg, Complex.norm_I]
    norm_num
  have hcounts : (cameraCenter aside.state camera).isSome := by
    apply isSome_cameraCenter.mpr
    rw [hdiff, hmargin]
    exact ⟨hnear, by norm_num⟩
  obtain ⟨-, hoffset⟩ := (hright camera hmem).mp hcounts
  rw [hdiff, hmargin] at hoffset
  norm_num at hoffset

end Scene

/-! ## The scene of an agent -/

variable {G : Type}

/-- The scene that an agent with a greedy action finds in its observation. -/
noncomputable def sceneOf (self : GreedyTargetAgent G) (greedy : ℂ)
    (states : List (CameraStatePublic × Bool)) (h : ∀ c ∈ states, 0 ≤ c.1.viewingAngle) :
    Scene where
  state := self.state
  noiseScale := self.noiseScale
  action := greedy
  cameras := states
  viewingAngle_nonneg := h

/-- **What a heuristic target does**: its greedy action, with the drift of its scene. -/
theorem act_drift [RandomState G] [SetOrder] {self self' : GreedyTargetAgent G}
    {observation : List ℝ} {action : ℂ} (h : act self observation = .ok (action, self')) :
    ∃ greedy states, GreedyTargetAgent.act self observation = .ok (greedy, self')
      ∧ self'.getAllOpponentStates observation = .ok states
      ∧ ∀ hnonneg, action = match (sceneOf self' greedy states hnonneg).drift with
          | none => greedy
          | some drift => self'.actionSpace.clip (greedy + drift) := by
  obtain ⟨⟨greedy, acted⟩, hact, h⟩ := Fallible.bind_eq_ok.mp h
  obtain ⟨states, hstates, h⟩ := Fallible.bind_eq_ok.mp h
  split at h
  · cases h
  · cases h
    exact ⟨greedy, states, hact, hstates, fun _ => rfl⟩

end HeuristicTargetAgent

end Mate
