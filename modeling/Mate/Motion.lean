import Mate.Entities.Target
import Mate.RayClipping
import Mathlib.Analysis.InnerProductSpace.Basic
import Mathlib.Analysis.Complex.Basic

set_option autoImplicit false

/-! # Targets stay outside of the discs and inside of the terrain

`Disc.obstruct` with `keep_tangential` is the deflection of a step by a ball
(`obstruct_vector`), so the loop of `Target.simulate` is `Ball.deflectAll` on the candidate
discs. A disc that is no candidate is out of reach (`mem_candidates`), and the final clip
moves a point only onto the border of the terrain, where no disc is.
-/

namespace Mate

open Ball

/-! ## One disc after the other -/

/-- The loop of `Target.simulate` over discs the target is outside of. -/
theorem foldl_obstruct (discs : List Disc) (ray : Vector2D)
    (hout : ∀ d ∈ discs, d.radius ≤ ‖d.location - ray.origin‖) :
    (discs.foldl (fun step d => d.obstruct step true false) ray).origin = ray.origin ∧
      (discs.foldl (fun step d => d.obstruct step true false) ray).vector
        = deflectAll ray.vector (discs.map (fun d => d.ball ray.origin)) := by
  induction discs generalizing ray with
  | nil => exact ⟨rfl, rfl⟩
  | cons d discs ih =>
      have horigin := obstruct_origin d ray true false
      rw [List.foldl_cons, List.map_cons, deflectAll_cons,
        ← obstruct_vector d ray (hout d List.mem_cons_self), ← horigin]
      refine ih (d.obstruct ray true false) (fun d' hd' => ?_)
      rw [horigin]
      exact hout d' (List.mem_cons_of_mem d hd')

/-! ## The cells of the grid -/

theorem hashKey_mem_cells {step : ℝ} (hstep : 0 ≤ step) {low high p : ℂ}
    (hre : low.re ≤ p.re ∧ p.re ≤ high.re) (him : low.im ≤ p.im ∧ p.im ≤ high.im) :
    hashKey step p ∈ cells step low high := by
  have key : ∀ {x y : ℝ}, x ≤ y → truncate (x / step) ≤ truncate (y / step) :=
    fun h => truncate_mono (div_le_div_of_nonneg_right h hstep)
  simp only [cells, hashKey, Finset.mem_product, Finset.mem_Icc]
  exact ⟨⟨key hre.1, key hre.2⟩, ⟨key him.1, key him.2⟩⟩

/-- `p` is in the square around `q` that reaches as far as `r`. -/
def InBox (q : ℂ) (r : ℝ) (p : ℂ) : Prop := |p.re - q.re| ≤ r ∧ |p.im - q.im| ≤ r

/-- A point no farther than `r` from `q` is in the square. -/
theorem inBox_of_norm_le {p q : ℂ} {r : ℝ} (h : ‖p - q‖ ≤ r) : InBox q r p :=
  ⟨(Complex.abs_re_le_norm (p - q)).trans h, (Complex.abs_im_le_norm (p - q)).trans h⟩

/-- A point of the square is in a cell between its corners. -/
theorem InBox.hashKey_mem_cells {step : ℝ} (hstep : 0 ≤ step) {p q : ℂ} {r : ℝ}
    (h : InBox q r p) : hashKey step p ∈ cells step (shift q (-r)) (shift q r) := by
  have hre := abs_le.mp h.1
  have him := abs_le.mp h.2
  refine Mate.hashKey_mem_cells hstep ?_ ?_ <;> simp only [shift] <;> constructor <;> linarith

theorem spatialGridStep_nonneg : 0 ≤ SPATIAL_GRID_STEP := by
  norm_num [SPATIAL_GRID_STEP, TERRAIN_WIDTH, TERRAIN_SIZE]

/-! ## The registry -/

namespace Registry

theorem step_addObstacles (reg : Registry) (discs : List Disc) :
    (reg.addObstacles discs).step = reg.step := by
  induction discs generalizing reg with
  | nil => rfl
  | cons d discs ih => exact ih (reg.add d)

theorem obstacles_addObstacles (reg : Registry) (discs : List Disc) :
    (reg.addObstacles discs).obstacles = reg.obstacles ++ discs := by
  induction discs generalizing reg with
  | nil => exact (List.append_nil _).symm
  | cons d discs ih =>
      show ((reg.add d).addObstacles discs).obstacles = _
      rw [ih, add, List.append_assoc, List.singleton_append]

/-- A disc is found in every one of its cells. -/
theorem mem_hashmap_addObstacles (reg : Registry) (discs : List Disc) {key : ℤ × ℤ} {i : ℕ}
    (h : i ∈ reg.hashmap key
      ∨ ∃ k d, i = reg.obstacles.length + k ∧ discs[k]? = some d ∧
          key ∈ d.cells reg.step) :
    i ∈ (reg.addObstacles discs).hashmap key := by
  induction discs generalizing reg with
  | nil =>
      rcases h with h | ⟨k, d, -, hd, -⟩
      · exact h
      · cases hd
  | cons d discs ih =>
      refine ih (reg.add d) ?_
      rcases h with h | ⟨k, d', rfl, hd', hkey⟩
      · left
        simp only [add]
        split
        · exact Finset.mem_insert_of_mem h
        · exact h
      · cases k with
        | zero =>
            left
            cases hd'
            show _ ∈ if key ∈ d.cells reg.step then _ else _
            rw [if_pos hkey]
            exact Finset.mem_insert_self _ _
        | succ k =>
            right
            refine ⟨k, d', ?_, hd', hkey⟩
            rw [add, List.length_append, List.length_singleton]
            omega

/-- A registered disc that meets the square around the target is found. -/
theorem mem_found {step : ℝ} (hstep : 0 ≤ step) (discs : List Disc) {i : ℕ} {d : Disc}
    (hd : discs[i]? = some d) {location p : ℂ} {stepSize : ℝ} (hp : InBox location stepSize p)
    (hin : ‖p - d.location‖ ≤ d.radius) :
    i ∈ ((ofStep step).addObstacles discs).found location stepSize := by
  unfold found
  rw [Finset.mem_biUnion, step_addObstacles]
  refine ⟨hashKey step p, hp.hashKey_mem_cells hstep, ?_⟩
  refine mem_hashmap_addObstacles _ _ (Or.inr ⟨i, d, (Nat.zero_add i).symm, hd, ?_⟩)
  refine (inBox_of_norm_le ?_).hashKey_mem_cells hstep
  linarith

variable [SetOrder]

theorem mem_candidates {step : ℝ} (hstep : 0 ≤ step) (discs : List Disc) {d : Disc}
    (hd : d ∈ discs) {location p : ℂ} {stepSize : ℝ} (hp : InBox location stepSize p)
    (hin : ‖p - d.location‖ ≤ d.radius) :
    d ∈ ((ofStep step).addObstacles discs).candidates location stepSize := by
  obtain ⟨i, hi⟩ := List.mem_iff_getElem?.mp hd
  refine List.mem_filterMap.mpr ⟨i, ?_, by rw [obstacles_addObstacles]; exact hi⟩
  rw [SetOrder.mem_toList]
  exact mem_found hstep discs hi hp hin

theorem candidates_subset {step : ℝ} (discs : List Disc) {d : Disc} {location : ℂ} {stepSize : ℝ}
    (h : d ∈ ((ofStep step).addObstacles discs).candidates location stepSize) : d ∈ discs := by
  obtain ⟨i, -, hi⟩ := List.mem_filterMap.mp h
  rw [obstacles_addObstacles] at hi
  exact List.mem_of_getElem? hi

/-- The candidates are different discs, so what holds of any two registered discs holds of any
two of them, in whatever order they come. -/
theorem pairwise_candidates {step : ℝ} (discs : List Disc) {R : Disc → Disc → Prop} [Std.Symm R]
    (h : discs.Pairwise R) (location : ℂ) (stepSize : ℝ) :
    (((ofStep step).addObstacles discs).candidates location stepSize).Pairwise R := by
  refine List.Pairwise.filterMap _ ?_ (SetOrder.nodup _)
  intro i j hij d hd d' hd'
  rw [obstacles_addObstacles] at hd hd'
  obtain ⟨hi, rfl⟩ := List.getElem?_eq_some_iff.mp hd
  obtain ⟨hj, rfl⟩ := List.getElem?_eq_some_iff.mp hd'
  rcases Nat.lt_or_gt_of_ne hij with hlt | hlt
  · exact List.pairwise_iff_getElem.mp h i j hi hj hlt
  · exact Std.Symm.symm _ _ (List.pairwise_iff_getElem.mp h j i hj hi hlt)

/-- Without registered discs there are no candidates, so the test for them changes nothing. -/
theorem foldl_candidates (reg : Registry) (location : ℂ) (stepSize : ℝ) (step : Vector2D) :
    (if 0 < reg.obstacles.length then
        (reg.candidates location stepSize).foldl
          (fun step obstacle => obstacle.obstruct step true false) step
      else step)
      = (reg.candidates location stepSize).foldl
          (fun step obstacle => obstacle.obstruct step true false) step := by
  split
  · rfl
  · rename_i h
    have hnil : reg.obstacles = [] := List.length_eq_zero_iff.mp (by omega)
    have hcands : reg.candidates location stepSize = [] := by
      refine List.eq_nil_iff_forall_not_mem.mpr (fun d hd => ?_)
      obtain ⟨i, -, hi⟩ := List.mem_filterMap.mp hd
      rw [hnil] at hi
      cases hi
    rw [hcands]
    rfl

end Registry

/-! ## The terrain -/

/-- `z` is in `TERRAIN_SPACE`. -/
def InTerrain (z : ℂ) : Prop :=
  |z.re| ≤ (TERRAIN_SIZE : ℚ) ∧ |z.im| ≤ (TERRAIN_SIZE : ℚ)

/-- The disc is inside the terrain. -/
def Disc.InTerrain (d : Disc) : Prop :=
  |d.location.re| + d.radius ≤ (TERRAIN_SIZE : ℚ) ∧
    |d.location.im| + d.radius ≤ (TERRAIN_SIZE : ℚ)

/-- Clipping one coordinate is the projection onto an interval. -/
theorem clip_abs_le {a : ℝ} (ha : 0 ≤ a) (x : ℝ) : |min (max x (-a)) a| ≤ a :=
  abs_le.mpr ⟨le_min (le_max_right _ _) (by linarith), min_le_right _ _⟩

theorem clip_eq_self {a x : ℝ} (hx : |x| ≤ a) : min (max x (-a)) a = x := by
  rw [max_eq_left (abs_le.mp hx).1, min_eq_left (abs_le.mp hx).2]

theorem clip_sub_abs_le {a y : ℝ} (hy : |y| ≤ a) (x : ℝ) :
    |min (max x (-a)) a - y| ≤ |x - y| := by
  calc |min (max x (-a)) a - y|
      = |min (max x (-a)) a - min (max y (-a)) a| := by rw [clip_eq_self hy]
    _ ≤ |max x (-a) - max y (-a)| := abs_min_sub_min_le_max _ _ _ _ |>.trans (by simp)
    _ ≤ |x - y| := (abs_max_sub_max_le_max _ _ _ _).trans (by simp)

theorem terrainSize_nonneg : (0 : ℝ) ≤ (TERRAIN_SIZE : ℚ) := by norm_num [TERRAIN_SIZE]

theorem clipTerrain_zero (z : ℂ) :
    clipTerrain 0 z = ⟨min (max z.re (-(TERRAIN_SIZE : ℚ))) (TERRAIN_SIZE : ℚ),
      min (max z.im (-(TERRAIN_SIZE : ℚ))) (TERRAIN_SIZE : ℚ)⟩ := by
  rw [clipTerrain, add_zero, sub_zero]

theorem inTerrain_clipTerrain (z : ℂ) : InTerrain (clipTerrain 0 z) := by
  rw [clipTerrain_zero]
  exact ⟨clip_abs_le terrainSize_nonneg _, clip_abs_le terrainSize_nonneg _⟩

theorem clipTerrain_of_inTerrain {z : ℂ} (hz : InTerrain z) : clipTerrain 0 z = z := by
  rw [clipTerrain_zero, clip_eq_self hz.1, clip_eq_self hz.2]

/-- Clipping brings a point no farther away from any point of the terrain. -/
theorem norm_clipTerrain_sub_le {w : ℂ} (hw : InTerrain w) (z : ℂ) :
    ‖clipTerrain 0 z - w‖ ≤ ‖z - w‖ := by
  rw [clipTerrain_zero, Complex.norm_eq_sqrt_sq_add_sq, Complex.norm_eq_sqrt_sq_add_sq]
  refine Real.sqrt_le_sqrt (add_le_add ?_ ?_)
  · exact sq_le_sq.mpr (clip_sub_abs_le hw.1 z.re)
  · exact sq_le_sq.mpr (clip_sub_abs_le hw.2 z.im)

/-- A point that clipping moves is moved onto the border, where no disc of the terrain is. -/
theorem radius_le_of_clipTerrain {d : Disc} (hd : d.InTerrain) {z : ℂ} (hz : ¬ InTerrain z) :
    d.radius ≤ ‖clipTerrain 0 z - d.location‖ := by
  -- in the coordinate that is cut, the distance from the center is at least the radius
  have key : ∀ {x c : ℝ}, |c| + d.radius ≤ (TERRAIN_SIZE : ℚ) → ¬ |x| ≤ (TERRAIN_SIZE : ℚ) →
      d.radius ≤ |min (max x (-(TERRAIN_SIZE : ℚ))) (TERRAIN_SIZE : ℚ) - c| := by
    intro x c hc hx
    have h0 := terrainSize_nonneg
    rcases lt_abs.mp (not_le.mp hx) with h | h
    · rw [max_eq_left (by linarith), min_eq_right h.le]
      exact le_abs.mpr (Or.inl (by linarith [le_abs_self c]))
    · rw [max_eq_right (by linarith), min_eq_left (by linarith)]
      exact le_abs.mpr (Or.inr (by linarith [neg_abs_le c]))
  rw [clipTerrain_zero]
  rcases not_and_or.mp hz with h | h
  · refine (key hd.1 h).trans ?_
    exact Complex.abs_re_le_norm (⟨_, _⟩ - d.location)
  · refine (key hd.2 h).trans ?_
    exact Complex.abs_im_le_norm (⟨_, _⟩ - d.location)

/-! ## The step of a target -/

namespace Target

variable {params : TargetConfig} {G : Type}

theorem desiredStep_origin (self : Target params G) (action : ℂ) :
    (self.desiredStep action).origin = self.location := by
  simp only [desiredStep]
  split_ifs <;> rfl

theorem norm_desiredStep_le (self : Target params G) (action : ℂ) :
    ‖(self.desiredStep action).vector‖ ≤ self.stepSize := by
  unfold desiredStep
  have hpos := self.stepSize_pos
  by_cases h : self.stepSize < (Vector2D.ofVector self.location action).norm
  · have hne : (Vector2D.ofVector self.location action).vector ≠ 0 := by
      rw [Vector2D.norm_eq] at h
      exact norm_pos_iff.mp (hpos.trans h)
    rw [if_pos h, Vector2D.setNorm_vector hpos.le hne, norm_smul, norm_div, norm_norm,
      Real.norm_eq_abs, abs_of_pos hpos, div_mul_cancel₀ _ (norm_ne_zero_iff.mpr hne)]
  · rw [if_neg h, ← Vector2D.norm_eq]
    exact not_lt.mp h

variable [SetOrder]

/-- The balls of the candidates, as seen from the target. -/
noncomputable def candidateBalls (self : Target params G) (discs : List Disc) : List (Ball ℂ) :=
  ((Registry.empty.addObstacles discs).candidates self.location self.stepSize).map
    (fun d => d.ball self.location)

/-- Where the target stands after the loop, before the clip to the terrain. -/
theorem simulate_location (self : Target params G) (action : ℂ) (discs : List Disc)
    (hout : ∀ d ∈ discs, d.radius ≤ ‖self.location - d.location‖) :
    (self.simulate (Registry.empty.addObstacles discs) action).location
      = clipTerrain 0 (self.location
          + deflectAll (self.desiredStep action).vector (self.candidateBalls discs)) := by
  set reg := Registry.empty.addObstacles discs with hreg
  set step := self.desiredStep action with hstep
  have horigin : step.origin = self.location := self.desiredStep_origin action
  obtain ⟨ho, hv⟩ := foldl_obstruct (reg.candidates self.location self.stepSize) step
    (fun d hd => by
      rw [horigin, norm_sub_rev]
      exact hout d (Registry.candidates_subset discs hd))
  show clipTerrain 0 (Vector2D.endpoint (if _ then _ else _)) = _
  rw [reg.foldl_candidates, Vector2D.endpoint, ho, hv, horigin]
  rfl

/-- A step depends on the registry through its candidates only. -/
theorem simulate_congr {reg reg' : Registry} (self : Target params G) (action : ℂ)
    (h : reg.candidates self.location self.stepSize = reg'.candidates self.location self.stepSize) :
    self.simulate reg action = self.simulate reg' action := by
  simp only [simulate, Registry.foldl_candidates]
  rw [h]

/-- **A target stays in the terrain and out of the discs**, whatever the action and the order
in which the candidates are processed. -/
theorem simulate_safe (self : Target params G) (action : ℂ) (discs : List Disc)
    (hterrain : ∀ d ∈ discs, d.InTerrain)
    (hgaps : discs.Pairwise
      (fun d d' => d.radius + d'.radius + self.stepSize ≤ ‖d.location - d'.location‖))
    (hin : InTerrain self.location)
    (hout : ∀ d ∈ discs, d.radius ≤ ‖self.location - d.location‖) :
    let self' := self.simulate (Registry.empty.addObstacles discs) action
    ‖self'.location - self.location‖ ≤ self.stepSize ∧ InTerrain self'.location ∧
      ∀ d ∈ discs, d.radius ≤ ‖self'.location - d.location‖ := by
  intro self'
  set v := (self.desiredStep action).vector with hv
  set balls := self.candidateBalls discs with hballs
  have hloc : self'.location = clipTerrain 0 (self.location + deflectAll v balls) :=
    self.simulate_location action discs hout
  have hvle : ‖v‖ ≤ self.stepSize := self.norm_desiredStep_le action
  -- seen from the target, the candidates are balls it is outside of and that are far apart
  have hbout : ∀ b ∈ balls, b.radius ≤ ‖b.center‖ := by
    intro b hb
    obtain ⟨d, hd, rfl⟩ := List.mem_map.mp hb
    show d.radius ≤ ‖d.location - self.location‖
    rw [norm_sub_rev]
    exact hout d (Registry.candidates_subset discs hd)
  have hsep : balls.Pairwise (Separated self.stepSize) := by
    have : Std.Symm (fun d d' : Disc =>
        Separated self.stepSize (d.ball self.location) (d'.ball self.location)) :=
      ⟨fun _ _ h => h.symm⟩
    refine List.pairwise_map.mpr (Registry.pairwise_candidates discs ?_ _ _)
    refine hgaps.imp (fun {d d'} h => ?_)
    show _ ≤ ‖d.location - self.location - (d'.location - self.location)‖
    rwa [sub_sub_sub_cancel_right]
  have hnorm : ‖deflectAll v balls‖ ≤ self.stepSize :=
    (norm_deflectAll_le hvle balls hbout hsep).trans hvle
  have hmove : ‖self.location + deflectAll v balls - self.location‖ ≤ self.stepSize := by
    rwa [add_sub_cancel_left]
  refine ⟨?_, ?_, ?_⟩
  · rw [hloc]
    exact (norm_clipTerrain_sub_le hin _).trans hmove
  · rw [hloc]
    exact inTerrain_clipTerrain _
  · intro d hd
    rw [hloc]
    by_cases hp : InTerrain (self.location + deflectAll v balls)
    · rw [clipTerrain_of_inTerrain hp]
      by_contra hlt
      -- a disc that contains the end of the step is a candidate, and those were avoided
      have hcand := Registry.mem_candidates spatialGridStep_nonneg discs hd
        (inBox_of_norm_le hmove) (not_le.mp hlt).le
      have hge := radius_le_deflectAll hvle balls hbout hsep (List.mem_map_of_mem hcand)
      refine hlt (hge.trans (le_of_eq ?_))
      show ‖deflectAll v balls - (d.location - self.location)‖ = _
      congr 1
      ring
    · exact radius_le_of_clipTerrain (hterrain d hd) hp

omit [SetOrder] in
/-- A target next to an obstacle that walks straight into it. -/
theorem simulate_safe_next_to_disc :
    letI := SetOrder.increasing
    let params : TargetConfig :=
      ⟨⟨[], []⟩, ⟨500, Positive.fiveHundred_pos⟩, ⟨10, Positive.ten_pos⟩⟩
    let self : Target params Unit :=
      { location := 50, locationRandomRange := ⟨0, 0⟩, rng := (), capacity := 1, stepSize := 10,
        stepSize_pos := by norm_num, isColliding := false }
    let self' := self.simulate (Registry.empty.addObstacles [⟨0, 45⟩]) (-10)
    ‖self'.location - self.location‖ ≤ self.stepSize ∧ InTerrain self'.location ∧
      ∀ d ∈ [(⟨0, 45⟩ : Disc)], d.radius ≤ ‖self'.location - d.location‖ := by
  let _ := SetOrder.increasing
  refine simulate_safe _ (-10) [⟨0, 45⟩] ?_ (List.pairwise_singleton _ _) ?_ ?_
  · intro d hd
    rw [List.mem_singleton.mp hd]
    norm_num [Disc.InTerrain, TERRAIN_SIZE]
  · norm_num [InTerrain, TERRAIN_SIZE]
  · intro d hd
    rw [List.mem_singleton.mp hd]
    norm_num

end Target

end Mate
