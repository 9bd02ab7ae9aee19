import Mate.Motion

set_option autoImplicit false

/-! # The discs a step is checked against

`Target.simulate` bends a step at the discs found in the cells around the target, in the order in
which the set of them is iterated. The cells find every disc that meets the square the step stays in
(`Registry.mem_found`), and the discs that are left out do not change a step of that length
(`Ball.turnAll_filter`). When the gaps of the discs are at least the step size, the order in which they
are found makes no difference either (`Ball.deflectAll_perm`).
-/

namespace Mate

open Ball

/-! ## The loop -/

/-- `for obstacle in obstacles: step = obstacle.obstruct(step, keep_tangential=True)`. -/
noncomputable def obstructAll (obstacles : List Disc) (step : Vector2D) : Vector2D :=
  obstacles.foldl (fun step obstacle => obstacle.obstruct step true false) step

theorem obstructAll_cons (d : Disc) (discs : List Disc) (step : Vector2D) :
    obstructAll (d :: discs) step = obstructAll discs (d.obstruct step true false) := rfl

/-- A disc that contains the origin of a ray turns it around, any other one deflects it. -/
theorem obstruct_eq_turn (d : Disc) (ray : Vector2D) :
    (d.obstruct ray true false).vector = turn ray.vector (d.ball ray.origin) := by
  by_cases h : ‖d.location - ray.origin‖ < d.radius
  · rw [Disc.obstruct, if_pos (Or.inr h)]
    exact (turn_of_lt h).symm
  · rw [obstruct_vector d ray (not_lt.mp h)]
    exact (turn_of_le (not_lt.mp h)).symm

theorem obstructAll_eq (discs : List Disc) (step : Vector2D) :
    (obstructAll discs step).origin = step.origin ∧
      (obstructAll discs step).vector
        = turnAll step.vector (discs.map (fun d => d.ball step.origin)) := by
  induction discs generalizing step with
  | nil => exact ⟨rfl, rfl⟩
  | cons d discs ih =>
      have horigin := obstruct_origin d step true false
      obtain ⟨ho, hv⟩ := ih (d.obstruct step true false)
      rw [obstructAll_cons]
      refine ⟨ho.trans horigin, ?_⟩
      rw [hv, horigin, obstruct_eq_turn]
      rfl

theorem endpoint_obstructAll (discs : List Disc) (step : Vector2D) :
    (obstructAll discs step).endpoint
      = step.origin + turnAll step.vector (discs.map (fun d => d.ball step.origin)) := by
  obtain ⟨ho, hv⟩ := obstructAll_eq discs step
  rw [Vector2D.endpoint, ho, hv]

/-- For discs the ray starts outside of. -/
theorem endpoint_obstructAll_of_le (discs : List Disc) (step : Vector2D)
    (hout : ∀ d ∈ discs, d.radius ≤ ‖d.location - step.origin‖) :
    (obstructAll discs step).endpoint
      = step.origin + deflectAll step.vector (discs.map (fun d => d.ball step.origin)) := by
  obtain ⟨ho, hv⟩ := foldl_obstruct discs step hout
  show (obstructAll discs step).origin + (obstructAll discs step).vector = _
  rw [obstructAll, ho, hv]

/-- The loop changes the step at the disc number `i`. -/
def ChangesAt (discs : List Disc) (step : Vector2D) (i : ℕ) : Prop :=
  (obstructAll (discs.take (i + 1)) step).endpoint ≠ (obstructAll (discs.take i) step).endpoint

/-! ## Discs with gaps -/

section Gaps

variable {discs : List Disc} {step : Vector2D} {s : ℝ}

/-- Seen from the origin of the step, discs with gaps are balls that are far apart. -/
theorem separated_map_ball (o : ℂ)
    (hgaps : discs.Pairwise (fun d d' => d.radius + d'.radius + s ≤ ‖d.location - d'.location‖)) :
    (discs.map (fun d => d.ball o)).Pairwise (Separated s) := by
  refine List.pairwise_map.mpr (hgaps.imp (fun {d d'} h => ?_))
  show _ ≤ ‖d.location - o - (d'.location - o)‖
  rwa [sub_sub_sub_cancel_right]

theorem le_of_mem_map_ball {o : ℂ} (hout : ∀ d ∈ discs, d.radius ≤ ‖d.location - o‖) :
    ∀ b ∈ discs.map (fun d => d.ball o), b.radius ≤ ‖b.center‖ := by
  intro b hb
  obtain ⟨d, hd, rfl⟩ := List.mem_map.mp hb
  exact hout d hd

theorem endpoint_obstructAll_perm (hnorm : ‖step.vector‖ ≤ s) {discs' : List Disc}
    (hperm : discs.Perm discs')
    (hout : ∀ d ∈ discs, d.radius ≤ ‖d.location - step.origin‖)
    (hgaps : discs.Pairwise (fun d d' => d.radius + d'.radius + s ≤ ‖d.location - d'.location‖)) :
    (obstructAll discs step).endpoint = (obstructAll discs' step).endpoint := by
  have hout' : ∀ d ∈ discs', d.radius ≤ ‖d.location - step.origin‖ :=
    fun d hd => hout d (hperm.mem_iff.mpr hd)
  rw [endpoint_obstructAll_of_le discs step hout, endpoint_obstructAll_of_le discs' step hout']
  congr 1
  exact deflectAll_perm hnorm (hperm.map _) (le_of_mem_map_ball hout)
    (separated_map_ball step.origin hgaps)

theorem changesAt_unique (hnorm : ‖step.vector‖ ≤ s)
    (hout : ∀ d ∈ discs, d.radius ≤ ‖d.location - step.origin‖)
    (hgaps : discs.Pairwise (fun d d' => d.radius + d'.radius + s ≤ ‖d.location - d'.location‖))
    {i j : ℕ} (hi : ChangesAt discs step i) (hj : ChangesAt discs step j) : i = j := by
  have key : ∀ {k : ℕ}, ChangesAt discs step k →
      deflectAll step.vector ((discs.map (fun d => d.ball step.origin)).take (k + 1))
        ≠ deflectAll step.vector ((discs.map (fun d => d.ball step.origin)).take k) := by
    intro k hk heq
    apply hk
    rw [endpoint_obstructAll_of_le _ _ (fun d hd => hout d (List.mem_of_mem_take hd)),
      endpoint_obstructAll_of_le _ _ (fun d hd => hout d (List.mem_of_mem_take hd)),
      List.map_take, List.map_take, heq]
  exact deflectAll_take_ne_unique hnorm _ (le_of_mem_map_ball hout)
    (separated_map_ball step.origin hgaps) (key hi) (key hj)

end Gaps

/-! ## The candidates -/

/-- The numbers of a set in the opposite order. -/
abbrev SetOrder.decreasing : SetOrder where
  toList s := s.sort.reverse
  nodup s := List.nodup_reverse.mpr (s.sort_nodup _)
  mem_toList s i := List.mem_reverse.trans (s.mem_sort _)

/-- The numbers of a set below `n`, in increasing order, are those of `0, ..., n - 1` that are in it. -/
theorem sort_eq_filter_range {s : Finset ℕ} {n : ℕ} (h : ∀ i ∈ s, i < n) :
    s.sort = (List.range n).filter (fun i => i ∈ s) := by
  refine List.Perm.eq_of_pairwise ?_ (s.pairwise_sort (· ≤ ·)) ?_ ?_
  · exact fun a b _ _ hab hba => le_antisymm hab hba
  · exact (List.pairwise_lt_range.imp le_of_lt).filter _
  · refine (List.perm_ext_iff_of_nodup (s.sort_nodup _) (List.nodup_range.filter _)).mpr (fun i => ?_)
    rw [s.mem_sort, List.mem_filter, List.mem_range, decide_eq_true_eq]
    exact ⟨fun hi => ⟨h i hi, hi⟩, And.right⟩

namespace Registry

theorem lt_of_mem_hashmap (reg : Registry) (discs : List Disc) {key : ℤ × ℤ} {i : ℕ}
    (hreg : ∀ key, ∀ i ∈ reg.hashmap key, i < reg.obstacles.length)
    (hi : i ∈ (reg.addObstacles discs).hashmap key) : i < reg.obstacles.length + discs.length := by
  induction discs generalizing reg with
  | nil => exact hreg key i hi
  | cons d discs ih =>
      have hlen : (reg.add d).obstacles.length = reg.obstacles.length + 1 := by
        rw [add, List.length_append, List.length_singleton]
      have := ih (reg.add d) (fun key j hj => ?_) hi
      · rw [hlen] at this
        rw [List.length_cons]
        omega
      · rw [hlen]
        simp only [add] at hj
        split at hj
        · rcases Finset.mem_insert.mp hj with rfl | hj
          · exact Nat.lt_succ_self _
          · exact (hreg key j hj).trans (Nat.lt_succ_self _)
        · exact (hreg key j hj).trans (Nat.lt_succ_self _)

theorem lt_of_mem_found {gridStep : ℝ} (discs : List Disc) {location : ℂ} {stepSize : ℝ} {i : ℕ}
    (hi : i ∈ ((ofStep gridStep).addObstacles discs).found location stepSize) :
    i < discs.length := by
  obtain ⟨key, -, hkey⟩ := Finset.mem_biUnion.mp hi
  have := lt_of_mem_hashmap (ofStep gridStep) discs (fun _ j hj => absurd hj (Finset.notMem_empty j))
    hkey
  rwa [show (ofStep gridStep).obstacles.length = 0 from rfl, zero_add] at this

/-- Two iterations of one set of numbers yield the same discs. -/
theorem candidates_perm (reg : Registry) (location : ℂ) (stepSize : ℝ)
    (o o' : SetOrder) :
    (@candidates o reg location stepSize).Perm (@candidates o' reg location stepSize) := by
  refine List.Perm.filterMap _ ?_
  refine (List.perm_ext_iff_of_nodup (o.nodup _) (o'.nodup _)).mpr (fun i => ?_)
  rw [o.mem_toList, o'.mem_toList]

end Registry

/-! ## The step of a target -/

namespace Target

variable {params : TargetConfig} {G : Type}

theorem simulate_location_eq [SetOrder] (reg : Registry) (self : Target params G) (action : ℂ) :
    (self.simulate reg action).location
      = clipTerrain 0 (obstructAll (reg.candidates self.location self.stepSize)
          (self.desiredStep action)).endpoint := by
  show clipTerrain 0 (Vector2D.endpoint (if _ then _ else _)) = _
  rw [reg.foldl_candidates]
  rfl

/-- **The step of a target does not depend on the order of the candidates**: for discs with gaps of at
least the step size around a target outside of them, every permutation of the candidates leads to the
same location, and at most one disc changes the step. -/
theorem simulate_order_irrelevant (gridStep : ℝ) (discs : List Disc) (self : Target params G)
    (action : ℂ)
    (hgaps : discs.Pairwise
      (fun d d' => d.radius + d'.radius + self.stepSize ≤ ‖d.location - d'.location‖))
    (hout : ∀ d ∈ discs, d.radius ≤ ‖self.location - d.location‖) (o o' : SetOrder) :
    let reg := (Registry.ofStep gridStep).addObstacles discs
    (@simulate params G o reg self action).location
        = (@simulate params G o' reg self action).location ∧
      ∀ order : List Disc, order.Perm (@Registry.candidates o reg self.location self.stepSize) →
        (@simulate params G o reg self action).location
            = clipTerrain 0 (obstructAll order (self.desiredStep action)).endpoint ∧
          ∀ i j, ChangesAt order (self.desiredStep action) i →
            ChangesAt order (self.desiredStep action) j → i = j := by
  intro reg
  set cands := @Registry.candidates o reg self.location self.stepSize with hcands
  have hnorm := self.norm_desiredStep_le action
  have horigin := self.desiredStep_origin action
  have houtc : ∀ d ∈ cands, d.radius ≤ ‖d.location - (self.desiredStep action).origin‖ := by
    intro d hd
    rw [horigin, norm_sub_rev]
    exact hout d (@Registry.candidates_subset o _ discs d _ _ hd)
  -- the gaps are symmetric, so that they stay when the discs come in another order
  have hgapsc : cands.Pairwise
      (fun d d' => d.radius + d'.radius + self.stepSize ≤ ‖d.location - d'.location‖) := by
    have hsymm : Std.Symm (fun d d' : Disc =>
        d.radius + d'.radius + self.stepSize ≤ ‖d.location - d'.location‖) := by
      refine ⟨fun d d' h => ?_⟩
      rwa [norm_sub_rev, add_comm d'.radius]
    exact @Registry.pairwise_candidates o _ discs _ hsymm hgaps _ _
  refine ⟨?_, fun order horder => ⟨?_, fun i j hi hj => ?_⟩⟩
  · rw [@simulate_location_eq _ _ o, @simulate_location_eq _ _ o']
    congr 1
    exact endpoint_obstructAll_perm hnorm (reg.candidates_perm _ _ o o') houtc hgapsc
  · rw [@simulate_location_eq _ _ o]
    congr 1
    exact endpoint_obstructAll_perm hnorm horder.symm houtc hgapsc
  · refine changesAt_unique hnorm (fun d hd => houtc d (horder.mem_iff.mp hd)) ?_ hi hj
    exact horder.symm.pairwise hgapsc (fun {d d'} h => by rwa [norm_sub_rev, add_comm d'.radius])

/-- A target between two obstacles that walks into one of them. -/
theorem simulate_order_irrelevant_between_discs :
    let params : TargetConfig :=
      ⟨⟨[], []⟩, ⟨500, Positive.fiveHundred_pos⟩, ⟨10, Positive.ten_pos⟩⟩
    let self : Target params Unit :=
      { location := 50, locationRandomRange := ⟨0, 0⟩, rng := (), capacity := 1, stepSize := 10,
        stepSize_pos := by norm_num, isColliding := false }
    let reg := (Registry.ofStep 50).addObstacles [⟨0, 45⟩, ⟨100, 45⟩]
    (@simulate _ _ SetOrder.increasing reg self (-10)).location
      = (@simulate _ _ SetOrder.decreasing reg self (-10)).location := by
  intro params self reg
  refine (simulate_order_irrelevant 50 [⟨0, 45⟩, ⟨100, 45⟩] self (-10) ?_ ?_ _ _).1
  · refine List.pairwise_pair.mpr ?_
    norm_num [self]
  · intro d hd
    rcases List.mem_pair.mp hd with rfl | rfl <;> norm_num [self]

/-- **The grid is only an accelerator**: the candidates bend a step as all registered discs do, taken
in an order in which the candidates come as they do, and a disc is a candidate if it meets the square
of the step or changes a ray of that length. -/
theorem simulate_eq_obstructAll (gridStep : ℝ) (hgrid : 0 < gridStep) (discs : List Disc)
    (self : Target params G) (action : ℂ) [SetOrder] :
    let reg := (Registry.ofStep gridStep).addObstacles discs
    (∀ order : List ℕ, order.Perm (List.range discs.length) →
        SetOrder.toList (reg.found self.location self.stepSize)
          = order.filter (fun i => i ∈ reg.found self.location self.stepSize) →
        (self.simulate reg action).location
          = clipTerrain 0 (obstructAll (order.filterMap (fun i => discs[i]?))
              (self.desiredStep action)).endpoint) ∧
      (∀ d ∈ discs, ∀ p, InBox self.location self.stepSize p → ‖p - d.location‖ ≤ d.radius →
        d ∈ reg.candidates self.location self.stepSize) ∧
      ∀ d ∈ discs, ∀ ray : Vector2D, ray.origin = self.location → ray.norm ≤ self.stepSize →
        (d.obstruct ray true false).endpoint ≠ ray.endpoint →
        d ∈ reg.candidates self.location self.stepSize := by
  intro reg
  have hmeets : ∀ d ∈ discs, ∀ p, InBox self.location self.stepSize p →
      ‖p - d.location‖ ≤ d.radius → d ∈ reg.candidates self.location self.stepSize :=
    fun d hd p hp hin => Registry.mem_candidates hgrid.le discs hd hp hin
  refine ⟨fun order _ hsame => ?_, hmeets, fun d hd ray ho hnorm hchange => ?_⟩
  · set step := self.desiredStep action with hstep
    have horigin : step.origin = self.location := self.desiredStep_origin action
    have hballs : ∀ l : List ℕ,
        (l.filterMap (fun i => discs[i]?)).map (fun d => d.ball step.origin)
          = l.filterMap (fun i => discs[i]?.map (fun d => d.ball step.origin)) :=
      fun l => List.map_filterMap
    rw [simulate_location_eq, Registry.candidates, hsame, Registry.obstacles_addObstacles,
      show (Registry.ofStep gridStep).obstacles ++ discs = discs from rfl, endpoint_obstructAll,
      endpoint_obstructAll, hballs, hballs]
    congr 2
    refine turnAll_filter _ _ order ?_ (self.norm_desiredStep_le action)
    -- a disc within reach of the step would have been found
    intro i _ hi b hb q hq
    obtain ⟨d, hd, rfl⟩ := Option.map_eq_some_iff.mp hb
    by_contra hnot
    rw [decide_eq_false_iff_not] at hi
    refine hi (Registry.mem_found hgrid.le discs hd
      (inBox_of_norm_le (p := self.location + q) ?_) ?_)
    · rwa [add_sub_cancel_left]
    · have heq : self.location + q - d.location = q - (d.location - step.origin) := by
        rw [horigin]
        ring
      rw [heq]
      exact not_lt.mp hnot
  · have hne : turn ray.vector (d.ball ray.origin) ≠ ray.vector := by
      intro heq
      apply hchange
      rw [Vector2D.endpoint, Vector2D.endpoint, obstruct_origin, obstruct_eq_turn, heq]
    obtain ⟨q, hq, hqd⟩ := exists_norm_sub_le_of_turn_ne hne
    rw [ray.norm_eq] at hnorm
    refine hmeets d hd (self.location + q) (inBox_of_norm_le ?_) ?_
    · rw [add_sub_cancel_left]
      exact hq.trans hnorm
    · have heq : self.location + q - d.location = q - (d.location - ray.origin) := by
        rw [ho]
        ring
      rw [heq]
      exact hqd

/-- A target with obstacles in cells of negative coordinates. -/
theorem simulate_eq_obstructAll_negative :
    letI := SetOrder.increasing
    let params : TargetConfig :=
      ⟨⟨[], []⟩, ⟨500, Positive.fiveHundred_pos⟩, ⟨10, Positive.ten_pos⟩⟩
    let self : Target params Unit :=
      { location := -50, locationRandomRange := ⟨0, 0⟩, rng := (), capacity := 1, stepSize := 10,
        stepSize_pos := by norm_num, isColliding := false }
    (self.simulate ((Registry.ofStep 50).addObstacles [⟨-100, 45⟩, ⟨1000, 45⟩]) (-10)).location
      = clipTerrain 0 (obstructAll [⟨-100, 45⟩, ⟨1000, 45⟩] (self.desiredStep (-10))).endpoint := by
  let _ := SetOrder.increasing
  intro params self
  have hlt : ∀ i ∈ Registry.found ((Registry.ofStep 50).addObstacles [⟨-100, 45⟩, ⟨1000, 45⟩])
      self.location self.stepSize, i < 2 :=
    fun i hi => Registry.lt_of_mem_found [⟨-100, 45⟩, ⟨1000, 45⟩] hi
  exact (simulate_eq_obstructAll 50 (by norm_num) [⟨-100, 45⟩, ⟨1000, 45⟩] self (-10)).1 [0, 1]
    (List.Perm.refl _) (sort_eq_filter_range hlt)

end Target

end Mate
