import Mate.Angles
import Mate.Environment.Places
import Mate.Environment.Transparent
import Mate.Library.LeastTable
import Mate.RayClipping

set_option autoImplicit false

/-! # What a camera sees in every direction

`Camera.add_obstacles` clips many rays at the obstacles and makes a table of them. After a reset,
for a camera that is outside of all opaque obstacles, the table has in no direction more than what
is free of obstacles (`sightLimit`), and exactly that but in the tangent directions; it does not
depend on the order in which the obstacles are gone through (`addObstacles_sightTable`).
-/

namespace Mate

open Ball Fallible

/-! ## Interpolation -/

/-- At a breakpoint the value of the table is read, the first one where there are several. -/
theorem interpolateFrom_split (before : List (ℝ × ℝ)) (p : ℝ × ℝ) (after : List (ℝ × ℝ))
    (hbefore : ∀ a ∈ before, a.1 < p.1) (hafter : ∀ q ∈ after, p.1 ≤ q.1)
    (hlength : before ≠ [] ∨ after ≠ []) :
    interpolateFrom p.1 (before ++ p :: after) = some p.2 := by
  induction before with
  | nil =>
      obtain ⟨q, rest, rfl⟩ := List.exists_cons_of_ne_nil (hlength.resolve_left (fun h => h rfl))
      have hle : p.1 ≤ q.1 := hafter q List.mem_cons_self
      simp [interpolateFrom, hle]
  | cons a before ih =>
      cases before with
      | nil =>
          have hne : p.1 - a.1 ≠ 0 := (sub_pos.mpr (hbefore a List.mem_cons_self)).ne'
          rw [List.cons_append, List.nil_append, interpolateFrom, if_pos le_rfl,
            div_mul_cancel₀ _ hne, add_sub_cancel]
      | cons a' before =>
          have hlt : a'.1 < p.1 := hbefore a' (by simp)
          rw [List.cons_append, List.cons_append, interpolateFrom, if_neg (not_le.mpr hlt)]
          exact ih (fun c hc => hbefore c (List.mem_cons_of_mem _ hc))
            (.inl (List.cons_ne_nil _ _))

theorem interpolateFrom_isSome (x : ℝ) (p q : ℝ × ℝ) (rest : List (ℝ × ℝ)) {r : ℝ × ℝ}
    (hr : r ∈ q :: rest) (hx : x ≤ r.1) : ∃ y, interpolateFrom x (p :: q :: rest) = some y := by
  induction rest generalizing p q with
  | nil =>
      rw [List.mem_singleton.mp hr] at hx
      exact ⟨_, by rw [interpolateFrom, if_pos hx]⟩
  | cons q' rest ih =>
      by_cases hq : x ≤ q.1
      · exact ⟨_, by rw [interpolateFrom, if_pos hq]⟩
      · rw [interpolateFrom, if_neg hq]
        refine ih q q' ((List.mem_cons.mp hr).resolve_left ?_)
        rintro rfl
        exact hq hx

namespace Interp1d

/-- A table from `low` to `high`: there are two entries or more, in order. -/
structure Spans (table : Interp1d) (low high : ℝ) : Prop where
  first : ∃ first ∈ table.points.head?, first.1 = low
  last : ∃ last ∈ table.points.getLast?, last.1 = high
  lt : low < high
  sorted : table.points.Pairwise (fun p q => p.1 ≤ q.1)

variable {table : Interp1d} {low high : ℝ}

theorem Spans.exists_cons (h : table.Spans low high) :
    ∃ rho q rest, table.points = (low, rho) :: q :: rest := by
  obtain ⟨⟨l, rho⟩, hfirst, rfl⟩ := h.first
  obtain ⟨last, hlast, rfl⟩ := h.last
  obtain ⟨rest, hrest⟩ := List.head?_eq_some_iff.mp hfirst
  cases rest with
  | nil =>
      rw [hrest] at hlast
      have heq : (l, rho) = last := Option.some.inj hlast
      have hlt := h.lt
      rw [← heq] at hlt
      exact absurd hlt (lt_irrefl _)
  | cons q rest => exact ⟨rho, q, rest, hrest⟩

theorem eval_of_cons {p : ℝ × ℝ} {rest : List (ℝ × ℝ)} (hpoints : table.points = p :: rest)
    {x y : ℝ} (hlow : p.1 ≤ x) (hy : interpolateFrom x (p :: rest) = some y) :
    table.eval x = .ok y := by
  unfold eval
  rw [hpoints]
  dsimp only
  rw [if_neg (not_lt.mpr hlow), hy]

/-- Between its ends a table has a value. -/
theorem Spans.eval_returns (h : table.Spans low high) {x : ℝ} (hlow : low ≤ x) (hhigh : x ≤ high) :
    ∃ rho, table.eval x = .ok rho := by
  obtain ⟨rho, q, rest, hpoints⟩ := h.exists_cons
  obtain ⟨last, hlast, rfl⟩ := h.last
  have hmem : last ∈ q :: rest := by
    rw [hpoints, List.getLast?_cons_cons] at hlast
    exact List.mem_of_getLast? hlast
  obtain ⟨y, hy⟩ := interpolateFrom_isSome x (low, rho) q rest hmem hhigh
  exact ⟨y, eval_of_cons hpoints hlow hy⟩

/-- The value at the first breakpoint of its angle. -/
theorem Spans.eval_split (h : table.Spans low high) {before after : List (ℝ × ℝ)} {p : ℝ × ℝ}
    (hpoints : table.points = before ++ p :: after) (hbefore : ∀ a ∈ before, a.1 < p.1) :
    table.eval p.1 = .ok p.2 := by
  obtain ⟨rho, q, rest, hcons⟩ := h.exists_cons
  have hafter : ∀ q ∈ after, p.1 ≤ q.1 := by
    have hsorted := h.sorted
    rw [hpoints, List.pairwise_append, List.pairwise_cons] at hsorted
    exact hsorted.2.1.1
  have hlow : low ≤ p.1 := by
    have hsorted := h.sorted
    have hmem : p ∈ (low, rho) :: q :: rest := by
      rw [← hcons, hpoints]
      simp
    rw [hcons, List.pairwise_cons] at hsorted
    rcases List.mem_cons.mp hmem with rfl | hmem
    · exact le_rfl
    · exact hsorted.1 p hmem
  have hlength : before ≠ [] ∨ after ≠ [] := by
    by_contra hnot
    simp only [not_or, not_not] at hnot
    rw [hpoints, hnot.1, hnot.2] at hcons
    simp at hcons
  have hsome := interpolateFrom_split before p after hbefore hafter hlength
  rw [← hpoints, hcons] at hsome
  exact eval_of_cons hcons hlow hsome

theorem Spans.eval_of_mem (h : table.Spans low high)
    (hincreasing : table.points.Pairwise (fun p q => p.1 < q.1)) {p : ℝ × ℝ}
    (hp : p ∈ table.points) : table.eval p.1 = .ok p.2 := by
  obtain ⟨before, after, hpoints⟩ := List.append_of_mem hp
  refine h.eval_split hpoints (fun a ha => ?_)
  rw [hpoints, List.pairwise_append] at hincreasing
  exact hincreasing.2.2 a ha p List.mem_cons_self

end Interp1d

/-! ## Merging rays at the same angle -/

/-- The breakpoint of a ray. -/
noncomputable def Vector2D.sample (ray : Vector2D) : ℝ × ℝ := (ray.angle, ray.norm)

namespace Camera

/-- One step of the loop of `interpolate`. -/
theorem mergeAngles_concat (init : List Vector2D) (last ray : Vector2D) (rest : List Vector2D) :
    mergeAngles (init ++ [last]) (ray :: rest) =
      if last.angle = ray.angle then
        if ray.norm < last.norm then mergeAngles (init ++ [ray]) rest
        else mergeAngles (init ++ [last]) rest
      else mergeAngles (init ++ [last] ++ [ray]) rest := by
  rw [mergeAngles, List.getLast?_concat, List.dropLast_concat]

/-- Of rays in order of their angles, the shortest one at every angle is kept. -/
theorem mergeAngles_isLeastTable (merged rays : List Vector2D)
    (hmerged : merged.Pairwise (fun a b => a.angle < b.angle))
    (hbetween : ∀ a ∈ merged, ∀ b ∈ rays, a.angle ≤ b.angle)
    (hrays : rays.Pairwise (fun a b => a.angle ≤ b.angle)) :
    IsLeastTable ((merged ++ rays).map Vector2D.sample)
      ((mergeAngles merged rays).map Vector2D.sample) := by
  induction rays generalizing merged with
  | nil =>
      rw [List.append_nil]
      exact ⟨List.pairwise_map.mpr hmerged, fun p hp => hp, fun q hq => ⟨q, hq, rfl, le_rfl⟩⟩
  | cons ray rest ih =>
      rw [List.pairwise_cons] at hrays
      have hrest : ∀ a ∈ merged, ∀ b ∈ rest, a.angle ≤ b.angle :=
        fun a ha b hb => hbetween a ha b (List.mem_cons_of_mem ray hb)
      rcases List.eq_nil_or_concat merged with rfl | ⟨init, last, hinit⟩
      · exact ih [ray] (List.pairwise_singleton _ _)
          (fun a ha => by rw [List.mem_singleton.mp ha]; exact hrays.1) hrays.2
      rw [List.concat_eq_append] at hinit
      subst hinit
      have hle : last.angle ≤ ray.angle := hbetween last (by simp) ray List.mem_cons_self
      rw [mergeAngles_concat]
      by_cases hangle : last.angle = ray.angle
      · by_cases hnorm : ray.norm < last.norm
        · -- the ray takes the place of the last one
          rw [if_pos hangle, if_pos hnorm]
          have hsame : ∀ a ∈ init ++ [ray], ∃ a' ∈ init ++ [last], a.angle = a'.angle := by
            intro a ha
            rcases List.mem_append.mp ha with ha | ha
            · exact ⟨a, List.mem_append_left _ ha, rfl⟩
            · rw [List.mem_singleton.mp ha]
              exact ⟨last, by simp, hangle.symm⟩
          refine (ih (init ++ [ray]) ?_ ?_ hrays.2).of_dominated (p := ray.sample) (q := last.sample)
            (by simp) hangle.symm hnorm.le (fun r => ?_)
          · rw [List.pairwise_append] at hmerged ⊢
            refine ⟨hmerged.1, List.pairwise_singleton _ _, fun a ha b hb => ?_⟩
            rw [List.mem_singleton.mp hb, ← hangle]
            exact hmerged.2.2 a ha last List.mem_cons_self
          · intro a ha b hb
            obtain ⟨a', ha', heq⟩ := hsame a ha
            exact heq.trans_le (hrest a' ha' b hb)
          · simp only [List.map_append, List.map_cons, List.mem_append, List.mem_cons]
            tauto
        · -- the last one is at least as short, so that it stays
          rw [if_pos hangle, if_neg hnorm]
          refine (ih (init ++ [last]) hmerged hrest hrays.2).of_dominated (p := last.sample)
            (q := ray.sample) (by simp) hangle (not_lt.mp hnorm) (fun r => ?_)
          simp only [List.map_append, List.map_cons, List.mem_append, List.mem_cons]
          tauto
      · -- an angle that is larger than all before
        rw [if_neg hangle]
        have hlt : ∀ a ∈ init ++ [last], a.angle < ray.angle := by
          intro a ha
          have hlast : last.angle < ray.angle := lt_of_le_of_ne hle hangle
          rcases List.mem_append.mp ha with ha | ha
          · rw [List.pairwise_append] at hmerged
            exact (hmerged.2.2 a ha last List.mem_cons_self).trans hlast
          · rw [List.mem_singleton.mp ha]
            exact hlast
        have htable := ih (init ++ [last] ++ [ray]) ?_ ?_ hrays.2
        · rwa [List.append_assoc (init ++ [last])] at htable
        · rw [List.pairwise_append]
          refine ⟨hmerged, List.pairwise_singleton _ _, fun a ha b hb => ?_⟩
          rw [List.mem_singleton.mp hb]
          exact hlt a ha
        · intro a ha b hb
          rcases List.mem_append.mp ha with ha | ha
          · exact hrest a ha b hb
          · rw [List.mem_singleton.mp ha]
            exact hrays.1 b hb

/-- Only rays that are there are kept. -/
theorem mem_of_mem_mergeAngles {merged rays : List Vector2D} {ray : Vector2D}
    (h : ray ∈ mergeAngles merged rays) : ray ∈ merged ∨ ray ∈ rays := by
  induction rays generalizing merged with
  | nil => exact .inl h
  | cons first rest ih =>
      rcases List.eq_nil_or_concat merged with rfl | ⟨init, last, hinit⟩
      · have hrest : ray ∈ [first] ∨ ray ∈ rest := ih h
        simp only [List.mem_cons] at hrest ⊢
        tauto
      · rw [List.concat_eq_append] at hinit
        subst hinit
        rw [mergeAngles_concat] at h
        split_ifs at h
        all_goals
          have hrest := ih h
          simp only [List.mem_append, List.mem_cons] at hrest ⊢
          tauto

/-- The breakpoints are the least table of the rays, closed after a full turn. -/
theorem interpolate_spec (boundary : List Vector2D) :
    IsLeastTable (boundary.map Vector2D.sample) ((interpolate boundary).2.map Vector2D.sample)
      ∧ (interpolate boundary).1.points = (interpolate boundary).2.map Vector2D.sample
        ++ (((interpolate boundary).2.map Vector2D.sample).head?.map
          (fun p => (p.1 + 360, p.2))).toList := by
  set sorted := boundary.mergeSort (fun a b => decide (a.angle ≤ b.angle)) with hsorted
  refine ⟨?_, rfl⟩
  have hpairwise : sorted.Pairwise (fun a b => a.angle ≤ b.angle) := by
    have := @List.pairwise_mergeSort _ (fun a b : Vector2D => decide (a.angle ≤ b.angle))
      (by simpa using fun a b c h h' => le_trans h h') (by simpa using fun a b => le_total _ _)
      boundary
    simpa using this
  have htable := mergeAngles_isLeastTable [] sorted List.Pairwise.nil
    (fun a ha => absurd ha List.not_mem_nil) hpairwise
  have hmem : ∀ q, q ∈ sorted.map Vector2D.sample ↔ q ∈ boundary.map Vector2D.sample :=
    fun q => ((boundary.mergeSort_perm _).map Vector2D.sample).mem_iff
  exact htable.of_subset (fun q hq => (hmem q).mp hq)
    (fun q hq => ⟨q, (hmem q).mpr hq, rfl, le_rfl⟩)

theorem mem_of_mem_interpolate {boundary : List Vector2D} {ray : Vector2D}
    (h : ray ∈ (interpolate boundary).2) : ray ∈ boundary :=
  ((boundary.mergeSort_perm _).mem_iff).mp
    ((mem_of_mem_mergeAngles h).resolve_left List.not_mem_nil)

/-- Rays in all directions make a table of the full turn. -/
theorem interpolate_spans {boundary : List Vector2D}
    (hangle : ∀ b ∈ boundary, -180 ≤ b.angle ∧ b.angle ≤ 180)
    (hfirst : ∃ b ∈ boundary, b.angle = -180) :
    ∃ rho rest, IsLeastTable (boundary.map Vector2D.sample) ((-180, rho) :: rest)
      ∧ (interpolate boundary).1.points = (-180, rho) :: rest ++ [(180, rho)]
      ∧ (interpolate boundary).1.Spans (-180) 180 := by
  obtain ⟨htable, hpoints⟩ := interpolate_spec boundary
  generalize (interpolate boundary).2.map Vector2D.sample = table at htable hpoints
  have hbounds : ∀ p ∈ table, -180 ≤ p.1 ∧ p.1 ≤ 180 := by
    intro p hp
    obtain ⟨b, hb, rfl⟩ := List.mem_map.mp (htable.sample p hp)
    exact hangle b hb
  have hincreasing := htable.increasing
  obtain ⟨b, hb, hangleb⟩ := hfirst
  obtain ⟨p, hp, hpb, -⟩ := htable.covers b.sample (List.mem_map_of_mem hb)
  have hp180 : p.1 = -180 := hpb.trans hangleb
  -- the table begins at -180 degrees, so the closing point is at 180
  cases table with
  | nil => cases hp
  | cons first rest =>
      rw [List.pairwise_cons] at hincreasing
      have hfirst : first.1 = -180 := by
        rcases List.mem_cons.mp hp with rfl | hp
        · exact hp180
        · have := hincreasing.1 p hp
          have := (hbounds first List.mem_cons_self).1
          linarith
      obtain ⟨angle, rho⟩ := first
      obtain rfl : angle = -180 := hfirst
      have hclosing : (-180 + 360 : ℝ) = 180 := by norm_num
      have hpoints' : (interpolate boundary).1.points = (-180, rho) :: rest ++ [(180, rho)] := by
        rw [hpoints]
        simp [hclosing]
      refine ⟨rho, rest, htable, hpoints', ⟨(-180, rho), ?_, rfl⟩, ⟨(180, rho), ?_, rfl⟩,
        by norm_num, ?_⟩
      · rw [hpoints']
        rfl
      · rw [hpoints', List.getLast?_concat]
        rfl
      · rw [hpoints', List.pairwise_append]
        refine ⟨htable.increasing.imp le_of_lt, List.pairwise_singleton _ _, fun q hq r hr => ?_⟩
        rw [List.mem_singleton.mp hr]
        exact (hbounds q hq).2

end Camera

/-! ## Clipping a ray at many discs -/

section Clip

variable {G : Type} [RandomState G]

/-- The discs of the obstacles that are not transparent. -/
def opaqueDiscs (obstacles : List (Obstacle G)) : List Disc :=
  (obstacles.filter (fun o => o.transmittance ≠ 1)).map Obstacle.disc

/-- A ray after all the discs. -/
noncomputable def clipRay (discs : List Disc) (outer : Bool) (ray : Vector2D) : Vector2D :=
  discs.foldl (fun ray d => d.obstruct ray false outer) ray

omit [RandomState G] in
theorem clipBoundary_eq (obstacles : List (Obstacle G)) (outer : Bool)
    (boundary : List Vector2D) :
    Camera.clipBoundary obstacles outer boundary
      = boundary.map (clipRay (opaqueDiscs obstacles) outer) := by
  unfold Camera.clipBoundary
  induction obstacles generalizing boundary with
  | nil => exact (List.map_id boundary).symm
  | cons o obstacles ih =>
      rw [List.foldl_cons, ih]
      by_cases h : o.transmittance = 1
      · simp [opaqueDiscs, h]
      · rw [if_neg h, List.map_map]
        simp [opaqueDiscs, h, clipRay]

omit [RandomState G] in
theorem mem_opaqueDiscs {obstacles : List (Obstacle G)} {d : Disc} :
    d ∈ opaqueDiscs obstacles ↔ ∃ o ∈ obstacles, o.transmittance ≠ 1 ∧ o.disc = d := by
  simp [opaqueDiscs, and_assoc]

open Classical in
/-- Where the half line from `origin` at `angle` is first inside of the disc. -/
noncomputable def Disc.entryDistance (d : Disc) (origin : ℂ) (angle : ℝ) : Option ℝ :=
  let inside := d.inside (.ofPolar origin 1 angle)
  if inside.Nonempty then some (sInf inside) else none

/-- What is free of discs in a direction, up to `cap`. -/
noncomputable def sightLimit (cap : ℝ) (discs : List Disc) (origin : ℂ) (angle : ℝ) : ℝ :=
  (discs.filterMap (fun d => d.entryDistance origin angle)).foldl min cap

/-- The half line from `origin` at `angle` touches the disc. -/
def Disc.TangentAt (d : Disc) (origin : ℂ) (angle : ℝ) : Prop :=
  (d.ball origin).Tangent (polar2cartesian 1 angle)

theorem entryDistance_eq {d : Disc} {origin : ℂ} (hout : d.radius ≤ ‖d.location - origin‖)
    (angle : ℝ) (e : ℝ) :
    d.entryDistance origin angle = some e ↔ (d.ball origin).Crossed (polar2cartesian 1 angle)
      ∧ (d.ball origin).entry (polar2cartesian 1 angle) = e := by
  have hv : polar2cartesian 1 angle ≠ 0 := polar2cartesian_ne_zero one_ne_zero angle
  have hinside : d.inside (.ofPolar origin 1 angle)
      = (d.ball origin).hits (polar2cartesian 1 angle) := by
    rw [inside_eq_hits, Vector2D.ofPolar_vector]
    rfl
  unfold Disc.entryDistance
  rw [hinside]
  by_cases h : (d.ball origin).Crossed (polar2cartesian 1 angle)
  · have hnonempty : ((d.ball origin).hits (polar2cartesian 1 angle)).Nonempty := by
      rw [hits_eq_Ioo hv hout h]
      exact Set.nonempty_Ioo.mpr h.entry_lt_exit
    rw [if_pos hnonempty, (h.isGLB_hits hv hout).csInf_eq hnonempty, Option.some.injEq]
    exact ⟨fun heq => ⟨h, heq⟩, And.right⟩
  · have hempty : ¬ ((d.ball origin).hits (polar2cartesian 1 angle)).Nonempty := by
      rintro ⟨t, ht⟩
      exact h ((mem_hits_iff hv hout t).mp ht).1
    rw [if_neg hempty]
    exact ⟨fun heq => (nomatch heq), fun heq => absurd heq.1 h⟩

theorem le_sightLimit_iff (r cap : ℝ) (discs : List Disc) (origin : ℂ) (angle : ℝ) :
    r ≤ sightLimit cap discs origin angle
      ↔ r ≤ cap ∧ ∀ d ∈ discs, ∀ e ∈ d.entryDistance origin angle, r ≤ e := by
  unfold sightLimit
  induction discs generalizing cap with
  | nil => simp
  | cons d discs ih =>
      cases h : d.entryDistance origin angle with
      | none => simp [h, ih]
      | some e =>
          have hcons : (d :: discs).filterMap (fun d => d.entryDistance origin angle)
              = e :: discs.filterMap (fun d => d.entryDistance origin angle) :=
            List.filterMap_cons_some h
          rw [hcons, List.foldl_cons, ih]
          simp [h, and_assoc]

/-- A limit with the same bounds is the same limit. -/
theorem sightLimit_congr {cap cap' : ℝ} {discs discs' : List Disc} {origin : ℂ} {angle : ℝ}
    (h : ∀ r, (r ≤ cap ∧ ∀ d ∈ discs, ∀ e ∈ d.entryDistance origin angle, r ≤ e)
      ↔ r ≤ cap' ∧ ∀ d ∈ discs', ∀ e ∈ d.entryDistance origin angle, r ≤ e) :
    sightLimit cap discs origin angle = sightLimit cap' discs' origin angle := by
  apply eq_of_forall_le_iff
  intro r
  rw [le_sightLimit_iff, le_sightLimit_iff, h]

theorem sightLimit_mono {cap cap' : ℝ} (h : cap ≤ cap') (discs : List Disc) (origin : ℂ)
    (angle : ℝ) : sightLimit cap discs origin angle ≤ sightLimit cap' discs origin angle := by
  obtain ⟨hcap, hentry⟩ := (le_sightLimit_iff _ cap discs origin angle).mp le_rfl
  exact (le_sightLimit_iff _ _ _ _ _).mpr ⟨hcap.trans h, hentry⟩

/-- What is free of discs ends before every point inside of one. -/
theorem sightLimit_le_of_mem {cap : ℝ} {discs : List Disc} {origin : ℂ} {angle : ℝ} {d : Disc}
    (hd : d ∈ discs) {t : ℝ} (ht : t ∈ d.inside (.ofPolar origin 1 angle)) :
    sightLimit cap discs origin angle ≤ t := by
  have hentry : d.entryDistance origin angle = some (sInf (d.inside (.ofPolar origin 1 angle))) :=
    if_pos ⟨t, ht⟩
  have hle := ((le_sightLimit_iff _ cap discs origin angle).mp le_rfl).2 d hd _ hentry
  exact hle.trans (csInf_le ⟨0, fun s hs => hs.1⟩ ht)

theorem sightLimit_cons (cap : ℝ) (d : Disc) (discs : List Disc) (origin : ℂ) (angle : ℝ) :
    sightLimit cap (d :: discs) origin angle
      = sightLimit (sightLimit cap [d] origin angle) discs origin angle := by
  apply eq_of_forall_le_iff
  intro r
  rw [le_sightLimit_iff, le_sightLimit_iff, le_sightLimit_iff]
  simp [and_assoc]

/-- A ray that is not zero is its norm in its direction. -/
theorem vector_eq_smul {ray : Vector2D} (hpos : 0 < ray.norm) :
    ray.vector = ray.norm • polar2cartesian 1 ray.angle := by
  have hv : ray.vector ≠ 0 := by
    rw [← norm_pos_iff, ← ray.norm_eq]
    exact hpos
  rw [← polar2cartesian_eq_smul, ray.polar2cartesian_angle _ hv, ray.norm_eq,
    div_self (norm_ne_zero_iff.mpr hv), one_smul]

/-- **One disc** shortens a ray to what is free of the disc. -/
theorem obstruct_spec {d : Disc} {ray : Vector2D} (hpos : 0 < ray.norm)
    (hout : d.radius < ‖d.location - ray.origin‖) :
    (d.obstruct ray false false).angle = ray.angle
      ∧ (d.obstruct ray false false).norm = sightLimit ray.norm [d] ray.origin ray.angle
      ∧ 0 < (d.obstruct ray false false).norm := by
  set u := polar2cartesian 1 ray.angle with hu
  have hv0 : u ≠ 0 := polar2cartesian_ne_zero one_ne_zero _
  have hvector := vector_eq_smul hpos
  have hv : ray.vector ≠ 0 := by
    rw [hvector]
    exact smul_ne_zero hpos.ne' hv0
  set b := d.ball ray.origin with hb
  -- where the ray stops depends on its direction only
  have hstop : d.stop false ray = b.entry u := by
    show b.entry ray.vector = _
    rw [hvector, entry_smul b u hpos]
  have hcrossed : b.Crossed ray.vector ↔ b.Crossed u := by
    rw [hvector, crossed_smul b u hpos]
  rw [obstruct_eq d ray false false hout.le hv, hcrossed, hstop, if_neg Bool.false_ne_true]
  by_cases h : b.Crossed u
  · have hentry : d.entryDistance ray.origin ray.angle = some (b.entry u) :=
      (entryDistance_eq hout.le _ _).mpr ⟨h, rfl⟩
    have hepos : 0 < b.entry u := h.entry_pos hv0 hout
    have hlimit : sightLimit ray.norm [d] ray.origin ray.angle = min ray.norm (b.entry u) := by
      simp [sightLimit, hentry]
    rw [hlimit]
    by_cases hlt : b.entry u < ray.norm
    · rw [if_pos ⟨h, hlt⟩]
      have hshort := shortened_setNorm hepos.le hlt
      rw [hshort.angle, hshort.norm, min_eq_right hlt.le]
      exact ⟨rfl, rfl, hepos⟩
    · rw [if_neg (fun h' => hlt h'.2), min_eq_left (not_lt.mp hlt)]
      exact ⟨rfl, rfl, hpos⟩
  · have hentry : d.entryDistance ray.origin ray.angle = none := by
      cases he : d.entryDistance ray.origin ray.angle with
      | none => rfl
      | some e => exact absurd ((entryDistance_eq hout.le _ _).mp he).1 h
    rw [if_neg (fun h' => h h'.1)]
    exact ⟨rfl, by simp [sightLimit, hentry], hpos⟩

/-- **All discs** shorten a ray to what is free of them, in any order. -/
theorem clipRay_spec {discs : List Disc} {ray : Vector2D} (hpos : 0 < ray.norm)
    (hout : ∀ d ∈ discs, d.radius < ‖d.location - ray.origin‖) :
    (clipRay discs false ray).angle = ray.angle
      ∧ (clipRay discs false ray).norm = sightLimit ray.norm discs ray.origin ray.angle := by
  induction discs generalizing ray with
  | nil => exact ⟨rfl, rfl⟩
  | cons d discs ih =>
      obtain ⟨hangle, hnorm, hpos'⟩ := obstruct_spec hpos (hout d List.mem_cons_self)
      have horigin := obstruct_origin d ray false false
      obtain ⟨hangle', hnorm'⟩ := ih hpos' (fun d' hd' => by
        rw [horigin]
        exact hout d' (List.mem_cons_of_mem d hd'))
      rw [horigin, hangle, hnorm] at hnorm'
      exact ⟨hangle'.trans hangle, hnorm'.trans (sightLimit_cons _ _ _ _ _).symm⟩

end Clip

/-! ## The rays of the table -/

theorem ofPolar_norm (origin : ℂ) {rho : ℝ} (h : 0 ≤ rho) (angle : ℝ) :
    (Vector2D.ofPolar origin rho angle).norm = rho := abs_of_nonneg h

theorem ofPolar_angle (origin : ℂ) {rho : ℝ} (h : 0 ≤ rho) (angle : ℝ) :
    (Vector2D.ofPolar origin rho angle).angle = normalizeAngle angle := if_neg (not_lt.mpr h)

theorem mem_linspace {start stop x : ℝ} {num : ℕ} (hle : start ≤ stop) (hnum : 0 < num)
    (hx : x ∈ linspace start stop num) : start ≤ x ∧ x ≤ stop := by
  obtain ⟨i, hi, rfl⟩ : ∃ i : ℕ, i < num + 1 ∧ start + (stop - start) * i / num = x := by
    simpa [linspace] using hx
  have hnum' : (0 : ℝ) < num := Nat.cast_pos.mpr hnum
  have hi' : (i : ℝ) ≤ num := Nat.cast_le.mpr (Nat.lt_succ_iff.mp hi)
  have hstep : 0 ≤ (stop - start) * i := mul_nonneg (sub_nonneg.mpr hle) i.cast_nonneg
  constructor
  · exact le_add_of_nonneg_right (div_nonneg hstep hnum'.le)
  · have : (stop - start) * i / num ≤ stop - start := by
      rw [div_le_iff₀ hnum']
      exact mul_le_mul_of_nonneg_left hi' (sub_nonneg.mpr hle)
    linarith

/-- The half line from `origin` at `angle` comes into the disc or touches it. -/
def Disc.Meets (d : Disc) (origin : ℂ) (angle : ℝ) : Prop :=
  0 ≤ (d.ball origin).along (polar2cartesian 1 angle)
    ∧ (d.ball origin).offset (polar2cartesian 1 angle) ≤ d.radius

/-- Within half the opening angle of the middle a half line meets the disc. -/
theorem meets_of_abs_le {d : Disc} {origin : ℂ} {angle : ℝ} (hr : 0 ≤ d.radius)
    (hout : d.radius < ‖d.location - origin‖)
    (h : |angle - arctan2Deg (d.location - origin)|
      ≤ arcsinDeg (d.radius / ‖d.location - origin‖)) : d.Meets origin angle := by
  set z := d.location - origin with hz
  set δ := deg2rad (angle - arctan2Deg z) with hδ
  have hnorm : 0 < ‖z‖ := hr.trans_lt hout
  have hu : ‖polar2cartesian 1 angle‖ = 1 := by rw [norm_polar2cartesian, abs_one]
  have halong : (d.ball origin).along (polar2cartesian 1 angle) = ‖z‖ * Real.cos δ := by
    unfold along
    rw [hu, div_one]
    exact (inner_polar2cartesian z 1 angle).trans (by rw [mul_one])
  have hratio : 0 ≤ d.radius / ‖z‖ := div_nonneg hr hnorm.le
  have hratio' : d.radius / ‖z‖ ≤ 1 := (div_le_one hnorm).mpr hout.le
  -- in radians
  have habs : |δ| ≤ Real.arcsin (d.radius / ‖z‖) := by
    have hpi : (0 : ℝ) ≤ Real.pi / 180 := by positivity
    have := mul_le_mul_of_nonneg_right h hpi
    rw [← abs_of_nonneg hpi, ← abs_mul, abs_of_nonneg hpi] at this
    exact this.trans_eq (deg2rad_rad2deg _)
  have hhalf := Real.arcsin_le_pi_div_two (d.radius / ‖z‖)
  have hcos : 0 ≤ Real.cos δ := by
    rw [← Real.cos_abs]
    exact Real.cos_nonneg_of_neg_pi_div_two_le_of_le
      (by linarith [abs_nonneg δ, Real.pi_pos]) (habs.trans hhalf)
  have hsin : |Real.sin δ| ≤ d.radius / ‖z‖ := by
    rw [Real.abs_sin_eq_sin_abs_of_abs_le_pi (by linarith [Real.pi_pos])]
    calc Real.sin |δ| ≤ Real.sin (Real.arcsin (d.radius / ‖z‖)) :=
          Real.sin_le_sin_of_le_of_le_pi_div_two (by linarith [abs_nonneg δ, Real.pi_pos]) hhalf
            habs
      _ = d.radius / ‖z‖ := Real.sin_arcsin (by linarith) hratio'
  refine ⟨by rw [halong]; exact mul_nonneg hnorm.le hcos, ?_⟩
  have hv : polar2cartesian 1 angle ≠ 0 := polar2cartesian_ne_zero one_ne_zero angle
  apply (sq_le_sq₀ ((d.ball origin).offset_nonneg _) hr).mp
  rw [offset_sq _ hv, halong]
  have hsq : Real.sin δ ^ 2 ≤ (d.radius / ‖z‖) ^ 2 := by
    rw [← sq_abs]
    exact pow_le_pow_left₀ (abs_nonneg _) hsin 2
  have hz2 : ‖(d.ball origin).center‖ ^ 2 - (‖z‖ * Real.cos δ) ^ 2 = ‖z‖ ^ 2 * Real.sin δ ^ 2 := by
    show ‖z‖ ^ 2 - _ = _
    rw [Real.sin_sq]
    ring
  rw [hz2]
  calc ‖z‖ ^ 2 * Real.sin δ ^ 2 ≤ ‖z‖ ^ 2 * (d.radius / ‖z‖) ^ 2 :=
        mul_le_mul_of_nonneg_left hsq (sq_nonneg _)
    _ = d.radius ^ 2 := by field_simp

namespace Camera

variable {params : CameraConfig} {G : Type} [RandomState G] {self : Camera params G}

/-- A ray of the boundary before it is clipped: it has the full range, or it meets one of the discs
and reaches as far as that disc does. -/
structure Sampled (camera : Camera params G) (discs : List Disc) (ray : Vector2D) : Prop where
  origin : ray.origin = camera.location
  angle : -180 ≤ ray.angle ∧ ray.angle < 180
  pos : 0 < ray.norm
  length : ray.norm = (params.maxSightRange : ℚ) ∨ ∃ d ∈ discs, d.Meets camera.location ray.angle
    ∧ ray.norm = min ((params.maxSightRange : ℚ) : ℝ) (‖d.location - camera.location‖ + d.radius)

omit [RandomState G] in
theorem maxSightRange_pos (params : CameraConfig) : (0 : ℝ) < (params.maxSightRange : ℚ) :=
  Rat.cast_pos.mpr params.maxSightRange.2

omit [RandomState G] in
theorem sampled_full (discs : List Disc) (angle : ℝ) :
    self.Sampled discs (.ofPolar self.location (params.maxSightRange : ℚ) angle) := by
  have hpos := maxSightRange_pos params
  have hangle := ofPolar_angle self.location hpos.le angle
  have hnorm := ofPolar_norm self.location hpos.le angle
  refine ⟨rfl, ?_, ?_, .inl hnorm⟩
  · rw [hangle]
    exact ⟨le_normalizeAngle angle, normalizeAngle_lt angle⟩
  · rw [hnorm]
    exact hpos

omit [RandomState G] in
theorem sampled_tangentRays {o : Obstacle G} (hr : 0 ≤ o.radius)
    (hout : o.radius < ‖o.location - self.location‖) {discs : List Disc} (hd : o.disc ∈ discs)
    {ray : Vector2D} (hray : ray ∈ (self.tangentRays o).1) : self.Sampled discs ray := by
  rcases List.mem_append.mp hray with hray | hray
  · obtain ⟨angle, -, rfl⟩ := List.mem_map.mp hray
    exact sampled_full discs angle
  · obtain ⟨angle, hangle, rfl⟩ := List.mem_map.mp hray
    set z := o.location - self.location with hz
    have hnorm : 0 < ‖z‖ := hr.trans_lt hout
    have hhalf : 0 ≤ arcsinDeg (o.radius / ‖z‖) := by
      unfold arcsinDeg rad2deg
      have := Real.arcsin_nonneg.mpr (div_nonneg hr hnorm.le)
      positivity
    have hbounds := mem_linspace (by linarith) (by positivity) hangle
    have hmeets : o.disc.Meets self.location angle := by
      refine meets_of_abs_le hr hout (abs_le.mpr ?_)
      show -arcsinDeg (o.radius / ‖z‖) ≤ angle - arctan2Deg z
        ∧ angle - arctan2Deg z ≤ arcsinDeg (o.radius / ‖z‖)
      constructor <;> linarith
    have hrho : 0 < min ((params.maxSightRange : ℚ) : ℝ) (‖z‖ + o.radius) :=
      lt_min (maxSightRange_pos params) (by linarith)
    have hangle' := ofPolar_angle self.location hrho.le angle
    have hnorm' := ofPolar_norm self.location hrho.le angle
    refine ⟨rfl, ?_, ?_, .inr ⟨o.disc, hd, ?_, hnorm'⟩⟩
    · rw [hangle']
      exact ⟨le_normalizeAngle angle, normalizeAngle_lt angle⟩
    · rw [hnorm']
      exact hrho
    · unfold Disc.Meets
      rw [hangle', polar2cartesian_normalizeAngle]
      exact hmeets

omit [RandomState G] in
/-- The rays that the first loop of `add_obstacles` adds outside of all opaque obstacles. -/
theorem extendBoundaries_eq (obstacles : List (Obstacle G))
    (hout : ∀ o ∈ obstacles, o.transmittance ≠ 1 → o.radius ≤ ‖o.location - self.location‖)
    (boundaries : List Vector2D × List Vector2D) :
    self.extendBoundaries obstacles boundaries =
      (boundaries.1 ++ (obstacles.filter (fun o => o.transmittance ≠ 1)).flatMap
          (fun o => (self.tangentRays o).1),
        boundaries.2 ++ (obstacles.filter (fun o => o.transmittance ≠ 1)).flatMap
          (fun o => (self.tangentRays o).2)) := by
  induction obstacles generalizing boundaries with
  | nil => simp [extendBoundaries]
  | cons o obstacles ih =>
      have hrest := ih (fun o' ho' => hout o' (List.mem_cons_of_mem o ho'))
      by_cases h : o.transmittance = 1
      · rw [extendBoundaries, if_pos h, hrest]
        simp [h]
      · have hle := hout o List.mem_cons_self h
        rw [extendBoundaries, if_neg h, if_neg (not_lt.mpr hle), hrest]
        simp [h]

/-- The obstacles in reach, in the order in which the set of them is iterated. -/
noncomputable def inReach [SetOrder] (self : Camera params G) (all : List (Obstacle G)) :
    List (Obstacle G) :=
  (SetOrder.toList ((Finset.range all.length).filter (fun i =>
    ∃ o, all[i]? = some o
      ∧ ‖self.location - o.location‖ < (params.maxSightRange : ℚ) + o.radius))).filterMap
    (fun i => all[i]?)

omit [RandomState G] in
theorem mem_inReach [SetOrder] {all : List (Obstacle G)} {o : Obstacle G} :
    o ∈ self.inReach all ↔ o ∈ all
      ∧ ‖o.location - self.location‖ < (params.maxSightRange : ℚ) + o.radius := by
  unfold inReach
  rw [List.mem_filterMap]
  constructor
  · rintro ⟨i, hi, hget⟩
    obtain ⟨-, o', hget', hlt⟩ := Finset.mem_filter.mp ((SetOrder.mem_toList _ _).mp hi)
    obtain rfl : o' = o := Option.some.inj (hget'.symm.trans hget)
    rw [norm_sub_rev] at hlt
    exact ⟨List.mem_of_getElem? hget, hlt⟩
  · rintro ⟨hmem, hlt⟩
    obtain ⟨i, hi⟩ := List.mem_iff_getElem?.mp hmem
    refine ⟨i, (SetOrder.mem_toList _ _).mpr (Finset.mem_filter.mpr ⟨?_, o, hi, ?_⟩), hi⟩
    · exact Finset.mem_range.mpr (List.getElem?_eq_some_iff.mp hi).1
    · rwa [norm_sub_rev]

/-- The boundaries as `reset` makes them. -/
def FreshBoundary (self : Camera params G) : Prop :=
  self.boundary = (linspaceOpen (-180) 180 360).map
      (fun angle => Vector2D.ofPolar self.location (params.maxSightRange : ℚ) angle)
    ∧ self.boundaryOuter = self.boundary

theorem reset_freshBoundary {start : Camera params G} (h : start.reset = .ok self) :
    self.FreshBoundary := by
  unfold reset at h
  dsimp only at h
  split at h
  · cases h
    exact ⟨rfl, rfl⟩
  · cases h

/-- The rays of the inner table before they are clipped. -/
def Ray (self : Camera params G) (all : List (Obstacle G)) (ray : Vector2D) : Prop :=
  ray ∈ self.boundary ∨ ∃ o ∈ all, o.transmittance ≠ 1
    ∧ ‖o.location - self.location‖ < (params.maxSightRange : ℚ) + o.radius
    ∧ ray ∈ (self.tangentRays o).1

omit [RandomState G] in
/-- An obstacle out of reach limits no ray of the boundary. -/
theorem sightLimit_inReach [SetOrder] {all : List (Obstacle G)}
    (hout : ∀ o ∈ all, o.transmittance ≠ 1 → o.radius < ‖o.location - self.location‖) {cap : ℝ}
    (hcap : cap ≤ (params.maxSightRange : ℚ)) (angle : ℝ) :
    sightLimit cap (opaqueDiscs (self.inReach all)) self.location angle
      = sightLimit cap (opaqueDiscs all) self.location angle := by
  apply sightLimit_congr
  intro r
  constructor
  · rintro ⟨hr, h⟩
    refine ⟨hr, fun d hd e he => ?_⟩
    obtain ⟨o, ho, hopaque, rfl⟩ := mem_opaqueDiscs.mp hd
    by_cases hreach : ‖o.location - self.location‖ < (params.maxSightRange : ℚ) + o.radius
    · exact h _ (mem_opaqueDiscs.mpr ⟨o, mem_inReach.mpr ⟨ho, hreach⟩, hopaque, rfl⟩) e he
    · have hlt := hout o ho hopaque
      obtain ⟨hcrossed, rfl⟩ := (entryDistance_eq hlt.le angle e).mp he
      have hle := hcrossed.norm_center_le (polar2cartesian_ne_zero one_ne_zero angle) hlt.le
      have hfar : (params.maxSightRange : ℚ) + o.radius
          ≤ (o.disc.ball self.location).entry (polar2cartesian 1 angle) + o.radius :=
        (not_lt.mp hreach).trans hle
      linarith
  · rintro ⟨hr, h⟩
    refine ⟨hr, fun d hd => h d ?_⟩
    obtain ⟨o, ho, hopaque, rfl⟩ := mem_opaqueDiscs.mp hd
    exact mem_opaqueDiscs.mpr ⟨o, (mem_inReach.mp ho).1, hopaque, rfl⟩

omit [RandomState G] in
theorem Sampled.norm_le {discs : List Disc} {ray : Vector2D} (h : self.Sampled discs ray) :
    ray.norm ≤ (params.maxSightRange : ℚ) := by
  rcases h.length with hlength | ⟨d, -, -, hlength⟩
  · exact hlength.le
  · exact hlength.trans_le (min_le_left _ _)

omit [RandomState G] in
/-- In a direction that touches no disc, rays of any length of the boundary are clipped alike. -/
theorem Sampled.sightLimit_eq {discs : List Disc} {ray : Vector2D} (h : self.Sampled discs ray)
    (hout : ∀ d ∈ discs, d.radius < ‖d.location - self.location‖)
    (htangent : ∀ d ∈ discs, ¬ d.TangentAt self.location ray.angle) :
    sightLimit ray.norm discs self.location ray.angle
      = sightLimit (params.maxSightRange : ℚ) discs self.location ray.angle := by
  rcases h.length with hlength | ⟨d, hd, hmeets, hlength⟩
  · rw [hlength]
  · apply sightLimit_congr
    intro r
    refine ⟨fun hr => ⟨hr.1.trans h.norm_le, hr.2⟩, fun hr => ⟨?_, hr.2⟩⟩
    -- the ray comes into the disc before it ends
    have hcrossed : (d.ball self.location).Crossed (polar2cartesian 1 ray.angle) :=
      ⟨hmeets.1, lt_of_le_of_ne hmeets.2 (fun heq => htangent d hd ⟨hmeets.1, heq⟩)⟩
    have hentry := hr.2 d hd _ ((entryDistance_eq (hout d hd).le _ _).mpr ⟨hcrossed, rfl⟩)
    have hv : polar2cartesian 1 ray.angle ≠ 0 := polar2cartesian_ne_zero one_ne_zero _
    have halong : (d.ball self.location).along (polar2cartesian 1 ray.angle)
        ≤ ‖d.location - self.location‖ :=
      (le_abs_self _).trans (abs_le_of_sq_le_sq (along_sq_le _ hv) (norm_nonneg _))
    have hchord := (d.ball self.location).chord_nonneg (polar2cartesian 1 ray.angle)
    have hradius : 0 ≤ d.radius := ((d.ball self.location).offset_nonneg _).trans hmeets.2
    rw [hlength]
    refine le_min hr.1 (hentry.trans ?_)
    unfold entry
    linarith

omit [RandomState G] in
theorem FreshBoundary.first_mem (h : self.FreshBoundary) :
    Vector2D.ofPolar self.location (params.maxSightRange : ℚ) (-180) ∈ self.boundary := by
  rw [h.1]
  refine List.mem_map_of_mem ?_
  simp only [linspaceOpen, List.mem_map]
  exact ⟨0, by simpa using ⟨0, by norm_num⟩, by simp⟩

omit [RandomState G] in
theorem FreshBoundary.sampled (h : self.FreshBoundary) {all : List (Obstacle G)}
    (hradius : ∀ o ∈ all, 0 ≤ o.radius)
    (hout : ∀ o ∈ all, o.transmittance ≠ 1 → o.radius < ‖o.location - self.location‖)
    {ray : Vector2D} (hray : self.Ray all ray) : self.Sampled (opaqueDiscs all) ray := by
  rcases hray with hray | ⟨o, ho, hopaque, -, hray⟩
  · rw [h.1] at hray
    obtain ⟨angle, -, rfl⟩ := List.mem_map.mp hray
    exact sampled_full _ angle
  · exact sampled_tangentRays (hradius o ho) (hout o ho hopaque)
      (mem_opaqueDiscs.mpr ⟨o, ho, hopaque, rfl⟩) hray

/-- The rays of the inner table after they are clipped. -/
noncomputable def innerRays [SetOrder] (self : Camera params G) (all : List (Obstacle G)) :
    List Vector2D :=
  clipBoundary (self.inReach all) false
    (self.extendBoundaries (self.inReach all) (self.boundary, self.boundaryOuter)).1

omit [RandomState G] in
theorem addObstacles_sightRangeFunc [SetOrder] (self : Camera params G)
    (all : List (Obstacle G)) :
    (self.addObstacles all).sightRangeFunc = (interpolate (self.innerRays all)).1 := rfl

omit [RandomState G] in
/-- **The samples of the inner table** do not depend on the order of the obstacles. -/
theorem FreshBoundary.mem_samples [SetOrder] (h : self.FreshBoundary) {all : List (Obstacle G)}
    (hradius : ∀ o ∈ all, 0 ≤ o.radius)
    (hout : ∀ o ∈ all, o.transmittance ≠ 1 → o.radius < ‖o.location - self.location‖)
    (p : ℝ × ℝ) :
    p ∈ (self.innerRays all).map Vector2D.sample ↔ ∃ ray, self.Ray all ray
      ∧ (ray.angle, sightLimit ray.norm (opaqueDiscs all) self.location ray.angle) = p := by
  have hin : ∀ o ∈ self.inReach all, o ∈ all := fun o ho => (mem_inReach.mp ho).1
  have hdiscs : ∀ d ∈ opaqueDiscs (self.inReach all), d.radius < ‖d.location - self.location‖ := by
    intro d hd
    obtain ⟨o, ho, hopaque, rfl⟩ := mem_opaqueDiscs.mp hd
    exact hout o (hin o ho) hopaque
  -- the rays are those towards the obstacles in reach, in whatever order these come
  have hrays : ∀ ray, ray ∈ (self.extendBoundaries (self.inReach all)
      (self.boundary, self.boundaryOuter)).1 ↔ self.Ray all ray := by
    intro ray
    rw [extendBoundaries_eq _ (fun o ho hopaque => (hout o (hin o ho) hopaque).le)]
    simp only [List.mem_append, List.mem_flatMap, List.mem_filter, mem_inReach,
      decide_eq_true_eq, Ray]
    refine or_congr Iff.rfl (exists_congr fun o => ?_)
    tauto
  -- and what is out of reach does not shorten them
  have hclip : ∀ ray, self.Ray all ray → (clipRay (opaqueDiscs (self.inReach all)) false ray).sample
      = (ray.angle, sightLimit ray.norm (opaqueDiscs all) self.location ray.angle) := by
    intro ray hray
    have hsampled := h.sampled hradius hout hray
    have houtside : ∀ d ∈ opaqueDiscs (self.inReach all),
        d.radius < ‖d.location - ray.origin‖ := by rwa [hsampled.origin]
    obtain ⟨hangle, hnorm⟩ := clipRay_spec hsampled.pos houtside
    rw [hsampled.origin, sightLimit_inReach hout hsampled.norm_le] at hnorm
    exact Prod.ext hangle hnorm
  unfold innerRays
  rw [clipBoundary_eq, List.map_map, List.mem_map]
  constructor
  · rintro ⟨ray, hray, rfl⟩
    exact ⟨ray, (hrays ray).mp hray, (hclip ray ((hrays ray).mp hray)).symm⟩
  · rintro ⟨ray, hray, rfl⟩
    exact ⟨ray, (hrays ray).mpr hray, hclip ray hray⟩

/-- What is free of discs depends on the direction only. -/
theorem sightLimit_turn (cap : ℝ) (discs : List Disc) (origin : ℂ) {angle angle' : ℝ}
    (h : polar2cartesian 1 angle = polar2cartesian 1 angle') :
    sightLimit cap discs origin angle = sightLimit cap discs origin angle' := by
  have hentry : ∀ d : Disc, d.entryDistance origin angle = d.entryDistance origin angle' := by
    intro d
    have hinside : d.inside (.ofPolar origin 1 angle) = d.inside (.ofPolar origin 1 angle') := by
      rw [inside_eq_hits, inside_eq_hits, Vector2D.ofPolar_vector, Vector2D.ofPolar_vector, h]
      rfl
    unfold Disc.entryDistance
    rw [hinside]
  unfold sightLimit
  simp only [hentry]

theorem tangentAt_turn (d : Disc) (origin : ℂ) {angle angle' : ℝ}
    (h : polar2cartesian 1 angle = polar2cartesian 1 angle') :
    d.TangentAt origin angle ↔ d.TangentAt origin angle' := by
  unfold Disc.TangentAt
  rw [h]

omit [RandomState G] in
/-- The table is the same for all orders, and it is one of the full turn. -/
theorem FreshBoundary.exists_table (h : self.FreshBoundary) {all : List (Obstacle G)}
    (hradius : ∀ o ∈ all, 0 ≤ o.radius)
    (hout : ∀ o ∈ all, o.transmittance ≠ 1 → o.radius < ‖o.location - self.location‖) :
    ∃ rho rest, ((-180, rho) :: rest).Pairwise (fun p q : ℝ × ℝ => p.1 < q.1)
      ∧ (∀ p ∈ (-180, rho) :: rest, ∃ ray, self.Ray all ray
        ∧ (ray.angle, sightLimit ray.norm (opaqueDiscs all) self.location ray.angle) = p)
      ∧ ∀ _order : SetOrder,
        (self.addObstacles all).sightRangeFunc.points = (-180, rho) :: rest ++ [(180, rho)]
        ∧ (self.addObstacles all).sightRangeFunc.Spans (-180) 180 := by
  -- for one order of the obstacles
  have hspans : ∀ _order : SetOrder, ∃ rho rest,
      IsLeastTable ((self.innerRays all).map Vector2D.sample) ((-180, rho) :: rest)
      ∧ (self.addObstacles all).sightRangeFunc.points = (-180, rho) :: rest ++ [(180, rho)]
      ∧ (self.addObstacles all).sightRangeFunc.Spans (-180) 180 := by
    intro order
    rw [addObstacles_sightRangeFunc]
    refine interpolate_spans (fun b hb => ?_) ?_
    · obtain ⟨ray, hray, heq⟩ := (h.mem_samples hradius hout _).mp (List.mem_map_of_mem hb)
      have hangle := (h.sampled hradius hout hray).angle
      rw [show ray.angle = b.angle from congrArg Prod.fst heq] at hangle
      exact ⟨hangle.1, hangle.2.le⟩
    · have hray : self.Ray all (.ofPolar self.location (params.maxSightRange : ℚ) (-180)) :=
        .inl h.first_mem
      obtain ⟨b, hb, hsample⟩ := List.mem_map.mp
        ((h.mem_samples hradius hout _).mpr ⟨_, hray, rfl⟩)
      refine ⟨b, hb, (congrArg Prod.fst hsample).trans ?_⟩
      rw [ofPolar_angle _ (maxSightRange_pos params).le]
      exact normalizeAngle_of_mem le_rfl (by norm_num)
  obtain ⟨rho, rest, htable, -⟩ := hspans SetOrder.increasing
  have hsamples := @mem_samples params G self SetOrder.increasing h all hradius hout
  refine ⟨rho, rest, htable.increasing, fun p hp => ?_, fun order => ?_⟩
  · exact (hsamples p).mp (htable.sample p hp)
  · obtain ⟨rho', rest', htable', hpoints, hspan⟩ := hspans order
    -- two least tables of the same samples are equal
    have hsame := htable'.unique htable (fun p =>
      (h.mem_samples hradius hout p).trans (hsamples p).symm)
    obtain ⟨hhead, rfl⟩ := List.cons.inj hsame
    obtain rfl : rho' = rho := congrArg Prod.snd hhead
    exact ⟨hpoints, hspan⟩

/-- **The sight table of a camera.** After a reset, with any obstacles whose opaque ones the camera
is outside of: the breakpoints do not depend on the order in which the obstacles are gone through,
their angles increase from -180 to 180, and each has at most what is free in its direction, and all
of it unless the direction is tangent to an opaque disc. So the camera has a sight range at every
angle, and in the direction of a breakpoint it does not reach into an opaque disc. -/
theorem addObstacles_sightTable {start : Camera params G} (hreset : start.reset = .ok self)
    (all : List (Obstacle G)) (hradius : ∀ o ∈ all, 0 ≤ o.radius)
    (hout : ∀ o ∈ all, o.transmittance ≠ 1 → o.radius < ‖o.location - self.location‖) :
    ∃ points : List (ℝ × ℝ),
      (∀ _order : SetOrder, (self.addObstacles all).sightRangeFunc.points = points)
      ∧ points.Pairwise (fun p q => p.1 < q.1)
      ∧ (∃ first ∈ points.head?, first.1 = -180) ∧ (∃ last ∈ points.getLast?, last.1 = 180)
      ∧ (∀ p ∈ points,
        p.2 ≤ sightLimit (params.maxSightRange : ℚ) (opaqueDiscs all) self.location p.1
        ∧ ((∀ d ∈ opaqueDiscs all, ¬ d.TangentAt self.location p.1) →
          p.2 = sightLimit (params.maxSightRange : ℚ) (opaqueDiscs all) self.location p.1))
      ∧ ∀ (_order : SetOrder) (angle : ℝ),
        ∃ rho, (self.addObstacles all).sightRangeAt angle false = .ok rho
          ∧ ∀ p ∈ points, normalizeAngle p.1 = normalizeAngle angle →
            ∀ d ∈ opaqueDiscs all, ∀ t ∈ d.inside (.ofPolar self.location 1 angle), rho ≤ t := by
  have hfresh := reset_freshBoundary hreset
  have hdiscs : ∀ d ∈ opaqueDiscs all, d.radius < ‖d.location - self.location‖ := by
    intro d hd
    obtain ⟨o, ho, hopaque, rfl⟩ := mem_opaqueDiscs.mp hd
    exact hout o ho hopaque
  obtain ⟨rho, rest, hincreasing, hentries, hpoints⟩ := hfresh.exists_table hradius hout
  set table := (-180, rho) :: rest with htable
  have hangle : ∀ p ∈ table, -180 ≤ p.1 ∧ p.1 < 180 := by
    intro p hp
    obtain ⟨ray, hray, rfl⟩ := hentries p hp
    exact (hfresh.sampled hradius hout hray).angle
  have hturn : polar2cartesian 1 180 = polar2cartesian 1 (-180) := by
    have := polar2cartesian_add_turns 1 (-180) 1
    norm_num at this
    exact this
  have hvalue : ∀ p ∈ table,
      p.2 ≤ sightLimit (params.maxSightRange : ℚ) (opaqueDiscs all) self.location p.1
      ∧ ((∀ d ∈ opaqueDiscs all, ¬ d.TangentAt self.location p.1) →
        p.2 = sightLimit (params.maxSightRange : ℚ) (opaqueDiscs all) self.location p.1) := by
    intro p hp
    obtain ⟨ray, hray, rfl⟩ := hentries p hp
    have hsampled := hfresh.sampled hradius hout hray
    exact ⟨sightLimit_mono hsampled.norm_le _ _ _, hsampled.sightLimit_eq hdiscs⟩
  have hclosed : (table ++ [(180, rho)]).Pairwise (fun p q : ℝ × ℝ => p.1 < q.1) := by
    rw [List.pairwise_append]
    refine ⟨hincreasing, List.pairwise_singleton _ _, fun p hp q hq => ?_⟩
    rw [List.mem_singleton.mp hq]
    exact (hangle p hp).2
  refine ⟨table ++ [(180, rho)], fun order => (hpoints order).1, hclosed, ⟨(-180, rho), rfl, rfl⟩,
    ⟨(180, rho), by rw [List.getLast?_concat]; rfl, rfl⟩, fun p hp => ?_, fun order angle => ?_⟩
  · rcases List.mem_append.mp hp with hp | hp
    · exact hvalue p hp
    · -- the closing breakpoint is the first one after a full turn
      rw [List.mem_singleton.mp hp]
      obtain ⟨hle, heq⟩ := hvalue (-180, rho) List.mem_cons_self
      rw [sightLimit_turn _ _ _ hturn]
      refine ⟨hle, fun hno => heq (fun d hd htangent => hno d hd ?_)⟩
      exact (tangentAt_turn d _ hturn).mpr htangent
  · obtain ⟨hpts, hspan⟩ := hpoints order
    obtain ⟨sight, hsight⟩ := hspan.eval_returns (le_normalizeAngle angle)
      (normalizeAngle_lt angle).le
    refine ⟨sight, hsight, fun p hp hdirection d hd t ht => ?_⟩
    -- the breakpoint of the table in the direction of `angle`
    obtain ⟨q, hq, hqangle⟩ : ∃ q ∈ table, q.1 = normalizeAngle angle := by
      rw [← hdirection]
      rcases List.mem_append.mp hp with hp | hp
      · exact ⟨p, hp, (normalizeAngle_of_mem (hangle p hp).1 (hangle p hp).2).symm⟩
      · rw [List.mem_singleton.mp hp]
        refine ⟨(-180, rho), List.mem_cons_self, ?_⟩
        have hfull := normalizeAngle_add_360 (-180)
        rw [normalizeAngle_of_mem le_rfl (by norm_num)] at hfull
        norm_num at hfull
        exact hfull.symm
    have heval := hspan.eval_of_mem (by rwa [hpts]) (p := q)
      (by rw [hpts]; exact List.mem_append_left _ hq)
    rw [hqangle] at heval
    obtain rfl : q.2 = sight := Except.ok.inj (heval.symm.trans hsight)
    have hfree := (hvalue q hq).1
    rw [hqangle, sightLimit_turn _ _ _ (polar2cartesian_normalizeAngle 1 angle)] at hfree
    exact hfree.trans (sightLimit_le_of_mem hd ht)

/-- A camera in the middle of the terrain. -/
def middleParams : CameraConfig :=
  ⟨⟨[(0, 0)], []⟩, ⟨40, Positive.forty_pos⟩, ⟨90, Positive.ninety_pos⟩,
    ⟨500, Positive.fiveHundred_pos⟩, ⟨5, Positive.five_pos⟩, ⟨5 / 2, Positive.five_halves_pos⟩⟩

/-- A pillar beside it. -/
noncomputable def pillar : Obstacle (Fin 4) := ⟨300, 50, ⟨(300, 0), (300, 0)⟩, (50, 50), 0, 0⟩

theorem exists_middle :
    letI := Env.rotating
    ∃ start self : Camera middleParams (Fin 4), start.sightRangeOuterFunc = none
      ∧ start.reset = .ok self ∧ self.location = 0 ∧ self.FreshBoundary := by
  let _ := Env.rotating
  let start : Camera middleParams (Fin 4) :=
    ⟨0, ⟨(0, 0), (0, 0)⟩, 0, 0, 0, 0, [], [], ⟨[]⟩, none, ∅⟩
  obtain ⟨self, hreset, -⟩ := reset_returns (by norm_num [middleParams]) start
  refine ⟨start, self, rfl, hreset, ?_, reset_freshBoundary hreset⟩
  unfold reset at hreset
  dsimp only at hreset
  split at hreset
  · cases hreset
    show (resetLocation start.locationRandomRange _ start.rng).1 = 0
    rw [resetLocation_single]
    norm_num [clipTerrain, TERRAIN_SIZE, middleParams]
    rfl
  · cases hreset

theorem addObstacles_sightTable_pillar :
    letI := Env.rotating
    ∃ start self : Camera middleParams (Fin 4), start.reset = .ok self
      ∧ ∀ (_order : SetOrder) (angle : ℝ), ∃ rho,
        (self.addObstacles [pillar]).sightRangeAt angle false = .ok rho := by
  let _ := Env.rotating
  obtain ⟨start, self, -, hreset, hlocation, -⟩ := exists_middle
  have hout : ∀ o ∈ [pillar], o.transmittance ≠ 1 → o.radius < ‖o.location - self.location‖ := by
    intro o ho _
    rw [List.mem_singleton.mp ho, hlocation, sub_zero]
    norm_num [pillar]
  obtain ⟨points, -, -, -, -, -, hsight⟩ := addObstacles_sightTable hreset [pillar]
    (fun o ho => by rw [List.mem_singleton.mp ho]; norm_num [pillar]) hout
  refine ⟨start, self, hreset, fun order angle => ?_⟩
  obtain ⟨rho, hrho, -⟩ := hsight order angle
  exact ⟨rho, hrho⟩

end Camera

end Mate
