import Mate.Environment.Frame
import Mate.Library.Runs
import Mate.SightTable
import Mathlib.Analysis.SpecialFunctions.Trigonometric.Bounds

set_option autoImplicit false

/-! # The boundary of the field of view

`Camera.boundary_between` reads the radii inside of the interval from the table it is asked for and
the radii at the two ends from the inner one. So the samples are those of one curve just when the
two curves agree at the ends, and, for an interval that goes past 180 degrees, when the table has
no second value there (`boundaryBetween_iff`).
-/

namespace Mate

open Ball Fallible

/-! ## Tables of a full turn -/

namespace Interp1d

/-- A table from -180 to 180 degrees. Its last angle may stand there twice. -/
structure FullTurn (table : Interp1d) : Prop where
  spans : table.Spans (-180) 180
  increasing : table.points.Pairwise (fun p q => p.1 < q.1 ∨ q.1 = 180)

/-- The radii at 180 degrees are the one at -180 degrees. -/
def ClosesUp (table : Interp1d) : Prop :=
  ∀ p ∈ table.points, p.1 = 180 → table.eval (-180) = .ok p.2

variable {table : Interp1d}

theorem FullTurn.le_180 (h : table.FullTurn) {p : ℝ × ℝ} (hp : p ∈ table.points) : p.1 ≤ 180 := by
  obtain ⟨last, hlast, h180⟩ := h.spans.last
  obtain ⟨before, hbefore⟩ := List.getLast?_eq_some_iff.mp hlast
  have hsorted := h.spans.sorted
  rw [hbefore] at hp hsorted
  rw [List.pairwise_append] at hsorted
  rcases List.mem_append.mp hp with hp | hp
  · exact (hsorted.2.2 p hp last List.mem_cons_self).trans_eq h180
  · rw [List.mem_singleton.mp hp]
    exact h180.le

theorem FullTurn.ge_neg_180 (h : table.FullTurn) {p : ℝ × ℝ} (hp : p ∈ table.points) :
    -180 ≤ p.1 := by
  obtain ⟨rho, q, rest, hpoints⟩ := h.spans.exists_cons
  have hsorted := h.spans.sorted
  rw [hpoints] at hp hsorted
  rw [List.pairwise_cons] at hsorted
  rcases List.mem_cons.mp hp with rfl | hp
  · exact le_rfl
  · exact hsorted.1 p hp

theorem FullTurn.eval_of_mem (h : table.FullTurn) {p : ℝ × ℝ} (hp : p ∈ table.points)
    (hlt : p.1 < 180) : table.eval p.1 = .ok p.2 := by
  obtain ⟨before, after, hpoints⟩ := List.append_of_mem hp
  refine h.spans.eval_split hpoints (fun a ha => ?_)
  have hincreasing := h.increasing
  rw [hpoints, List.pairwise_append] at hincreasing
  exact (hincreasing.2.2 a ha p List.mem_cons_self).resolve_right hlt.ne

end Interp1d

namespace Camera

variable {params : CameraConfig} {G : Type} [RandomState G] {self : Camera params G}

/-! ## The samples of an interval -/

/-- Angles before the left end are those of the next turn. -/
noncomputable def unwrap (left phi : ℝ) : ℝ := if phi < left then phi + 360 else phi

/-- The samples are those of one curve: their angles increase from the left end to the right end,
modulo a full turn, and every radius is the sight range of the curve at its angle. -/
structure SamplesCurve (camera : Camera params G) (angleLeft angleRight : ℝ) (outer : Bool)
    (samples : List (ℝ × ℝ)) : Prop where
  first : samples.head?.map Prod.fst = some (normalizeAngle angleLeft)
  last : samples.getLast?.map Prod.fst = some (normalizeAngle angleLeft + (angleRight - angleLeft))
  increasing : samples.Pairwise (fun p q =>
    unwrap (normalizeAngle angleLeft) p.1 ≤ unwrap (normalizeAngle angleLeft) q.1)
  radius : ∀ p ∈ samples, camera.sightRangeAt p.1 outer = .ok p.2

/-- The samples of a table strictly inside of an interval. -/
noncomputable def samplesBetween (table : Interp1d) (left right : ℝ) : List (ℝ × ℝ) :=
  if right ≤ 180 then table.points.filter (fun p => left < p.1 ∧ p.1 < right)
  else table.points.filter (fun p => left < p.1 ∧ p.1 ≤ 180)
    ++ table.points.filter (fun p => -180 < p.1 ∧ p.1 < right - 360)

section

variable {table : Interp1d} {left right : ℝ}

theorem mem_samplesBetween {p : ℝ × ℝ} (hp : p ∈ samplesBetween table left right) :
    p ∈ table.points := by
  unfold samplesBetween at hp
  split at hp
  · exact (List.mem_filter.mp hp).1
  · rcases List.mem_append.mp hp with hp | hp <;> exact (List.mem_filter.mp hp).1

/-- The samples at 180 degrees are there when the interval goes past it. -/
theorem mem_samplesBetween_180 (hleft : left < 180) {p : ℝ × ℝ}
    (h180 : p.1 = 180) :
    p ∈ samplesBetween table left right ↔ p ∈ table.points ∧ 180 < right := by
  unfold samplesBetween
  split
  · rename_i hright
    rw [List.mem_filter, decide_eq_true_eq, h180]
    exact ⟨fun h => absurd h.2.2 (not_lt.mpr hright), fun h => absurd h.2 (not_lt.mpr hright)⟩
  · rename_i hright
    rw [List.mem_append, List.mem_filter, List.mem_filter, decide_eq_true_eq, decide_eq_true_eq,
      h180]
    constructor
    · rintro (h | h)
      · exact ⟨h.1, not_le.mp hright⟩
      · exact ⟨h.1, not_le.mp hright⟩
    · exact fun h => .inl ⟨h.1, hleft, le_rfl⟩

theorem samplesBetween_sorted (htable : table.FullTurn) (hleft : left < 180)
    (hright : right ≤ left + 360) :
    (samplesBetween table left right).Pairwise (fun p q => unwrap left p.1 ≤ unwrap left q.1)
      ∧ ∀ p ∈ samplesBetween table left right,
        left ≤ unwrap left p.1 ∧ unwrap left p.1 ≤ right := by
  have hsorted := htable.spans.sorted
  have hkeep : ∀ {x : ℝ}, left < x → unwrap left x = x := fun h => if_neg (not_lt.mpr h.le)
  unfold samplesBetween
  split
  · constructor
    · refine (hsorted.filter _).imp_of_mem (fun {p q} hp hq hle => ?_)
      rw [List.mem_filter, decide_eq_true_eq] at hp hq
      rwa [hkeep hp.2.1, hkeep hq.2.1]
    · intro p hp
      rw [List.mem_filter, decide_eq_true_eq] at hp
      rw [hkeep hp.2.1]
      exact ⟨hp.2.1.le, hp.2.2.le⟩
  · rename_i hpast
    -- the second half is of the next turn
    have hturn : ∀ {x : ℝ}, x < right - 360 → unwrap left x = x + 360 :=
      fun h => if_pos (by linarith)
    constructor
    · rw [List.pairwise_append]
      refine ⟨(hsorted.filter _).imp_of_mem (fun {p q} hp hq hle => ?_),
        (hsorted.filter _).imp_of_mem (fun {p q} hp hq hle => ?_), fun p hp q hq => ?_⟩
      · rw [List.mem_filter, decide_eq_true_eq] at hp hq
        rwa [hkeep hp.2.1, hkeep hq.2.1]
      · rw [List.mem_filter, decide_eq_true_eq] at hp hq
        rw [hturn hp.2.2, hturn hq.2.2]
        linarith
      · rw [List.mem_filter, decide_eq_true_eq] at hp hq
        rw [hkeep hp.2.1, hturn hq.2.2]
        linarith [hp.2.2, hq.2.1]
    · intro p hp
      rcases List.mem_append.mp hp with hp | hp
      · rw [List.mem_filter, decide_eq_true_eq] at hp
        rw [hkeep hp.2.1]
        exact ⟨hp.2.1.le, hp.2.2.trans (not_le.mp hpast).le⟩
      · rw [List.mem_filter, decide_eq_true_eq] at hp
        rw [hturn hp.2.2]
        constructor <;> linarith [hp.2.1, hp.2.2]

end

/-- What `add_obstacles` and `reset` leave: the inner table, and the outer one if there is one. -/
structure Tabulated (camera : Camera params G) : Prop where
  inner : camera.sightRangeFunc.FullTurn
  closed : camera.sightRangeFunc.ClosesUp
  outer : ∀ table ∈ camera.sightRangeOuterFunc, table.FullTurn

/-- The two curves agree at the ends of the interval, and past 180 degrees the outer one has no
second value. -/
def CurvesAgree (self : Camera params G) (angleLeft angleRight : ℝ) : Prop :=
  self.sightRangeAt angleLeft true = self.sightRangeAt angleLeft false
    ∧ self.sightRangeAt angleRight true = self.sightRangeAt angleRight false
    ∧ (180 < normalizeAngle angleLeft + (angleRight - angleLeft) →
      ∀ table ∈ self.sightRangeOuterFunc, table.ClosesUp)

omit [RandomState G] in
theorem sightRangeAt_turn {angle angle' : ℝ} (h : normalizeAngle angle = normalizeAngle angle')
    (outer : Bool) : self.sightRangeAt angle outer = self.sightRangeAt angle' outer := by
  unfold sightRangeAt
  rw [h]

/-- The right end of an interval that starts between -180 and 180 degrees. -/
theorem normalizeAngle_right (l r : ℝ) :
    normalizeAngle (normalizeAngle l + (r - l)) = normalizeAngle r := by
  have h : normalizeAngle l + (r - l) = r + 360 * (-turns l : ℤ) := by
    rw [normalizeAngle_eq]
    push_cast
    ring
  rw [h, normalizeAngle_add_turns]

omit [RandomState G] in
/-- The samples with the ends of the inner table. -/
theorem boundaryBetween_eq (h : self.Tabulated) {l r : ℝ} (hlt : l < r) (hle : r ≤ l + 360)
    {outer : Bool} {table : Interp1d} (htable : self.sightTable outer = some table) :
    ∃ left right, self.sightRangeAt l false = .ok left ∧ self.sightRangeAt r false = .ok right
      ∧ self.boundaryBetween l r outer = .ok ((normalizeAngle l, left)
        :: samplesBetween table (normalizeAngle l) (normalizeAngle l + (r - l))
          ++ [(normalizeAngle l + (r - l), right)]) := by
  have heval : ∀ angle, ∃ rho, self.sightRangeAt angle false = .ok rho := fun angle =>
    h.inner.spans.eval_returns (le_normalizeAngle angle) (normalizeAngle_lt angle).le
  obtain ⟨left, hleft⟩ := heval l
  obtain ⟨right, hright⟩ := heval r
  have hl : normalizeAngle (normalizeAngle l) = normalizeAngle l := normalizeAngle_normalizeAngle l
  have hr := normalizeAngle_right l r
  refine ⟨left, right, hleft, hright, ?_⟩
  unfold boundaryBetween
  rw [if_pos ⟨sub_pos.mpr hlt, by linarith⟩, htable]
  dsimp only
  rw [sightRangeAt_turn hl, sightRangeAt_turn hr, hleft, hright]
  rfl

omit [RandomState G] in
/-- The samples of a table, with ends that are on its curve too. -/
theorem samplesCurve_of (outer : Bool) {table : Interp1d}
    (htable : self.sightTable outer = some table)
    (hfull : table.FullTurn) {l r left right : ℝ} (hlt : l < r) (hle : r ≤ l + 360)
    (hleft : self.sightRangeAt l outer = .ok left)
    (hright : self.sightRangeAt r outer = .ok right)
    (hclosed : 180 < normalizeAngle l + (r - l) → table.ClosesUp) :
    self.SamplesCurve l r outer ((normalizeAngle l, left)
      :: samplesBetween table (normalizeAngle l) (normalizeAngle l + (r - l))
        ++ [(normalizeAngle l + (r - l), right)]) := by
  have hl180 := normalizeAngle_lt l
  obtain ⟨hsorted, hbounds⟩ := samplesBetween_sorted hfull hl180
    (show normalizeAngle l + (r - l) ≤ normalizeAngle l + 360 by linarith)
  have hunwrapl : unwrap (normalizeAngle l) (normalizeAngle l) = normalizeAngle l :=
    if_neg (lt_irrefl _)
  have hunwrapr : unwrap (normalizeAngle l) (normalizeAngle l + (r - l))
      = normalizeAngle l + (r - l) := if_neg (by linarith)
  refine ⟨rfl, ?_, ?_, fun p hp => ?_⟩
  · rw [List.getLast?_concat]
    rfl
  · rw [List.cons_append, List.pairwise_cons, List.pairwise_append]
    refine ⟨fun p hp => ?_, hsorted, List.pairwise_singleton _ _, fun p hp q hq => ?_⟩
    · rw [hunwrapl]
      rcases List.mem_append.mp hp with hp | hp
      · exact (hbounds p hp).1
      · rw [List.mem_singleton.mp hp, hunwrapr]
        linarith
    · rw [List.mem_singleton.mp hq, hunwrapr]
      exact (hbounds p hp).2
  · rw [List.cons_append, List.mem_cons, List.mem_append, List.mem_singleton] at hp
    rcases hp with rfl | hp | rfl
    · rw [sightRangeAt_turn (normalizeAngle_normalizeAngle l), hleft]
    · have hmem := mem_samplesBetween hp
      have heval : self.sightRangeAt p.1 outer = table.eval (normalizeAngle p.1) := by
        unfold sightRangeAt
        rw [htable]
      rw [heval]
      -- at 180 degrees the table is read at its other end
      rcases lt_or_eq_of_le (hfull.le_180 hmem) with h180 | h180
      · rw [normalizeAngle_of_mem (hfull.ge_neg_180 hmem) h180]
        exact hfull.eval_of_mem hmem h180
      · rw [h180, normalizeAngle_180]
        exact hclosed ((mem_samplesBetween_180 hl180 h180).mp hp).2 p hmem h180
    · rw [sightRangeAt_turn (normalizeAngle_right l r), hright]

omit [RandomState G] in
/-- **One curve.** The samples of `boundary_between` are those of the curve it is asked for just
when this is the inner one, or both curves agree where the samples end. -/
theorem Tabulated.samples_iff (h : self.Tabulated) {l r : ℝ} (hlt : l < r)
    (hle : r ≤ l + 360) (outer : Bool) :
    (∃ samples, self.boundaryBetween l r outer = .ok samples ∧ self.SamplesCurve l r outer samples)
      ↔ outer = false ∨ self.CurvesAgree l r := by
  cases outer with
  | false =>
      have hsome : self.sightTable false = some self.sightRangeFunc := rfl
      obtain ⟨left, right, hleft, hright, heq⟩ := boundaryBetween_eq h hlt hle hsome
      refine ⟨fun _ => .inl rfl, fun _ => ⟨_, heq, ?_⟩⟩
      exact samplesCurve_of false hsome h.inner hlt hle hleft hright (fun _ => h.closed)
  | true =>
      cases htable : self.sightRangeOuterFunc with
      | none =>
          -- there is no outer table yet
          have hnone : self.sightTable true = none := htable
          constructor
          · rintro ⟨samples, hsamples, -⟩
            unfold boundaryBetween at hsamples
            rw [if_pos ⟨sub_pos.mpr hlt, by linarith⟩, hnone] at hsamples
            cases hsamples
          · rintro (hfalse | ⟨hleft, -⟩)
            · cases hfalse
            · obtain ⟨rho, hrho⟩ := h.inner.spans.eval_returns (le_normalizeAngle l)
                (normalizeAngle_lt l).le
              unfold sightRangeAt at hleft
              rw [hnone] at hleft
              exact absurd (hleft.trans hrho) (fun heq => (nomatch heq))
      | some table =>
          have hsome : self.sightTable true = some table := htable
          have hfull := h.outer table htable
          obtain ⟨left, right, hleft, hright, heq⟩ := boundaryBetween_eq h hlt hle hsome
          constructor
          · rintro ⟨samples, hsamples, hcurve⟩
            rw [heq] at hsamples
            cases hsamples
            refine .inr ⟨?_, ?_, fun hpast table' htable' p hp h180 => ?_⟩
            · rw [hleft, ← sightRangeAt_turn (normalizeAngle_normalizeAngle l)]
              exact hcurve.radius (normalizeAngle l, left) (by simp)
            · rw [hright, ← sightRangeAt_turn (normalizeAngle_right l r)]
              exact hcurve.radius (normalizeAngle l + (r - l), right) (by simp)
            · obtain rfl : table = table' := Option.some.inj (htable.symm.trans htable')
              have hmem := (mem_samplesBetween_180 (normalizeAngle_lt l) h180).mpr ⟨hp, hpast⟩
              have hradius := hcurve.radius p (by simp [hmem])
              unfold sightRangeAt at hradius
              rwa [hsome, h180, normalizeAngle_180] at hradius
          · rintro (hfalse | ⟨hl, hr, hclosed⟩)
            · cases hfalse
            · refine ⟨_, heq, ?_⟩
              exact samplesCurve_of true hsome hfull hlt hle (hl.trans hleft) (hr.trans hright)
                (fun hpast => hclosed hpast table htable)

end Camera

/-! ## The rays of a boundary -/

/-- A ray that starts at `origin` and is not zero. -/
structure Vector2D.From (ray : Vector2D) (origin : ℂ) : Prop where
  origin_eq : ray.origin = origin
  angle : -180 ≤ ray.angle ∧ ray.angle ≤ 180
  pos : 0 < ray.norm

theorem from_ofPolar (origin : ℂ) {rho : ℝ} (h : 0 < rho) (angle : ℝ) :
    (Vector2D.ofPolar origin rho angle).From origin := by
  refine ⟨rfl, ?_, ?_⟩
  · rw [ofPolar_angle origin h.le]
    exact ⟨le_normalizeAngle angle, (normalizeAngle_lt angle).le⟩
  · rwa [ofPolar_norm origin h.le]

theorem from_ofVector (origin : ℂ) {z : ℂ} (h : z ≠ 0) : (Vector2D.ofVector origin z).From origin :=
  ⟨rfl, ⟨(arctan2Deg_mem z).1.le, (arctan2Deg_mem z).2⟩, norm_pos_iff.mpr h⟩

namespace Vector2D.From

variable {ray : Vector2D} {origin : ℂ}

/-- A disc stops a ray where its half line enters the disc or leaves it. -/
theorem obstruct (h : ray.From origin) {d : Disc} (hout : d.radius < ‖d.location - origin‖)
    (outer : Bool) :
    (d.obstruct ray false outer).From origin ∧ (d.obstruct ray false outer).angle = ray.angle
      ∧ ((d.obstruct ray false outer).norm = ray.norm ∨ (d.ball ray.origin).Crossed ray.vector
        ∧ (d.obstruct ray false outer).norm = d.stop outer ray) := by
  have hv : ray.vector ≠ 0 := by
    rw [← norm_pos_iff, ← ray.norm_eq]
    exact h.pos
  rw [← h.origin_eq] at hout
  rw [obstruct_eq d ray false outer hout.le hv, if_neg Bool.false_ne_true]
  split
  · rename_i hstop
    have hpos : 0 < d.stop outer ray :=
      (hstop.1.entry_pos hv hout).trans_le (entry_le_stop d outer ray)
    have hshort := shortened_setNorm hpos.le hstop.2
    refine ⟨⟨hshort.origin.trans h.origin_eq, ?_, ?_⟩, hshort.angle, .inr ⟨hstop.1, hshort.norm⟩⟩
    · rw [hshort.angle]
      exact h.angle
    · rwa [hshort.norm]
  · exact ⟨h, rfl, .inl rfl⟩

theorem clipRay (h : ray.From origin) {discs : List Disc}
    (hout : ∀ d ∈ discs, d.radius < ‖d.location - origin‖) (outer : Bool) :
    (Mate.clipRay discs outer ray).From origin
      ∧ (Mate.clipRay discs outer ray).angle = ray.angle := by
  induction discs generalizing ray with
  | nil => exact ⟨h, rfl⟩
  | cons d discs ih =>
      obtain ⟨hfrom, hangle, -⟩ := h.obstruct (hout d List.mem_cons_self) outer
      obtain ⟨hfrom', hangle'⟩ := ih hfrom (fun d' hd' => hout d' (List.mem_cons_of_mem d hd'))
      exact ⟨hfrom', hangle'.trans hangle⟩

/-- Outside of the tangent points the outer curve is no nearer than they are. -/
theorem le_norm_clipRay (h : ray.From origin) {discs : List Disc} {bound : ℝ} (hbound : 0 ≤ bound)
    (hout : ∀ d ∈ discs, d.radius < ‖d.location - origin‖)
    (hfar : ∀ d ∈ discs, bound ^ 2 ≤ ‖d.location - origin‖ ^ 2 - d.radius ^ 2)
    (hle : bound ≤ ray.norm) : bound ≤ (Mate.clipRay discs true ray).norm := by
  induction discs generalizing ray with
  | nil => exact hle
  | cons d discs ih =>
      obtain ⟨hfrom, -, hnorm⟩ := h.obstruct (hout d List.mem_cons_self) true
      refine ih hfrom (fun d' hd' => hout d' (List.mem_cons_of_mem d hd'))
        (fun d' hd' => hfar d' (List.mem_cons_of_mem d hd')) ?_
      rcases hnorm with hnorm | ⟨hcrossed, hnorm⟩
      · rwa [hnorm]
      · have hv : ray.vector ≠ 0 := by
          rw [← norm_pos_iff, ← ray.norm_eq]
          exact h.pos
        have hoff := offset_sq (d.ball ray.origin) hv
        have hlt := pow_lt_pow_left₀ hcrossed.2 ((d.ball ray.origin).offset_nonneg _) two_ne_zero
        have hd := hfar d List.mem_cons_self
        have hcenter : ‖(d.ball ray.origin).center‖ = ‖d.location - origin‖ := by
          rw [← h.origin_eq]
          rfl
        have hradius : (d.ball ray.origin).radius = d.radius := rfl
        rw [hcenter] at hoff
        rw [hradius] at hlt
        have halong : bound ≤ (d.ball ray.origin).along ray.vector := by
          apply (sq_le_sq₀ hbound hcrossed.1).mp
          linarith
        have hchord := (d.ball ray.origin).chord_nonneg ray.vector
        rw [hnorm]
        show bound ≤ (d.ball ray.origin).along ray.vector + (d.ball ray.origin).chord ray.vector
        linarith

end Vector2D.From

/-- Rays in all directions from `origin`. -/
structure Around (origin : ℂ) (boundary : List Vector2D) : Prop where
  rays : ∀ ray ∈ boundary, ray.From origin
  first : ∃ ray ∈ boundary, ray.angle = -180

namespace Around

variable {origin : ℂ} {boundary : List Vector2D}

theorem append (h : Around origin boundary) {more : List Vector2D}
    (hmore : ∀ ray ∈ more, ray.From origin) : Around origin (boundary ++ more) := by
  obtain ⟨ray, hray, hangle⟩ := h.first
  refine ⟨fun ray' hray' => ?_, ray, List.mem_append_left _ hray, hangle⟩
  rcases List.mem_append.mp hray' with hray' | hray'
  · exact h.rays ray' hray'
  · exact hmore ray' hray'

theorem clip (h : Around origin boundary) {discs : List Disc}
    (hout : ∀ d ∈ discs, d.radius < ‖d.location - origin‖) (outer : Bool) :
    Around origin (boundary.map (clipRay discs outer)) := by
  obtain ⟨first, hfirst, hangle⟩ := h.first
  refine ⟨fun ray hray => ?_, clipRay discs outer first, List.mem_map_of_mem hfirst, ?_⟩
  · obtain ⟨b, hb, rfl⟩ := List.mem_map.mp hray
    exact ((h.rays b hb).clipRay hout outer).1
  · exact ((h.rays first hfirst).clipRay hout outer).2.trans hangle

/-- The table of rays in all directions is one of a full turn, and it closes up when no ray points
to 180 degrees. -/
theorem interpolate (h : Around origin boundary) :
    Around origin (Camera.interpolate boundary).2 ∧ (Camera.interpolate boundary).1.FullTurn
      ∧ ((∀ ray ∈ boundary, ray.angle < 180) → (Camera.interpolate boundary).1.ClosesUp) := by
  obtain ⟨rho, rest, htable, hpoints, hspans⟩ :=
    Camera.interpolate_spans (fun b hb => (h.rays b hb).angle) h.first
  have hentries := (Camera.interpolate_spec boundary).1
  refine ⟨⟨fun ray hray => h.rays ray (Camera.mem_of_mem_interpolate hray), ?_⟩,
    ⟨hspans, ?_⟩, fun hlt p hp h180 => ?_⟩
  · have hmem := ((htable.unique hentries (fun p => Iff.rfl)) ▸ List.mem_cons_self :
      (-180, rho) ∈ (Camera.interpolate boundary).2.map Vector2D.sample)
    obtain ⟨ray, hray, heq⟩ := List.mem_map.mp hmem
    exact ⟨ray, hray, congrArg Prod.fst heq⟩
  · rw [hpoints, List.pairwise_append]
    refine ⟨htable.increasing.imp Or.inl, List.pairwise_singleton _ _, fun p _ q hq => .inr ?_⟩
    rw [List.mem_singleton.mp hq]
  · rw [hpoints] at hp
    rcases List.mem_append.mp hp with hp | hp
    · obtain ⟨b, hb, rfl⟩ := List.mem_map.mp (htable.sample p hp)
      exact absurd h180 (hlt b hb).ne
    · rw [List.mem_singleton.mp hp]
      have hsplit : (Camera.interpolate boundary).1.points
          = [] ++ (-180, rho) :: (rest ++ [(180, rho)]) := hpoints
      exact hspans.eval_split hsplit (fun a ha => absurd ha List.not_mem_nil)

/-- At the angle of a ray the table has the norm of some ray, and no more than that of this one. -/
theorem exists_value (h : Around origin boundary) {ray : Vector2D} (hray : ray ∈ boundary)
    (hlt : ray.angle < 180) :
    ∃ ray' ∈ boundary, ray'.norm ≤ ray.norm
      ∧ (Camera.interpolate boundary).1.eval ray.angle = .ok ray'.norm := by
  obtain ⟨rho, rest, htable, hpoints, -⟩ :=
    Camera.interpolate_spans (fun b hb => (h.rays b hb).angle) h.first
  obtain ⟨p, hp, hangle, hle⟩ := htable.covers ray.sample (List.mem_map_of_mem hray)
  have hpray : p.1 = ray.angle := hangle
  obtain ⟨ray', hray', hsample⟩ := List.mem_map.mp (htable.sample p hp)
  have hnorm : ray'.norm = p.2 := congrArg Prod.snd hsample
  have hmem : p ∈ (Camera.interpolate boundary).1.points := by
    rw [hpoints]
    exact List.mem_append_left _ hp
  have heval := h.interpolate.2.1.eval_of_mem hmem (hpray.trans_lt hlt)
  rw [hpray, ← hnorm] at heval
  exact ⟨ray', hray', hnorm.trans_le hle, heval⟩

end Around

/-! ## The calls on a camera -/

namespace Camera

variable {params : CameraConfig} {G : Type} [RandomState G] {self : Camera params G}

/-- The segment beside an obstacle does not come near the camera. -/
theorem segment_ne_zero {near far : ℝ} (hnear : 0 < near) (hfar : 0 < far) {angle angle' t : ℝ}
    (hclose : |angle' - angle| ≤ 1 / 100) (ht : 0 ≤ t ∧ t ≤ 1) :
    ((1 - t : ℝ) * polar2cartesian near angle + (t : ℝ) * polar2cartesian far angle' : ℂ) ≠ 0 := by
  have hcos : 0 < Real.cos (deg2rad (angle' - angle)) := by
    have hpi := Real.pi_pos
    have habs : |deg2rad (angle' - angle)| ≤ 1 / 100 * (Real.pi / 180) := by
      unfold deg2rad
      rw [abs_mul, abs_of_pos (show 0 < Real.pi / 180 by positivity)]
      exact mul_le_mul_of_nonneg_right hclose (by positivity)
    have := abs_le.mp habs
    refine Real.cos_pos_of_mem_Ioo ⟨?_, ?_⟩ <;> linarith
  intro hzero
  have hinner := congrArg (inner ℝ (polar2cartesian 1 angle)) hzero
  rw [inner_zero_right, inner_add_right, ← Complex.real_smul, ← Complex.real_smul,
    real_inner_smul_right, real_inner_smul_right, inner_polar2cartesian_polar2cartesian,
    inner_polar2cartesian_polar2cartesian, sub_self] at hinner
  have hzero' : deg2rad 0 = 0 := zero_mul _
  rw [hzero', Real.cos_zero, one_mul, one_mul, mul_one] at hinner
  rcases ht.2.eq_or_lt with rfl | hlt
  · have := mul_pos hfar hcos
    linarith
  · have h1 := mul_pos (sub_pos.mpr hlt) hnear
    have h2 := mul_nonneg ht.1 (mul_pos hfar hcos).le
    linarith

omit [RandomState G] in
/-- The rays that are added for an obstacle start at the camera and are not zero. -/
theorem from_tangentRays {o : Obstacle G} (hr : 0 ≤ o.radius)
    (hout : o.radius < ‖o.location - self.location‖) {ray : Vector2D}
    (hray : ray ∈ (self.tangentRays o).1 ∨ ray ∈ (self.tangentRays o).2) :
    ray.From self.location := by
  have hinner : ∀ b ∈ (self.tangentRays o).1, b.From self.location := by
    intro b hb
    have hsampled := sampled_tangentRays hr hout (List.mem_singleton.mpr rfl) hb
    exact ⟨hsampled.origin, ⟨hsampled.angle.1, hsampled.angle.2.le⟩, hsampled.pos⟩
  rcases hray with hray | hray
  · exact hinner ray hray
  have hmax := maxSightRange_pos params
  have hnorm : 0 < ‖o.location - self.location‖ := hr.trans_lt hout
  have hnear : 0 < min ((params.maxSightRange : ℚ) : ℝ)
      √(‖o.location - self.location‖ ^ 2 + o.radius ^ 2) :=
    lt_min hmax (Real.sqrt_pos.mpr (by positivity))
  -- a ray to a point of a segment between two rays that are close to each other
  have hsegment : ∀ angle angle' : ℝ, |angle' - angle| ≤ 1 / 100 → ∀ t ∈ linspace 0 1 20,
      (Vector2D.ofVector self.location
        ((1 - t : ℝ) * (Vector2D.ofPolar self.location (min ((params.maxSightRange : ℚ) : ℝ)
            √(‖o.location - self.location‖ ^ 2 + o.radius ^ 2)) angle).vector
          + (t : ℝ)
            * (Vector2D.ofPolar self.location (params.maxSightRange : ℚ) angle').vector)).From
        self.location := by
    intro angle angle' hclose t ht
    rw [Vector2D.ofPolar_vector, Vector2D.ofPolar_vector]
    exact from_ofVector _ (segment_ne_zero hnear hmax hclose
      (mem_linspace zero_le_one (by norm_num) ht))
  rcases List.mem_append.mp hray with hray | hright
  · rcases List.mem_append.mp hray with hacross | hleft
    · exact hinner ray (List.mem_append_right _ hacross)
    · obtain ⟨t, ht, rfl⟩ := List.mem_map.mp hleft
      exact hsegment _ _ (by rw [abs_le]; constructor <;> linarith) t ht
  · obtain ⟨t, ht, rfl⟩ := List.mem_map.mp hright
    exact hsegment _ _ (by rw [abs_le]; constructor <;> linarith) t ht

/-- The camera is outside of the opaque obstacles. -/
def Outside (self : Camera params G) (all : List (Obstacle G)) : Prop :=
  ∀ o ∈ all, 0 ≤ o.radius ∧ (o.transmittance ≠ 1 → o.radius < ‖o.location - self.location‖)

/-- The calls on a camera. -/
inductive Call (G : Type)
  | reset
  | simulate (action : ℝ × ℝ)
  | addObstacles (order : SetOrder) (all : List (Obstacle G))
  | clearObstacles
  | perceive (location : ℂ) (transmittance : ℝ)

/-- The camera after a call that returns. Obstacles are added only where the camera is outside of
the opaque ones, as the environment places it. -/
def Next (self : Camera params G) (call : Call G) (self' : Camera params G) : Prop :=
  match call with
  | .reset => self.reset = .ok self'
  | .simulate action => self' = self.simulate action
  | .addObstacles _order all =>
      self.Outside all ∧ self' = self.addObstacles all
  | .clearObstacles => self' = self.clearObstacles
  | .perceive location transmittance =>
      ∃ seen, self.perceive location transmittance = .ok (seen, self')

/-- A camera as its constructor leaves it: it has been reset once, and has no outer table. -/
def New (self : Camera params G) : Prop :=
  ∃ start : Camera params G, start.sightRangeOuterFunc = none ∧ start.reset = .ok self

/-- What every call keeps. -/
structure Sighted (camera : Camera params G) : Prop where
  inner : Around camera.location camera.boundary
  inner_lt : ∀ ray ∈ camera.boundary, ray.angle < 180
  outer : Around camera.location camera.boundaryOuter
  tables : camera.Tabulated

theorem linspace_eq (start stop : ℝ) (num : ℕ) :
    linspace start stop num
      = (List.range (num + 1)).map (fun i : ℕ => start + (stop - start) * i / num) := by
  simp [linspace, List.map_eq_flatMap, List.flatMap_assoc]

omit [RandomState G] in
/-- The table that `reset` makes. -/
theorem fullTurn_reset (rho : ℝ) :
    (⟨(linspace (-180) 180 360).map (fun phi => (phi, rho))⟩ : Interp1d).FullTurn
      ∧ (⟨(linspace (-180) 180 360).map (fun phi => (phi, rho))⟩ : Interp1d).ClosesUp := by
  set points := (linspace (-180) 180 360).map (fun phi => (phi, rho)) with hdef
  have hpoints : points
      = (List.range 361).map (fun i : ℕ => ((-180 + (180 - -180) * i / (360 : ℕ) : ℝ), rho)) := by
    rw [hdef, linspace_eq, List.map_map]
    rfl
  have hincreasing : points.Pairwise (fun p q => p.1 < q.1) := by
    rw [hpoints, List.pairwise_map]
    refine List.pairwise_lt_range.imp (fun {i j} hij => ?_)
    have : (i : ℝ) < j := Nat.cast_lt.mpr hij
    push_cast
    linarith
  have hfirst : ((-180 : ℝ), rho) ∈ points.head? := by
    rw [hpoints]
    norm_num [List.head?_range]
  have hlast : ((180 : ℝ), rho) ∈ points.getLast? := by
    rw [hpoints, List.range_succ, List.map_append, List.map_singleton, List.getLast?_concat]
    norm_num
  have hspans : (⟨points⟩ : Interp1d).Spans (-180) 180 :=
    ⟨⟨_, hfirst, rfl⟩, ⟨_, hlast, rfl⟩, by norm_num, hincreasing.imp le_of_lt⟩
  refine ⟨⟨hspans, hincreasing.imp Or.inl⟩, fun p hp _ => ?_⟩
  have hrho : p.2 = rho := by
    obtain ⟨phi, -, rfl⟩ := List.mem_map.mp hp
    rfl
  rw [hrho]
  exact hspans.eval_of_mem hincreasing (List.mem_of_mem_head? hfirst)

theorem sighted_reset {start : Camera params G}
    (hold : ∀ table ∈ start.sightRangeOuterFunc, table.FullTurn) (h : start.reset = .ok self) :
    self.Sighted := by
  have hfresh := reset_freshBoundary h
  have hpos := maxSightRange_pos params
  have haround : Around self.location self.boundary := by
    refine ⟨fun ray hray => ?_, _, hfresh.first_mem, ?_⟩
    · rw [hfresh.1] at hray
      obtain ⟨angle, -, rfl⟩ := List.mem_map.mp hray
      exact from_ofPolar _ hpos angle
    · rw [ofPolar_angle _ hpos.le]
      exact normalizeAngle_of_mem le_rfl (by norm_num)
  refine ⟨haround, fun ray hray => ?_, by rwa [hfresh.2], ?_⟩
  · rw [hfresh.1] at hray
    obtain ⟨angle, -, rfl⟩ := List.mem_map.mp hray
    rw [ofPolar_angle _ hpos.le]
    exact normalizeAngle_lt angle
  · have htable := fullTurn_reset ((params.maxSightRange : ℚ) : ℝ)
    unfold reset at h
    dsimp only at h
    split at h
    · cases h
      exact ⟨htable.1, htable.2, hold⟩
    · cases h

/-- The rays of the boundary after they are clipped, with those that are added. -/
noncomputable def clippedRays [SetOrder] (self : Camera params G) (all : List (Obstacle G))
    (outer : Bool) : List Vector2D :=
  ((if outer then self.boundaryOuter else self.boundary)
    ++ ((self.inReach all).filter (fun o => o.transmittance ≠ 1)).flatMap
      (fun o => if outer then (self.tangentRays o).2 else (self.tangentRays o).1)).map
    (clipRay (opaqueDiscs (self.inReach all)) outer)

section

variable [SetOrder] {all : List (Obstacle G)}

omit [RandomState G] in
/-- What `add_obstacles` changes. -/
theorem addObstacles_eq (hall : self.Outside all) :
    self.addObstacles all = { self with
      obstacles := (self.addObstacles all).obstacles
      boundary := (interpolate (self.clippedRays all false)).2
      sightRangeFunc := (interpolate (self.clippedRays all false)).1
      boundaryOuter := (interpolate (self.clippedRays all true)).2
      sightRangeOuterFunc := some (interpolate (self.clippedRays all true)).1 } := by
  have hextend := @extendBoundaries_eq params G self (self.inReach all)
    (fun o ho hopaque => ((hall o (mem_inReach.mp ho).1).2 hopaque).le)
    (self.boundary, self.boundaryOuter)
  have hinner : self.clippedRays all false = clipBoundary (self.inReach all) false
      (self.extendBoundaries (self.inReach all) (self.boundary, self.boundaryOuter)).1 := by
    rw [hextend, clipBoundary_eq]
    rfl
  have houter : self.clippedRays all true = clipBoundary (self.inReach all) true
      (self.extendBoundaries (self.inReach all) (self.boundary, self.boundaryOuter)).2 := by
    rw [hextend, clipBoundary_eq]
    rfl
  rw [hinner, houter]
  rfl

omit [RandomState G] in
theorem Outside.discs (hall : self.Outside all) :
    ∀ d ∈ opaqueDiscs (self.inReach all), d.radius < ‖d.location - self.location‖ := by
  intro d hd
  obtain ⟨o, ho, hopaque, rfl⟩ := mem_opaqueDiscs.mp hd
  exact (hall o (mem_inReach.mp ho).1).2 hopaque

omit [RandomState G] in
/-- The opaque obstacles in reach, with the camera outside of them. -/
theorem Outside.of_mem_filter (hall : self.Outside all) {o : Obstacle G}
    (ho : o ∈ (self.inReach all).filter (fun o => o.transmittance ≠ 1)) :
    0 ≤ o.radius ∧ o.radius < ‖o.location - self.location‖ := by
  obtain ⟨hmem, hne⟩ := List.mem_filter.mp ho
  have ho' := hall o (mem_inReach.mp hmem).1
  exact ⟨ho'.1, ho'.2 (by simpa using hne)⟩

omit [RandomState G] in
theorem Sighted.around_clippedRays (h : self.Sighted) (hall : self.Outside all) (outer : Bool) :
    Around self.location (self.clippedRays all outer) := by
  refine Around.clip (Around.append ?_ (fun ray hray => ?_)) hall.discs outer
  · cases outer with
    | true => exact h.outer
    | false => exact h.inner
  · obtain ⟨o, ho, hray⟩ := List.mem_flatMap.mp hray
    obtain ⟨hr, hout⟩ := hall.of_mem_filter ho
    cases outer with
    | true => exact from_tangentRays hr hout (.inr hray)
    | false => exact from_tangentRays hr hout (.inl hray)

omit [RandomState G] in
theorem Sighted.clippedRays_lt (h : self.Sighted) (hall : self.Outside all) :
    ∀ ray ∈ self.clippedRays all false, ray.angle < 180 := by
  intro ray hray
  obtain ⟨b, hb, rfl⟩ := List.mem_map.mp hray
  rcases List.mem_append.mp hb with hb | hb
  · rw [((h.inner.rays b hb).clipRay hall.discs false).2]
    exact h.inner_lt b hb
  · obtain ⟨o, ho, hb⟩ := List.mem_flatMap.mp hb
    obtain ⟨hr, hout⟩ := hall.of_mem_filter ho
    rw [((from_tangentRays hr hout (.inl hb)).clipRay hall.discs false).2]
    exact (sampled_tangentRays hr hout (List.mem_singleton.mpr rfl) hb).angle.2

omit [RandomState G] in
theorem Sighted.addObstacles (h : self.Sighted) (hall : self.Outside all) :
    (self.addObstacles all).Sighted := by
  obtain ⟨haround, hfull, hclosed⟩ := (h.around_clippedRays hall false).interpolate
  obtain ⟨haround', hfull', -⟩ := (h.around_clippedRays hall true).interpolate
  rw [addObstacles_eq hall]
  refine ⟨haround, fun ray hray => ?_, haround', hfull, hclosed (h.clippedRays_lt hall), ?_⟩
  · exact h.clippedRays_lt hall ray (mem_of_mem_interpolate hray)
  · rintro table ⟨⟩
    exact hfull'

end

theorem Sighted.next (h : self.Sighted) {call : Call G} {self' : Camera params G}
    (hnext : self.Next call self') : self'.Sighted := by
  cases call with
  | reset => exact sighted_reset h.tables.outer hnext
  | simulate action =>
      obtain rfl : self' = self.simulate action := hnext
      exact ⟨h.inner, h.inner_lt, h.outer, h.tables.inner, h.tables.closed, h.tables.outer⟩
  | addObstacles order all =>
      obtain ⟨hall, rfl⟩ := hnext
      exact h.addObstacles hall
  | clearObstacles =>
      obtain rfl : self' = self.clearObstacles := hnext
      exact ⟨h.inner, h.inner_lt, h.outer, h.tables.inner, h.tables.closed, h.tables.outer⟩
  | perceive location transmittance =>
      obtain ⟨seen, hperceive⟩ := hnext
      have heq : self' = { self with rng := self'.rng } :=
        perceive_ensures self location transmittance _ hperceive
      rw [heq]
      exact ⟨h.inner, h.inner_lt, h.outer, h.tables.inner, h.tables.closed, h.tables.outer⟩

/-- **The samples of `boundary_between`**, after any calls on a camera, are those of one curve
just when the inner curve is asked for, or both curves agree where the samples end. -/
theorem boundaryBetween_iff {new : Camera params G} (hnew : new.New) {calls : List (Call G)}
    (hrun : Runs.Run Next new calls self) {l r : ℝ} (hlt : l < r) (hle : r ≤ l + 360)
    (outer : Bool) :
    (∃ samples, self.boundaryBetween l r outer = .ok samples ∧ self.SamplesCurve l r outer samples)
      ↔ outer = false ∨ self.CurvesAgree l r := by
  have hsighted : self.Sighted := by
    refine hrun.invariant Sighted ?_ (fun c call c' hc hnext => hc.next hnext)
    obtain ⟨start, hnone, hreset⟩ := hnew
    refine sighted_reset (fun table htable => ?_) hreset
    rw [hnone] at htable
    cases htable
  exact hsighted.tables.samples_iff hlt hle outer

/-! ## A camera beside a pillar -/

omit [RandomState G] in
/-- The rays of the outer boundary of an obstacle reach to its tangent points, or almost to the end
of the range. -/
theorem le_norm_tangentRays {o : Obstacle G} (hr : 0 ≤ o.radius)
    (hout : o.radius < ‖o.location - self.location‖) {bound : ℝ}
    (hnear : bound ≤ √(‖o.location - self.location‖ ^ 2 + o.radius ^ 2))
    (hfar : bound ≤ (params.maxSightRange : ℚ) * Real.cos (deg2rad (1 / 100)))
    {ray : Vector2D} (hray : ray ∈ (self.tangentRays o).2) : bound ≤ ray.norm := by
  set z := o.location - self.location with hz
  have hmax := maxSightRange_pos params
  have hnorm : 0 < ‖z‖ := hr.trans_lt hout
  have hboundmax : bound ≤ ((params.maxSightRange : ℚ) : ℝ) :=
    hfar.trans (mul_le_of_le_one_right hmax.le (Real.cos_le_one _))
  have hsqrt : √(‖z‖ ^ 2 + o.radius ^ 2) ≤ ‖z‖ + o.radius := by
    rw [Real.sqrt_le_left (by positivity)]
    nlinarith [mul_nonneg hnorm.le hr]
  have hnearpos : 0 < min ((params.maxSightRange : ℚ) : ℝ) √(‖z‖ ^ 2 + o.radius ^ 2) :=
    lt_min hmax (Real.sqrt_pos.mpr (by positivity))
  have hsegment : ∀ angle angle' : ℝ, |angle' - angle| = 1 / 100 → ∀ t ∈ linspace 0 1 20,
      bound ≤ ‖((1 - t : ℝ) * (Vector2D.ofPolar self.location
            (min ((params.maxSightRange : ℚ) : ℝ) √(‖z‖ ^ 2 + o.radius ^ 2)) angle).vector
          + (t : ℝ)
            * (Vector2D.ofPolar self.location (params.maxSightRange : ℚ) angle').vector : ℂ)‖ := by
    intro angle angle' hclose t ht
    obtain ⟨ht0, ht1⟩ := mem_linspace zero_le_one (by norm_num) ht
    rw [Vector2D.ofPolar_vector, Vector2D.ofPolar_vector]
    set near := min ((params.maxSightRange : ℚ) : ℝ) √(‖z‖ ^ 2 + o.radius ^ 2) with hneardef
    -- the part of the segment along the tangent
    have hinner := real_inner_le_norm (polar2cartesian 1 angle)
      ((1 - t : ℝ) * polar2cartesian near angle
        + (t : ℝ) * polar2cartesian ((params.maxSightRange : ℚ) : ℝ) angle')
    have hcos : Real.cos (deg2rad (angle' - angle)) = Real.cos (deg2rad (1 / 100)) := by
      rw [← Real.cos_abs, ← hclose]
      unfold deg2rad
      rw [abs_mul, abs_of_pos (show 0 < Real.pi / 180 by positivity)]
    have hzero : deg2rad 0 = 0 := zero_mul _
    rw [inner_add_right, ← Complex.real_smul, ← Complex.real_smul, real_inner_smul_right,
      real_inner_smul_right, inner_polar2cartesian_polar2cartesian,
      inner_polar2cartesian_polar2cartesian, sub_self, hzero, Real.cos_zero, hcos,
      norm_polar2cartesian, abs_one, one_mul, one_mul, one_mul, mul_one] at hinner
    have hbound : bound ≤ (1 - t) * near
        + t * (((params.maxSightRange : ℚ) : ℝ) * Real.cos (deg2rad (1 / 100))) := by
      have h1 := mul_le_mul_of_nonneg_left (le_min hboundmax hnear) (sub_nonneg.mpr ht1)
      have h2 := mul_le_mul_of_nonneg_left hfar ht0
      linarith
    simp only [Complex.real_smul] at hinner
    exact hbound.trans hinner
  rcases List.mem_append.mp hray with hray | hright
  · rcases List.mem_append.mp hray with hacross | hleft
    · obtain ⟨angle, -, rfl⟩ := List.mem_map.mp hacross
      have hrho : 0 ≤ min ((params.maxSightRange : ℚ) : ℝ) (‖z‖ + o.radius) :=
        le_min hmax.le (by linarith)
      rw [ofPolar_norm _ hrho]
      exact le_min hboundmax (hnear.trans hsqrt)
    · obtain ⟨t, ht, rfl⟩ := List.mem_map.mp hleft
      exact hsegment _ _ (by rw [sub_sub_cancel_left, abs_neg]; norm_num) t ht
  · obtain ⟨t, ht, rfl⟩ := List.mem_map.mp hright
    exact hsegment _ _ (by rw [add_sub_cancel_left]; norm_num) t ht

theorem cos_deg2rad_ge : 9 / 10 ≤ Real.cos (deg2rad (1 / 100)) := by
  have hcos := @Real.one_sub_sq_div_two_le_cos (deg2rad (1 / 100))
  have hpi := Real.pi_le_four
  have hpos := Real.pi_pos
  have hsmall : deg2rad (1 / 100) ^ 2 ≤ (1 / 10) ^ 2 := by
    refine pow_le_pow_left₀ ?_ ?_ 2
    · unfold deg2rad
      positivity
    · unfold deg2rad
      linarith
  linarith

theorem outside_pillar {new : Camera middleParams (Fin 4)} (h : new.location = 0) :
    new.Outside [pillar] := by
  intro o ho
  rw [List.mem_singleton.mp ho, h, sub_zero]
  exact ⟨by norm_num [pillar], fun _ => by norm_num [pillar]⟩

theorem boundaryBetween_iff_pillar :
    letI := Env.rotating
    ∃ new self : Camera middleParams (Fin 4), new.New
      ∧ Runs.Run Next new [.addObstacles SetOrder.increasing [pillar]] self
      ∧ ∃ samples, self.boundaryBetween 0 90 false = .ok samples
        ∧ self.SamplesCurve 0 90 false samples := by
  let _ := Env.rotating
  let _ := SetOrder.increasing
  obtain ⟨start, new, hnone, hreset, hlocation, -⟩ := exists_middle
  have hrun : Runs.Run Next new [.addObstacles SetOrder.increasing [pillar]]
      (new.addObstacles [pillar]) := .single ⟨outside_pillar hlocation, rfl⟩
  exact ⟨new, _, ⟨start, hnone, hreset⟩, hrun, (boundaryBetween_iff ⟨start, hnone, hreset⟩ hrun
    (by norm_num) (by norm_num) false).mpr (.inl rfl)⟩

/-- Behind a pillar the two curves differ, and the end of the outer samples is on the inner one. -/
theorem boundaryBetween_mixes_curves :
    letI := Env.rotating
    ∃ new self : Camera middleParams (Fin 4), new.New
      ∧ Runs.Run Next new [.addObstacles SetOrder.increasing [pillar]] self
      ∧ ¬ ∃ samples, self.boundaryBetween 0 90 true = .ok samples
        ∧ self.SamplesCurve 0 90 true samples := by
  let _ := Env.rotating
  let _ := SetOrder.increasing
  obtain ⟨start, new, hnone, hreset, hlocation, hfresh⟩ := exists_middle
  have hcenter : ‖pillar.location - new.location‖ = 300 := by
    rw [hlocation, sub_zero]
    norm_num [pillar]
  have hradius : pillar.radius = 50 := rfl
  have hall : new.Outside [pillar] := outside_pillar hlocation
  have hsighted : new.Sighted :=
    sighted_reset (fun table htable => by rw [hnone] at htable; cases htable) hreset
  refine ⟨new, new.addObstacles [pillar], ⟨start, hnone, hreset⟩, .single ⟨hall, rfl⟩, ?_⟩
  have hadded := hsighted.addObstacles hall
  rw [hadded.tables.samples_iff (by norm_num) (by norm_num)]
  rintro (hfalse | ⟨hends, -⟩)
  · cases hfalse
  have hdisc : pillar.disc ∈ opaqueDiscs (new.inReach [pillar]) := by
    refine mem_opaqueDiscs.mpr ⟨pillar, mem_inReach.mpr ⟨List.mem_cons_self, ?_⟩, ?_, rfl⟩
    · rw [hcenter, hradius]
      norm_num [middleParams]
    · norm_num [pillar]
  set ahead := Vector2D.ofPolar new.location (middleParams.maxSightRange : ℚ) 0 with hahead
  have hangle : ahead.angle = 0 :=
    (ofPolar_angle _ (maxSightRange_pos middleParams).le 0).trans
      (normalizeAngle_of_mem (by norm_num) (by norm_num))
  have hmem : ahead ∈ new.boundary := by
    rw [hfresh.1]
    refine List.mem_map_of_mem ?_
    simp only [linspaceOpen, List.mem_map]
    exact ⟨180, by simpa using ⟨180, by norm_num⟩, by norm_num⟩
  have hfrom := hsighted.inner.rays ahead hmem
  have hangles : ∀ outer, (clipRay (opaqueDiscs (new.inReach [pillar])) outer ahead).angle = 0 :=
    fun outer => (hfrom.clipRay hall.discs outer).2.trans hangle
  -- ahead the inner curve ends at the pillar
  obtain ⟨inner, -, hinner, hevalinner⟩ := (hsighted.around_clippedRays hall false).exists_value
    (List.mem_map_of_mem (List.mem_append_left _ hmem)) (by rw [hangles]; norm_num)
  have hle : inner.norm ≤ 260 := by
    have houtside : ∀ d ∈ opaqueDiscs (new.inReach [pillar]),
        d.radius < ‖d.location - ahead.origin‖ := hall.discs
    refine hinner.trans ((clipRay_spec hfrom.pos houtside).2.trans_le
      (sightLimit_le_of_mem hdisc ⟨by norm_num, ?_⟩))
    rw [hangle, Vector2D.ofPolar_vector, ofPolar_norm _ zero_le_one]
    show ‖new.location + ((260 / 1 : ℝ) : ℂ) * polar2cartesian 1 0 - (300 : ℂ)‖ < (50 : ℝ)
    have hone : polar2cartesian 1 0 = 1 := by
      apply Complex.ext <;> simp [polar2cartesian, deg2rad]
    rw [hlocation, hone]
    norm_num
  -- and the outer one does not come nearer than the tangent points
  obtain ⟨outer, houtermem, -, hevalouter⟩ :=
    (hsighted.around_clippedRays hall true).exists_value
      (List.mem_map_of_mem (List.mem_append_left _ (show ahead ∈ new.boundaryOuter by
        rwa [hfresh.2]))) (by rw [hangles]; norm_num)
  have hge : 290 ≤ outer.norm := by
    obtain ⟨b, hb, rfl⟩ := List.mem_map.mp houtermem
    have hfar : ∀ d ∈ opaqueDiscs (new.inReach [pillar]),
        (290 : ℝ) ^ 2 ≤ ‖d.location - new.location‖ ^ 2 - d.radius ^ 2 := by
      intro d hd
      obtain ⟨o, ho, -, rfl⟩ := mem_opaqueDiscs.mp hd
      rw [List.mem_singleton.mp (mem_inReach.mp ho).1]
      show (290 : ℝ) ^ 2 ≤ ‖pillar.location - new.location‖ ^ 2 - pillar.radius ^ 2
      rw [hcenter, hradius]
      norm_num
    have hlong : b.From new.location ∧ 290 ≤ b.norm := by
      rcases List.mem_append.mp hb with hb | hb
      · refine ⟨hsighted.outer.rays b hb, ?_⟩
        rw [if_pos rfl, hfresh.2, hfresh.1] at hb
        obtain ⟨angle, -, rfl⟩ := List.mem_map.mp hb
        rw [ofPolar_norm _ (maxSightRange_pos middleParams).le]
        norm_num [middleParams]
      · obtain ⟨o, ho, hb⟩ := List.mem_flatMap.mp hb
        obtain ⟨hr, hout⟩ := hall.of_mem_filter ho
        refine ⟨from_tangentRays hr hout (.inr hb), le_norm_tangentRays hr hout ?_ ?_ hb⟩
        · rw [List.mem_singleton.mp (mem_inReach.mp (List.mem_filter.mp ho).1).1, hcenter, hradius]
          exact Real.le_sqrt_of_sq_le (by norm_num)
        · have hcos := cos_deg2rad_ge
          norm_num [middleParams]
          linarith
    exact hlong.1.le_norm_clipRay (by norm_num) hall.discs hfar hlong.2
  have hzero : normalizeAngle 0 = 0 := normalizeAngle_of_mem (by norm_num) (by norm_num)
  rw [addObstacles_eq hall] at hends
  have hsame : (interpolate (new.clippedRays [pillar] true)).1.eval (normalizeAngle 0)
      = (interpolate (new.clippedRays [pillar] false)).1.eval (normalizeAngle 0) := hends
  rw [hangles] at hevalinner hevalouter
  rw [hzero, hevalinner, hevalouter] at hsame
  have heq : outer.norm = inner.norm := Except.ok.inj hsame
  linarith

end Camera

end Mate
