import Mate.FocusCodec
import Mate.GreedyLoads
import Mate.Rllib.Hitmac
import Mate.Transport

set_option autoImplicit false

/-! # Which target is the nearest one

Behind `RelativeCoordinates` the targets are where they are seen from the camera, but the camera
is still where it is. So the assigner of HiTMAC v2 takes the target that is nearest to the double
of the location of the camera (`assignOne_doubled`). That is a nearest target of the camera,
whatever the cameras before it were assigned, only where the same targets are nearest to both
locations (`picksNearest_iff`).
-/

namespace Mate.Rllib.HiTMACv2

open Fallible LoadBalance GreedyAssigner Runs

/-- No target is nearer to `z`. -/
def Nearest {n : ℕ} (locations : Fin n → ℂ) (z : ℂ) (t : Fin n) : Prop :=
  ∀ u, ‖locations t - z‖ ≤ ‖locations u - z‖

/-! ## The assigner -/

namespace NearestAssigner

variable {numTargets : ℕ}

theorem distance_pair (x y x' y' : ℝ) :
    distance [x, y] [x', y'] = .ok ‖(⟨x, y⟩ - ⟨x', y'⟩ : ℂ)‖ := by
  have hsum : ([x - x', y - y'].map (· ^ 2)).sum = Complex.normSq (⟨x, y⟩ - ⟨x', y'⟩) := by
    rw [Complex.normSq_apply]
    simp only [List.map_cons, List.map_nil, List.sum_cons, List.sum_nil, Complex.sub_re,
      Complex.sub_im]
    ring
  show (Except.ok √(([x - x', y - y'].map (· ^ 2)).sum) : Except Error ℝ) = _
  rw [hsum]
  rfl

/-- The target in front is a closest one, and a least covered one of the closest. -/
theorem first_lexsort (hpos : 0 < numTargets) (targetCoverage : Fin numTargets → ℕ)
    (d : Fin numTargets → ℝ) : ∃ t, first (lexsort targetCoverage (List.ofFn d)) = .ok t ∧
      Least targetCoverage (fun u => ∀ v, d u ≤ d v) t := by
  -- by distance, and by coverage among equal distances
  set rank : Fin numTargets → ℝ ×ₗ ℕ := fun t => toLex (d t, targetCoverage t) with hrank
  have hsort : lexsort targetCoverage (List.ofFn d)
      = (List.finRange numTargets).insertionSort (fun t u => rank t ≤ rank u) := by
    simp [lexsort, hrank]
  have hperm := List.perm_insertionSort (fun t u => rank t ≤ rank u) (List.finRange numTargets)
  rw [hsort]
  cases hfirst : (List.finRange numTargets).insertionSort (fun t u => rank t ≤ rank u) with
  | nil =>
      rw [hfirst] at hperm
      have hlength := hperm.length_eq
      rw [List.length_nil, List.length_finRange] at hlength
      omega
  | cons t rest =>
      have hsorted := List.pairwise_insertionSort (fun t u => rank t ≤ rank u)
        (List.finRange numTargets)
      rw [hfirst] at hsorted hperm
      have hle : ∀ u, rank t ≤ rank u := by
        intro u
        rcases List.mem_cons.mp (hperm.mem_iff.mpr (List.mem_finRange u)) with rfl | hu
        · exact le_refl _
        · exact (List.pairwise_cons.mp hsorted).1 u hu
      have hcases : ∀ u, d t < d u ∨ d t = d u ∧ targetCoverage t ≤ targetCoverage u :=
        fun u => Prod.Lex.toLex_le_toLex.mp (hle u)
      refine ⟨t, rfl, fun u => ?_, fun u hu => ?_⟩
      · rcases hcases u with hlt | ⟨heq, -⟩
        · exact hlt.le
        · exact heq.le
      · rcases hcases u with hlt | ⟨-, hcoverage⟩
        · exact absurd (hu t) (not_le.mpr hlt)
        · exact hcoverage

variable {assigner : NearestAssigner} {rows : List (List ℝ)}

/-- The body of the loop, when the row tells where the camera and the targets are. -/
theorem assignOne_eq_ok (hpos : 0 < numTargets) {c : ℕ} {row : List ℝ} (hrow : rows[c]? = some row)
    {camera : ℂ} {targets : Fin numTargets → ℂ}
    (hcamera : (assigner.selfStateSlice.read row).take 2 = [camera.re, camera.im])
    (htargets : ∀ t : Fin numTargets, Layout.slice ((t : ℕ) * stride) ((t : ℕ) * stride + 2)
      (assigner.opponentStatesSlice.read row) = [(targets t).re, (targets t).im])
    (targetCoverage : Fin numTargets → ℕ) :
    ∃ t, Least targetCoverage (Nearest targets camera) t ∧
      assigner.assignOne rows targetCoverage c = .ok (fun u => decide (u = t),
        Function.update targetCoverage t (targetCoverage t + 1)) := by
  have hdistances : (List.range numTargets).mapM (fun t =>
      distance ((assigner.selfStateSlice.read row).take 2)
        (Layout.slice (t * stride) (t * stride + 2) (assigner.opponentStatesSlice.read row)))
      = .ok (List.ofFn (fun t => ‖targets t - camera‖)) := by
    refine mapM_range_eq_ok (fun t => ?_)
    rw [hcamera, htargets, distance_pair, ← norm_sub_rev]
  obtain ⟨t, hfirst, hleast⟩ :=
    first_lexsort hpos targetCoverage (fun t => ‖targets t - camera‖)
  refine ⟨t, hleast, ?_⟩
  have hread : readRow rows c = .ok row := by
    rw [readRow, hrow]
  exact bind_eq_ok.mpr ⟨row, hread, bind_eq_ok.mpr ⟨_, hdistances, bind_eq_ok.mpr ⟨t, hfirst, rfl⟩⟩⟩

end NearestAssigner

/-! ## The observations -/

section

variable {cfg : Config} {G V : Type} {e : Env cfg G V}

/-- What the observation of camera `c` says is the location of a target: it is relative, and nothing
is said of a target that is not seen. -/
noncomputable def shownAt (e : Env cfg G V) (c : Fin cfg.numCameras) (t : Fin cfg.numTargets) : ℂ :=
  if e.cameraTargetViewMask c t then (e.targets t).location - (e.cameras c).location else 0

/-- A scaled coordinate of a location. -/
theorem rescaleEntry_location (x : ℝ) :
    rescaleEntry (-2000) ((2000 : ℚ) : WithTop ℚ) x = x / 2000 := by
  rw [rescaleEntry_of_lt (by norm_num)]
  push_cast
  ring

theorem getElem?_of_entry {l : List ℝ} {k : ℕ} {x : ℝ} (h : Focus.entry l k = .ok x) :
    l[k]? = some x := by
  unfold Focus.entry at h
  split at h
  · rename_i y hy
    rw [hy, Except.ok.inj h]
  · cases h

theorem slice_pair {l : List ℝ} {k : ℕ} {x y : ℝ} (hx : l[k]? = some x) (hy : l[k + 1]? = some y) :
    Layout.slice k (k + 2) l = [x, y] := by
  apply List.ext_getElem?
  intro j
  rw [Layout.getElem?_slice]
  rcases j with _ | _ | j
  · simpa using hx
  · simpa using hy
  · rw [if_neg (by omega)]
    rfl

/-- A scaled location, at the beginning of the bounds of an entity. -/
theorem getElem?_location {space : Space} {start width n : ℕ} {bounds : Space}
    (h : BoundsAt space start width bounds n) (i : Fin n) (hwidth : 2 ≤ width) {low : List ℚ}
    {high : List (WithTop ℚ)} (hlow : bounds.low = TERRAIN_SPACE.doubleLow ++ low)
    (hhigh : bounds.high = TERRAIN_SPACE.doubleHigh ++ high) {l : List ℝ} {z : ℂ}
    (hx : l[start + (i : ℕ) * width + 0]? = some z.re)
    (hy : l[start + (i : ℕ) * width + 1]? = some z.im) :
    (rescaledRow space l)[start + (i : ℕ) * width + 0]? = some (z / 2000).re ∧
      (rescaledRow space l)[start + (i : ℕ) * width + 1]? = some (z / 2000).im := by
  obtain ⟨hdoubleLow, hdoubleHigh⟩ := doubled_terrain
  rw [hdoubleLow] at hlow
  rw [hdoubleHigh] at hhigh
  have hx' := getElem?_of_entry
    (h.entry i (by omega) (by rw [hlow]; rfl) (by rw [hhigh]; rfl) hx)
  have hy' := getElem?_of_entry
    (h.entry i (by omega) (by rw [hlow]; rfl) (by rw [hhigh]; rfl) hy)
  rw [rescaleEntry_location] at hx' hy'
  refine ⟨hx'.trans ?_, hy'.trans ?_⟩
  · simp
  · simp

theorem slice_location {space : Space} {start width n : ℕ} {bounds : Space}
    (h : BoundsAt space start width bounds n) (i : Fin n) (hwidth : 2 ≤ width) {low : List ℚ}
    {high : List (WithTop ℚ)} (hlow : bounds.low = TERRAIN_SPACE.doubleLow ++ low)
    (hhigh : bounds.high = TERRAIN_SPACE.doubleHigh ++ high) {l : List ℝ} {z : ℂ}
    (hx : l[start + (i : ℕ) * width + 0]? = some z.re)
    (hy : l[start + (i : ℕ) * width + 1]? = some z.im) :
    Layout.slice (start + (i : ℕ) * width) (start + (i : ℕ) * width + 2) (rescaledRow space l)
      = [(z / 2000).re, (z / 2000).im] := by
  obtain ⟨hx', hy'⟩ := getElem?_location h i hwidth hlow hhigh hx hy
  exact slice_pair hx' hy'

/-- The row of a camera through both wrappers. -/
noncomputable def shownRow (e : Env cfg G V) (c : Fin cfg.numCameras) : List ℝ :=
  (⟨true, true⟩ : Preprocessing).transform .camera cfg.numCameras cfg.numTargets cfg.numObstacles
    (e.jointObservation.1.camera c)

theorem shownRow_eq (c : Fin cfg.numCameras) :
    shownRow e c = rescaledRow (observationSpaceOf .camera cfg.numCameras cfg.numTargets
      cfg.numObstacles) (relativeRow .camera cfg.numCameras cfg.numTargets cfg.numObstacles
        (e.jointObservation.1.camera c)) :=
  Env.Preprocessing.transform_both ..

theorem nearestAssigner_slices (cfg : Config) :
    (nearestAssigner cfg).selfStateSlice = { start := 13, stop := 22 } ∧
      (nearestAssigner cfg).opponentStatesSlice
        = { start := 22, stop := 22 + cfg.numTargets * 5 } := by
  simp [nearestAssigner, cameraObservationSlicesOf, cameraObservationIndicesOf, cumsum,
    List.ofFn_succ, PRESERVED_DIM, NUM_WAREHOUSES, CAMERA_STATE_DIM_PRIVATE, TARGET_STATE_DIM_PUBLIC]
  omega

/-- The camera is shown where it is. -/
theorem camera_shown (c : Fin cfg.numCameras) :
    ((nearestAssigner cfg).selfStateSlice.read (shownRow e c)).take 2
      = [((e.cameras c).location / 2000).re, ((e.cameras c).location / 2000).im] := by
  have hx : _ = some (e.cameras c).location.re := Env.getElem?_relativeRow_own c 0
  have hy : _ = some (e.cameras c).location.im := Env.getElem?_relativeRow_own c 1
  have hlocation := slice_location (Env.own_boundsAt cfg.numCameras cfg.numTargets cfg.numObstacles)
    0 (by decide) rfl rfl hx hy
  rw [← shownRow_eq] at hlocation
  rw [(nearestAssigner_slices cfg).1, Slice.read, Layout.everyNth_one, ← hlocation]
  show Layout.slice 0 2 (Layout.slice 13 22 (shownRow e c)) = _
  rw [Layout.slice_slice (by decide)]
  rfl

/-- A target that is seen is shown relative to the camera. -/
theorem target_shown (h : e.ObstacleRows) (c : Fin cfg.numCameras) (t : Fin cfg.numTargets) :
    Layout.slice ((t : ℕ) * NearestAssigner.stride) ((t : ℕ) * NearestAssigner.stride + 2)
        ((nearestAssigner cfg).opponentStatesSlice.read (shownRow e c))
      = [(shownAt e c t / 2000).re, (shownAt e c t / 2000).im] := by
  obtain ⟨hx, hy, -⟩ := Env.getElem?_relativeRow_target h c t
  have hlocation := slice_location
    (Env.shown_boundsAt cfg.numCameras cfg.numTargets cfg.numObstacles) t (by decide) rfl rfl hx hy
  rw [← shownRow_eq] at hlocation
  have hstop : 22 + ((t : ℕ) * 5 + 2) ≤ 22 + cfg.numTargets * 5 := by
    have ht := t.isLt
    omega
  rw [(nearestAssigner_slices cfg).2, Slice.read, Layout.everyNth_one, NearestAssigner.stride,
    Layout.slice_slice hstop]
  exact hlocation

/-! ## The nearest target -/

/-- Behind the wrappers there is a row for every camera. -/
theorem baseObservations_eq_ok (h : e.ObstacleRows) :
    baseObservations e = .ok (List.ofFn (shownRow e)) := by
  have hentities : 0 < cfg.numCameras + cfg.numTargets + cfg.numObstacles := by
    have htargets : 0 < cfg.numTargets := cfg.numTargets_pos
    omega
  unfold baseObservations preprocessEach
  show (List.ofFn e.jointObservation.1.camera).mapM _ = _
  rw [List.ofFn_eq_map, List.mapM_map, List.ofFn_eq_map]
  refine mapM_eq_ok (fun c _ => ?_)
  exact Preprocessing.apply_eq_ok ⟨true, true⟩ hentities (Env.length_camera_row h c)

/-- The target that is nearest to the camera, as far as the row tells. -/
theorem nearest_shown (c : Fin cfg.numCameras) (t : Fin cfg.numTargets) :
    Nearest (fun u => shownAt e c u / 2000) ((e.cameras c).location / 2000) t
      ↔ Nearest (shownAt e c) (e.cameras c).location t := by
  have hscale : ∀ u, ‖shownAt e c u / 2000 - (e.cameras c).location / 2000‖
      = ‖shownAt e c u - (e.cameras c).location‖ / 2000 := by
    intro u
    rw [← sub_div, norm_div]
    norm_num
  refine forall_congr' (fun u => ?_)
  rw [hscale, hscale]
  exact div_le_div_iff_of_pos_right (by norm_num)

/-- A camera that sees all targets. -/
def SeesAll (e : Env cfg G V) (c : Fin cfg.numCameras) : Prop :=
  ∀ t, e.cameraTargetViewMask c t = true

/-- **The nearest target of a camera that sees all**, as far as the row tells, is the one that is
nearest to the double of the location of the camera. -/
theorem nearest_doubled {c : Fin cfg.numCameras} (hsees : SeesAll e c) (t : Fin cfg.numTargets) :
    Nearest (shownAt e c) (e.cameras c).location t
      ↔ Nearest (fun u => (e.targets u).location) (2 * (e.cameras c).location) t := by
  have hoffset : ∀ u, shownAt e c u - (e.cameras c).location
      = (e.targets u).location - 2 * (e.cameras c).location := by
    intro u
    rw [shownAt, if_pos (hsees u)]
    ring
  refine forall_congr' (fun u => ?_)
  rw [hoffset, hoffset]

/-- The body of the loop assigns a least covered one of the targets that are nearest as far as the
row tells. -/
theorem assignOne_shown (h : e.ObstacleRows) (c : Fin cfg.numCameras)
    (targetCoverage : Fin cfg.numTargets → ℕ) :
    ∃ t, Least targetCoverage (Nearest (shownAt e c) (e.cameras c).location) t ∧
      (nearestAssigner cfg).assignOne (List.ofFn (shownRow e)) targetCoverage c
        = .ok (fun u => decide (u = t),
          Function.update targetCoverage t (targetCoverage t + 1)) := by
  have hrow : (List.ofFn (shownRow e))[(c : ℕ)]? = some (shownRow e c) := by
    rw [List.getElem?_ofFn, dif_pos c.isLt]
  obtain ⟨t, hleast, hone⟩ := NearestAssigner.assignOne_eq_ok cfg.numTargets_pos hrow
    (camera_shown c) (target_shown h c) targetCoverage
  refine ⟨t, ⟨(nearest_shown c t).mp hleast.mem, fun u hu => ?_⟩, hone⟩
  exact hleast.le u ((nearest_shown c u).mpr hu)

/-- A camera is assigned one target: a nearest one, and among these one that the fewest cameras
before it were assigned. -/
def PicksNearest (e : Env cfg G V) (c : Fin cfg.numCameras) (targetCoverage : Fin cfg.numTargets → ℕ)
    (assignment : Fin cfg.numTargets → Bool) : Prop :=
  ∃ t, (∀ u, assignment u = true ↔ u = t) ∧
    Least targetCoverage (Nearest (fun u => (e.targets u).location) (e.cameras c).location) t

/-- The targets that are nearest to the camera are those that are nearest to the double of its
location. -/
def SameNearest (e : Env cfg G V) (c : Fin cfg.numCameras) : Prop :=
  ∀ t, Nearest (fun u => (e.targets u).location) (2 * (e.cameras c).location) t
    ↔ Nearest (fun u => (e.targets u).location) (e.cameras c).location t

/-- **When a camera is assigned a nearest target**, whatever the cameras before it were. -/
theorem assignOne_picksNearest_iff (h : e.ObstacleRows) {c : Fin cfg.numCameras}
    (hsees : SeesAll e c) :
    (∀ targetCoverage, ∃ assignment after,
      (nearestAssigner cfg).assignOne (List.ofFn (shownRow e)) targetCoverage c
        = .ok (assignment, after) ∧ PicksNearest e c targetCoverage assignment)
      ↔ SameNearest e c := by
  choose pick hpick hone using assignOne_shown h c
  have hdoubled : ∀ targetCoverage, Least targetCoverage
      (Nearest (fun u => (e.targets u).location) (2 * (e.cameras c).location))
      (pick targetCoverage) := by
    intro targetCoverage
    have hleast := hpick targetCoverage
    refine ⟨(nearest_doubled hsees _).mp hleast.mem, fun u hu => ?_⟩
    exact hleast.le u ((nearest_doubled hsees u).mpr hu)
  refine Iff.trans (forall_congr' (fun targetCoverage => ?_)) (Least.forall_iff hdoubled)
  constructor
  · rintro ⟨assignment, after, hok, t, ht, hleast⟩
    rw [hone] at hok
    cases hok
    obtain rfl : pick targetCoverage = t := (ht _).mp (decide_eq_true rfl)
    exact hleast
  · intro hleast
    exact ⟨_, _, hone targetCoverage, _, fun u => decide_eq_true_iff, hleast⟩

/-- A target is nearest to camera `c`, as far as its row tells. -/
def NearestShown (e : Env cfg G V) (c : ℕ) (t : Fin cfg.numTargets) : Prop :=
  ∀ hc : c < cfg.numCameras, Nearest (shownAt e ⟨c, hc⟩) (e.cameras ⟨c, hc⟩).location t

/-- All cameras that see all targets are assigned a nearest one. -/
def AllPickNearest (e : Env cfg G V) (assignments : List (Fin cfg.numTargets → Bool)) : Prop :=
  ∀ c, SeesAll e c → ∃ assignment, assignments[(c : ℕ)]? = some assignment ∧
    PicksNearest e c (load (assignments.take c)) assignment

/-- **The assigner is greedy**, with what the rows tell. -/
theorem runCoordinator_greedy (h : e.ObstacleRows) :
    ∃ bins : List (Fin cfg.numTargets), bins.length = cfg.numCameras ∧
      runCoordinator cfg (List.ofFn (shownRow e)) = .ok (bins.map (fun t u => decide (u = t))) ∧
      Greedy (NearestShown e) bins := by
  refine outputs_greedy (fun c hc targetCoverage => ?_)
  obtain ⟨t, hleast, hone⟩ := assignOne_shown h ⟨c, hc⟩ targetCoverage
  exact ⟨t, ⟨fun _ => hleast.mem, fun u hu => hleast.le u (hu hc)⟩, hone⟩

theorem runCoordinator_picksNearest (h : e.ObstacleRows)
    (hsame : ∀ c, SeesAll e c → SameNearest e c) :
    ∃ assignments, runCoordinator cfg (List.ofFn (shownRow e)) = .ok assignments ∧
      AllPickNearest e assignments := by
  obtain ⟨bins, hlength, hrun, hgreedy⟩ := runCoordinator_greedy h
  refine ⟨_, hrun, fun c hsees => ?_⟩
  have hc : (c : ℕ) < bins.length := by
    rw [hlength]
    exact c.isLt
  have hleast := hgreedy.least (List.getElem?_eq_getElem hc)
  have hnearest : ∀ t, Nearest (fun u => (e.targets u).location) (e.cameras c).location t
      ↔ Nearest (shownAt e c) (e.cameras c).location t :=
    fun t => ((nearest_doubled hsees t).trans (hsame c hsees t)).symm
  refine ⟨fun u => decide (u = bins[(c : ℕ)]), ?_, bins[(c : ℕ)], fun u => decide_eq_true_iff, ?_, ?_⟩
  · rw [List.getElem?_map, List.getElem?_eq_getElem hc, Option.map_some]
  · exact (hnearest _).mpr (hleast.mem c.isLt)
  · intro u hu
    rw [← List.map_take, load_map, load_map]
    exact hleast.le u (fun _ => (hnearest u).mp hu)

end

/-! ## Runs -/

section

variable {cfg : Config} {G V : Type} [RandomState G] [SetOrder]

theorem run_obstacleRows {memory : Memory V} {start e : MultiAgentTracking cfg G V}
    {history : List (MultiAgentTracking.Method cfg V)}
    (hstart : MultiAgentTracking.init cfg memory = .ok start)
    (hrun : Run MultiAgentTracking.Does start history e) : e.toEnv.ObstacleRows :=
  (hrun.invariant MultiAgentTracking.Decodable (MultiAgentTracking.init_decodable hstart)
    (fun _ _ _ h hdoes => hdoes.decodable h)).obstacleRows

/-- **When the nearest targets are assigned**, after any history: a camera that sees all targets is
assigned a nearest one, whatever the cameras before it were, if and only if the same targets are
nearest to the camera and to the double of its location. If so for all such cameras, all are. -/
theorem picksNearest_iff {memory : Memory V} {start e : MultiAgentTracking cfg G V}
    {history : List (MultiAgentTracking.Method cfg V)}
    (hstart : MultiAgentTracking.init cfg memory = .ok start)
    (hrun : Run MultiAgentTracking.Does start history e) :
    ∃ rows, baseObservations e.toEnv = .ok rows ∧
      (∀ c, SeesAll e.toEnv c →
        ((∀ targetCoverage, ∃ assignment after,
          (nearestAssigner cfg).assignOne rows targetCoverage c = .ok (assignment, after) ∧
            PicksNearest e.toEnv c targetCoverage assignment) ↔ SameNearest e.toEnv c)) ∧
      ((∀ c, SeesAll e.toEnv c → SameNearest e.toEnv c) →
        ∃ assignments, runCoordinator cfg rows = .ok assignments ∧
          AllPickNearest e.toEnv assignments) := by
  have hrows := run_obstacleRows hstart hrun
  exact ⟨_, baseObservations_eq_ok hrows, fun c hsees => assignOne_picksNearest_iff hrows hsees,
    runCoordinator_picksNearest hrows⟩

end

/-! ### A camera that looks outwards -/

/-- The camera looks at both targets, away from the middle. -/
def outwardConfig (x : ℚ) : Config :=
  { Env.leakyConfig with
    target :=
      { placement := ⟨[(x, 0), (900, 0)], []⟩
        sightRange := ⟨500, Positive.fiveHundred_pos⟩
        stepSize := ⟨4000, Positive.fourThousand_pos⟩ }
    camera := some
      { placement := ⟨[(500, 0)], []⟩
        radius := ⟨1, Positive.one_pos⟩
        minViewingAngle := ⟨180, Positive.oneEighty_pos⟩
        maxSightRange := ⟨3000, Positive.threeThousand_pos⟩
        rotationStep := ⟨360, Positive.threeSixty_pos⟩
        zoomingStep := ⟨5 / 2, Positive.five_halves_pos⟩ }
    numTargets_pos := Nat.two_pos }

section

variable {G : Type} [RandomState G] {x : ℚ}

/-- The camera stands to the right of the middle and looks to the right. -/
structure Outward (c : Camera (outwardConfig x).cameraParams G) : Prop where
  location : c.location = ⟨500, 0⟩
  orientation : c.orientation = 0
  viewingAngle : c.viewingAngle = 180
  sightRange : c.sightRange = 3000

theorem placesCameras_outward : Env.PlacesCameras
    (fun c : Camera (outwardConfig x).cameraParams G =>
      c.locationRandomRange = ⟨(500, 0), (500, 0)⟩) Outward where
  seed _ _ h := h
  place c h := by
    refine (Camera.reset_still (rfl : ((outwardConfig x).cameraParams.rotationStep : ℚ) = 360)
      h).mono (fun c' hc' => ?_)
    have hangle : c'.viewingAngle = 180 := by
      obtain ⟨g, hangle⟩ := hc'.viewingAngle
      rw [hangle]
      exact uniform_maxViewingAngle g
    refine ⟨hc'.range, ?_, hc'.orientation, hangle, ?_⟩
    · rw [hc'.location]
      show clipTerrain (12 / 10 * ((1 : ℚ) : ℝ)) ⟨((500 : ℚ) : ℝ), ((0 : ℚ) : ℝ)⟩ = _
      norm_num [clipTerrain, TERRAIN_SIZE]
    · rw [hc'.sightRange, hangle]
      show √(((180 * 3000 ^ 2 : ℚ) : ℝ) / 180) = 3000
      rw [show ((180 * 3000 ^ 2 : ℚ) : ℝ) / 180 = 3000 ^ 2 by norm_num,
        Real.sqrt_sq (by norm_num)]

omit [RandomState G] in
/-- What is straight ahead is in the sector. -/
theorem Outward.inSector {c : Camera (outwardConfig x).cameraParams G} (h : Outward c) {y : ℝ}
    (hright : 500 ≤ y) (hnear : y ≤ 3500) : c.InSector ⟨y, 0⟩ := by
  refine Camera.inSector_ahead h.location h.orientation ?_ hright ?_
  · rw [h.viewingAngle]
    norm_num
  · rw [h.sightRange]
    linarith

end

/-- The episode has started: the camera sees both targets, which stand where their boxes are. -/
structure Started {G V : Type} {x : ℚ} (e : Env (outwardConfig x) G V) : Prop where
  outward : ∀ c, Outward (e.cameras c)
  first : (e.targets (0 : Fin 2)).location = ⟨x, 0⟩
  second : (e.targets (1 : Fin 2)).location = ⟨900, 0⟩
  sees : ∀ c, SeesAll e c

theorem two_targets (t : Fin 2) : t = 0 ∨ t = 1 := by
  revert t
  decide

open MultiAgentTracking in
/-- The environment can be made and reset. -/
theorem exists_started (x : ℚ) (hright : 500 ≤ x) (hinside : x ≤ 1000) :
    letI := Env.rotating
    letI := SetOrder.increasing
    ∃ (start e : MultiAgentTracking (outwardConfig x) (Fin 4) Unit)
      (history : List (Method (outwardConfig x) Unit)),
      MultiAgentTracking.init (outwardConfig x) ⟨0, fun _ => ()⟩ = .ok start
        ∧ Run Does start history e ∧ Started e.toEnv := by
  let _ := Env.rotating
  let _ := SetOrder.increasing
  have hpass : ∀ g : Fin 4, Cargo.allSend (Cargo.fillPass 8 0 g).1 = true := by decide
  have hone : (outwardConfig x).obstacleTransmittance = 1 := Env.leakyConfig_scales.2.2
  -- the camera can be made
  have hnew : ∀ i < (outwardConfig x).numCameras,
      Returns (Camera.init (outwardConfig x).cameraParams
        ((outwardConfig x).cameraParams.placement.box i)
        : Except Error (Camera (outwardConfig x).cameraParams (Fin 4)))
        (fun c => c.locationRandomRange = ⟨(500, 0), (500, 0)⟩ ∧ c.sightRangeOuterFunc = none) := by
    intro i hi
    obtain rfl : i = 0 := Nat.lt_one_iff.mp hi
    exact Camera.init_returns (le_refl (180 : ℚ)) (le_refl (360 : ℚ)) _
  obtain ⟨cameras, hok, hcameras⟩ := initAll_returns (outwardConfig x).numCameras hnew
  obtain ⟨self, hinit, hself⟩ : ∃ self : Env (outwardConfig x) (Fin 4) Unit,
      Env.init (outwardConfig x) ⟨0, fun _ => ()⟩ = .ok self
        ∧ ∀ c, (self.cameras c).locationRandomRange = ⟨(500, 0), (500, 0)⟩ :=
    ⟨_, bind_eq_ok.mpr ⟨cameras, hok, rfl⟩, fun c => (hcameras c).1⟩
  -- and reset, since it sees through everything
  obtain ⟨⟨observations, reg, e⟩, hreset, -⟩ := Env.reset_transparent rfl hone
    (le_refl (360 : ℚ))
    (fun awaiting g => Cargo.fillCargoes_ne_outOfFuel 1 0 awaiting g (hpass g)) none self
  have hstart : MultiAgentTracking.init (outwardConfig x) ⟨0, fun _ => ()⟩
      = .ok (⟨self, none⟩ : MultiAgentTracking (outwardConfig x) (Fin 4) Unit) :=
    bind_eq_ok.mpr ⟨_, hinit, rfl⟩
  have hdoes : Does (⟨self, none⟩ : MultiAgentTracking (outwardConfig x) (Fin 4) Unit)
      (.reset 2 none observations) ⟨e, none⟩ := .reset (bind_eq_ok.mpr ⟨_, hreset, rfl⟩)
  have hx : (500 : ℝ) ≤ x ∧ (x : ℝ) ≤ 1000 := ⟨by exact_mod_cast hright, by exact_mod_cast hinside⟩
  -- the targets are placed where their boxes are
  have hboxes : ∀ t : Fin 2, (outwardConfig x).target.placement.box t
      = ⟨![(x, 0), (900, 0)] t, ![(x, 0), (900, 0)] t⟩ := by
    intro t
    fin_cases t <;> rfl
  have hterrain : ∀ t : Fin 2, InTerrain ⟨((![(x, 0), (900, 0)] t : ℚ × ℚ).1 : ℝ),
      ((![(x, 0), (900, 0)] t : ℚ × ℚ).2 : ℝ)⟩ := by
    intro t
    have habs : |(x : ℝ)| ≤ 1000 := abs_le.mpr ⟨by linarith, by linarith⟩
    fin_cases t <;> constructor <;> norm_num [TERRAIN_SIZE, habs]
  have hat := Env.reset_each_at rfl hinit hboxes hterrain hreset
  have houtward : ∀ c, Outward (e.cameras c) := by
    intro c
    obtain ⟨camera, rng, houtward, heq⟩ := Env.reset_cameras placesCameras_outward hself hreset c
    rw [heq]
    exact { houtward with }
  have hfirst : (e.targets (0 : Fin 2)).location = ⟨x, 0⟩ := by
    refine (hat (0 : Fin 2)).trans ?_
    simp
  have hsecond : (e.targets (1 : Fin 2)).location = ⟨900, 0⟩ := by
    refine (hat (1 : Fin 2)).trans ?_
    simp
  refine ⟨_, _, _, hstart, Run.single hdoes, houtward, hfirst, hsecond, fun c t => ?_⟩
  refine (Env.reset_mask rfl hone hreset c t).mpr ?_
  rcases two_targets t with rfl | rfl
  · rw [hfirst]
    exact (houtward c).inSector hx.1 (by linarith)
  · rw [hsecond]
    exact (houtward c).inSector (by norm_num) (by norm_num)

theorem norm_axis (x y : ℝ) : ‖(⟨x, 0⟩ - ⟨y, 0⟩ : ℂ)‖ = |x - y| := by
  have haxis : (⟨x, 0⟩ - ⟨y, 0⟩ : ℂ) = ((x - y : ℝ) : ℂ) := by
    apply Complex.ext <;> simp
  rw [haxis, Complex.norm_real, Real.norm_eq_abs]

open MultiAgentTracking in
/-- **The farther target is assigned.** The camera at `(500, 0)` sees one target at a distance of
100 and one at a distance of 400; the latter is nearer to `(1000, 0)`. -/
theorem farther_assigned :
    letI := Env.rotating
    letI := SetOrder.increasing
    ∃ (start e : MultiAgentTracking (outwardConfig 600) (Fin 4) Unit)
      (history : List (Method (outwardConfig 600) Unit)) (rows : List (List ℝ))
      (assignments : List (Fin (outwardConfig 600).numTargets → Bool)),
      MultiAgentTracking.init (outwardConfig 600) ⟨0, fun _ => ()⟩ = .ok start
        ∧ Run Does start history e ∧ baseObservations e.toEnv = .ok rows
        ∧ runCoordinator (outwardConfig 600) rows = .ok assignments
        ∧ ¬ AllPickNearest e.toEnv assignments := by
  let _ := Env.rotating
  let _ := SetOrder.increasing
  obtain ⟨start, e, history, hstart, hrun, hstarted⟩ :=
    exists_started 600 (by norm_num) (by norm_num)
  have hrows := run_obstacleRows hstart hrun
  obtain ⟨bins, hlength, hassign, hgreedy⟩ := runCoordinator_greedy hrows
  refine ⟨start, e, history, _, _, hstart, hrun, baseObservations_eq_ok hrows, hassign, ?_⟩
  intro hall
  set c : Fin (outwardConfig 600).numCameras := (0 : Fin 1)
  have hc : 0 < bins.length := by
    rw [hlength]
    exact Nat.one_pos
  -- the assigned target is nearest to the double, the nearest one is another one
  have hdoubled := (nearest_doubled (hstarted.sees c) _).mp
    ((hgreedy.least (List.getElem?_eq_getElem hc)).mem Nat.one_pos)
  obtain ⟨assignment, hassignment, t, ht, hleast⟩ := hall c (hstarted.sees c)
  have hget : (bins.map (fun t u => decide (u = t)))[(c : ℕ)]?
      = some (fun u => decide (u = bins[0])) := by
    show (bins.map _)[0]? = _
    rw [List.getElem?_map, List.getElem?_eq_getElem hc]
    rfl
  rw [hget] at hassignment
  obtain rfl := Option.some.inj hassignment
  obtain rfl : bins[0] = t := (ht _).mp (decide_eq_true rfl)
  have hnear := hleast.mem (0 : Fin 2)
  have hfar := hdoubled (1 : Fin 2)
  have hdouble : (2 : ℂ) * ⟨500, 0⟩ = ⟨1000, 0⟩ := by
    apply Complex.ext <;> norm_num
  have hcases : bins[0] = (0 : Fin 2) ∨ bins[0] = (1 : Fin 2) := two_targets bins[0]
  dsimp only at hnear hfar
  rw [(hstarted.outward c).location, hstarted.first, norm_axis] at hnear
  rw [(hstarted.outward c).location, hstarted.second, hdouble, norm_axis] at hfar
  rcases hcases with hzero | hone
  · rw [hzero, hstarted.first, norm_axis] at hfar
    norm_num at hfar
  · rw [hone, hstarted.second, norm_axis] at hnear
    norm_num at hnear

open MultiAgentTracking in
/-- Two targets at the same place are both nearest, and the assignment is right. -/
theorem picksNearest_together :
    letI := Env.rotating
    letI := SetOrder.increasing
    ∃ (start e : MultiAgentTracking (outwardConfig 900) (Fin 4) Unit)
      (history : List (Method (outwardConfig 900) Unit)) (rows : List (List ℝ))
      (assignments : List (Fin (outwardConfig 900).numTargets → Bool)),
      MultiAgentTracking.init (outwardConfig 900) ⟨0, fun _ => ()⟩ = .ok start
        ∧ Run Does start history e ∧ (∀ c, SeesAll e.toEnv c)
        ∧ baseObservations e.toEnv = .ok rows
        ∧ runCoordinator (outwardConfig 900) rows = .ok assignments
        ∧ AllPickNearest e.toEnv assignments := by
  let _ := Env.rotating
  let _ := SetOrder.increasing
  obtain ⟨start, e, history, hstart, hrun, hstarted⟩ :=
    exists_started 900 (by norm_num) (by norm_num)
  have hsame : ∀ t u, (e.targets t).location = (e.targets u).location := by
    have hat : ∀ t : Fin 2, (e.targets t).location = ⟨900, 0⟩ := by
      refine Fin.forall_fin_two.mpr ⟨?_, hstarted.second⟩
      rw [hstarted.first]
      norm_num
    exact fun t u => (hat t).trans (hat u).symm
  obtain ⟨rows, hrows, -, hassigned⟩ := picksNearest_iff hstart hrun
  have hnearest : ∀ z t, Nearest (fun u => (e.targets u).location) z t := by
    intro z t u
    show ‖(e.targets t).location - z‖ ≤ ‖(e.targets u).location - z‖
    rw [hsame t u]
  obtain ⟨assignments, hok, hall⟩ :=
    hassigned (fun c _ t => iff_of_true (hnearest _ t) (hnearest _ t))
  exact ⟨start, e, history, rows, assignments, hstart, hrun, hstarted.sees, hrows, hok, hall⟩

end Mate.Rllib.HiTMACv2
