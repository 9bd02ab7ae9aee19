import Mate.NearestTargets
import Mate.Rllib.Distillation
import Mate.TargetSelections

set_option autoImplicit false

/-! # Which action the teacher names

A row that comes through both wrappers tells the distances of the targets that are seen, all scaled
alike, so the target whose bit is set is a nearest one of them (`selected_shown`). No bit is set
where nothing is seen, and the loop over the steps then goes on with the selection before
(`carryForward_last`). The number of a selection is decoded to it as long as there are numbers for
all selections (`teachesNearest_iff`).
-/

namespace Mate.Rllib.Distill

open Fallible MixedRadix

/-! ## Selections that are kept -/

section Carry

variable {T : ℕ} (d : Fin T → ℤ)

theorem carryStep_of_ne (result : Fin T → ℤ) {k : ℕ} {t : Fin T} (h : (t : ℕ) ≠ k + 1) :
    carryStep result k t = result t := by
  unfold carryStep
  split
  · exact Function.update_of_ne (fun heq => h (congrArg Fin.val heq)) _ _
  · rfl

/-- Before pass `m`, the steps behind it are as they were. -/
theorem foldl_carryStep_of_lt {m : ℕ} {t : Fin T} (h : m < t) :
    (List.range m).foldl carryStep d t = d t := by
  induction m with
  | zero => rfl
  | succ m ih =>
      rw [List.range_succ, List.foldl_append, List.foldl_cons, List.foldl_nil,
        carryStep_of_ne _ (by omega), ih (by omega)]

/-- After pass `m`, the steps up to it stay. -/
theorem foldl_carryStep_of_le {m m' : ℕ} (hle : m ≤ m') {t : Fin T} (h : (t : ℕ) ≤ m) :
    (List.range m').foldl carryStep d t = (List.range m).foldl carryStep d t := by
  induction m', hle using Nat.le_induction with
  | base => rfl
  | succ m' hle ih =>
      rw [List.range_succ, List.foldl_append, List.foldl_cons, List.foldl_nil,
        carryStep_of_ne _ (by omega), ih]

theorem carryForward_zero (h : 0 < T) : carryForward d ⟨0, h⟩ = d ⟨0, h⟩ :=
  foldl_carryStep_of_le d (Nat.zero_le _) (le_refl 0)

theorem carryForward_succ {k : ℕ} (h : k + 1 < T) : carryForward d ⟨k + 1, h⟩
    = if d ⟨k + 1, h⟩ = 0 then carryForward d ⟨k, Nat.lt_of_succ_lt h⟩ else d ⟨k + 1, h⟩ := by
  have hlast : carryForward d ⟨k + 1, h⟩ = (List.range (k + 1)).foldl carryStep d ⟨k + 1, h⟩ :=
    foldl_carryStep_of_le d (by omega) (le_refl _)
  have hbefore : carryForward d ⟨k, Nat.lt_of_succ_lt h⟩
      = (List.range k).foldl carryStep d ⟨k, Nat.lt_of_succ_lt h⟩ :=
    foldl_carryStep_of_le d (by omega) (le_refl _)
  rw [hlast, hbefore, List.range_succ, List.foldl_append, List.foldl_cons, List.foldl_nil]
  have hnext : d ⟨k + 1, h⟩ = (List.range k).foldl carryStep d ⟨k + 1, h⟩ :=
    (foldl_carryStep_of_lt d (Nat.lt_succ_self k)).symm
  rw [hnext, carryStep, dif_pos h, Function.update_self]

/-- Zeros are carried from the start. -/
theorem carryForward_of_zeros {t : Fin T} (h : ∀ s ≤ t, d s = 0) : carryForward d t = 0 := by
  obtain ⟨t, ht⟩ := t
  induction t with
  | zero => rw [carryForward_zero, h _ (le_refl _)]
  | succ t ih =>
      rw [carryForward_succ, if_pos (h _ (le_refl _))]
      exact ih _ (fun s hs => h s (hs.trans (Fin.mk_le_mk.mpr (Nat.le_succ t))))

/-- **What is carried** is the last entry that is not zero. -/
theorem carryForward_last {s t : Fin T} (hle : s ≤ t) (hs : d s ≠ 0)
    (h : ∀ r, s < r → r ≤ t → d r = 0) : carryForward d t = d s := by
  obtain ⟨t, ht⟩ := t
  induction t with
  | zero =>
      obtain rfl : s = ⟨0, ht⟩ := Fin.ext (Nat.le_zero.mp hle)
      exact carryForward_zero d ht
  | succ t ih =>
      rw [carryForward_succ]
      rcases hle.lt_or_eq with hlt | rfl
      · rw [if_pos (h _ hlt (le_refl _))]
        refine ih _ (Fin.mk_le_mk.mpr ?_) (fun r hr hrt => h r hr ?_)
        · exact Nat.lt_succ_iff.mp (Fin.lt_def.mp hlt)
        · exact hrt.trans (Fin.mk_le_mk.mpr (Nat.le_succ t))
      · rw [if_neg hs]

/-- What is carried to a step depends on the steps up to it. -/
theorem carryForward_congr {T' : ℕ} {d' : Fin T' → ℤ} {t : ℕ} (ht : t < T) (ht' : t < T')
    (h : ∀ s (hs : s < T) (hs' : s < T'), s ≤ t → d ⟨s, hs⟩ = d' ⟨s, hs'⟩) :
    carryForward d ⟨t, ht⟩ = carryForward d' ⟨t, ht'⟩ := by
  induction t with
  | zero => rw [carryForward_zero, carryForward_zero, h 0 ht ht' (le_refl 0)]
  | succ t ih =>
      have hbefore := ih (by omega) (by omega) (fun s hs hs' hle => h s hs hs' (by omega))
      rw [carryForward_succ, carryForward_succ, h (t + 1) ht ht' (le_refl _), hbefore]

end Carry

/-! ## Codes -/

section Codes

open MultiDiscrete2DiscreteActionMapper

/-- The number of a selection. -/
def codeOf {n : ℕ} (chosen : Fin n → Bool) : ℤ :=
  value (weights (HierarchicalCamera.selectionSpace n).nvec.data) (bitsOf chosen)

/-- The mapper decodes an action to a selection. -/
def Decodes (mapper : MultiDiscrete2DiscreteActionMapper) (a : ℤ) {n : ℕ} (chosen : Fin n → Bool) :
    Prop :=
  ∃ selection, mapper.multiDiscreteActionBatched [a] true = .ok selection ∧
    selection.data = bitsOf chosen

variable {n : ℕ}

/-- There are as many numbers as subsets. -/
theorem codeOf_mem (chosen : Fin n → Bool) : 0 ≤ codeOf chosen ∧ codeOf chosen < 2 ^ n := by
  have hprod : (HierarchicalCamera.selectionSpace n).nvec.data.prod = 2 ^ n := by
    show (List.replicate n (2 : ℤ)).prod = _
    rw [List.prod_replicate]
  rw [← hprod]
  exact value_mem (valid_bitsOf chosen)

theorem decodes_codeOf {mapper : MultiDiscrete2DiscreteActionMapper} (hpos : 0 < n) (hlt : n < 63)
    (hexact : Exact (HierarchicalCamera.selectionSpace n) mapper) (chosen : Fin n → Bool) :
    Decodes mapper (codeOf chosen) chosen := by
  have hvalid := valid_bitsOf chosen
  have ha := (hexact.contains_iff _).mpr (value_mem hvalid)
  obtain ⟨selection, hdecode, hdata⟩ :=
    hexact.decode_one (selectionSpace_numbered hpos hlt) ha true
  exact ⟨selection, hdecode, hdata.trans (digits_value hvalid)⟩

theorem codeOf_none : codeOf (fun _ : Fin n => false) = 0 := by
  have hbits : bitsOf (fun _ : Fin n => false) = List.replicate n 0 := by
    simp [bitsOf, List.ofFn_const]
  rw [codeOf, hbits, value_zero]

/-- Only the empty selection has the number zero. -/
theorem codeOf_ne_zero {chosen : Fin n → Bool} {t : Fin n} (h : chosen t = true) :
    codeOf chosen ≠ 0 := by
  intro hzero
  have hsame : bitsOf chosen = bitsOf (fun _ : Fin n => false) := by
    rw [← digits_value (valid_bitsOf chosen), ← digits_value (valid_bitsOf (fun _ => false))]
    exact congrArg (digits _) (hzero.trans codeOf_none.symm)
  have hbit := congrFun (List.ofFn_injective hsame) t
  rw [if_pos h] at hbit
  cases hbit

variable {obsSize : ℕ} (obs : Fin obsSize → ℝ) (hsize : requiredSize n ≤ obsSize)

/-- The selection that the bits stand for. -/
noncomputable def selected (t : Fin n) : Bool := bits obs hsize t = 1

theorem selected_iff (t : Fin n) : selected obs hsize t = true ↔
    (∃ u, visible obs hsize u = true) ∧ (List.finRange n).argmin (dist obs hsize) = some t := by
  unfold selected bits
  dsimp only
  split
  · rename_i hcond
    exact iff_of_true (decide_eq_true rfl) hcond
  · rename_i hcond
    exact iff_of_false (by simp) hcond

/-- Where nothing is visible no bit is set. -/
theorem selected_of_hidden (h : ∀ u, visible obs hsize u = false) :
    selected obs hsize = fun _ => false := by
  funext t
  refine Bool.eq_false_iff.mpr (fun htrue => ?_)
  obtain ⟨⟨u, hu⟩, -⟩ := (selected_iff obs hsize t).mp htrue
  rw [h u] at hu
  cases hu

/-- **The bit that is set** is that of a visible target, and none that is visible is nearer. -/
theorem selected_of_visible {u : Fin n} (h : visible obs hsize u = true) :
    ∃ t, visible obs hsize t = true ∧
      (∀ u, visible obs hsize u = true → ‖position obs hsize t‖ ≤ ‖position obs hsize u‖) ∧
      selected obs hsize = fun u => decide (u = t) := by
  cases hmin : (List.finRange n).argmin (dist obs hsize) with
  | none =>
      have hnil := List.argmin_eq_none.mp hmin
      exact absurd (List.mem_finRange u) (hnil ▸ List.not_mem_nil)
  | some t =>
      have hle : ∀ u, dist obs hsize t ≤ dist obs hsize u :=
        fun u => List.le_of_mem_argmin (List.mem_finRange u) hmin
      -- what is not visible is infinitely far away
      have ht : visible obs hsize t = true := by
        by_contra hnot
        have hlt := hle u
        rw [dist, dist, if_neg hnot, if_pos h, top_le_iff] at hlt
        exact WithTop.coe_ne_top hlt
      refine ⟨t, ht, fun u hu => ?_, funext (fun u => ?_)⟩
      · have hlt := hle u
        rw [dist, dist, if_pos ht, if_pos hu] at hlt
        exact WithTop.coe_le_coe.mp hlt
      · have hiff := selected_iff obs hsize u
        rw [hmin, Option.some.injEq] at hiff
        by_cases heq : u = t
        · rw [decide_eq_true heq]
          exact hiff.mpr ⟨⟨t, ht⟩, heq.symm⟩
        · rw [decide_eq_false heq]
          exact Bool.eq_false_iff.mpr (fun htrue => heq (hiff.mp htrue).2.symm)

/-- **Below 63 targets** the bits are summed up to the number of the selection. -/
theorem discrete_eq (hlt : n < 63) :
    discrete obs hsize ((List.range n).map (fun t : ℕ => 2 ^ (n - 1 - t)))
      = codeOf (selected obs hsize) := by
  have hbits : List.ofFn (bits obs hsize) = bitsOf (selected obs hsize) := by
    refine congrArg List.ofFn (funext (fun t => ?_))
    unfold selected bits
    dsimp only
    split <;> simp
  obtain ⟨hnonneg, hbound⟩ := codeOf_mem (selected obs hsize)
  have hpow : (2 : ℤ) ^ n < 2 ^ 63 := pow_lt_pow_right₀ (by decide) hlt
  rw [discrete, hbits, ← weights_replicate]
  exact int64_of_mem hnonneg (hbound.trans hpow)

end Codes

/-! ## Rows through the wrappers -/

section Shown

open HiTMACv2

variable {cfg : Config} {G V : Type} {e : Env cfg G V} {c : Fin cfg.numCameras}

/-- A target that camera `c` sees, and none of those that it sees is nearer to it. -/
structure NearestSeen (e : Env cfg G V) (c : Fin cfg.numCameras) (t : Fin cfg.numTargets) :
    Prop where
  seen : e.cameraTargetViewMask c t = true
  le : ∀ u, e.cameraTargetViewMask c u = true →
    ‖(e.targets t).location - (e.cameras c).location‖
      ≤ ‖(e.targets u).location - (e.cameras c).location‖

variable {obsSize : ℕ} {obs : Fin obsSize → ℝ} (hsize : requiredSize cfg.numTargets ≤ obsSize)
  (h : e.ObstacleRows) (hrow : List.ofFn obs = shownRow e c)

include hrow in
theorem column_shown {t : Fin cfg.numTargets} {k : Fin 5} {x : ℝ}
    (hx : (shownRow e c)[22 + (t : ℕ) * 5 + (k : ℕ)]? = some x) : column obs hsize t k = x := by
  rw [← hrow, List.getElem?_ofFn] at hx
  split at hx
  · exact Option.some.inj hx
  · cases hx

include h hrow

/-- Seen targets are visible. -/
theorem visible_shown (t : Fin cfg.numTargets) :
    visible obs hsize t = e.cameraTargetViewMask c t := by
  obtain ⟨-, -, hflag⟩ := Env.getElem?_relativeRow_target h c t
  have hentry := getElem?_of_entry ((Env.shown_boundsAt cfg.numCameras cfg.numTargets
    cfg.numObstacles).entry t (by decide) rfl rfl hflag)
  rw [← shownRow_eq] at hentry
  have hcolumn : column obs hsize t OPP_MASK_OFFSET = if e.cameraTargetViewMask c t then 1 else 0 :=
    column_shown hsize hrow (hentry.trans (congrArg some (rescaleEntry_flag _)))
  rw [visible, hcolumn]
  cases e.cameraTargetViewMask c t with
  | true =>
      have hlt : (1 / 2 : ℝ) < 1 := by norm_num
      rw [if_pos rfl, decide_eq_true hlt]
  | false =>
      have hnot : ¬ (1 / 2 : ℝ) < 0 := by norm_num
      rw [if_neg Bool.false_ne_true, decide_eq_false hnot]

/-- Seen targets are where they are from the camera, in another unit. -/
theorem position_shown (t : Fin cfg.numTargets) : position obs hsize t = shownAt e c t / 2000 := by
  obtain ⟨hx, hy, -⟩ := Env.getElem?_relativeRow_target h c t
  obtain ⟨hx', hy'⟩ := getElem?_location
    (Env.shown_boundsAt cfg.numCameras cfg.numTargets cfg.numObstacles) t (by decide) rfl rfl hx hy
  rw [← shownRow_eq] at hx' hy'
  exact Complex.ext (column_shown hsize hrow hx') (column_shown hsize hrow hy')

/-- **What the bits of a row select**: nothing if the camera sees nothing, else a nearest one of the
targets that it sees. -/
theorem selected_shown :
    ((∀ t, e.cameraTargetViewMask c t = false) → selected obs hsize = fun _ => false) ∧
    ((∃ t, e.cameraTargetViewMask c t = true) →
      ∃ t, NearestSeen e c t ∧ selected obs hsize = fun u => decide (u = t)) := by
  have hvisible := visible_shown hsize h hrow
  constructor
  · exact fun hnone => selected_of_hidden obs hsize (fun u => (hvisible u).trans (hnone u))
  · rintro ⟨u, hu⟩
    obtain ⟨t, ht, hle, hselected⟩ := selected_of_visible obs hsize ((hvisible u).trans hu)
    have hseen := (hvisible t).symm.trans ht
    have hnorm : ∀ u, e.cameraTargetViewMask c u = true → ‖position obs hsize u‖
        = ‖(e.targets u).location - (e.cameras c).location‖ / 2000 := by
      intro u hu
      rw [position_shown hsize h hrow, shownAt, if_pos hu, norm_div]
      norm_num
    refine ⟨t, ⟨hseen, fun u hu => ?_⟩, hselected⟩
    have hscaled := hle u ((hvisible u).trans hu)
    rw [hnorm t hseen, hnorm u hu] at hscaled
    exact (div_le_div_iff_of_pos_right (by norm_num)).mp hscaled

end Shown

/-! ## Sequences -/

section Sequences

open HiTMACv2 MultiDiscrete2DiscreteActionMapper

/-- The entries of a list of known length. -/
theorem exists_ofFn {l : List ℝ} {n : ℕ} (h : l.length = n) :
    ∃ row : Fin n → ℝ, List.ofFn row = l := by
  subst h
  exact ⟨l.get, List.ofFn_get l⟩

/-- What an action that is named at step `t` selects. -/
structure NamesLastNearest {cfg : Config} {G V : Type} {T : ℕ}
    (mapper : MultiDiscrete2DiscreteActionMapper) (states : Fin T → Env cfg G V)
    (c : Fin cfg.numCameras) (t : Fin T) (a : ℤ) : Prop where
  /-- Nothing has been seen since the start of the sequence. -/
  unseen : (∀ s ≤ t, ∀ k, (states s).cameraTargetViewMask c k = false) →
    Decodes mapper a (fun _ : Fin cfg.numTargets => false)
  /-- At step `s` something was seen for the last time. -/
  seen : ∀ s ≤ t, (∃ k, (states s).cameraTargetViewMask c k = true) →
    (∀ r, s < r → r ≤ t → ∀ k, (states r).cameraTargetViewMask c k = false) →
    ∃ k, NearestSeen (states s) c k ∧ Decodes mapper a (fun u => decide (u = k))

/-- The loop over the steps, on the numbers of the selections of one camera. -/
theorem namesLastNearest {cfg : Config} {G V : Type} {T obsSize : ℕ} {states : Fin T → Env cfg G V}
    {c : Fin cfg.numCameras} {mapper : MultiDiscrete2DiscreteActionMapper}
    (hlt : cfg.numTargets < 63)
    (hexact : Exact (HierarchicalCamera.selectionSpace cfg.numTargets) mapper)
    (hsize : requiredSize cfg.numTargets ≤ obsSize) {rows : Fin T → Fin obsSize → ℝ}
    (h : ∀ s, (states s).ObstacleRows) (hrows : ∀ s, List.ofFn (rows s) = shownRow (states s) c)
    (t : Fin T) :
    NamesLastNearest mapper states c t (carryForward (fun s => discrete (rows s) hsize
      ((List.range cfg.numTargets).map (fun j : ℕ => 2 ^ (cfg.numTargets - 1 - j)))) t) := by
  have hdecodes := decodes_codeOf cfg.numTargets_pos hlt hexact
  have hcode := fun s => discrete_eq (rows s) hsize hlt
  have hshown := fun s => selected_shown hsize (h s) (hrows s)
  have hzero : ∀ s, (∀ k, (states s).cameraTargetViewMask c k = false) →
      discrete (rows s) hsize
        ((List.range cfg.numTargets).map (fun j : ℕ => 2 ^ (cfg.numTargets - 1 - j))) = 0 := by
    intro s hnone
    rw [hcode, (hshown s).1 hnone, codeOf_none]
  constructor
  · intro hnone
    rw [carryForward_of_zeros _ (fun s hs => hzero s (hnone s hs)), ← codeOf_none]
    exact hdecodes _
  · intro s hs hsome hnone
    obtain ⟨k, hnearest, hselected⟩ := (hshown s).2 hsome
    have hself : selected (rows s) hsize k = true := by
      rw [hselected]
      exact decide_eq_true rfl
    have hne := codeOf_ne_zero hself
    rw [← hcode s] at hne
    refine ⟨k, hnearest, ?_⟩
    rw [carryForward_last _ hs hne (fun r hsr hrt => hzero r (hnone r hsr hrt)), hcode s, hselected]
    exact hdecodes _

/-- A logarithm without remainder. -/
theorem roundLog2_two_pow (n : ℕ) : roundLog2 (2 ^ n) = n := by
  have hnot : ¬ 2 ^ (2 * n + 1) < (2 ^ n) ^ 2 := by
    rw [← pow_mul, Nat.mul_comm n 2]
    exact not_lt.mpr (Nat.pow_le_pow_right (by decide) (by omega))
  unfold roundLog2
  dsimp only
  rw [Nat.log2_two_pow, if_neg hnot]

theorem toNat_two_pow (n : ℕ) : ((2 : ℤ) ^ n).toNat = 2 ^ n := by
  have hcast : ((2 : ℤ) ^ n) = ((2 ^ n : ℕ) : ℤ) := by push_cast; rfl
  rw [hcast, Int.toNat_natCast]

section Tensors

variable {B T C obsSize n : ℕ} (obs : Fin B → Fin T → Fin C → Fin obsSize → ℝ)

/-- **What is computed** for up to 63 targets. -/
theorem computeGreedyActions_eq_ok (hpos : 0 < n) (hlt : n ≤ 63)
    (hsize : requiredSize n ≤ obsSize) :
    computeGreedyActions obs (2 ^ n) = .ok (fun b t c => carryForward (fun s =>
      discrete (obs b s c) hsize ((List.range n).map (fun j : ℕ => 2 ^ (n - 1 - j)))) t) := by
  have hpow : ¬ (2 : ℤ) ^ n ≤ 0 := not_le.mpr (by positivity)
  have hlong : torchLong ((List.range n).map (fun j : ℕ => 2 ^ (n - 1 - j)))
      = .ok ((List.range n).map (fun j : ℕ => 2 ^ (n - 1 - j))) := by
    refine if_neg ?_
    rintro ⟨x, hx, hle⟩
    obtain ⟨j, hj, rfl⟩ := List.mem_map.mp hx
    have hj := List.mem_range.mp hj
    exact absurd hle (not_le.mpr (pow_lt_pow_right₀ (by decide) (by omega)))
  have hwidth : ¬ ∃ t < n, sliceWidth obsSize t ≠ sliceWidth obsSize 0 := by
    rintro ⟨t, ht, hne⟩
    have htwo : ∀ t < n, sliceWidth obsSize t = 2 := by
      intro t ht
      simp only [sliceWidth, requiredSize, OPP_OBS_START, OPP_STATE_STRIDE] at hsize ⊢
      omega
    exact hne ((htwo t ht).trans (htwo 0 hpos).symm)
  rw [computeGreedyActions, if_neg hpow, toNat_two_pow, roundLog2_two_pow]
  refine bind_eq_ok.mpr ⟨_, hlong, ?_⟩
  rw [if_neg hpos.ne', if_neg hwidth, dif_pos hsize]

/-- What has been computed is carried forward, with the same strides for all rows. -/
theorem eq_of_computeGreedyActions {nActions : ℤ} {result : Fin B → Fin T → Fin C → ℤ}
    (h : computeGreedyActions obs nActions = .ok result) :
    ∃ strides, torchLong ((List.range (roundLog2 nActions.toNat)).map
        (fun j : ℕ => 2 ^ (roundLog2 nActions.toNat - 1 - j))) = .ok strides ∧
      ∃ hsize : requiredSize (roundLog2 nActions.toNat) ≤ obsSize,
        result = fun b t c => carryForward (fun s => discrete (obs b s c) hsize strides) t := by
  unfold computeGreedyActions at h
  split at h
  · cases h
  · obtain ⟨strides, hlong, h⟩ := bind_eq_ok.mp h
    refine ⟨strides, hlong, ?_⟩
    split at h
    · cases h
    · split at h
      · cases h
      · split at h
        · rename_i hsize
          exact ⟨hsize, (Except.ok.inj h).symm⟩
        · cases h

/-- From 64 targets on, the first stride does not fit. -/
theorem computeGreedyActions_ne_ok (hge : 64 ≤ n) (result : Fin B → Fin T → Fin C → ℤ) :
    computeGreedyActions obs (2 ^ n) ≠ .ok result := by
  intro hok
  have hpow : ¬ (2 : ℤ) ^ n ≤ 0 := not_le.mpr (by positivity)
  rw [computeGreedyActions, if_neg hpow, toNat_two_pow, roundLog2_two_pow] at hok
  obtain ⟨strides, hlong, -⟩ := bind_eq_ok.mp hok
  have hfirst : (2 : ℤ) ^ (n - 1 - 0) ∈ (List.range n).map (fun j : ℕ => (2 : ℤ) ^ (n - 1 - j)) :=
    List.mem_map.mpr ⟨0, List.mem_range.mpr (by omega), rfl⟩
  have hle : (2 : ℤ) ^ 63 ≤ 2 ^ (n - 1 - 0) := pow_le_pow_right₀ (by decide) (by omega)
  rw [torchLong, if_pos ⟨_, hfirst, hle⟩] at hlong
  cases hlong

end Tensors

/-- The teacher names a nearest one of the targets that were seen last, in every batch of sequences
of observations. -/
def TeachesNearest (n : ℕ) : Prop :=
  ∃ mapper, init (HierarchicalCamera.selectionSpace n) = .ok mapper ∧
    ∀ (cfg : Config) (G V : Type) [RandomState G] [SetOrder], cfg.numTargets = n →
      ∀ {B T : ℕ} (states : Fin B → Fin T → MultiAgentTracking cfg G V),
        (∀ b t, ∃ (memory : Memory V) (start : MultiAgentTracking cfg G V)
          (history : List (MultiAgentTracking.Method cfg V)),
          MultiAgentTracking.init cfg memory = .ok start ∧
            Runs.Run MultiAgentTracking.Does start history (states b t)) →
        ∃ (obs : Fin B → Fin T → Fin cfg.numCameras → Fin (observationSpaceOf .camera
            cfg.numCameras cfg.numTargets cfg.numObstacles).dim → ℝ)
          (result : Fin B → Fin T → Fin cfg.numCameras → ℤ),
          (∀ b t c, List.ofFn (obs b t c) = shownRow (states b t).toEnv c) ∧
          computeGreedyActions obs (2 ^ n) = .ok result ∧
          ∀ b t c, NamesLastNearest mapper (fun s => (states b s).toEnv) c t (result b t c)

theorem teachesNearest_of_lt {n : ℕ} (hpos : 0 < n) (hlt : n < 63) : TeachesNearest n := by
  obtain ⟨mapper, hinit, hexact⟩ := exists_exact (selectionSpace_numbered hpos hlt)
  refine ⟨mapper, hinit, ?_⟩
  intro cfg G V _ _ hn B T states hreached
  subst hn
  have h : ∀ b t, (states b t).toEnv.ObstacleRows := by
    intro b t
    obtain ⟨memory, start, history, hstart, hrun⟩ := hreached b t
    exact run_obstacleRows hstart hrun
  have hlength : ∀ b t c, (shownRow (states b t).toEnv c).length
      = (observationSpaceOf .camera cfg.numCameras cfg.numTargets cfg.numObstacles).dim :=
    fun b t c => Preprocessing.length_transform ⟨true, true⟩ (Env.length_camera_row (h b t) c)
  have hsize : requiredSize cfg.numTargets
      ≤ (observationSpaceOf .camera cfg.numCameras cfg.numTargets cfg.numObstacles).dim := by
    rw [Env.dim_observationSpaceOf, Env.observationIndicesOf_eq]
    show 22 + cfg.numTargets * 5 ≤ 13 + (9 + (cfg.numTargets * 5 + _))
    omega
  choose obs hrows using fun b t c => exists_ofFn (hlength b t c)
  refine ⟨_, _, hrows, computeGreedyActions_eq_ok _ hpos hlt.le hsize, fun b t c => ?_⟩
  exact namesLastNearest hlt hexact hsize (h b) (fun s => hrows b s c) t

/-- As many targets, all in the middle. -/
def crowdConfig (n : ℕ) (hpos : 0 < n) : Config :=
  { Env.leakyConfig with
    target :=
      { placement := ⟨List.replicate n (0, 0), []⟩
        sightRange := ⟨500, Positive.fiveHundred_pos⟩
        stepSize := ⟨4000, Positive.fourThousand_pos⟩ }
    numTargets_pos := by simpa [Placement.boxes] using hpos }

theorem numTargets_crowdConfig (n : ℕ) (hpos : 0 < n) : (crowdConfig n hpos).numTargets = n := by
  simp [Config.numTargets, crowdConfig, Placement.boxes]

theorem lt_of_teachesNearest {n : ℕ} (hpos : 0 < n) (h : TeachesNearest n) : n < 63 := by
  obtain ⟨mapper, hinit, hteaches⟩ := h
  by_contra hge
  rcases (not_lt.mp hge).eq_or_lt with rfl | hlt
  · -- `Discrete` refuses a negative number
    obtain ⟨-, hn, -⟩ := init_eq_ok hinit
    have hnonneg := mapper.space.nonneg
    rw [hn] at hnonneg
    exact absurd hnonneg (by decide)
  · let _ := Env.rotating
    let _ := SetOrder.increasing
    obtain ⟨obs, result, -, hok, -⟩ := hteaches (crowdConfig n hpos) (Fin 4) Unit
      (numTargets_crowdConfig n hpos) (Fin.elim0 : Fin 0 → Fin 0 → _) (fun b => b.elim0)
    exact computeGreedyActions_ne_ok obs hlt result hok

end Sequences

end Mate.Rllib.Distill
