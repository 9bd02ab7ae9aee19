import Mate.ActionCodec
import Mate.RelativeRows
import Mate.Rllib.SubsetActions

set_option autoImplicit false

/-! # Selections of targets

The mask of a camera has two entries for every target, for the bit that is not set and for the bit
that is. A discrete action is allowed by it when it selects what is visible.
-/

namespace Mate.Rllib

open Fallible NdArrays MixedRadix

/-- The flag of target `t` in an observation of a camera is set. -/
def IsVisible (numCameras numTargets numObstacles : ℕ) (observation : List ℝ) (t : ℕ) : Prop :=
  ∃ flag, ((cameraObservationSlicesOf numCameras numTargets numObstacles).opponentMask.read
    observation)[t]? = some flag ∧ flag ≠ 0

/-- The discrete actions that a camera's mask allows are the selections of visible targets. -/
def SelectsVisible (numCameras numTargets numObstacles : ℕ) : Prop :=
  ∃ mapper, MultiDiscrete2DiscreteActionMapper.init (HierarchicalCamera.selectionSpace numTargets)
      = .ok mapper ∧
    ∀ observation : List ℝ,
      observation.length = (observationSpaceOf .camera numCameras numTargets numObstacles).dim →
      ∃ allowed, DiscreteMultiSelection.actionMask numCameras numTargets numObstacles mapper
          observation = .ok allowed ∧
        (∀ a, mapper.space.contains a = true → allowed[a.toNat]? = some true → ∃ selection,
          mapper.multiDiscreteActionBatched [a] true = .ok selection ∧
            ∀ t, selection.data[t]? = some 1 →
              IsVisible numCameras numTargets numObstacles observation t) ∧
        ∀ selected : Fin numTargets → Bool,
          (∀ t, selected t = true → IsVisible numCameras numTargets numObstacles observation t) →
          ∃ a, mapper.space.contains a = true ∧ allowed[a.toNat]? = some true ∧ ∃ selection,
            mapper.multiDiscreteActionBatched [a] true = .ok selection ∧
              selection.data = List.ofFn (fun t => if selected t then 1 else 0)

/-! ## The flags of the targets -/

section

variable {numCameras numTargets numObstacles : ℕ} {observation : List ℝ}

/-- There is one flag for every target. -/
theorem exists_flags
    (h : observation.length = (observationSpaceOf .camera numCameras numTargets numObstacles).dim) :
    ∃ flags : Fin numTargets → ℝ,
      (cameraObservationSlicesOf numCameras numTargets numObstacles).opponentMask.read observation
        = List.ofFn flags := by
  have hlength : 22 + numTargets * (4 + 1) ≤ observation.length := by
    rw [h, Env.dim_observationSpaceOf, Env.observationIndicesOf_eq]
    show _ ≤ 13 + (9 + (numTargets * 5 + _))
    omega
  have hslice : (cameraObservationSlicesOf numCameras numTargets numObstacles).opponentMask
      = ⟨22 + 4, 22 + numTargets * (4 + 1), 4 + 1⟩ :=
    (cameraObservationSlicesOf_masks numCameras numTargets numObstacles).1
  rw [hslice]
  exact read_flags hlength

/-- Every entry twice. -/
theorem getElem?_repeated (l : List Bool) (t : ℕ) {k : ℕ} (hk : k < 2) :
    (l.flatMap (List.replicate 2))[2 * t + k]? = l[t]? := by
  induction l generalizing t with
  | nil => rfl
  | cons seen l ih =>
      rw [List.flatMap_cons]
      cases t with
      | zero =>
          have hlt : k < (List.replicate 2 seen).length := hk
          rw [Nat.mul_zero, Nat.zero_add, List.getElem?_append_left hlt,
            List.getElem?_replicate_of_lt hk]
          rfl
      | succ t =>
          have hindex : 2 * (t + 1) + k = (List.replicate 2 seen).length + (2 * t + k) := by
            rw [List.length_replicate]
            omega
          rw [hindex, List.getElem?_append_right (Nat.le_add_right _ _), Nat.add_sub_cancel_left,
            ih, List.getElem?_cons_succ]

/-- Entries `2 * t` and `2 * t + 1` are for target `t`. -/
theorem getElem?_actionMask (slice : Slice) (t : ℕ) {k : ℕ} (hk : k < 2) :
    (HierarchicalCamera.actionMask true slice observation)[2 * t + k]?
      = (slice.read observation)[t]?.map (fun flag => decide (k = 0 ∨ flag ≠ 0)) := by
  rw [HierarchicalCamera.actionMask, if_pos rfl, List.getElem?_mapIdx, getElem?_repeated _ _ hk,
    List.getElem?_map, Option.map_map]
  refine congrArg (Option.map · _) (funext (fun flag => ?_))
  by_cases hzero : k = 0
  · have heven : (2 * t + k) % 2 = 0 := by omega
    rw [Function.comp, if_pos heven, decide_eq_true (Or.inl hzero)]
  · have hodd : ¬ (2 * t + k) % 2 = 0 := by omega
    rw [Function.comp, if_neg hodd]
    exact decide_eq_decide.mpr ⟨Or.inr, fun h => h.resolve_left hzero⟩

theorem length_actionMask (slice : Slice) :
    (HierarchicalCamera.actionMask true slice observation).length
      = 2 * (slice.read observation).length := by
  rw [HierarchicalCamera.actionMask, if_pos rfl, List.length_mapIdx, List.length_flatMap,
    List.map_congr_left (fun seen _ => List.length_replicate), List.map_const', List.length_map,
    List.sum_replicate_nat, Nat.mul_comm]

end

/-! ## Selections -/

theorem selectionSpace_numbered {numTargets : ℕ} (hpos : 0 < numTargets) (hlt : numTargets < 63) :
    Numbered (HierarchicalCamera.selectionSpace numTargets) := by
  constructor
  · exact List.ne_nil_of_length_pos (List.length_replicate.symm ▸ hpos)
  · show (List.replicate numTargets (2 : ℤ)).prod < 2 ^ 63
    rw [List.prod_replicate]
    exact pow_lt_pow_right₀ (by decide) hlt

/-- A bit is allowed when it is not set, or its target is visible. -/
theorem allowsDigit_iff {numTargets : ℕ} {mask : List Bool} {t : ℕ} (ht : t < numTargets)
    {digit : ℤ} (hnonneg : 0 ≤ digit) :
    MultiDiscrete2DiscreteActionMapper.AllowsDigit (HierarchicalCamera.selectionSpace numTargets)
      mask t digit ↔ mask[2 * t + digit.toNat]? = some true := by
  have hsum : ((List.replicate numTargets (2 : ℤ)).take t).sum = ((2 * t : ℕ) : ℤ) := by
    rw [List.take_replicate, min_eq_left ht.le, List.sum_replicate, nsmul_eq_mul]
    push_cast
    ring
  show mask[(((List.replicate numTargets (2 : ℤ)).take t).sum + digit).toNat]? = _ ↔ _
  rw [hsum, Int.toNat_add (by omega) hnonneg, Int.toNat_natCast]

/-- The bits of a selection. -/
def bitsOf {numTargets : ℕ} (selected : Fin numTargets → Bool) : List ℤ :=
  List.ofFn (fun t => if selected t then 1 else 0)

theorem valid_bitsOf {numTargets : ℕ} (selected : Fin numTargets → Bool) :
    Valid (HierarchicalCamera.selectionSpace numTargets).nvec.data (bitsOf selected) := by
  have hlength : (bitsOf selected).length = numTargets := List.length_ofFn
  refine List.forall₂_iff_get.mpr ⟨List.length_replicate.trans hlength.symm, fun t h h' => ?_⟩
  have hradix : (List.replicate numTargets (2 : ℤ)).get ⟨t, h⟩ = 2 :=
    List.eq_of_mem_replicate (List.get_mem _ _)
  show 0 ≤ (bitsOf selected).get ⟨t, h'⟩ ∧ _ < (List.replicate numTargets (2 : ℤ)).get ⟨t, h⟩
  rw [hradix, List.get_eq_getElem]
  simp only [bitsOf, List.getElem_ofFn]
  split <;> decide

section

variable {numCameras numTargets numObstacles : ℕ} {observation : List ℝ}

open MultiDiscrete2DiscreteActionMapper

/-- The bits that a camera's mask allows. -/
theorem actionMask_allows {flags : Fin numTargets → ℝ}
    (hflags : (cameraObservationSlicesOf numCameras numTargets numObstacles).opponentMask.read
      observation = List.ofFn flags) (t : Fin numTargets) {digit : ℤ} (hdigit : 0 ≤ digit ∧ digit < 2) :
    AllowsDigit (HierarchicalCamera.selectionSpace numTargets)
        (HierarchicalCamera.actionMask true
          (cameraObservationSlicesOf numCameras numTargets numObstacles).opponentMask observation)
        t digit
      ↔ (digit = 1 → IsVisible numCameras numTargets numObstacles observation t) := by
  have hflag : (List.ofFn flags)[(t : ℕ)]? = some (flags t) := by
    rw [List.getElem?_ofFn, dif_pos t.isLt]
  rw [allowsDigit_iff t.isLt hdigit.1, getElem?_actionMask _ _ (by omega), IsVisible, hflags, hflag,
    Option.map_some, Option.some.injEq, decide_eq_true_iff]
  constructor
  · rintro (hzero | hne) hone
    · omega
    · exact ⟨_, rfl, hne⟩
  · intro hvisible
    by_cases hone : digit = 1
    · obtain ⟨flag, hsome, hne⟩ := hvisible hone
      obtain rfl := Option.some.inj hsome
      exact Or.inr hne
    · exact Or.inl (by omega)

/-- **What a camera may select** is what it sees. -/
theorem selectsVisible_of_lt (hpos : 0 < numTargets) (hlt : numTargets < 63) :
    SelectsVisible numCameras numTargets numObstacles := by
  have hspace := selectionSpace_numbered hpos hlt
  obtain ⟨mapper, hinit, hexact⟩ := exists_exact hspace
  refine ⟨mapper, hinit, fun observation hlength => ?_⟩
  obtain ⟨flags, hflags⟩ := exists_flags hlength
  -- two entries of the mask for each target: not to select it, and to select it
  have hmask : (HierarchicalCamera.actionMask true
      (cameraObservationSlicesOf numCameras numTargets numObstacles).opponentMask
        observation).length = mapper.maskSize := by
    have hsize := hexact.maskSize_eq
    have hsum : (HierarchicalCamera.selectionSpace numTargets).nvec.data.sum = numTargets * 2 := by
      show (List.replicate numTargets (2 : ℤ)).sum = _
      rw [List.sum_replicate, nsmul_eq_mul]
    rw [length_actionMask, hflags, List.length_ofFn]
    omega
  obtain ⟨allowed, hallowed, -, hiff⟩ := hexact.discreteActionMask hspace hmask
  refine ⟨allowed, hallowed, fun a ha htrue => ?_, fun selected hselected => ?_⟩
  · obtain ⟨selection, hdecode, hdata⟩ := hexact.decode_one hspace ha true
    refine ⟨selection, hdecode, fun t ht => ?_⟩
    rw [hdata] at ht
    have hlt' : t < numTargets := by
      have := (List.getElem?_eq_some_iff.mp ht).1
      rw [length_digits, length_weights] at this
      exact this.trans_eq List.length_replicate
    exact (actionMask_allows hflags ⟨t, hlt'⟩ (by decide)).mp ((hiff a ha).mp htrue t 1 ht) rfl
  · have hvalid := valid_bitsOf selected
    have ha := (hexact.contains_iff _).mpr (value_mem hvalid)
    obtain ⟨selection, hdecode, hdata⟩ := hexact.decode_one hspace ha true
    have hdigits := digits_value hvalid
    refine ⟨_, ha, (hiff _ ha).mpr (fun t digit hdigit => ?_), selection, hdecode,
      hdata.trans hdigits⟩
    rw [hdigits] at hdigit
    have hlt' : t < numTargets :=
      (List.getElem?_eq_some_iff.mp hdigit).1.trans_eq List.length_ofFn
    rw [bitsOf, List.getElem?_ofFn, dif_pos hlt'] at hdigit
    obtain rfl := Option.some.inj hdigit
    refine (actionMask_allows hflags ⟨t, hlt'⟩ (by split <;> decide)).mpr (fun hone => ?_)
    exact hselected ⟨t, hlt'⟩ (by_contra (fun hnot => by rw [if_neg hnot] at hone; cases hone))

/-- The number of selections does not fit. -/
theorem int64_pow_le {n : ℕ} (h : 63 ≤ n) : int64 (2 ^ n) ≤ 0 := by
  obtain ⟨k, rfl⟩ := Nat.exists_eq_add_of_le h
  cases k with
  | zero => decide
  | succ k =>
      have hdvd : ((2 ^ 64 : ℕ) : ℤ) ∣ 2 ^ (63 + (k + 1)) := ⟨2 ^ k, by push_cast; ring⟩
      rw [int64, Int.bmod_eq_zero_of_dvd hdvd]

/-- Where one action is decoded, the selections have numbers. -/
theorem lt_of_decoded {mapper : MultiDiscrete2DiscreteActionMapper} {a : ℤ} {selection : NdArray ℤ}
    (hinit : init (HierarchicalCamera.selectionSpace numTargets) = .ok mapper)
    (hdecode : mapper.multiDiscreteActionBatched [a] true = .ok selection) :
    0 < numTargets ∧ numTargets < 63 := by
  obtain ⟨horiginal, hn, -⟩ := init_eq_ok hinit
  constructor
  · refine Nat.pos_of_ne_zero (fun hzero => ?_)
    subst hzero
    exact not_decoded_of_empty (horiginal.symm ▸ rfl) hdecode
  · have ha : mapper.space.contains a = true := by
      by_contra hnot
      unfold MultiDiscrete2DiscreteActionMapper.multiDiscreteActionBatched at hdecode
      rw [if_pos (by simpa using hnot)] at hdecode
      cases hdecode
    by_contra hge
    rw [Discrete.contains, decide_eq_true_iff, hn] at ha
    have hprod : npProd (HierarchicalCamera.selectionSpace numTargets).nvec.data
        = int64 (2 ^ numTargets) := by
      show int64 (List.replicate numTargets (2 : ℤ)).prod = _
      rw [List.prod_replicate]
    have := int64_pow_le (not_lt.mp hge)
    omega

/-- **Otherwise nothing can be selected.** -/
theorem lt_of_selectsVisible (h : SelectsVisible numCameras numTargets numObstacles) :
    0 < numTargets ∧ numTargets < 63 := by
  obtain ⟨mapper, hinit, hall⟩ := h
  obtain ⟨allowed, -, -, hselect⟩ := hall (List.replicate _ 0) List.length_replicate
  -- to select nothing is a selection
  obtain ⟨a, -, -, selection, hdecode, -⟩ := hselect (fun _ => false) (by simp)
  exact lt_of_decoded hinit hdecode

end

/-- **The codec** is one where there is a batch, and where the actions can be numbered. -/
theorem actionMapper_codec_iff (space : MultiDiscrete)
    (batchSize numCameras numTargets numObstacles : ℕ) :
    ((Inverse space batchSize ∧ MasksDigits space) ↔ (0 < batchSize ∧ Numbered space)) ∧
    (SelectsVisible numCameras numTargets numObstacles ↔ (0 < numTargets ∧ numTargets < 63)) := by
  constructor
  · constructor
    · rintro ⟨hinverse, -⟩
      open MultiDiscrete2DiscreteActionMapper in
      exact ⟨pos_of_inverse hinverse, ne_nil_of_inverse hinverse, lt_of_inverse hinverse⟩
    · rintro ⟨hbatch, hspace⟩
      obtain ⟨mapper, hinit, hexact⟩ :=
        MultiDiscrete2DiscreteActionMapper.exists_exact hspace
      exact ⟨⟨mapper, hinit, hexact.inverse hspace hbatch⟩,
        MultiDiscrete2DiscreteActionMapper.masksDigits hspace⟩
  · exact ⟨lt_of_selectsVisible, fun h => selectsVisible_of_lt h.1 h.2⟩

/-- No actions of two bits cannot be encoded. -/
theorem empty_batch_not_inverse : ¬ Inverse (HierarchicalCamera.selectionSpace 2) 0 :=
  fun h => absurd (MultiDiscrete2DiscreteActionMapper.pos_of_inverse h) (lt_irrefl 0)

/-! ## The learners

All that decode an action look at the same quotients.
-/

theorem decodeTargetSelection_eq {ι : Type} {n : ℕ} (hpos : 0 < n) (h : n ≤ 63) (actions : ι → ℤ) :
    decodeTargetSelection true (2 ^ n) actions n
      = .ok (some (fun i => targetBits n (actions i))) := by
  have hbits : (List.range n).mapM (fun j => do
      let shift := n - 1 - j
      let quotient ← torchFloorDivide actions (2 ^ shift)
      return fun i => Int.fmod (quotient i) 2)
      = .ok ((List.range n).map (fun j i => actions i / 2 ^ (n - 1 - j) % 2)) := by
    refine mapM_eq_ok (fun j hj => ?_)
    have hj := List.mem_range.mp hj
    have hpow : (2 : ℤ) ^ (n - 1 - j) < 2 ^ 63 := pow_lt_pow_right₀ (by decide) (by omega)
    refine bind_eq_ok.mpr ⟨_, if_neg (not_le.mpr hpow), congrArg Except.ok (funext (fun i => ?_))⟩
    rw [Int.fdiv_eq_ediv_of_nonneg _ (by positivity), Int.fmod_eq_emod_of_nonneg _ (by decide)]
  have hne : (List.range n).map (fun j i => actions i / 2 ^ (n - 1 - j) % 2) ≠ [] := by
    intro hnil
    have hlength := congrArg List.length hnil
    rw [List.length_map, List.length_range, List.length_nil] at hlength
    omega
  unfold decodeTargetSelection
  rw [if_neg (by decide), if_neg (not_not_intro rfl), hbits]
  refine bind_eq_ok.mpr ⟨_, rfl, bind_eq_ok.mpr ⟨_, if_neg hne, ?_⟩⟩
  refine congrArg (Except.ok ∘ some) (funext (fun i => ?_))
  exact List.map_map

/-- From 64 targets on, the first divisor does not fit. -/
theorem le_of_decodeTargetSelection {ι : Type} {n : ℕ} {actions : ι → ℤ}
    {selection : Option (ι → List ℤ)}
    (h : decodeTargetSelection true (2 ^ n) actions n = .ok selection) : n ≤ 63 := by
  by_contra hgt
  obtain ⟨m, rfl⟩ : ∃ m, n = m + 1 := ⟨n - 1, by omega⟩
  unfold decodeTargetSelection at h
  rw [if_neg (by decide), if_neg (not_not_intro rfl)] at h
  obtain ⟨bits, hbits, -⟩ := bind_eq_ok.mp h
  rw [List.range_succ_eq_map, List.mapM_cons] at hbits
  obtain ⟨first, hfirst, -⟩ := bind_eq_ok.mp hbits
  obtain ⟨quotient, hquotient, -⟩ := bind_eq_ok.mp hfirst
  have hle : (2 : ℤ) ^ 63 ≤ 2 ^ (m + 1 - 1 - 0) := pow_le_pow_right₀ (by decide) (by omega)
  rw [torchFloorDivide, if_pos hle] at hquotient
  cases hquotient

/-- A batch of subsets means the same everywhere. -/
def SameSubsets (n : ℕ) : Prop :=
  ∃ mapper matrix,
    MultiDiscrete2DiscreteActionMapper.init (HierarchicalCamera.selectionSpace n) = .ok mapper ∧
    subsetActionMatrix (2 ^ n) n = .ok matrix ∧
    ∀ batch : List ℤ, (∀ a ∈ batch, 0 ≤ a ∧ a < 2 ^ n) → ∃ decoded selection,
      mapper.multiDiscreteActionBatched batch true = .ok decoded ∧
      decodeTargetSelection true (2 ^ n) batch.get n = .ok (some selection) ∧
      decoded.shape = [batch.length, n] ∧ decoded.rows = List.ofFn selection ∧
      ∀ i, matrix[(batch.get i).toNat]? = some (selection i)

theorem sameSubsets_of_lt {n : ℕ} (hpos : 0 < n) (hlt : n < 63) : SameSubsets n := by
  have hspace := selectionSpace_numbered hpos hlt
  have hprod : (HierarchicalCamera.selectionSpace n).nvec.data.prod = 2 ^ n := by
    show (List.replicate n (2 : ℤ)).prod = _
    rw [List.prod_replicate]
  obtain ⟨mapper, hinit, hexact⟩ := MultiDiscrete2DiscreteActionMapper.exists_exact hspace
  obtain ⟨matrix, hmatrix, hrows⟩ := subsetActionMatrix_eq hlt
  refine ⟨mapper, matrix, hinit, hmatrix, fun batch hbatch => ?_⟩
  have hcontains : mapper.space.ContainsBatch batch.length batch := by
    refine ⟨rfl, fun a ha => (hexact.contains_iff a).mpr ?_⟩
    rw [hprod]
    exact hbatch a ha
  obtain ⟨decoded, hdecode, hactions, hdigits⟩ :=
    hexact.multiDiscreteActionBatched hspace hcontains true
  refine ⟨decoded, _, hdecode, decodeTargetSelection_eq hpos hlt.le batch.get, hactions.shape_eq, ?_,
    fun i => ?_⟩
  · have hbits : ∀ a ∈ batch,
        digits (weights (HierarchicalCamera.selectionSpace n).nvec.data) a = targetBits n a :=
      fun a ha => digits_replicate (by decide) (hbatch a ha).1 (hbatch a ha).2
    have hget : List.ofFn (fun i => targetBits n (batch.get i)) = batch.map (targetBits n) := by
      rw [List.ofFn_comp' batch.get (targetBits n), List.ofFn_get]
    rw [hdigits, List.map_congr_left hbits, hget]
  · obtain ⟨hnonneg, hbound⟩ := hbatch _ (List.get_mem batch i)
    exact hrows _ hnonneg hbound

theorem lt_of_sameSubsets {n : ℕ} (h : SameSubsets n) : 0 < n ∧ n < 63 := by
  obtain ⟨mapper, matrix, hinit, -, hall⟩ := h
  -- the empty subset
  have hzero : ∀ a ∈ [(0 : ℤ)], 0 ≤ a ∧ a < 2 ^ n := by
    intro a ha
    rw [List.mem_singleton.mp ha]
    exact ⟨le_refl 0, by positivity⟩
  obtain ⟨decoded, selection, hdecode, -⟩ := hall [0] hzero
  exact lt_of_decoded hinit hdecode

/-- **Discrete actions mean the same** to the wrapper and to the learners, for as many targets as
there are bits, or the learner does not decode them at all. -/
theorem sameSubsets_iff :
    (∀ n : ℕ, SameSubsets n ↔ 0 < n ∧ n < 63) ∧
    ∀ {ι : Type} (useActionSelection : Bool) (nActions : ℤ) (actions : ι → ℤ) (n : ℕ),
      (useActionSelection = true ∧ nActions = 2 ^ n) ∨
        decodeTargetSelection useActionSelection nActions actions n = .ok none := by
  refine ⟨fun n => ⟨lt_of_sameSubsets, fun h => sameSubsets_of_lt h.1 h.2⟩, ?_⟩
  intro ι useActionSelection nActions actions n
  by_cases hn : nActions = 2 ^ n
  · cases useActionSelection with
    | false => exact Or.inr rfl
    | true => exact Or.inl ⟨rfl, hn⟩
  · refine Or.inr ?_
    unfold decodeTargetSelection
    split <;> rfl

/-- `np.prod` of 63 twos is negative. -/
theorem not_sameSubsets_63 : ¬ SameSubsets 63 :=
  fun h => absurd (lt_of_sameSubsets h).2 (lt_irrefl 63)

end Mate.Rllib
