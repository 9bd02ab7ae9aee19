import Mate.Codec
import Mate.Rllib.ActionMapper
import Mathlib.Data.Int.Interval

set_option autoImplicit false

/-! # Discrete actions are codes

Below `2 ^ 63` NumPy computes with the numbers themselves, and then the strides are the weights of
mixed-radix numerals (`strides_eq`). From there on it wraps around, and no discrete space is large
enough for all multi-discrete actions.
-/

namespace Mate.Rllib

open Fallible NdArrays MixedRadix

/-! ## Small numbers -/

theorem int64_of_mem {x : ℤ} (hnonneg : 0 ≤ x) (hlt : x < 2 ^ 63) : int64 x = x := by
  refine Int.bmod_eq_of_le ?_ ?_
  · omega
  · omega

theorem int64_lt (x : ℤ) : int64 x < 2 ^ 63 := by
  have := Int.bmod_lt (x := x) (m := 2 ^ 64) (by decide)
  unfold int64
  omega

theorem npFloorDivide_of_pos {a s : ℤ} (hs : 0 < s) (hnonneg : 0 ≤ a) (hlt : a < 2 ^ 63) :
    npFloorDivide a s = a / s := by
  have hdiv : a / s ≤ a := Int.ediv_le_self s hnonneg
  rw [npFloorDivide, if_neg hs.ne', Int.fdiv_eq_ediv_of_nonneg a hs.le,
    int64_of_mem (Int.ediv_nonneg hnonneg hs.le) (by omega)]

theorem npRemainder_of_pos {a s : ℤ} (hs : 0 < s) : npRemainder a s = a % s := by
  rw [npRemainder, if_neg hs.ne', Int.fmod_eq_emod_of_nonneg a hs.le]

/-! ## Strides -/

/-- The weights are the products of what is behind the places. -/
theorem weights_cons (n : ℤ) (nvec : List ℤ) :
    weights (n :: nvec) = nvec.tails.map List.prod := by
  induction nvec generalizing n with
  | nil => rfl
  | cons n' nvec ih =>
      rw [weights, ih, List.tails_cons, List.map_cons]

theorem npProd_reverse (l : List ℤ) : npProd l.reverse = npProd l := by
  rw [npProd, List.prod_reverse, npProd]

theorem dropLast_cons_tails (first nvec : List ℤ) :
    (first :: nvec.tails.map List.reverse).dropLast
      = first :: (nvec.tails.map List.reverse).dropLast :=
  List.dropLast_cons_of_ne_nil (by cases nvec <;> simp)

/-- All products of suffixes but the last one, which is one. -/
theorem map_npProd_tails (nvec : List ℤ) :
    (nvec.tails.map List.reverse).dropLast.map npProd ++ [1]
      = (nvec.tails.map List.prod).map int64 := by
  induction nvec with
  | nil => rfl
  | cons n nvec ih =>
      rw [List.tails_cons, List.map_cons, dropLast_cons_tails, List.map_cons, npProd_reverse,
        List.cons_append, ih, List.map_cons, List.map_cons]
      rfl

/-- The reversed cumulative product, without its first entry and with a one. -/
theorem strides_eq_map {nvec : List ℤ} (h : nvec ≠ []) :
    (npCumprod nvec.reverse).reverse.tail ++ [1] = (weights nvec).map int64 := by
  obtain ⟨n, nvec, rfl⟩ := List.exists_cons_of_ne_nil h
  rw [npCumprod, List.inits_reverse, ← List.map_reverse, List.tail_reverse, List.reverse_reverse,
    List.tails_cons, List.map_cons, dropLast_cons_tails, List.map_cons, List.tail_cons,
    map_npProd_tails, weights_cons]

/-- The weights of positive radices are positive, and at most the product. -/
theorem mem_weights {nvec : List ℤ} (h : ∀ n ∈ nvec, (0 : ℤ) < n) :
    ∀ w ∈ weights nvec, 0 < w ∧ w ≤ nvec.prod := by
  induction nvec with
  | nil => exact fun w hw => absurd hw List.not_mem_nil
  | cons n nvec ih =>
      obtain ⟨hn, hrest⟩ := List.forall_mem_cons.mp h
      have hpos := prod_pos hrest
      have hle : nvec.prod ≤ (n :: nvec).prod := by
        rw [List.prod_cons]
        exact le_mul_of_one_le_left hpos.le hn
      refine List.forall_mem_cons.mpr ⟨⟨hpos, hle⟩, fun w hw => ?_⟩
      exact ⟨(ih hrest w hw).1, (ih hrest w hw).2.trans hle⟩

/-- Divided by positive strides, a small number has the digits of the numeral. -/
theorem divideBy_eq {ws : List ℤ} (hpos : ∀ w ∈ ws, (0 : ℤ) < w) {a : ℤ} (hnonneg : 0 ≤ a)
    (hlt : a < 2 ^ 63) :
    MultiDiscrete2DiscreteActionMapper.divideBy ws a = digits ws a := by
  induction ws generalizing a with
  | nil => rfl
  | cons w ws ih =>
      obtain ⟨hw, hrest⟩ := List.forall_mem_cons.mp hpos
      have hmod := Int.emod_nonneg a hw.ne'
      have hle : a % w ≤ a := by
        have hdiv := Int.mul_ediv_add_emod a w
        have hmul := mul_nonneg hw.le (Int.ediv_nonneg hnonneg hw.le)
        linarith
      rw [MultiDiscrete2DiscreteActionMapper.divideBy, npFloorDivide_of_pos hw hnonneg hlt,
        npRemainder_of_pos hw, ih hrest hmod (by omega)]
      rfl

/-! ## The mapper below `2 ^ 63` -/

/-- The actions of the space can be numbered. -/
structure Numbered (space : MultiDiscrete) : Prop where
  ne_nil : space.nvec.data ≠ []
  lt : space.nvec.data.prod < 2 ^ 63

namespace MultiDiscrete2DiscreteActionMapper

variable {space : MultiDiscrete} {mapper : MultiDiscrete2DiscreteActionMapper}

/-- What the constructor sets. -/
theorem init_eq_ok (h : init space = .ok mapper) :
    mapper.originalSpace = space ∧ mapper.space.n = npProd space.nvec.data ∧
      mapper.strides = (npCumprod space.nvec.data.reverse).reverse.tail ++ [1] := by
  unfold init at h
  dsimp only at h
  split at h
  · cases h
    exact ⟨rfl, rfl, rfl⟩
  · cases h

/-- A mapper without overflows. -/
structure Exact (space : MultiDiscrete) (mapper : MultiDiscrete2DiscreteActionMapper) : Prop where
  originalSpace : mapper.originalSpace = space
  n_eq : mapper.space.n = space.nvec.data.prod
  strides_eq : mapper.strides = weights space.nvec.data

theorem exists_exact (h : Numbered space) : ∃ mapper, init space = .ok mapper ∧ Exact space mapper := by
  have hpos := prod_pos space.pos
  have hprod : npProd space.nvec.data = space.nvec.data.prod := int64_of_mem hpos.le h.lt
  have hnonneg : 0 ≤ npProd space.nvec.data := hprod.symm ▸ hpos.le
  refine ⟨_, dif_pos hnonneg, rfl, hprod, ?_⟩
  show (npCumprod space.nvec.data.reverse).reverse.tail ++ [1] = weights space.nvec.data
  rw [strides_eq_map h.ne_nil]
  refine (List.map_congr_left (fun w hw => ?_)).trans (List.map_id _)
  obtain ⟨hw, hle⟩ := mem_weights space.pos w hw
  exact int64_of_mem hw.le (lt_of_le_of_lt hle h.lt)

/-- Without overflows a discrete action is a number below the product. -/
theorem Exact.contains_iff (h : Exact space mapper) (a : ℤ) :
    mapper.space.contains a = true ↔ 0 ≤ a ∧ a < space.nvec.data.prod := by
  rw [Discrete.contains, decide_eq_true_iff, h.n_eq]

theorem Exact.length_strides (h : Exact space mapper) :
    mapper.strides.length = space.nvec.shape.prod := by
  rw [h.strides_eq, length_weights, space.nvec.length_data]

theorem length_of_valid {row : List ℤ} (h : Valid space.nvec.data row) :
    row.length = space.nvec.shape.prod := by
  rw [← space.nvec.length_data]
  exact h.length_eq.symm

end MultiDiscrete2DiscreteActionMapper

/-- A batch of so many actions of the space. -/
structure MultiDiscrete.ContainsBatch (space : MultiDiscrete) (batchSize : ℕ) (batch : NdArray ℤ) :
    Prop where
  shape_eq : batch.shape = batchSize :: space.nvec.shape
  valid : ∀ row ∈ batch.rows, Valid space.nvec.data row

/-- A batch of so many numbers of the space. -/
structure Discrete.ContainsBatch (space : Discrete) (batchSize : ℕ) (batch : List ℤ) : Prop where
  length_eq : batch.length = batchSize
  contains : ∀ a ∈ batch, space.contains a = true

namespace MultiDiscrete2DiscreteActionMapper

variable {space : MultiDiscrete} {mapper : MultiDiscrete2DiscreteActionMapper} {batchSize : ℕ}

/-- **Decoding** gives the digits of the numbers. -/
theorem Exact.multiDiscreteActionBatched (h : Exact space mapper) (hspace : Numbered space)
    {batch : List ℤ} (hbatch : mapper.space.ContainsBatch batchSize batch) (strict : Bool) :
    ∃ actions, mapper.multiDiscreteActionBatched batch strict = .ok actions ∧
      space.ContainsBatch batchSize actions ∧
      actions.rows = batch.map (digits (weights space.nvec.data)) := by
  have hrange : ∀ a ∈ batch, 0 ≤ a ∧ a < space.nvec.data.prod :=
    fun a ha => (h.contains_iff a).mp (hbatch.contains a ha)
  have hrows : batch.map (divideBy mapper.strides) = batch.map (digits (weights space.nvec.data)) := by
    refine List.map_congr_left (fun a ha => ?_)
    obtain ⟨hnonneg, hlt⟩ := hrange a ha
    rw [h.strides_eq]
    exact divideBy_eq (fun w hw => (mem_weights space.pos w hw).1) hnonneg (hlt.trans hspace.lt)
  have hpos : 0 < space.nvec.shape.prod := by
    rw [← space.nvec.length_data]
    exact List.length_pos_of_ne_nil hspace.ne_nil
  have hlength : ∀ row ∈ batch.map (divideBy mapper.strides), row.length = mapper.strides.length := by
    intro row hrow
    obtain ⟨a, -, rfl⟩ := List.mem_map.mp hrow
    exact length_divideBy mapper.strides a
  -- the digits of a number are one row, as long as there are components
  have hreshape := NdArray.reshapeFront_stack h.length_strides hpos hlength
  have hstrict : ¬ (strict && batch.any (fun a => !mapper.space.contains a)) = true := by
    intro htrue
    obtain ⟨a, ha, hnot⟩ := List.any_eq_true.mp (Bool.and_eq_true_iff.mp htrue).2
    rw [hbatch.contains a ha] at hnot
    cases hnot
  refine ⟨NdArray.ofRows space.nvec.shape (batch.map (divideBy mapper.strides))
    (fun row hrow => (hlength row hrow).trans h.length_strides), ?_, ⟨?_, ?_⟩,
    (NdArray.rows_ofRows _).trans hrows⟩
  · unfold MultiDiscrete2DiscreteActionMapper.multiDiscreteActionBatched
    rw [if_neg hstrict, h.originalSpace, stacked, hreshape]
    rfl
  · show (batch.map (divideBy mapper.strides)).length :: space.nvec.shape = _
    rw [List.length_map, hbatch.length_eq]
  · rw [NdArray.rows_ofRows, hrows]
    intro row hrow
    obtain ⟨a, ha, rfl⟩ := List.mem_map.mp hrow
    exact valid_digits space.pos (hrange a ha).1 (hrange a ha).2

/-- **Encoding** gives the values of the actions. -/
theorem Exact.discreteActionBatched (h : Exact space mapper) (hspace : Numbered space)
    (hbatch : 0 < batchSize) {actions : NdArray ℤ} (hactions : space.ContainsBatch batchSize actions)
    (strict : Bool) :
    mapper.discreteActionBatched actions strict
        = .ok (actions.rows.map (value (weights space.nvec.data))) ∧
      mapper.space.ContainsBatch batchSize (actions.rows.map (value (weights space.nvec.data))) := by
  have hcontains : ∀ row ∈ actions.rows, mapper.originalSpace.contains row = true := by
    intro row hrow
    rw [h.originalSpace, MultiDiscrete.contains, decide_eq_true_iff]
    exact hactions.valid row hrow
  have hstrict : ¬ (strict && actions.rows.any (fun x => !mapper.originalSpace.contains x)) = true := by
    intro htrue
    obtain ⟨row, hrow, hnot⟩ := List.any_eq_true.mp (Bool.and_eq_true_iff.mp htrue).2
    rw [hcontains row hrow] at hnot
    cases hnot
  obtain ⟨flat, hflat, hrows⟩ := NdArray.rows_reshapeBack hactions.shape_eq hbatch
  -- the value of a valid row fits into 64 bits
  have hdot : actions.rows.map mapper.dotStrides
      = actions.rows.map (value (weights space.nvec.data)) := by
    refine List.map_congr_left (fun row hrow => ?_)
    obtain ⟨hnonneg, hlt⟩ := value_mem (hactions.valid row hrow)
    rw [dotStrides, h.strides_eq, int64_of_mem hnonneg (hlt.trans hspace.lt)]
  constructor
  · unfold MultiDiscrete2DiscreteActionMapper.discreteActionBatched
    rw [hactions.shape_eq]
    dsimp only
    rw [if_neg (fun hne => hne (h.originalSpace ▸ rfl)), if_neg hstrict, hflat, ← hdot, ← hrows]
    rfl
  · refine ⟨?_, fun a ha => ?_⟩
    · rw [List.length_map, NdArray.length_rows hactions.shape_eq]
    · obtain ⟨row, hrow, rfl⟩ := List.mem_map.mp ha
      exact (h.contains_iff _).mpr (value_mem (hactions.valid row hrow))

/-- Both ways round. -/
theorem Exact.inverse (h : Exact space mapper) (hspace : Numbered space) (hbatch : 0 < batchSize)
    (strict : Bool) :
    (∀ batch, mapper.space.ContainsBatch batchSize batch → ∃ actions,
      mapper.multiDiscreteActionBatched batch strict = .ok actions ∧
        space.ContainsBatch batchSize actions ∧
        mapper.discreteActionBatched actions strict = .ok batch) ∧
    ∀ actions, space.ContainsBatch batchSize actions → ∃ batch,
      mapper.discreteActionBatched actions strict = .ok batch ∧
        mapper.space.ContainsBatch batchSize batch ∧
        mapper.multiDiscreteActionBatched batch strict = .ok actions := by
  constructor
  · intro batch hcontains
    obtain ⟨actions, hdecode, hactions, hrows⟩ :=
      h.multiDiscreteActionBatched hspace hcontains strict
    refine ⟨actions, hdecode, hactions, ?_⟩
    rw [(h.discreteActionBatched hspace hbatch hactions strict).1, hrows, List.map_map]
    refine congrArg Except.ok ((List.map_congr_left (fun a ha => ?_)).trans (List.map_id _))
    obtain ⟨hnonneg, hlt⟩ := (h.contains_iff a).mp (hcontains.contains a ha)
    exact value_digits space.pos hnonneg hlt
  · intro actions hactions
    obtain ⟨hencode, hcontains⟩ := h.discreteActionBatched hspace hbatch hactions strict
    obtain ⟨actions', hdecode, hactions', hrows⟩ :=
      h.multiDiscreteActionBatched hspace hcontains strict
    refine ⟨_, hencode, hcontains, hdecode.trans (congrArg Except.ok ?_)⟩
    -- arrays of the same shape with the same rows
    have hsame : actions'.rows = actions.rows := by
      rw [hrows, List.map_map]
      refine (List.map_congr_left (fun row hrow => ?_)).trans (List.map_id _)
      exact digits_value (hactions.valid row hrow)
    rw [NdArray.eq_ofRows hactions'.shape_eq, NdArray.eq_ofRows hactions.shape_eq]
    congr 1

/-! ### Masks -/

omit mapper batchSize in
theorem sum_take_le (space : MultiDiscrete) (i : ℕ) :
    0 ≤ (space.nvec.data.take i).sum ∧ (space.nvec.data.take i).sum ≤ space.nvec.data.sum := by
  have hnonneg : ∀ l : List ℤ, (∀ x ∈ l, (0 : ℤ) < x) → 0 ≤ l.sum :=
    fun l hl => List.sum_nonneg (fun x hx => (hl x hx).le)
  have htake := hnonneg (space.nvec.data.take i) (fun x hx => space.pos x (List.mem_of_mem_take hx))
  have hdrop := hnonneg (space.nvec.data.drop i) (fun x hx => space.pos x (List.mem_of_mem_drop hx))
  have hsum := List.sum_take_add_sum_drop space.nvec.data i
  exact ⟨htake, by omega⟩

theorem Exact.getElem?_offsets (h : Exact space mapper) {i : ℕ} (hi : i < space.nvec.data.length) :
    mapper.offsets[i]? = some (space.nvec.data.take i).sum := by
  have hlt : i < space.nvec.data.dropLast.inits.length := by
    rw [List.length_inits, List.length_dropLast]
    omega
  rw [offsets, h.originalSpace, List.inits_cons, List.tail_cons, List.map_map, List.getElem?_map,
    List.getElem?_eq_getElem hlt, Option.map_some, List.getElem_inits, Function.comp_apply,
    List.sum_cons, zero_add, List.dropLast_eq_take, List.take_take, Nat.min_eq_left (by omega)]

/-- `m` allows this digit of place `i`: the entries of the places are one behind the other. -/
def AllowsDigit (space : MultiDiscrete) (mask : List Bool) (i : ℕ) (digit : ℤ) : Prop :=
  mask[((space.nvec.data.take i).sum + digit).toNat]? = some true

theorem Exact.maskSize_eq (h : Exact space mapper) :
    (mapper.maskSize : ℤ) = space.nvec.data.sum := by
  have hnonneg := (sum_take_le space 0).1.trans (sum_take_le space 0).2
  rw [maskSize, h.originalSpace, Int.toNat_of_nonneg hnonneg]

/-- The index of a digit is within the mask. -/
theorem index_mem {row : List ℤ} (hrow : Valid space.nvec.data row) {i : ℕ} {digit : ℤ}
    (hdigit : row[i]? = some digit) :
    i < space.nvec.data.length ∧ 0 ≤ (space.nvec.data.take i).sum + digit ∧
      (space.nvec.data.take i).sum + digit < space.nvec.data.sum := by
  have hi : i < space.nvec.data.length := by
    rw [hrow.length_eq]
    exact (List.getElem?_eq_some_iff.mp hdigit).1
  obtain ⟨hi', hget⟩ := List.getElem?_eq_some_iff.mp hdigit
  have hplace := hrow.get hi hi'
  rw [List.get_eq_getElem, List.get_eq_getElem, hget] at hplace
  have hsucc : (space.nvec.data.take (i + 1)).sum
      = (space.nvec.data.take i).sum + space.nvec.data[i] := by
    rw [List.take_succ_eq_append_getElem hi, List.sum_append, List.sum_singleton]
  have hle := (sum_take_le space (i + 1)).2
  have hnonneg := (sum_take_le space i).1
  refine ⟨hi, by omega, ?_⟩
  have hlt : digit < space.nvec.data[i] := hplace.2
  omega

/-- The indices of a row of the table. -/
theorem Exact.mem_indices (h : Exact space mapper) {row : List ℤ} (hrow : Valid space.nvec.data row)
    (index : ℤ) :
    index ∈ List.zipWith (· + ·) row mapper.offsets
      ↔ ∃ i digit, row[i]? = some digit ∧ index = (space.nvec.data.take i).sum + digit := by
  rw [List.mem_iff_getElem?]
  refine exists_congr (fun i => ?_)
  rw [List.getElem?_zipWith]
  constructor
  · intro hindex
    cases hdigit : row[i]? with
    | none =>
        rw [hdigit] at hindex
        cases hindex
    | some digit =>
        rw [hdigit, h.getElem?_offsets (index_mem hrow hdigit).1] at hindex
        refine ⟨digit, rfl, ?_⟩
        rw [← Option.some.inj hindex, Int.add_comm]
  · rintro ⟨digit, hdigit, rfl⟩
    rw [hdigit, h.getElem?_offsets (index_mem hrow hdigit).1]
    exact congrArg some (Int.add_comm _ _)

omit space mapper batchSize in
/-- A row is marked at its indices. -/
theorem markRow_eq_ok {size : ℕ} {indices : List ℤ}
    (h : ∀ index ∈ indices, 0 ≤ index ∧ index < (size : ℤ)) :
    markRow size indices = .ok ((List.range size).map (fun k : ℕ => decide ((k : ℤ) ∈ indices))) := by
  unfold markRow
  rw [if_pos (fun index hindex => ⟨by have := h index hindex; omega, (h index hindex).2⟩)]
  refine congrArg Except.ok (List.map_congr_left (fun k hk => decide_eq_decide.mpr ?_))
  rw [List.mem_range] at hk
  constructor
  · rintro ⟨index, hindex, heq⟩
    have hrange := h index hindex
    have hsame : index = (k : ℤ) := by omega
    exact hsame ▸ hindex
  · exact fun hmem => ⟨k, hmem, Or.inl rfl⟩

omit space mapper batchSize in
/-- A mask is at least as large as a row when it allows all that is marked. -/
theorem all_marked_iff {indices : List ℤ} {mask : List Bool}
    (h : ∀ index ∈ indices, 0 ≤ index ∧ index < (mask.length : ℤ)) :
    (List.zipWith (fun allowed marked => !marked || allowed) mask
        ((List.range mask.length).map (fun k : ℕ => decide ((k : ℤ) ∈ indices)))).all id = true
      ↔ ∀ index ∈ indices, mask[index.toNat]? = some true := by
  -- one entry of the comparison
  have hget : ∀ (k : ℕ) allowed, mask[k]? = some allowed →
      (List.zipWith (fun allowed marked => !marked || allowed) mask
        ((List.range mask.length).map (fun k : ℕ => decide ((k : ℤ) ∈ indices))))[k]?
        = some (!decide ((k : ℤ) ∈ indices) || allowed) := by
    intro k allowed hk
    have hlt := (List.getElem?_eq_some_iff.mp hk).1
    rw [List.getElem?_zipWith, hk, List.getElem?_map, List.getElem?_range hlt]
    rfl
  rw [List.all_eq_true]
  constructor
  · intro hall index hindex
    obtain ⟨hnonneg, hlt⟩ := h index hindex
    have hk : index.toNat < mask.length := by omega
    have hmem := hall _ (List.mem_of_getElem? (hget _ _ (List.getElem?_eq_getElem hk)))
    have hcast : ((index.toNat : ℕ) : ℤ) = index := Int.toNat_of_nonneg hnonneg
    rw [id, hcast, decide_eq_true hindex, Bool.not_true, Bool.false_or] at hmem
    rw [List.getElem?_eq_getElem hk, hmem]
  · intro hall b hb
    obtain ⟨k, hk⟩ := List.mem_iff_getElem?.mp hb
    have hlt : k < mask.length := by
      have := (List.getElem?_eq_some_iff.mp hk).1
      rw [List.length_zipWith] at this
      omega
    rw [hget k _ (List.getElem?_eq_getElem hlt)] at hk
    obtain rfl := Option.some.inj hk
    by_cases hmem : (k : ℤ) ∈ indices
    · have hallowed := hall _ hmem
      rw [Int.toNat_natCast, List.getElem?_eq_getElem hlt] at hallowed
      rw [id, Option.some.inj hallowed, Bool.or_true]
    · rw [id, decide_eq_false hmem, Bool.not_false, Bool.true_or]

/-- **The mask law**: a number is allowed when all of its digits are. -/
theorem Exact.discreteActionMask (h : Exact space mapper) (hspace : Numbered space)
    {mask : List Bool} (hmask : mask.length = mapper.maskSize) :
    ∃ allowed, mapper.discreteActionMask mask = .ok allowed ∧
      (allowed.length : ℤ) = mapper.space.n ∧
      ∀ a, mapper.space.contains a = true → (allowed[a.toNat]? = some true ↔
        ∀ (i : ℕ) digit, (digits (weights space.nvec.data) a)[i]? = some digit →
          AllowsDigit space mask i digit) := by
  have hpos := prod_pos space.pos
  have hn : (mapper.space.n.toNat : ℤ) = space.nvec.data.prod := by
    rw [h.n_eq, Int.toNat_of_nonneg hpos.le]
  have hbatch : mapper.space.ContainsBatch mapper.space.n.toNat
      ((List.range mapper.space.n.toNat).map (fun a : ℕ => (a : ℤ))) := by
    refine ⟨(List.length_map _).trans List.length_range, fun a ha => ?_⟩
    obtain ⟨k, hk, rfl⟩ := List.mem_map.mp ha
    have hlt := List.mem_range.mp hk
    exact (h.contains_iff _).mpr ⟨by omega, by omega⟩
  obtain ⟨actions, hdecode, hactions, hrows⟩ := h.multiDiscreteActionBatched hspace hbatch false
  obtain ⟨flat, hflat, hsame⟩ := NdArray.rows_reshapeBack hactions.shape_eq (by omega)
  -- the table of the mapper has one row for every number, with its digits marked
  have hmark : ∀ row ∈ flat.rows,
      markRow mapper.maskSize (List.zipWith (· + ·) row mapper.offsets)
        = .ok ((List.range mapper.maskSize).map
            (fun k : ℕ => decide ((k : ℤ) ∈ List.zipWith (· + ·) row mapper.offsets))) := by
    intro row hrow
    refine markRow_eq_ok (fun index hindex => ?_)
    have hvalid := hactions.valid row (hsame ▸ hrow)
    obtain ⟨i, digit, hdigit, rfl⟩ := (h.mem_indices hvalid index).mp hindex
    rw [h.maskSize_eq]
    exact (index_mem hvalid hdigit).2
  have htable : mapper.maskTable = .ok (flat.rows.map (fun row =>
      (List.range mapper.maskSize).map
        (fun k : ℕ => decide ((k : ℤ) ∈ List.zipWith (· + ·) row mapper.offsets)))) := by
    refine bind_eq_ok.mpr ⟨actions, hdecode, bind_eq_ok.mpr ⟨flat, ?_, mapM_eq_ok hmark⟩⟩
    rw [hflat]
    rfl
  refine ⟨_, (if_neg (not_not_intro hmask)).trans (bind_eq_ok.mpr ⟨_, htable, rfl⟩), ?_, ?_⟩
  · rw [List.length_map, List.length_map, hsame, hrows, List.length_map, List.length_map,
      List.length_range, hn, h.n_eq]
  · intro a ha
    obtain ⟨hnonneg, hlt⟩ := (h.contains_iff a).mp ha
    have hk : a.toNat < mapper.space.n.toNat := by omega
    -- the row of `a`
    have hvalid := valid_digits space.pos hnonneg hlt
    rw [List.getElem?_map, List.getElem?_map, hsame, hrows, List.getElem?_map, List.getElem?_map,
      List.getElem?_range hk, Option.map_some, Option.map_some, Option.map_some, Option.map_some,
      Int.toNat_of_nonneg hnonneg, Option.some.injEq, ← hmask, all_marked_iff]
    · constructor
      · intro hall i digit hdigit
        exact hall _ ((h.mem_indices hvalid _).mpr ⟨i, digit, hdigit, rfl⟩)
      · intro hall index hindex
        obtain ⟨i, digit, hdigit, rfl⟩ := (h.mem_indices hvalid index).mp hindex
        exact hall i digit hdigit
    · intro index hindex
      obtain ⟨i, digit, hdigit, rfl⟩ := (h.mem_indices hvalid index).mp hindex
      rw [hmask, h.maskSize_eq]
      exact (index_mem hvalid hdigit).2

end MultiDiscrete2DiscreteActionMapper

/-! ## The claims of a codec -/

/-- Batches of so many actions are encoded and decoded both ways round. -/
def Inverse (space : MultiDiscrete) (batchSize : ℕ) : Prop :=
  ∃ mapper, MultiDiscrete2DiscreteActionMapper.init space = .ok mapper ∧ ∀ strict,
    (∀ batch, mapper.space.ContainsBatch batchSize batch → ∃ actions,
      mapper.multiDiscreteActionBatched batch strict = .ok actions ∧
        space.ContainsBatch batchSize actions ∧
        mapper.discreteActionBatched actions strict = .ok batch) ∧
    ∀ actions, space.ContainsBatch batchSize actions → ∃ batch,
      mapper.discreteActionBatched actions strict = .ok batch ∧
        mapper.space.ContainsBatch batchSize batch ∧
        mapper.multiDiscreteActionBatched batch strict = .ok actions

/-- A discrete action is allowed by the discrete mask when every digit of its decoding is. -/
def MasksDigits (space : MultiDiscrete) : Prop :=
  ∃ mapper, MultiDiscrete2DiscreteActionMapper.init space = .ok mapper ∧
    ∀ mask : List Bool, mask.length = mapper.maskSize → ∃ allowed,
      mapper.discreteActionMask mask = .ok allowed ∧ (allowed.length : ℤ) = mapper.space.n ∧
      ∀ a, mapper.space.contains a = true → ∃ action,
        mapper.multiDiscreteActionBatched [a] true = .ok action ∧
        (allowed[a.toNat]? = some true ↔ ∀ (i : ℕ) digit, action.data[i]? = some digit →
          MultiDiscrete2DiscreteActionMapper.AllowsDigit space mask i digit)

namespace MultiDiscrete2DiscreteActionMapper

variable {space : MultiDiscrete} {mapper : MultiDiscrete2DiscreteActionMapper} {batchSize : ℕ}

/-- One number is decoded to its digits. -/
theorem Exact.decode_one (h : Exact space mapper) (hspace : Numbered space) {a : ℤ}
    (ha : mapper.space.contains a = true) (strict : Bool) :
    ∃ action, mapper.multiDiscreteActionBatched [a] strict = .ok action ∧
      action.data = digits (weights space.nvec.data) a := by
  have hbatch : mapper.space.ContainsBatch 1 [a] :=
    ⟨rfl, fun b hb => (List.mem_singleton.mp hb).symm ▸ ha⟩
  obtain ⟨action, hdecode, haction, hrows⟩ := h.multiDiscreteActionBatched hspace hbatch strict
  refine ⟨action, hdecode, ?_⟩
  rw [NdArray.data_eq_flatten haction.shape_eq, hrows, List.map_singleton, List.flatten_singleton]

theorem masksDigits (hspace : Numbered space) : MasksDigits space := by
  obtain ⟨mapper, hinit, hexact⟩ := exists_exact hspace
  refine ⟨mapper, hinit, fun mask hmask => ?_⟩
  obtain ⟨allowed, hallowed, hlength, hiff⟩ := hexact.discreteActionMask hspace hmask
  refine ⟨allowed, hallowed, hlength, fun a ha => ?_⟩
  obtain ⟨action, hdecode, hdata⟩ := hexact.decode_one hspace ha true
  exact ⟨action, hdecode, hdata.symm ▸ hiff a ha⟩

/-! ### What overflows -/

/-- The same action so many times. -/
theorem exists_batch {row : List ℤ} (hrow : Valid space.nvec.data row) (batchSize : ℕ) :
    ∃ actions, space.ContainsBatch batchSize actions ∧
      actions.rows = List.replicate batchSize row := by
  have hlength : ∀ r ∈ List.replicate batchSize row, r.length = space.nvec.shape.prod := by
    intro r hr
    rw [List.eq_of_mem_replicate hr]
    exact length_of_valid hrow
  have hrows := NdArray.rows_ofRows hlength
  refine ⟨NdArray.ofRows space.nvec.shape (List.replicate batchSize row) hlength, ⟨?_, ?_⟩, hrows⟩
  · show (List.replicate batchSize row).length :: _ = _
    rw [List.length_replicate]
  · rw [hrows]
    intro r hr
    rw [List.eq_of_mem_replicate hr]
    exact hrow

omit batchSize in
/-- Whatever is encoded, it is encoded row by row, and there are rows. -/
theorem discreteActionBatched_eq {actions : NdArray ℤ} {n : ℕ} {shape : List ℕ}
    (hshape : actions.shape = n :: shape) {strict : Bool} {batch : List ℤ}
    (h : mapper.discreteActionBatched actions strict = .ok batch) :
    0 < n ∧ batch = actions.rows.map mapper.dotStrides := by
  unfold MultiDiscrete2DiscreteActionMapper.discreteActionBatched at h
  rw [hshape] at h
  dsimp only at h
  split at h
  · cases h
  · split at h
    · cases h
    · obtain ⟨flat, hflat, hbatch⟩ := bind_eq_ok.mp h
      cases hbatch
      have hpos : 0 < n := by
        refine Nat.pos_of_ne_zero (fun hzero => ?_)
        rw [hzero, NdArray.reshapeBack_zero] at hflat
        cases hflat
      obtain ⟨flat', hflat', hrows⟩ := NdArray.rows_reshapeBack hshape hpos
      rw [hflat'] at hflat
      cases hflat
      exact ⟨hpos, congrArg (List.map mapper.dotStrides) hrows⟩

/-- An empty batch is not encoded. -/
theorem pos_of_inverse (h : Inverse space batchSize) : 0 < batchSize := by
  obtain ⟨mapper, -, hall⟩ := h
  have hshape : (⟨batchSize :: space.nvec.shape,
      List.replicate (batchSize * space.nvec.shape.prod) 0, by
        rw [List.length_replicate, List.prod_cons]⟩ : NdArray ℤ).shape
      = batchSize :: space.nvec.shape := rfl
  refine Nat.pos_of_ne_zero (fun hzero => ?_)
  subst hzero
  obtain ⟨batch, hencode, -⟩ := (hall true).2 _ ⟨hshape, fun row hrow => by cases hrow⟩
  exact absurd (discreteActionBatched_eq hshape hencode).1 (lt_irrefl 0)

omit batchSize in
/-- Without places there is nothing to decode to. -/
theorem not_decoded_of_empty (h : mapper.originalSpace.nvec.shape.prod = 0) {batch : List ℤ}
    {strict : Bool} {actions : NdArray ℤ} :
    mapper.multiDiscreteActionBatched batch strict ≠ .ok actions := by
  intro hdecode
  unfold MultiDiscrete2DiscreteActionMapper.multiDiscreteActionBatched at hdecode
  rw [NdArray.reshapeFront_empty _ h] at hdecode
  split at hdecode <;> cases hdecode

theorem ne_nil_of_inverse (h : Inverse space batchSize) : space.nvec.data ≠ [] := by
  intro hnil
  have hempty : space.nvec.shape.prod = 0 := by
    rw [← space.nvec.length_data, hnil, List.length_nil]
  obtain ⟨mapper, hinit, hall⟩ := h
  obtain ⟨horiginal, hn, -⟩ := init_eq_ok hinit
  have hone : mapper.space.n = 1 := by
    rw [hn, hnil]
    rfl
  have hbatch : mapper.space.ContainsBatch batchSize (List.replicate batchSize 0) := by
    refine ⟨List.length_replicate, fun a ha => ?_⟩
    rw [List.eq_of_mem_replicate ha, Discrete.contains, hone]
    rfl
  obtain ⟨actions, hdecode, -⟩ := (hall false).1 _ hbatch
  exact not_decoded_of_empty (by rw [horiginal, hempty]) hdecode

/-- Actions have numbers of their own. -/
theorem dotStrides_of_inverse
    (hinverse : ∀ actions, space.ContainsBatch batchSize actions → ∃ batch,
      mapper.discreteActionBatched actions true = .ok batch ∧
        mapper.space.ContainsBatch batchSize batch ∧
        mapper.multiDiscreteActionBatched batch true = .ok actions) (hbatch : 0 < batchSize)
    {row row' : List ℤ} (hrow : Valid space.nvec.data row) (hrow' : Valid space.nvec.data row') :
    mapper.space.contains (mapper.dotStrides row) = true ∧
      (mapper.dotStrides row = mapper.dotStrides row' → row = row') := by
  have hencoded : ∀ row, Valid space.nvec.data row → ∃ actions,
      actions.rows = List.replicate batchSize row ∧
      mapper.space.contains (mapper.dotStrides row) = true ∧
      mapper.multiDiscreteActionBatched (List.replicate batchSize (mapper.dotStrides row)) true
        = .ok actions := by
    intro row hrow
    obtain ⟨actions, hactions, hrows⟩ := exists_batch hrow batchSize
    obtain ⟨batch, hencode, hcontains, hdecode⟩ := hinverse actions hactions
    have hsame := (discreteActionBatched_eq hactions.shape_eq hencode).2
    rw [hrows, List.map_replicate] at hsame
    subst hsame
    refine ⟨actions, hrows, hcontains.contains _ ?_, hdecode⟩
    exact List.mem_replicate.mpr ⟨hbatch.ne', rfl⟩
  obtain ⟨actions, hrows, hcontains, hdecode⟩ := hencoded row hrow
  obtain ⟨actions', hrows', -, hdecode'⟩ := hencoded row' hrow'
  refine ⟨hcontains, fun hsame => ?_⟩
  rw [hsame, hdecode'] at hdecode
  obtain rfl := Except.ok.inj hdecode
  exact List.replicate_right_injective hbatch.ne' (hrows.symm.trans hrows')

/-- **There are not more actions than small numbers.** -/
theorem lt_of_inverse (h : Inverse space batchSize) : space.nvec.data.prod < 2 ^ 63 := by
  have hbatch := pos_of_inverse h
  obtain ⟨mapper, hinit, hall⟩ := h
  have hlt : mapper.space.n < 2 ^ 63 := by
    rw [(init_eq_ok hinit).2.1]
    exact int64_lt _
  by_contra hge
  -- more numerals than numbers
  have hvalid : ∀ a ∈ Finset.Ico 0 (mapper.space.n + 1),
      Valid space.nvec.data (digits (weights space.nvec.data) a) := by
    intro a ha
    rw [Finset.mem_Ico] at ha
    exact valid_digits space.pos ha.1 (by omega)
  have hmaps : ∀ a ∈ Finset.Ico 0 (mapper.space.n + 1),
      mapper.dotStrides (digits (weights space.nvec.data) a) ∈ Finset.Ico 0 mapper.space.n := by
    intro a ha
    have hcontains := (dotStrides_of_inverse (hall true).2 hbatch (hvalid a ha)
      (hvalid a ha)).1
    rw [Discrete.contains, decide_eq_true_iff] at hcontains
    exact Finset.mem_Ico.mpr hcontains
  have hcard : (Finset.Ico 0 mapper.space.n).card < (Finset.Ico 0 (mapper.space.n + 1)).card := by
    have hnonneg := mapper.space.nonneg
    rw [Int.card_Ico, Int.card_Ico]
    omega
  obtain ⟨a, ha, a', ha', hne, hsame⟩ :=
    Finset.exists_ne_map_eq_of_card_lt_of_maps_to hcard hmaps
  have hdigits := (dotStrides_of_inverse (hall true).2 hbatch (hvalid a ha)
    (hvalid a' ha')).2 hsame
  rw [Finset.mem_Ico] at ha ha'
  refine hne ?_
  rw [← value_digits space.pos ha.1 (by omega), hdigits, value_digits space.pos ha'.1 (by omega)]

end MultiDiscrete2DiscreteActionMapper

end Mate.Rllib
