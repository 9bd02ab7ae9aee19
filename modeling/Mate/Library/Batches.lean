import Mathlib.Algebra.BigOperators.Group.List.Basic
import Mathlib.Algebra.BigOperators.Ring.List
import Mathlib.Algebra.Field.Basic
import Mathlib.Algebra.Order.BigOperators.Group.List
import Mathlib.Algebra.Order.Field.Basic
import Mathlib.Data.List.Induction
import Mathlib.Data.Nat.Cast.Basic
import Mathlib.Tactic.FieldSimp
import Mathlib.Tactic.Linarith
import Mathlib.Tactic.Ring

set_option autoImplicit false

/-! # Lists in batches

A list cut into batches of `k` entries, of which the last one may have less, may be reduced batch
by batch. Sums and last entries compose; the mean of the means of the batches is the mean of the
list only if a shorter batch at the end does not change it (`mean_map_mean_iff`). The squared
deviations from the mean of two batches compose, up to the distance of their means
(`deviation_append`).
-/

namespace Batches

variable {α : Type}

/-! ## Cutting -/

/-- Batches of `k` entries; the last one has at least one, and may have less. -/
inductive Cut (k : ℕ) : List (List α) → Prop
  | nil : Cut k []
  | last {b : List α} (hpos : 0 < b.length) (hle : b.length ≤ k) : Cut k [b]
  | cons {b : List α} {bs : List (List α)} (hb : b.length = k) (hbs : Cut k bs) : Cut k (b :: bs)

/-- Full batches, and what is left. -/
theorem Cut.split {k : ℕ} {bs : List (List α)} (h : Cut k bs) :
    ∃ full rest, bs = full ++ rest ∧ (∀ b ∈ full, b.length = k) ∧
      (rest = [] ∨ ∃ b, rest = [b] ∧ 0 < b.length ∧ b.length < k) := by
  induction h with
  | nil => exact ⟨[], [], rfl, fun b hb => absurd hb List.not_mem_nil, Or.inl rfl⟩
  | @last b hpos hle =>
      rcases Nat.lt_or_eq_of_le hle with hlt | heq
      · exact ⟨[], [b], rfl, fun b hb => absurd hb List.not_mem_nil, Or.inr ⟨b, rfl, hpos, hlt⟩⟩
      · refine ⟨[b], [], rfl, fun b' hb' => ?_, Or.inl rfl⟩
        rw [List.mem_singleton.mp hb']
        exact heq
  | @cons b bs hb _ ih =>
      obtain ⟨full, rest, rfl, hfull, hrest⟩ := ih
      exact ⟨b :: full, rest, rfl, List.forall_mem_cons.mpr ⟨hb, hfull⟩, hrest⟩

theorem Cut.length_pos {k : ℕ} (hk : 0 < k) {bs : List (List α)} (h : Cut k bs) :
    ∀ b ∈ bs, 0 < b.length := by
  induction h with
  | nil => exact fun b hb => absurd hb List.not_mem_nil
  | last hpos _ => exact fun b' hb' => List.mem_singleton.mp hb' ▸ hpos
  | cons hb _ ih => exact List.forall_mem_cons.mpr ⟨hb ▸ hk, ih⟩

theorem Cut.map {β : Type} (f : α → β) {k : ℕ} {bs : List (List α)} (h : Cut k bs) :
    Cut k (bs.map (List.map f)) := by
  induction h with
  | nil => exact Cut.nil
  | last hpos hle =>
      exact Cut.last (by rwa [List.length_map]) (by rwa [List.length_map])
  | cons hb _ ih => exact Cut.cons (by rwa [List.length_map]) ih

theorem length_flatten_full {k : ℕ} {bs : List (List α)} (h : ∀ b ∈ bs, b.length = k) :
    bs.flatten.length = bs.length * k := by
  induction bs with
  | nil => rw [List.flatten_nil, List.length_nil, List.length_nil, Nat.zero_mul]
  | cons b bs ih =>
      obtain ⟨hb, hbs⟩ := List.forall_mem_cons.mp h
      rw [List.flatten_cons, List.length_append, hb, ih hbs, List.length_cons, Nat.succ_mul]
      omega

/-- The last entry of the last batch is the last entry. -/
theorem getLastD_flatten {bs : List (List α)} (h : ∀ b ∈ bs, 0 < b.length) (d : α) :
    (bs.map (fun b => b.getLastD d)).getLastD d = bs.flatten.getLastD d := by
  induction bs using List.reverseRecOn with
  | nil => rfl
  | append_singleton bs b _ =>
      have hb : b ≠ [] := List.ne_nil_of_length_pos (h b (by simp))
      rw [List.map_append, List.map_singleton, List.getLastD_concat, List.flatten_append,
        List.flatten_singleton, List.getLastD_eq_getLast?, List.getLastD_eq_getLast?,
        List.getLast?_append_of_ne_nil _ hb]

/-! ## Means -/

section

variable {K : Type} [Field K]

/-- The mean of a list; that of an empty one is zero. -/
def mean (l : List K) : K := l.sum / l.length

theorem mean_singleton (x : K) : mean [x] = x := by
  rw [mean, List.sum_singleton, List.length_singleton, Nat.cast_one, div_one]

theorem mean_map_add {ι : Type} (l : List ι) (f g : ι → K) :
    mean (l.map (fun i => f i + g i)) = mean (l.map f) + mean (l.map g) := by
  simp only [mean, List.length_map, List.sum_map_add, add_div]

theorem mean_map_div {ι : Type} (l : List ι) (f : ι → K) (c : K) :
    mean (l.map (fun i => f i / c)) = mean (l.map f) / c := by
  simp only [mean, List.length_map, div_eq_mul_inv, List.sum_map_mul_right, mul_right_comm]

/-- The mean of sums is the sum of the means. -/
theorem mean_map_sum {ι α : Type} (l : List ι) (xs : List α) (f : ι → α → K) :
    mean (l.map (fun i => (xs.map (f i)).sum)) = (xs.map (fun x => mean (l.map (f · x)))).sum := by
  induction xs with
  | nil => simp [mean]
  | cons x xs ih =>
      simp only [List.map_cons, List.sum_cons]
      rw [mean_map_add, ih]

/-- The mean of means is the mean of the means taken the other way. -/
theorem mean_map_mean {ι α : Type} (l : List ι) (xs : List α) (f : ι → α → K) :
    mean (l.map (fun i => mean (xs.map (f i)))) = mean (xs.map (fun x => mean (l.map (f · x)))) := by
  have hinner : ∀ i, mean (xs.map (f i)) = (xs.map (f i)).sum / (xs.length : K) := by
    intro i
    rw [mean, List.length_map]
  simp only [hinner]
  rw [mean_map_div, mean_map_sum, mean, List.length_map]

/-- A batch that is left over has the mean of the entries before it. -/
def Even (k : ℕ) (xs : List K) : Prop :=
  k ∣ xs.length ∨ xs.length ≤ k ∨
    mean (xs.drop (xs.length / k * k)) = mean (xs.take (xs.length / k * k))

theorem sum_map_mean_full {k : ℕ} {bs : List (List K)} (h : ∀ b ∈ bs, b.length = k) :
    (bs.map mean).sum = bs.flatten.sum / k := by
  induction bs with
  | nil => simp
  | cons b bs ih =>
      obtain ⟨hb, hbs⟩ := List.forall_mem_cons.mp h
      rw [List.map_cons, List.sum_cons, ih hbs, List.flatten_cons, List.sum_append, mean, hb, add_div]

theorem mean_map_mean_full {k : ℕ} {bs : List (List K)} (h : ∀ b ∈ bs, b.length = k) :
    mean (bs.map mean) = mean bs.flatten := by
  rw [mean, mean, sum_map_mean_full h, List.length_map, length_flatten_full h, Nat.cast_mul,
    div_div, mul_comm]

variable [CharZero K]

/-- A shorter batch counts as much as the others in the mean of the means. -/
theorem mean_with_rest_iff {q k r : ℕ} {S B : K} (hq : 0 < q) (hr : 0 < r) (hrk : r < k) :
    (S / k + B / r) / ((q + 1 : ℕ) : K) = (S + B) / ((q * k + r : ℕ) : K)
      ↔ B / r = S / ((q * k : ℕ) : K) := by
  have hq' : (q : K) ≠ 0 := Nat.cast_ne_zero.mpr hq.ne'
  have hr' : (r : K) ≠ 0 := Nat.cast_ne_zero.mpr hr.ne'
  have hk' : (k : K) ≠ 0 := Nat.cast_ne_zero.mpr (hr.trans hrk).ne'
  have hq1 : ((q + 1 : ℕ) : K) ≠ 0 := Nat.cast_ne_zero.mpr (Nat.succ_ne_zero q)
  have hn : ((q * k + r : ℕ) : K) ≠ 0 := Nat.cast_ne_zero.mpr (by omega)
  have hkr : (k : K) - r ≠ 0 := sub_ne_zero.mpr (Nat.cast_injective.ne hrk.ne')
  rw [div_eq_div_iff hq1 hn, Nat.cast_mul, div_eq_div_iff hr' (mul_ne_zero hq' hk')]
  push_cast
  -- both sides differ by a multiple of `k - r`
  have hdiff : (S / k + B / r) * (q * k + r) - (S + B) * (q + 1)
      = (k - r) / (k * r) * (B * (q * k) - S * r) := by
    field_simp
    ring
  constructor
  · intro h
    rw [h, sub_self] at hdiff
    have hzero := (mul_eq_zero.mp hdiff.symm).resolve_left (div_ne_zero hkr (mul_ne_zero hk' hr'))
    exact sub_eq_zero.mp hzero
  · intro h
    rw [h, sub_self, mul_zero] at hdiff
    exact sub_eq_zero.mp hdiff

/-- The mean of the means of the batches is the mean exactly when the batches are even. -/
theorem mean_map_mean_iff {k : ℕ} {bs : List (List K)} (h : Cut k bs) :
    mean (bs.map mean) = mean bs.flatten ↔ Even k bs.flatten := by
  obtain ⟨full, rest, rfl, hfull, rfl | ⟨b, rfl, hpos, hlt⟩⟩ := h.split
  · rw [List.append_nil]
    refine iff_of_true (mean_map_mean_full hfull) (Or.inl ?_)
    rw [length_flatten_full hfull]
    exact Dvd.intro_left _ rfl
  · rcases Nat.eq_zero_or_pos full.length with hnil | hq
    · rw [List.length_eq_zero_iff.mp hnil, List.nil_append, List.flatten_singleton,
        List.map_singleton, mean_singleton]
      exact iff_of_true rfl (Or.inr (Or.inl hlt.le))
    · have hlength : (full ++ [b]).flatten.length = full.length * k + b.length := by
        rw [List.flatten_append, List.length_append, length_flatten_full hfull,
          List.flatten_singleton]
      -- the rest is what lies behind the last full batch
      have hdiv : (full.length * k + b.length) / k * k = full.flatten.length := by
        rw [length_flatten_full hfull, Nat.mul_comm full.length,
          Nat.mul_add_div (hpos.trans hlt), Nat.div_eq_of_lt hlt, Nat.add_zero, Nat.mul_comm]
      have hndvd : ¬ k ∣ full.length * k + b.length := by
        intro hdvd
        exact absurd (Nat.le_of_dvd hpos ((Nat.dvd_add_right (Dvd.intro_left _ rfl)).mp hdvd))
          (Nat.not_le.mpr hlt)
      have hnle : ¬ full.length * k + b.length ≤ k := by
        have hk : k ≤ full.length * k := Nat.le_mul_of_pos_left k hq
        omega
      unfold Even
      rw [hlength, hdiv, or_iff_right hndvd, or_iff_right hnle, List.flatten_append,
        List.flatten_singleton, List.drop_left, List.take_left]
      have hmeans : mean ((full ++ [b]).map mean)
          = (full.flatten.sum / k + b.sum / b.length) / ((full.length + 1 : ℕ) : K) := by
        rw [mean, List.length_map, List.length_append, List.length_singleton, List.map_append,
          List.sum_append, sum_map_mean_full hfull, List.map_singleton, List.sum_singleton, mean]
      have hmean : mean (full.flatten ++ b)
          = (full.flatten.sum + b.sum) / ((full.length * k + b.length : ℕ) : K) := by
        rw [mean, List.sum_append, List.length_append, length_flatten_full hfull]
      rw [hmeans, hmean, mean_with_rest_iff hq hpos hlt, mean, mean, length_flatten_full hfull]

end

/-! ## Deviations -/

section Deviations

variable {K : Type} [Field K]

/-- The sum of the squared deviations from the mean. -/
def deviation (l : List K) : K := (l.map (fun x => (x - mean l) ^ 2)).sum

/-- The population variance; that of an empty list is zero. -/
def variance (l : List K) : K := deviation l / l.length

theorem length_mul_mean [CharZero K] (l : List K) : l.length * mean l = l.sum := by
  by_cases hnil : l = []
  · simp [hnil]
  · have hlength : (l.length : K) ≠ 0 := Nat.cast_ne_zero.mpr (mt List.length_eq_zero_iff.mp hnil)
    exact mul_div_cancel₀ _ hlength

/-- Deviations from anything else are larger. -/
theorem sum_sq_sub [CharZero K] (l : List K) (c : K) :
    (l.map (fun x => (x - c) ^ 2)).sum = deviation l + l.length * (mean l - c) ^ 2 := by
  have hsplit : ∀ x, (x - c) ^ 2
      = (x - mean l) ^ 2 + (2 * (mean l - c) * x + (c ^ 2 - mean l ^ 2)) := fun x => by ring
  have hlinear := List.sum_map_mul_left l (fun x => x) (2 * (mean l - c))
  rw [List.map_id'] at hlinear
  calc (l.map (fun x => (x - c) ^ 2)).sum
      = deviation l + (2 * (mean l - c) * l.sum + l.length * (c ^ 2 - mean l ^ 2)) := by
        simp only [hsplit, List.sum_map_add, hlinear, List.map_const', List.sum_replicate,
          nsmul_eq_mul, deviation]
    _ = deviation l + l.length * (mean l - c) ^ 2 := by
        rw [← length_mul_mean]
        ring

theorem mean_append [CharZero K] (l l' : List K) :
    mean (l ++ l') = (l.length * mean l + l'.length * mean l') / (l.length + l'.length) := by
  rw [length_mul_mean, length_mul_mean, mean, List.sum_append, List.length_append, Nat.cast_add]

/-- The deviation of two lists together is more than the sum of theirs, unless their means are the
same. -/
theorem deviation_append [CharZero K] {l l' : List K} (h : 0 < l.length + l'.length) :
    deviation (l ++ l') = deviation l + deviation l'
      + (mean l' - mean l) ^ 2 * l.length * l'.length / (l.length + l'.length) := by
  have hne : (l.length + l'.length : K) ≠ 0 := by exact_mod_cast h.ne'
  rw [deviation, List.map_append, List.sum_append, sum_sq_sub, sum_sq_sub, mean_append]
  field_simp
  ring

theorem deviation_nonneg [LinearOrder K] [IsStrictOrderedRing K] (l : List K) :
    0 ≤ deviation l := by
  refine List.sum_nonneg (fun x hx => ?_)
  obtain ⟨y, -, rfl⟩ := List.mem_map.mp hx
  exact sq_nonneg _

theorem variance_nonneg [LinearOrder K] [IsStrictOrderedRing K] (l : List K) : 0 ≤ variance l :=
  div_nonneg (deviation_nonneg l) (Nat.cast_nonneg _)

theorem variance_mul_length [CharZero K] (l : List K) : variance l * l.length = deviation l := by
  by_cases hnil : l = []
  · simp [hnil, deviation]
  · have hlength : (l.length : K) ≠ 0 := Nat.cast_ne_zero.mpr (mt List.length_eq_zero_iff.mp hnil)
    exact div_mul_cancel₀ _ hlength

/-- The variance of two lists together, as it is found from that of the one and from an estimate `v`
of that of the other. -/
def mergedVariance (v : K) (l l' : List K) : K :=
  (v * l.length + variance l' * l'.length
    + (mean l' - mean l) ^ 2 * l.length * l'.length / (l.length + l'.length))
      / (l.length + l'.length)

/-- The error of the estimate shrinks by the share of its list. -/
theorem mergedVariance_eq [CharZero K] (v : K) {l l' : List K} (h : 0 < l.length + l'.length) :
    mergedVariance v l l' = variance (l ++ l')
      + (v - variance l) * l.length / (l.length + l'.length) := by
  have hsum : v * l.length = deviation l + (v - variance l) * l.length := by
    rw [← variance_mul_length]
    ring
  have hboth : variance (l ++ l') = deviation (l ++ l') / (l.length + l'.length) := by
    rw [variance, List.length_append, Nat.cast_add]
  rw [mergedVariance, hboth, deviation_append h, hsum, variance_mul_length]
  ring

/-- What is merged is not less exact than the estimate. -/
theorem mergedVariance_mem [LinearOrder K] [IsStrictOrderedRing K] {v e : K} {l l' : List K}
    (h : 0 < l.length + l'.length) (hlow : variance l ≤ v) (hhigh : v ≤ variance l + e) :
    variance (l ++ l') ≤ mergedVariance v l l' ∧
      mergedVariance v l l' ≤ variance (l ++ l') + e := by
  have hl : (0 : K) ≤ l.length := Nat.cast_nonneg _
  have hl' : (0 : K) ≤ l'.length := Nat.cast_nonneg _
  have htotal : (0 : K) < l.length + l'.length := by exact_mod_cast h
  have hnonneg : 0 ≤ (v - variance l) * l.length / (l.length + l'.length) :=
    div_nonneg (mul_nonneg (by linarith) hl) htotal.le
  have hle : (v - variance l) * l.length / (l.length + l'.length) ≤ e := by
    rw [div_le_iff₀ htotal]
    calc (v - variance l) * l.length ≤ e * l.length :=
          mul_le_mul_of_nonneg_right (by linarith) hl
      _ ≤ e * (l.length + l'.length) :=
          mul_le_mul_of_nonneg_left (by linarith) (by linarith)
  rw [mergedVariance_eq v h]
  exact ⟨by linarith, by linarith⟩

end Deviations

end Batches
