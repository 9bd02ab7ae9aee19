import Mathlib.Dynamics.FixedPoints.Topology
import Mathlib.Order.Interval.Set.Monotone
import Mathlib.Topology.Order.IntermediateValue
import Mathlib.Topology.Order.MonotoneConvergence

set_option autoImplicit false

/-! # Iterating a decreasing map

A decreasing map that sends an interval to itself turns the order around at every step. Started
at the upper end, the iterates jump over the fixed point again and again, a little less far each
time: the even ones fall, the odd ones rise. They meet unless two points are swapped.
-/

namespace Alternating

open Filter Set Topology

/-! ## Two monotone sequences -/

section

variable {α : Type*} [LinearOrder α] {f : α → α} {a c p : α}

/-- `f` is decreasing on the interval from `a` to `c`, which it sends to itself, and two steps
lead from `c` to a smaller point. -/
structure Swings (f : α → α) (a c : α) : Prop where
  le : a ≤ c
  mapsTo : MapsTo f (Icc a c) (Icc a c)
  anti : StrictAntiOn f (Icc a c)
  back : f (f c) < c

namespace Swings

theorem iterate_mem (h : Swings f a c) (n : ℕ) : f^[n] c ∈ Icc a c :=
  h.mapsTo.iterate n (right_mem_Icc.mpr h.le)

/-- One step turns the order around. -/
theorem step_lt (h : Swings f a c) {m n : ℕ} (hlt : f^[m] c < f^[n] c) :
    f^[n + 1] c < f^[m + 1] c := by
  rw [Function.iterate_succ_apply', Function.iterate_succ_apply']
  exact h.anti (h.iterate_mem m) (h.iterate_mem n) hlt

theorem even_lt (h : Swings f a c) (n : ℕ) : f^[2 * n + 2] c < f^[2 * n] c := by
  induction n with
  | zero => exact h.back
  | succ n ih => exact h.step_lt (h.step_lt ih)

theorem odd_lt (h : Swings f a c) (n : ℕ) : f^[2 * n + 1] c < f^[2 * n + 3] c :=
  h.step_lt (h.even_lt n)

theorem strictAnti_even (h : Swings f a c) : StrictAnti (fun n => f^[2 * n] c) :=
  strictAnti_nat_of_succ_lt (fun n => h.even_lt n)

theorem strictMono_odd (h : Swings f a c) : StrictMono (fun n => f^[2 * n + 1] c) :=
  strictMono_nat_of_lt_succ (fun n => h.odd_lt n)

/-! ## The fixed point -/

theorem fixed_unique (h : Swings f a c) {q : α} (hp : p ∈ Icc a c) (hq : q ∈ Icc a c)
    (hfp : f p = p) (hfq : f q = q) : p = q := by
  rcases lt_trichotomy p q with hlt | heq | hgt
  · have hback := h.anti hp hq hlt
    rw [hfp, hfq] at hback
    exact absurd hback hlt.asymm
  · exact heq
  · have hback := h.anti hq hp hgt
    rw [hfp, hfq] at hback
    exact absurd hback hgt.asymm

theorem fixed_lt (h : Swings f a c) (hp : p ∈ Icc a c) (hfp : f p = p) : p < c := by
  refine lt_of_le_of_ne hp.2 (fun heq => ?_)
  have hback := h.back
  rw [← heq, hfp, hfp] at hback
  exact lt_irrefl p hback

/-- The fixed point stays between an iterate and the next one. -/
theorem brackets (h : Swings f a c) (hp : p ∈ Icc a c) (hfp : f p = p) (n : ℕ) :
    p < f^[2 * n] c ∧ f^[2 * n + 1] c < p := by
  have hbelow : ∀ n, p < f^[n] c → f^[n + 1] c < p := by
    intro n hn
    have hturn := h.anti hp (h.iterate_mem n) hn
    rwa [hfp, ← Function.iterate_succ_apply' f n c] at hturn
  have habove : ∀ n, f^[n] c < p → p < f^[n + 1] c := by
    intro n hn
    have hturn := h.anti (h.iterate_mem n) hp hn
    rwa [hfp, ← Function.iterate_succ_apply' f n c] at hturn
  induction n with
  | zero => exact ⟨h.fixed_lt hp hfp, hbelow 0 (h.fixed_lt hp hfp)⟩
  | succ n ih =>
      have heven := habove _ ih.2
      exact ⟨heven, hbelow _ heven⟩

end Swings

end

/-! ## Convergence -/

section

variable {α : Type*} [ConditionallyCompleteLinearOrder α] [TopologicalSpace α] [OrderTopology α]
variable {f : α → α} {a c p : α}

namespace Swings

theorem exists_fixed [DenselyOrdered α] (h : Swings f a c) (hf : ContinuousOn f (Icc a c)) :
    ∃ p ∈ Icc a c, f p = p := by
  obtain ⟨p, hp, hfixed⟩ := exists_mem_Icc_isFixedPt_of_mapsTo hf h.le h.mapsTo
  exact ⟨p, hp, hfixed⟩

/-- When no two points are swapped the even iterates fall to the fixed point. -/
theorem tendsto_even (h : Swings f a c) (hf : ContinuousOn f (Icc a c))
    (hswap : ∀ x ∈ Icc a c, f (f x) = x → f x = x) (hp : p ∈ Icc a c) (hfp : f p = p) :
    Tendsto (fun n => f^[2 * n] c) atTop (𝓝 p) := by
  have hbound : BddBelow (range (fun n => f^[2 * n] c)) :=
    ⟨p, by rintro _ ⟨n, rfl⟩; exact (h.brackets hp hfp n).1.le⟩
  have hlim := tendsto_atTop_ciInf h.strictAnti_even.antitone hbound
  set l := ⨅ n, f^[2 * n] c with hl
  have hmem : l ∈ Icc a c :=
    isClosed_Icc.mem_of_tendsto hlim (Eventually.of_forall (fun n => h.iterate_mem (2 * n)))
  have htwice : ContinuousOn (f ∘ f) (Icc a c) := hf.comp hf h.mapsTo
  -- two steps shift the sequence by one, so its limit is where two steps lead back
  have hshift : Tendsto (fun n => f^[2 * n + 2] c) atTop (𝓝 (f (f l))) := by
    have hwithin : Tendsto (fun n => f^[2 * n] c) atTop (𝓝[Icc a c] l) :=
      tendsto_nhdsWithin_iff.mpr
        ⟨hlim, Eventually.of_forall (fun n => h.iterate_mem (2 * n))⟩
    have hstep := (htwice l hmem).tendsto.comp hwithin
    refine hstep.congr (fun n => ?_)
    rw [Function.iterate_succ_apply', Function.iterate_succ_apply']
    rfl
  have hsame : Tendsto (fun n => f^[2 * n + 2] c) atTop (𝓝 l) :=
    hlim.comp (tendsto_add_atTop_nat 1)
  have hfixed := hswap l hmem (tendsto_nhds_unique hshift hsame)
  rwa [h.fixed_unique hmem hp hfixed hfp] at hlim

theorem tendsto_odd (h : Swings f a c) (hf : ContinuousOn f (Icc a c))
    (hswap : ∀ x ∈ Icc a c, f (f x) = x → f x = x) (hp : p ∈ Icc a c) (hfp : f p = p) :
    Tendsto (fun n => f^[2 * n + 1] c) atTop (𝓝 p) := by
  have hwithin : Tendsto (fun n => f^[2 * n] c) atTop (𝓝[Icc a c] p) :=
    tendsto_nhdsWithin_iff.mpr ⟨h.tendsto_even hf hswap hp hfp,
      Eventually.of_forall (fun n => h.iterate_mem (2 * n))⟩
  have hstep := (hf p hp).tendsto.comp hwithin
  rw [hfp] at hstep
  refine hstep.congr (fun n => ?_)
  rw [Function.iterate_succ_apply']
  rfl

end Swings

end

end Alternating
