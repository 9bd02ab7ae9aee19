import Mate.Library.Numerals
import Mathlib.Data.EReal.Basic
import Mathlib.Tactic

set_option autoImplicit false

/-! # Floating-point numbers

The arithmetic of a binary format with its special values. `Format` has of the rounding what does not
depend on the precision, and what averages need: weights `d` and `1 - d`, rounded, add up to one at
the scale of some power of two, the `bound`. Exact arithmetic within a range is an instance
(`Format.exact`).

A weighted average of two numbers that are not above the bound is not above it either, nor is it no
number, unless an infinity has weight zero (`AtMost.average`). What is compared, clipped or divided
by a positive number does not become no number (`div_ne_nan`, `InUnit.clip01`).
-/

namespace Floats

/-! ## Formats -/

/-- What is used of a rounding to nearest. -/
structure Format where
  /-- the nearest number, among those with exponents of any size -/
  round : ℝ → ℝ
  largest : ℝ
  bound : ℝ
  round_mono : Monotone round
  round_one : round 1 = 1
  round_neg : ∀ x, round (-x) = -round x
  round_round : ∀ x, round (round x) = round x
  one_le_largest : 1 ≤ largest
  bound_nonneg : 0 ≤ bound
  bound_le_largest : bound ≤ largest
  exact_mul : ∀ d, round d = d → 0 ≤ d → d ≤ 1 → round (d * bound) = d * bound
  complement : ∀ d, round d = d → 0 ≤ d → d ≤ 1 → round ((d + round (1 - d)) * bound) = bound
  complement_pos : ∀ d, round d = d → d < 1 → 0 < round (1 - d)

namespace Format

variable (F : Format)

theorem round_zero : F.round 0 = 0 := by
  have h := F.round_neg 0
  rw [neg_zero] at h
  linarith

theorem round_nonneg {x : ℝ} (hx : 0 ≤ x) : 0 ≤ F.round x := by
  rw [← F.round_zero]
  exact F.round_mono hx

/-- Numbers of the format bound the rounding of what they bound. -/
theorem round_le {x y : ℝ} (h : x ≤ y) (hy : F.round y = y) : F.round x ≤ y :=
  (F.round_mono h).trans_eq hy

theorem abs_round_le {x y : ℝ} (h : |x| ≤ y) (hy : F.round y = y) : |F.round x| ≤ y := by
  obtain ⟨hneg, hle⟩ := abs_le.mp h
  refine abs_le.mpr ⟨?_, F.round_le hle hy⟩
  have hround := F.round_mono hneg
  rw [F.round_neg, hy] at hround
  exact hround

theorem round_bound : F.round F.bound = F.bound := by
  have h := F.exact_mul 1 F.round_one zero_le_one le_rfl
  rwa [one_mul] at h

/-- Exact arithmetic up to a largest number. -/
def exact (largest : ℝ) (h : 1 ≤ largest) : Format where
  round := fun x => x
  largest := largest
  bound := largest
  round_mono := monotone_id
  round_one := rfl
  round_neg := fun _ => rfl
  round_round := fun _ => rfl
  one_le_largest := h
  bound_nonneg := zero_le_one.trans h
  bound_le_largest := le_rfl
  exact_mul := fun _ _ _ _ => rfl
  complement := fun d _ _ _ => by ring
  complement_pos := fun _ _ h => sub_pos.mpr h

end Format

/-! ## Values -/

/-- Numbers of the format, infinities and what is not a number. -/
inductive FloatValue (F : Format)
  | nan
  | inf (negative : Bool)
  | finite (x : ℝ) (rounded : F.round x = x) (le_largest : |x| ≤ F.largest)

namespace FloatValue

variable {F : Format}

open Classical in
/-- The rounding of a real, an infinity where it is out of range. -/
noncomputable def ofReal (F : Format) (x : ℝ) : FloatValue F :=
  if h : |F.round x| ≤ F.largest then finite (F.round x) (F.round_round x) h
  else inf (decide (x < 0))

def zero (F : Format) : FloatValue F :=
  finite 0 F.round_zero (abs_zero.trans_le (zero_le_one.trans F.one_le_largest))

def one (F : Format) : FloatValue F := finite 1 F.round_one (abs_one.trans_le F.one_le_largest)

def neg : FloatValue F → FloatValue F
  | nan => nan
  | inf negative => inf !negative
  | finite x rounded le_largest =>
    finite (-x) ((F.round_neg x).trans (congrArg Neg.neg rounded)) ((abs_neg x).trans_le le_largest)

noncomputable def add : FloatValue F → FloatValue F → FloatValue F
  | nan, _ => nan
  | _, nan => nan
  | inf a, inf b => if a = b then inf a else nan
  | inf a, finite _ _ _ => inf a
  | finite _ _ _, inf b => inf b
  | finite x _ _, finite y _ _ => ofReal F (x + y)

noncomputable def sub (v w : FloatValue F) : FloatValue F := v.add w.neg

open Classical in
noncomputable def mul : FloatValue F → FloatValue F → FloatValue F
  | nan, _ => nan
  | _, nan => nan
  | inf a, inf b => inf (a ^^ b)
  | inf a, finite y _ _ => if y = 0 then nan else inf (a ^^ decide (y < 0))
  | finite x _ _, inf b => if x = 0 then nan else inf (decide (x < 0) ^^ b)
  | finite x _ _, finite y _ _ => ofReal F (x * y)

open Classical in
noncomputable def div : FloatValue F → FloatValue F → FloatValue F
  | nan, _ => nan
  | _, nan => nan
  | inf _, inf _ => nan
  | inf a, finite y _ _ => inf (a ^^ decide (y < 0))
  | finite _ _ _, inf _ => zero F
  | finite x _ _, finite y _ _ =>
    if y = 0 then (if x = 0 then nan else inf (decide (x < 0))) else ofReal F (x / y)

/-- The place of a value on the extended line. -/
noncomputable def toEReal? : FloatValue F → Option EReal
  | nan => none
  | inf negative => some (if negative then ⊥ else ⊤)
  | finite x _ _ => some x

/-- `v < w`, which is false where one of them is not a number. -/
def Lt (v w : FloatValue F) : Prop := ∃ x y, v.toEReal? = some x ∧ w.toEReal? = some y ∧ x < y

open Classical in
/-- `max(v, w)`: the second value only if it is greater. -/
noncomputable def pyMax (v w : FloatValue F) : FloatValue F := if v.Lt w then w else v

/-- `np.clip(v, 0.0, 1.0)`. -/
noncomputable def clip01 : FloatValue F → FloatValue F
  | nan => nan
  | inf true => zero F
  | inf false => one F
  | finite x _ _ =>
    if x ≤ 0 then zero F else if 1 ≤ x then one F else finite x ‹_› ‹_›

/-- `d * v + (1.0 - d) * w`. -/
noncomputable def average (d v w : FloatValue F) : FloatValue F :=
  (d.mul v).add (((one F).sub d).mul w)

def IsInfinite : FloatValue F → Prop
  | inf _ => True
  | _ => False

def IsZero : FloatValue F → Prop
  | finite x _ _ => x = 0
  | _ => False

/-! ## Bounds -/

/-- Not above the bound, and a number or minus infinity. -/
def AtMost : FloatValue F → Prop
  | nan => False
  | inf negative => negative = true
  | finite x _ _ => x ≤ F.bound

/-- Not below the negated bound, and a number or infinity. -/
def AtLeast (v : FloatValue F) : Prop := v.neg.AtMost

/-- A number of the unit interval. -/
def InUnit (v : FloatValue F) : Prop :=
  ∃ x rounded le_largest, v = finite x rounded le_largest ∧ 0 ≤ x ∧ x ≤ 1

/-- A positive number. -/
def IsPositive (v : FloatValue F) : Prop :=
  ∃ x rounded le_largest, v = finite x rounded le_largest ∧ 0 < x

/-- A number that is not negative, or infinity. -/
def NonNeg : FloatValue F → Prop
  | nan => False
  | inf negative => negative = false
  | finite x _ _ => 0 ≤ x

/-- A number of at most one, or minus infinity. -/
def AtMostOne : FloatValue F → Prop
  | nan => False
  | inf negative => negative = true
  | finite x _ _ => x ≤ 1

/-- A number or minus infinity. -/
def BelowTop : FloatValue F → Prop
  | nan => False
  | inf negative => negative = true
  | finite _ _ _ => True

/-! ## Rounding -/

theorem ofReal_of_le {x : ℝ} (h : |F.round x| ≤ F.largest) :
    ofReal F x = finite (F.round x) (F.round_round x) h := dif_pos h

theorem ofReal_ne_nan (x : ℝ) : ofReal F x ≠ nan := by
  unfold ofReal
  split <;> simp

theorem ofReal_neg (x : ℝ) : ofReal F (-x) = (ofReal F x).neg := by
  have hround : |F.round (-x)| = |F.round x| := by rw [F.round_neg, abs_neg]
  by_cases h : |F.round x| ≤ F.largest
  · rw [ofReal_of_le h, ofReal_of_le (hround.trans_le h), neg]
    simp only [F.round_neg]
  · -- what is out of range is not zero
    have hne : x ≠ 0 := by
      rintro rfl
      rw [F.round_zero, abs_zero] at h
      exact h (zero_le_one.trans F.one_le_largest)
    unfold ofReal
    rw [dif_neg h, dif_neg (fun hle => h (hround.symm.trans_le hle)), neg]
    congr 1
    rcases lt_or_gt_of_ne hne with hlt | hgt
    · simp [hlt, hlt.le]
    · simp [hgt, hgt.le]

/-! ## Negation -/

theorem neg_add_neg (v w : FloatValue F) : v.neg.add w.neg = (v.add w).neg := by
  cases v <;> cases w <;> try rfl
  case inf.inf a b => cases a <;> cases b <;> rfl
  case finite.finite x _ _ y _ _ =>
      show ofReal F (-x + -y) = (ofReal F (x + y)).neg
      rw [← ofReal_neg, neg_add]

theorem mul_neg (v w : FloatValue F) : v.mul w.neg = (v.mul w).neg := by
  cases v <;> cases w <;> try rfl
  case inf.inf a b => cases a <;> cases b <;> rfl
  case inf.finite a y _ _ =>
      show (if -y = 0 then nan else inf (a ^^ decide (-y < 0))) = (if y = 0 then nan else _).neg
      rcases lt_trichotomy y 0 with hlt | rfl | hgt
      · rw [if_neg (neg_ne_zero.mpr hlt.ne), if_neg hlt.ne]
        simp [neg, hlt, hlt.not_gt]
      · simp [neg]
      · rw [if_neg (neg_ne_zero.mpr hgt.ne'), if_neg hgt.ne']
        simp [neg, hgt, hgt.not_gt]
  case finite.inf x _ _ b =>
      show (if x = 0 then nan else inf (decide (x < 0) ^^ !b)) = (if x = 0 then nan else _).neg
      split
      · rfl
      · simp [neg]
  case finite.finite x _ _ y _ _ =>
      show ofReal F (x * -y) = (ofReal F (x * y)).neg
      rw [← ofReal_neg, neg_mul_eq_mul_neg]

theorem average_neg (d v w : FloatValue F) : average d v.neg w.neg = (average d v w).neg := by
  rw [average, mul_neg, mul_neg, neg_add_neg]
  rfl

theorem isInfinite_neg (v : FloatValue F) : v.neg.IsInfinite ↔ v.IsInfinite := by
  cases v <;> rfl

/-! ## Averages -/

section Average

variable {d : ℝ}

/-- A weight in the unit interval rounds no number out of range. -/
theorem abs_round_mul_le (h0 : 0 ≤ d) (h1 : d ≤ 1) {y : ℝ} (hy : F.round y = y)
    (hle : |y| ≤ F.largest) : |F.round (d * y)| ≤ F.largest := by
  have habs : F.round |y| = |y| := by
    rcases abs_choice y with h | h
    · rw [h, hy]
    · rw [h, F.round_neg, hy]
  refine (F.abs_round_le ?_ habs).trans hle
  rw [abs_mul, abs_of_nonneg h0]
  exact mul_le_of_le_one_left (abs_nonneg y) h1

/-- A finite number times a weight. -/
theorem mul_finite (hd : F.round d = d) (h0 : 0 ≤ d) (h1 : d ≤ 1) (hlargest : |d| ≤ F.largest) {y : ℝ}
    (hy : F.round y = y) (hle : |y| ≤ F.largest) : ∃ le_largest,
      (finite d hd hlargest).mul (finite y hy hle)
        = finite (F.round (d * y)) (F.round_round _) le_largest :=
  ⟨abs_round_mul_le h0 h1 hy hle, ofReal_of_le (abs_round_mul_le h0 h1 hy hle)⟩

/-- Minus infinity times a weight that is not zero. -/
theorem mul_inf (hpos : 0 < d) {hd : F.round d = d} {hlargest : |d| ≤ F.largest} (negative : Bool) :
    (finite d hd hlargest).mul (inf negative) = inf negative := by
  show (if d = 0 then nan else inf (decide (d < 0) ^^ negative)) = _
  rw [if_neg hpos.ne', decide_eq_false hpos.not_gt]
  simp

variable (hd : F.round d = d) (h0 : 0 ≤ d) (h1 : d ≤ 1)
include hd h0 h1

/-- The other weight. -/
theorem one_sub_finite (hlargest : |d| ≤ F.largest) : ∃ le_largest,
    (one F).sub (finite d hd hlargest) = finite (F.round (1 - d)) (F.round_round _) le_largest ∧
      0 ≤ F.round (1 - d) ∧ F.round (1 - d) ≤ 1 := by
  have hnonneg : 0 ≤ F.round (1 - d) := F.round_nonneg (sub_nonneg.mpr h1)
  have hle : F.round (1 - d) ≤ 1 := F.round_le (sub_le_self 1 h0) F.round_one
  have hround : |F.round (1 - d)| ≤ F.largest := by
    rw [abs_of_nonneg hnonneg]
    exact hle.trans F.one_le_largest
  refine ⟨hround, ?_, hnonneg, hle⟩
  show ofReal F (1 + -d) = _
  rw [← sub_eq_add_neg, ofReal_of_le hround]

/-- Two numbers that are not above the bound. -/
theorem round_average_le {x y : ℝ} (hx : x ≤ F.bound) (hy : y ≤ F.bound) :
    F.round (F.round (d * x) + F.round (F.round (1 - d) * y)) ≤ F.bound := by
  obtain ⟨-, -, he0, he1⟩ :=
    one_sub_finite hd h0 h1 ((abs_of_nonneg h0).trans_le (h1.trans F.one_le_largest))
  have hleft : F.round (d * x) ≤ d * F.bound :=
    F.round_le (mul_le_mul_of_nonneg_left hx h0) (F.exact_mul d hd h0 h1)
  have hright : F.round (F.round (1 - d) * y) ≤ F.round (1 - d) * F.bound :=
    F.round_le (mul_le_mul_of_nonneg_left hy he0) (F.exact_mul _ (F.round_round _) he0 he1)
  calc F.round (F.round (d * x) + F.round (F.round (1 - d) * y))
      ≤ F.round ((d + F.round (1 - d)) * F.bound) := F.round_mono (by rw [add_mul]; linarith)
    _ = F.bound := F.complement d hd h0 h1

/-- **An average of values that are not above the bound** is one. An infinity needs a weight. -/
theorem AtMost.average {hlargest : |d| ≤ F.largest} {v w : FloatValue F} (hv : v.AtMost)
    (hw : w.AtMost) (hdv : v.IsInfinite → d ≠ 0) (hdw : w.IsInfinite → d ≠ 1) :
    (average (finite d hd hlargest) v w).AtMost := by
  -- the complement is exact up to one rounding, and lies between zero and one as well
  obtain ⟨he, heq, he0, he1⟩ := one_sub_finite hd h0 h1 hlargest
  rw [FloatValue.average, heq]
  cases v with
  | nan => exact hv.elim
  | inf negative =>
      obtain rfl : negative = true := hv
      rw [mul_inf (lt_of_le_of_ne h0 (hdv trivial).symm)]
      cases w with
      | nan => exact hw.elim
      | inf negative =>
          obtain rfl : negative = true := hw
          rw [mul_inf (F.complement_pos d hd (lt_of_le_of_ne h1 (hdw trivial)))]
          rfl
      | finite y hy hle =>
          obtain ⟨_, hmul⟩ := mul_finite (F.round_round _) he0 he1 he hy hle
          rw [hmul]
          rfl
  | finite x hx hle =>
      obtain ⟨_, hmul⟩ := mul_finite hd h0 h1 hlargest hx hle
      rw [hmul]
      cases w with
      | nan => exact hw.elim
      | inf negative =>
          obtain rfl : negative = true := hw
          rw [mul_inf (F.complement_pos d hd (lt_of_le_of_ne h1 (hdw trivial)))]
          rfl
      | finite y hy hle' =>
          -- two finite values: rounding is monotone, and the bound is its own rounding
          obtain ⟨_, hmul'⟩ := mul_finite (F.round_round _) he0 he1 he hy hle'
          rw [hmul']
          have hbound := round_average_le hd h0 h1 (x := x) (y := y) hv hw
          show (ofReal F (F.round (d * x) + F.round (F.round (1 - d) * y))).AtMost
          unfold ofReal
          split
          · exact hbound
          · -- what is out of range is so downwards
            rename_i hout
            refine decide_eq_true (lt_of_not_ge (fun hnonneg => hout ?_))
            rw [abs_of_nonneg (F.round_nonneg hnonneg)]
            exact hbound.trans F.bound_le_largest

/-- An average of values that are not below the negated bound. -/
theorem AtLeast.average {hlargest : |d| ≤ F.largest} {v w : FloatValue F} (hv : v.AtLeast)
    (hw : w.AtLeast) (hdv : v.IsInfinite → d ≠ 0) (hdw : w.IsInfinite → d ≠ 1) :
    (average (finite d hd hlargest) v w).AtLeast := by
  rw [AtLeast, ← average_neg]
  exact AtMost.average hd h0 h1 hv hw (fun h => hdv ((isInfinite_neg v).mp h))
    (fun h => hdw ((isInfinite_neg w).mp h))

end Average

/-! ## Clipping and comparing -/

theorem AtMost.ne_nan {v : FloatValue F} (h : v.AtMost) : v ≠ nan := by
  rintro rfl
  exact h

theorem AtLeast.ne_nan {v : FloatValue F} (h : v.AtLeast) : v ≠ nan := by
  rintro rfl
  exact h

theorem inUnit_zero : (zero F).InUnit := ⟨0, F.round_zero, _, rfl, le_rfl, zero_le_one⟩

theorem inUnit_one : (one F).InUnit := ⟨1, F.round_one, _, rfl, zero_le_one, le_rfl⟩

/-- What is a number is clipped to the unit interval. -/
theorem InUnit.clip01 {v : FloatValue F} (h : v ≠ nan) : v.clip01.InUnit := by
  cases v with
  | nan => exact absurd rfl h
  | inf negative =>
      cases negative with
      | true => exact inUnit_zero
      | false => exact inUnit_one
  | finite x hx hle =>
      show (if x ≤ 0 then zero F else if 1 ≤ x then one F else finite x hx hle).InUnit
      split
      · exact inUnit_zero
      · split
        · exact inUnit_one
        · rename_i hpos hlt
          exact ⟨x, hx, hle, rfl, (not_le.mp hpos).le, (not_le.mp hlt).le⟩

/-- The greater of a value that is not above the bound and a positive number. -/
theorem IsPositive.pyMax_left {v w : FloatValue F} (hv : v.BelowTop) (hw : w.IsPositive) :
    (pyMax v w).IsPositive := by
  obtain ⟨y, hy, hle, rfl, hpos⟩ := hw
  unfold pyMax
  split
  · exact ⟨y, hy, hle, rfl, hpos⟩
  · rename_i hlt
    cases v with
    | nan => exact hv.elim
    | inf negative =>
        obtain rfl : negative = true := hv
        exact absurd ⟨⊥, y, rfl, rfl, EReal.bot_lt_coe y⟩ hlt
    | finite x hx hle' =>
        refine ⟨x, hx, hle', rfl, hpos.trans_le (not_lt.mp (fun h => hlt ?_))⟩
        exact ⟨x, y, rfl, rfl, EReal.coe_lt_coe_iff.mpr h⟩

theorem AtMost.belowTop {v : FloatValue F} (h : v.AtMost) : v.BelowTop := by
  cases v with
  | nan => exact h
  | inf negative => exact h
  | finite x hx hle => trivial

theorem NonNeg.pyMax_zero {v : FloatValue F} (h : v ≠ nan) : (pyMax v (zero F)).NonNeg := by
  unfold pyMax
  split
  · exact le_refl (0 : ℝ)
  · rename_i hlt
    cases v with
    | nan => exact absurd rfl h
    | inf negative =>
        cases negative with
        | true => exact absurd ⟨⊥, ((0 : ℝ) : EReal), rfl, rfl, EReal.bot_lt_coe 0⟩ hlt
        | false => rfl
    | finite x hx hle =>
        refine not_lt.mp (fun hneg => hlt ?_)
        exact ⟨x, ((0 : ℝ) : EReal), rfl, rfl, EReal.coe_lt_coe_iff.mpr hneg⟩

/-! ## What is still a number -/

/-- A rounding that is not above a number of the format. -/
theorem belowTop_ofReal {x y : ℝ} (h : x ≤ y) (hy : F.round y = y) (hle : y ≤ F.largest) :
    (ofReal F x).BelowTop := by
  unfold ofReal
  split
  · trivial
  · rename_i hout
    refine decide_eq_true (lt_of_not_ge (fun hnonneg => hout ?_))
    rw [abs_of_nonneg (F.round_nonneg hnonneg)]
    exact (F.round_le h hy).trans hle

theorem NonNeg.one_sub {v : FloatValue F} (h : v.NonNeg) : ((one F).sub v).AtMostOne := by
  cases v with
  | nan => exact h.elim
  | inf negative =>
      obtain rfl : negative = false := h
      rfl
  | finite x hx hle =>
      have hx0 : 0 ≤ x := h
      show (ofReal F (1 + -x)).AtMostOne
      have hbelow : (ofReal F (1 + -x)).BelowTop :=
        belowTop_ofReal (by linarith) F.round_one F.one_le_largest
      unfold ofReal at hbelow ⊢
      split
      · exact F.round_le (by linarith) F.round_one
      · rename_i hout
        rwa [dif_neg hout] at hbelow

theorem AtMostOne.mul {v w : FloatValue F} (hv : v.IsPositive) (hw : w.AtMostOne) :
    (v.mul w).BelowTop := by
  obtain ⟨x, hx, hle, rfl, hpos⟩ := hv
  cases w with
  | nan => exact hw.elim
  | inf negative =>
      obtain rfl : negative = true := hw
      rw [mul_inf hpos]
      rfl
  | finite y hy hle' =>
      refine belowTop_ofReal (mul_le_of_le_one_right hpos.le hw) hx ?_
      exact (le_abs_self x).trans hle

theorem BelowTop.sub_ne_nan {v w : FloatValue F} (hv : v.BelowTop) (hw : w.AtLeast) :
    v.sub w ≠ nan := by
  cases v with
  | nan => exact hv.elim
  | inf negative =>
      obtain rfl : negative = true := hv
      cases w with
      | nan => exact hw.elim
      | inf negative =>
          cases negative with
          | true => exact absurd (show false = true from hw) Bool.false_ne_true
          | false => exact fun h => by cases h
      | finite y hy hle => exact fun h => by cases h
  | finite x hx hle =>
      cases w with
      | nan => exact hw.elim
      | inf negative => exact fun h => by cases h
      | finite y hy hle => exact ofReal_ne_nan _

theorem div_ne_nan {v w : FloatValue F} (hv : v ≠ nan) (hw : w.IsPositive) : v.div w ≠ nan := by
  obtain ⟨y, hy, hle, rfl, hpos⟩ := hw
  cases v with
  | nan => exact absurd rfl hv
  | inf negative => exact fun h => by cases h
  | finite x hx hle' =>
      show (if y = 0 then _ else ofReal F (x / y)) ≠ nan
      rw [if_neg hpos.ne']
      exact ofReal_ne_nan _

/-- Infinity times anything, less anything, is no number that infinity could divide. -/
theorem inf_mul_sub_div_inf (v w : FloatValue F) :
    (((inf false).mul v).sub w).div (inf false) = nan := by
  have hmul : (inf false).mul v = nan ∨ ∃ negative, (inf false).mul v = inf negative := by
    cases v with
    | nan => exact .inl rfl
    | inf negative => exact .inr ⟨_, rfl⟩
    | finite x hx hle =>
        by_cases hzero : x = 0
        · exact .inl (if_pos hzero)
        · exact .inr ⟨_, if_neg hzero⟩
  rcases hmul with h | ⟨negative, h⟩
  · rw [h]
    rfl
  · rw [h]
    cases w with
    | nan => rfl
    | inf negative' => cases negative <;> cases negative' <;> rfl
    | finite x hx hle => rfl

end FloatValue

end Floats
