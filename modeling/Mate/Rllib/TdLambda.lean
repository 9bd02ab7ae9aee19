import Mate.Library.Numerals
import Mate.Utils
import Mathlib.Algebra.Order.Ring.Int
import Mathlib.Algebra.BigOperators.Ring.Finset
import Mathlib.Data.List.GetD
import Mathlib.Tactic.Ring

set_option autoImplicit false

/-! # Targets of padded sequences

`td_lambda_targets` runs backwards through the sequences of a batch, which are padded to one length.
Only at the last row of the batch it bootstraps from that row alone. A shorter sequence ends earlier:
behind its last row comes padding, whose targets are zero, and the last row mixes that zero in where it
should bootstrap. Its targets are those of the sequence alone exactly if what is lost is zero anyway
(`tdLambdaTargets_iff`).
-/

namespace Mate.Rllib

variable {K : Type} [CommRing K]

/-- What `td_lambda_targets` reads of one step of a sequence. -/
structure TdRow (K : Type) where
  reward : K
  terminated : K
  mask : K
  targetNext : K

namespace TdRow

/-- `one_step`. -/
def oneStep (gamma : K) (row : TdRow K) : K :=
  row.reward + gamma * (1 - row.terminated) * row.targetNext

/-- `recursive`, from the running value of the next row. -/
def recursive (gamma running : K) (row : TdRow K) : K :=
  row.reward + gamma * (1 - row.terminated) * running

end TdRow

/-- The targets of one sequence of a batch; all tensors have one shape. The code runs through all
sequences at once, and `running` is the target of the next row. Where a target has several entries,
each is computed like this. -/
def tdLambdaTargets (gamma tdLambda : K) : List (TdRow K) → List K
  | [] => []
  | row :: rest =>
      match tdLambdaTargets gamma tdLambda rest with
      | [] => [row.oneStep gamma * row.mask]
      | running :: later =>
          ((1 - tdLambda) * row.oneStep gamma + tdLambda * row.recursive gamma running) * row.mask
            :: running :: later

/-- A sequence behind which the batch is padded. What stands in the padding is arbitrary. -/
structure PaddedSequence (K : Type) [CommRing K] where
  valid : List (TdRow K)
  padding : List (TdRow K)
  mask_valid : ∀ row ∈ valid, row.mask = 1
  mask_padding : ∀ row ∈ padding, row.mask = 0

/-- The rows of the batch. -/
def PaddedSequence.rows (sequence : PaddedSequence K) : List (TdRow K) :=
  sequence.valid ++ sequence.padding

/-! ## Steps -/

section Steps

variable (gamma tdLambda : K)

theorem tdLambdaTargets_singleton (row : TdRow K) :
    tdLambdaTargets gamma tdLambda [row] = [row.oneStep gamma * row.mask] := rfl

variable {gamma tdLambda} in
theorem tdLambdaTargets_cons {row : TdRow K} {rest : List (TdRow K)} {running : K} {later : List K}
    (h : tdLambdaTargets gamma tdLambda rest = running :: later) :
    tdLambdaTargets gamma tdLambda (row :: rest)
      = ((1 - tdLambda) * row.oneStep gamma + tdLambda * row.recursive gamma running) * row.mask
        :: running :: later := by
  rw [tdLambdaTargets, h]

theorem length_tdLambdaTargets (rows : List (TdRow K)) :
    (tdLambdaTargets gamma tdLambda rows).length = rows.length := by
  induction rows with
  | nil => rfl
  | cons row rest ih =>
      rw [tdLambdaTargets, List.length_cons, ← ih]
      split <;> simp_all

/-- The targets of padding are zero. -/
theorem tdLambdaTargets_padding {padding : List (TdRow K)} (h : ∀ row ∈ padding, row.mask = 0) :
    tdLambdaTargets gamma tdLambda padding = List.replicate padding.length 0 := by
  induction padding with
  | nil => rfl
  | cons row rest ih =>
      have hrow : row.mask = 0 := h row List.mem_cons_self
      have hrest := ih (fun r hr => h r (List.mem_cons_of_mem _ hr))
      cases rest with
      | nil => rw [tdLambdaTargets_singleton, hrow, mul_zero]; rfl
      | cons next rest =>
          rw [List.length_cons, List.replicate_succ] at hrest
          rw [tdLambdaTargets_cons hrest, hrow, mul_zero]
          rfl

/-- What the last row of a sequence loses when padding follows. -/
def lost (last : TdRow K) : K := tdLambda * gamma * (1 - last.terminated) * last.targetNext

theorem mix_zero (row : TdRow K) :
    (1 - tdLambda) * row.oneStep gamma + tdLambda * row.recursive gamma 0
      = row.oneStep gamma - lost gamma tdLambda row := by
  unfold TdRow.oneStep TdRow.recursive lost
  ring

/-- There is a target for the first row. -/
theorem exists_tdLambdaTargets_cons {rows : List (TdRow K)} (h : rows ≠ []) :
    ∃ running later, tdLambdaTargets gamma tdLambda rows = running :: later := by
  apply List.exists_cons_of_ne_nil
  rw [ne_eq, ← List.length_eq_zero_iff, length_tdLambdaTargets, List.length_eq_zero_iff]
  exact h

/-- The target of the last row, with padding behind it. -/
theorem tdLambdaTargets_last {last : TdRow K} {padding : List (TdRow K)} (hlast : last.mask = 1)
    (hpadding : ∀ row ∈ padding, row.mask = 0) (hne : padding ≠ []) :
    ∃ later, tdLambdaTargets gamma tdLambda (last :: padding)
      = (last.oneStep gamma - lost gamma tdLambda last) :: later := by
  have hzeros := tdLambdaTargets_padding gamma tdLambda hpadding
  obtain ⟨first, rest, rfl⟩ := List.exists_cons_of_ne_nil hne
  rw [List.length_cons, List.replicate_succ] at hzeros
  rw [tdLambdaTargets_cons hzeros, mix_zero, hlast, mul_one]
  exact ⟨_, rfl⟩

/-- With padding behind it a sequence keeps its targets exactly if its last row loses nothing. The
induction is on the rows before the last one: a row keeps its target if all later ones do. -/
theorem take_tdLambdaTargets_iff (before : List (TdRow K)) {last : TdRow K}
    {padding : List (TdRow K)} (hlast : last.mask = 1) (hpadding : ∀ row ∈ padding, row.mask = 0)
    (hne : padding ≠ []) :
    (tdLambdaTargets gamma tdLambda (before ++ last :: padding)).take (before.length + 1)
        = tdLambdaTargets gamma tdLambda (before ++ [last]) ↔
      lost gamma tdLambda last = 0 := by
  induction before with
  | nil =>
      obtain ⟨later, hlater⟩ := tdLambdaTargets_last gamma tdLambda hlast hpadding hne
      rw [List.nil_append, List.nil_append, hlater, tdLambdaTargets_singleton, hlast, mul_one]
      simp
  | cons row before ih =>
      obtain ⟨running, later, hpadded⟩ := exists_tdLambdaTargets_cons gamma tdLambda
        (show before ++ last :: padding ≠ [] by simp)
      obtain ⟨running', later', halone⟩ := exists_tdLambdaTargets_cons gamma tdLambda
        (show before ++ [last] ≠ [] by simp)
      rw [hpadded, halone] at ih
      rw [List.cons_append, List.cons_append, tdLambdaTargets_cons hpadded,
        tdLambdaTargets_cons halone, List.length_cons, List.take_succ_cons, List.cons.injEq, ih]
      constructor
      · exact And.right
      · intro hlost
        have hsame := ih.mpr hlost
        rw [List.take_succ_cons, List.cons.injEq] at hsame
        rw [hsame.1]
        exact ⟨rfl, hlost⟩

end Steps

/-! ## Batches -/

/-- The last row of the sequence is the last of the batch, or loses nothing. -/
def PaddedSequence.Whole (gamma tdLambda : K) (sequence : PaddedSequence K) : Prop :=
  sequence.padding = [] ∨ ∀ last ∈ sequence.valid.getLast?, lost gamma tdLambda last = 0

/-- The targets on the valid rows are those of the sequence alone. -/
def PaddedSequence.IgnoresPadding (gamma tdLambda : K) (sequence : PaddedSequence K) : Prop :=
  (tdLambdaTargets gamma tdLambda sequence.rows).take sequence.valid.length
    = tdLambdaTargets gamma tdLambda sequence.valid

theorem ignoresPadding_iff (gamma tdLambda : K) (sequence : PaddedSequence K) :
    sequence.IgnoresPadding gamma tdLambda ↔ sequence.Whole gamma tdLambda := by
  obtain ⟨valid, padding, hvalid, hpadding⟩ := sequence
  unfold PaddedSequence.IgnoresPadding PaddedSequence.Whole PaddedSequence.rows
  dsimp only
  by_cases hne : padding = []
  · subst hne
    have htake : (tdLambdaTargets gamma tdLambda valid).take valid.length
        = tdLambdaTargets gamma tdLambda valid :=
      List.take_of_length_le (length_tdLambdaTargets gamma tdLambda valid).le
    simp [htake]
  · rcases List.eq_nil_or_concat valid with rfl | ⟨before, last, rfl⟩
    · simp [tdLambdaTargets]
    · have hlast : last.mask = 1 := hvalid last (by simp)
      have hiff := take_tdLambdaTargets_iff gamma tdLambda before hlast hpadding hne
      simpa [hne] using hiff

/-- **When the targets ignore padding**, in a batch of sequences `ι`. -/
theorem tdLambdaTargets_iff {ι : Type} (gamma tdLambda : K) (batch : ι → PaddedSequence K) :
    (∀ b, (batch b).IgnoresPadding gamma tdLambda) ↔ ∀ b, (batch b).Whole gamma tdLambda :=
  forall_congr' (fun b => ignoresPadding_iff gamma tdLambda (batch b))

/-- One step that is not the end of its episode, and one padded row. -/
def cutShort : PaddedSequence ℤ where
  valid := [⟨0, 0, 1, 1⟩]
  padding := [⟨0, 0, 0, 0⟩]
  mask_valid := by decide
  mask_padding := by decide

/-- With both parameters one, the sequence alone would bootstrap. -/
theorem not_ignoresPadding_cutShort : ¬ cutShort.IgnoresPadding 1 1 := by
  unfold PaddedSequence.IgnoresPadding
  decide

/-! ## Advantages of a rollout

The policy-gradient learners take `compute_gae_for_sample_batch`. It filters the one-step errors of a
rollout with `scipy.signal.lfilter`, of which only the difference equation is used here. Its value
targets are the targets above, of a sequence without padding (`gae_valueTargets`). -/

namespace Postprocessing

/-- The output of a recursive filter of the first order that starts at rest. -/
structure FirstOrder (c : K) (x y : List K) : Prop where
  length_eq : y.length = x.length
  equation : ∀ n < x.length, y.getD n 0 = x.getD n 0 - c * (if n = 0 then 0 else y.getD (n - 1) 0)

/-- `scipy.signal.lfilter(b, a, x)`. -/
structure Scipy (K : Type) [CommRing K] where
  lfilter : List K → List K → List K → List K
  firstOrder : ∀ (c : K) (x : List K), FirstOrder c x (lfilter [1] [1, c] x)

/-- A rollout of one agent. The column of the predictions may be missing. -/
structure SampleBatch (K : Type) where
  rewards : List K
  dones : List Bool
  vfPreds : Option (List K)
  length_dones : dones.length = rewards.length
  length_vfPreds : ∀ v ∈ vfPreds, v.length = rewards.length

structure Columns (K : Type) where
  advantages : List K
  valueTargets : List K

/-- What `compute_gae_for_sample_batch` reads of the policy. `value` is `policy._value` of the last
step. -/
structure GaePolicy (K : Type) where
  gamma : K
  lambda : K
  useGae : Bool
  useCritic : Bool
  value : SampleBatch K → K

def discountCumsum (scipy : Scipy K) (x : List K) (gamma : K) : List K :=
  (scipy.lfilter [1] [1, -gamma] x.reverse).reverse

/-- `delta_t`, with `vpred_t` for `v` and the value behind it. -/
def deltas (gamma : K) (rewards vpred : List K) : List K :=
  List.zipWith (fun x v => x - v) (List.zipWith (fun r v => r + gamma * v) rewards vpred.tail) vpred

def computeAdvantages (scipy : Scipy K) (rollout : SampleBatch K) (lastR gamma lambda : K)
    (useGae useCritic : Bool) : Except Error (Columns K) :=
  if ¬ (rollout.vfPreds.isSome ∨ ¬ useCritic) then
    .error (.assertionError "use_critic=True but values not found")
  else if ¬ (useCritic ∨ ¬ useGae) then
    .error (.assertionError "Can't use gae without using a value function")
  else
    let vfPreds := rollout.vfPreds.getD []
    if useGae then
      let advantages := discountCumsum scipy (deltas gamma rollout.rewards (vfPreds ++ [lastR]))
        (gamma * lambda)
      .ok ⟨advantages, List.zipWith (· + ·) advantages vfPreds⟩
    else
      let discountedReturns := (discountCumsum scipy (rollout.rewards ++ [lastR]) gamma).dropLast
      if useCritic then .ok ⟨List.zipWith (· - ·) discountedReturns vfPreds, discountedReturns⟩
      else .ok ⟨discountedReturns, discountedReturns.map (fun _ => 0)⟩

def computeGaeForSampleBatch (scipy : Scipy K) (policy : GaePolicy K) (batch : SampleBatch K) :
    Except Error (Columns K) :=
  match batch.dones.getLast? with
  | none => .error (.indexError "index -1 is out of bounds for axis 0 with size 0")
  | some done =>
      -- a trajectory that was cut off goes on with the value of its last observation
      let lastR := if done then 0 else policy.value batch
      computeAdvantages scipy batch lastR policy.gamma policy.lambda policy.useGae policy.useCritic

/-! ### Discounted sums -/

/-- Discounted sums from every entry on. -/
def discounted (gamma : K) : List K → List K
  | [] => []
  | x :: xs => (x + gamma * (discounted gamma xs).headD 0) :: discounted gamma xs

theorem length_discounted (gamma : K) (xs : List K) : (discounted gamma xs).length = xs.length := by
  induction xs with
  | nil => rfl
  | cons x xs ih => rw [discounted, List.length_cons, List.length_cons, ih]

/-- A filter that runs backwards sums up what comes later. -/
theorem FirstOrder.reverse_eq {gamma : K} {xs y : List K} (h : FirstOrder (-gamma) xs.reverse y) :
    y.reverse = discounted gamma xs := by
  induction xs generalizing y with
  | nil => rw [List.eq_nil_of_length_eq_zero h.length_eq]; rfl
  | cons x xs ih =>
      have hlength := h.length_eq
      rw [List.length_reverse, List.length_cons] at hlength
      obtain ⟨before, last, rfl⟩ : ∃ before last, y = before ++ [last] := by
        rcases List.eq_nil_or_concat y with rfl | ⟨before, last, rfl⟩
        · cases hlength
        · exact ⟨before, last, List.concat_eq_append⟩
      have hbefore : before.length = xs.length := by simpa using hlength
      have hrest : FirstOrder (-gamma) xs.reverse before := by
        refine ⟨by rw [hbefore, List.length_reverse], fun n hn => ?_⟩
        rw [List.length_reverse] at hn
        have hat := h.equation n (by rw [List.length_reverse, List.length_cons]; omega)
        rw [List.reverse_cons, List.getD_append _ _ _ _ (by omega),
          List.getD_append _ _ _ _ (by rwa [List.length_reverse]),
          List.getD_append _ _ _ (n - 1) (by omega)] at hat
        exact hat
      have hlast := h.equation xs.length (by simp)
      have hsum := ih hrest
      rw [List.reverse_cons, List.getD_append_right _ _ _ _ (by omega), hbefore, Nat.sub_self,
        List.getD_append_right _ _ _ _ (by simp), List.length_reverse, Nat.sub_self] at hlast
      have hnext : (if xs.length = 0 then 0 else (before ++ [last]).getD (xs.length - 1) 0)
          = (discounted gamma xs).headD 0 := by
        rw [← hsum, List.headD_eq_head?_getD, List.head?_reverse, List.getLast?_eq_getElem?, hbefore]
        split
        · rename_i hzero
          rw [List.eq_nil_of_length_eq_zero (hbefore.trans hzero)]
          rfl
        · rw [List.getD_append _ _ _ _ (by omega), List.getD_eq_getElem?_getD]
      rw [hnext] at hlast
      have hvalue : last = x + gamma * (discounted gamma xs).headD 0 := by
        have hone : last = x - -gamma * (discounted gamma xs).headD 0 := hlast
        rw [hone]
        ring
      rw [List.reverse_append, List.reverse_singleton, List.singleton_append, hsum, discounted, hvalue]

theorem discountCumsum_eq (scipy : Scipy K) (x : List K) (gamma : K) :
    discountCumsum scipy x gamma = discounted gamma x :=
  (scipy.firstOrder (-gamma) x.reverse).reverse_eq

theorem getElem?_discounted (gamma : K) (xs : List K) {t : ℕ} (ht : t < xs.length) :
    (discounted gamma xs)[t]?
      = some (∑ k ∈ Finset.range (xs.length - t), gamma ^ k * xs.getD (t + k) 0) := by
  induction xs generalizing t with
  | nil => exact absurd ht (Nat.not_lt_zero t)
  | cons x xs ih =>
      rw [discounted]
      cases t with
      | succ t =>
          rw [List.getElem?_cons_succ, ih (Nat.lt_of_succ_lt_succ ht), List.length_cons,
            Nat.add_sub_add_right]
          refine congrArg some (Finset.sum_congr rfl (fun k _ => ?_))
          rw [Nat.add_right_comm, List.getD_cons_succ]
      | zero =>
          rw [List.getElem?_cons_zero, List.length_cons, Nat.sub_zero, Finset.sum_range_succ']
          have hrest : (discounted gamma xs).headD 0
              = ∑ k ∈ Finset.range xs.length, gamma ^ k * xs.getD k 0 := by
            cases xs with
            | nil => rfl
            | cons w ws =>
                have hfirst := ih (Nat.succ_pos ws.length)
                rw [Nat.sub_zero] at hfirst
                rw [List.headD_eq_head?_getD, List.head?_eq_getElem?, hfirst]
                refine Finset.sum_congr rfl (fun k _ => ?_)
                rw [Nat.zero_add]
          rw [hrest, Finset.mul_sum, add_comm, pow_zero, one_mul, Nat.zero_add, List.getD_cons_zero]
          refine congrArg some (congrArg (· + x) (Finset.sum_congr rfl (fun k _ => ?_)))
          rw [Nat.zero_add, List.getD_cons_succ, pow_succ]
          ring

/-! ### Value targets -/

/-- What the other learners read of the same steps: the values behind them are given. -/
def tdRows : List K → List Bool → List K → List (TdRow K)
  | reward :: rewards, done :: dones, targetNext :: values =>
      ⟨reward, if done then 1 else 0, 1, targetNext⟩ :: tdRows rewards dones values
  | _, _, _ => []

theorem getD_deltas (gamma : K) {rewards vpred : List K} (h : vpred.length = rewards.length + 1)
    {i : ℕ} (hi : i < rewards.length) : (deltas gamma rewards vpred).getD i 0
      = rewards.getD i 0 + gamma * vpred.getD (i + 1) 0 - vpred.getD i 0 := by
  have htail : vpred.tail[i]? = some vpred[i + 1] := by
    rw [List.getElem?_tail, List.getElem?_eq_getElem (by omega)]
  rw [deltas, List.getD_eq_getElem?_getD, List.getElem?_zipWith, List.getElem?_zipWith, htail,
    List.getElem?_eq_getElem hi, List.getElem?_eq_getElem (by omega), List.getD_eq_getElem _ _ hi,
    List.getD_eq_getElem _ _ (by omega), List.getD_eq_getElem _ _ (by omega)]
  rfl

theorem length_deltas (gamma : K) {rewards vpred : List K} (h : vpred.length = rewards.length + 1) :
    (deltas gamma rewards vpred).length = rewards.length := by
  rw [deltas, List.length_zipWith, List.length_zipWith, List.length_tail, h]
  omega

/-- Advantages and predictions add up to the targets. From the last step backwards: what a step adds
is mixed into the target behind it. -/
theorem targets_eq (gamma lambda lastR value : K) {rewards v : List K} {dones : List Bool}
    (hsome : rewards ≠ []) (hv : v.length = rewards.length) (hdones : dones.length = rewards.length)
    (hgoes : ∀ d ∈ dones.dropLast, d = false)
    (hlastR : ∀ d ∈ dones.getLast?, lastR = if d then 0 else value) :
    List.zipWith (· + ·) (discounted (gamma * lambda) (deltas gamma rewards (v ++ [lastR]))) v
      = tdLambdaTargets gamma lambda (tdRows rewards dones (v.tail ++ [value])) := by
  induction rewards generalizing v dones with
  | nil => exact absurd rfl hsome
  | cons r rewards ih =>
      obtain ⟨v₀, v, rfl⟩ := List.exists_cons_of_length_eq_add_one hv
      obtain ⟨d, dones, rfl⟩ := List.exists_cons_of_length_eq_add_one hdones
      rw [List.length_cons, List.length_cons, Nat.add_right_cancel_iff] at hv hdones
      cases rewards with
      | nil =>
          obtain rfl := List.eq_nil_of_length_eq_zero hv
          obtain rfl := List.eq_nil_of_length_eq_zero hdones
          have hlast := hlastR d rfl
          show [r + gamma * lastR - v₀ + gamma * lambda * 0 + v₀]
            = [(r + gamma * (1 - if d then 1 else 0) * value) * 1]
          rw [hlast]
          cases d with
          | true => simp
          | false => simp
      | cons r' rewards =>
          obtain ⟨v₁, v, rfl⟩ := List.exists_cons_of_length_eq_add_one hv
          obtain ⟨d', dones, rfl⟩ := List.exists_cons_of_length_eq_add_one hdones
          have hd : d = false := hgoes d List.mem_cons_self
          have hrest := ih (List.cons_ne_nil r' rewards) hv hdones
            (fun e he => hgoes e (List.mem_cons_of_mem d he)) hlastR
          obtain ⟨a, as, has⟩ : ∃ a as, discounted (gamma * lambda)
              (deltas gamma (r' :: rewards) (v₁ :: v ++ [lastR])) = a :: as := by
            refine List.exists_cons_of_ne_nil (List.ne_nil_of_length_pos ?_)
            rw [length_discounted, length_deltas gamma (by simpa using hv)]
            exact Nat.succ_pos _
          have hbehind : tdLambdaTargets gamma lambda
              (tdRows (r' :: rewards) (d' :: dones) (v ++ [value]))
              = (a + v₁) :: List.zipWith (· + ·) as v := by
            rw [has] at hrest
            exact hrest.symm
          show List.zipWith (· + ·) (discounted (gamma * lambda)
              ((r + gamma * v₁ - v₀) :: deltas gamma (r' :: rewards) (v₁ :: v ++ [lastR])))
              (v₀ :: v₁ :: v)
            = tdLambdaTargets gamma lambda
              (⟨r, if d then 1 else 0, 1, v₁⟩ :: tdRows (r' :: rewards) (d' :: dones) (v ++ [value]))
          rw [discounted, has, tdLambdaTargets_cons hbehind, hd]
          unfold TdRow.oneStep TdRow.recursive
          show (r + gamma * v₁ - v₀ + gamma * lambda * a + v₀) :: _ = _ :: _
          rw [if_neg Bool.false_ne_true]
          congr 1
          ring

/-- Without mixing, advantages and predictions add up to the discounted rewards. -/
theorem discounted_concat (gamma lastR : K) {rewards v : List K} (hv : v.length = rewards.length) :
    discounted gamma (rewards ++ [lastR])
      = List.zipWith (· + ·) (discounted gamma (deltas gamma rewards (v ++ [lastR]))) v ++ [lastR] := by
  induction rewards generalizing v with
  | nil =>
      obtain rfl := List.eq_nil_of_length_eq_zero hv
      show [lastR + gamma * 0] = [lastR]
      rw [mul_zero, add_zero]
  | cons r rewards ih =>
      obtain ⟨v₀, v, rfl⟩ := List.exists_cons_of_length_eq_add_one hv
      rw [List.length_cons, List.length_cons, Nat.add_right_cancel_iff] at hv
      have hrest := ih hv
      rw [List.cons_append, discounted, hrest]
      cases v with
      | nil =>
          obtain rfl := List.eq_nil_of_length_eq_zero hv.symm
          show [r + gamma * lastR, lastR] = [r + gamma * lastR - v₀ + gamma * 0 + v₀, lastR]
          congr 1
          ring
      | cons v₁ v =>
          obtain ⟨r', rewards, rfl⟩ := List.exists_cons_of_length_eq_add_one hv.symm
          obtain ⟨a, as, has⟩ : ∃ a as, discounted gamma
              (deltas gamma (r' :: rewards) (v₁ :: v ++ [lastR])) = a :: as := by
            refine List.exists_cons_of_ne_nil (List.ne_nil_of_length_pos ?_)
            rw [length_discounted, length_deltas gamma (by simpa using hv)]
            exact Nat.succ_pos _
          show (r + gamma * (List.zipWith (· + ·) (discounted gamma
              (deltas gamma (r' :: rewards) (v₁ :: v ++ [lastR]))) (v₁ :: v) ++ [lastR]).headD 0) :: _
            = List.zipWith (· + ·) (discounted gamma
              ((r + gamma * v₁ - v₀) :: deltas gamma (r' :: rewards) (v₁ :: v ++ [lastR])))
              (v₀ :: v₁ :: v) ++ [lastR]
          rw [discounted, has]
          show (r + gamma * (a + v₁)) :: _ = (r + gamma * v₁ - v₀ + gamma * a + v₀) :: _
          congr 1
          ring

theorem zipWith_sub_add {as vs : List K} (h : as.length = vs.length) :
    List.zipWith (· - ·) (List.zipWith (· + ·) as vs) vs = as := by
  induction as generalizing vs with
  | nil => rfl
  | cons a as ih =>
      obtain ⟨v, vs, rfl⟩ := List.exists_cons_of_length_eq_add_one h.symm
      rw [List.zipWith_cons_cons, List.zipWith_cons_cons, ih (Nat.succ.inj h), add_sub_cancel_right]

/-- **Both kinds of learners have the same targets.** On a trajectory, complete or cut off, the value
targets of `compute_gae_for_sample_batch` are those of `td_lambda_targets` with the values as the
bootstrapped ones, and the advantages are the errors of the predictions, sums of one-step errors
discounted by both parameters. Without mixing it is the same as with `use_gae` off. -/
theorem gae_valueTargets (scipy : Scipy K) {policy : GaePolicy K} {batch : SampleBatch K} {v : List K}
    (hgae : policy.useGae = true) (hcritic : policy.useCritic = true) (hv : batch.vfPreds = some v)
    (hsome : batch.rewards ≠ []) (hgoes : ∀ d ∈ batch.dones.dropLast, d = false) :
    ∃ out lastR, computeGaeForSampleBatch scipy policy batch = .ok out
      ∧ (∀ d ∈ batch.dones.getLast?, lastR = if d then 0 else policy.value batch)
      ∧ out.valueTargets = tdLambdaTargets policy.gamma policy.lambda
          (tdRows batch.rewards batch.dones (v.tail ++ [policy.value batch]))
      ∧ out.advantages = List.zipWith (· - ·) out.valueTargets v
      ∧ (∀ t < batch.rewards.length, out.advantages[t]?
          = some (∑ k ∈ Finset.range (batch.rewards.length - t), (policy.gamma * policy.lambda) ^ k
            * (batch.rewards.getD (t + k) 0 + policy.gamma * (v ++ [lastR]).getD (t + k + 1) 0
              - v.getD (t + k) 0)))
      ∧ (policy.lambda = 1 →
          computeGaeForSampleBatch scipy { policy with useGae := false } batch = .ok out) := by
  have hlength := batch.length_vfPreds v hv
  have hdones : batch.dones ≠ [] :=
    List.ne_nil_of_length_pos (batch.length_dones ▸ List.length_pos_of_ne_nil hsome)
  obtain ⟨d, hd⟩ : ∃ d, batch.dones.getLast? = some d :=
    ⟨_, List.getLast?_eq_some_getLast hdones⟩
  let lastR := if d then 0 else policy.value batch
  have hlastR : ∀ e ∈ batch.dones.getLast?, lastR = if e then 0 else policy.value batch := by
    intro e he
    rw [hd] at he
    cases he
    rfl
  let advantages := discounted (policy.gamma * policy.lambda)
    (deltas policy.gamma batch.rewards (v ++ [lastR]))
  have hdeltas : (deltas policy.gamma batch.rewards (v ++ [lastR])).length = batch.rewards.length :=
    length_deltas policy.gamma (by rw [List.length_append, hlength]; rfl)
  have hadvantages : advantages.length = v.length := by
    rw [length_discounted, hdeltas, hlength]
  refine ⟨⟨advantages, List.zipWith (· + ·) advantages v⟩, lastR, ?_, hlastR, ?_, ?_, ?_, ?_⟩
  · rw [computeGaeForSampleBatch, hd]
    show computeAdvantages _ _ lastR _ _ _ _ = _
    rw [computeAdvantages, hgae, hcritic, hv]
    simp only [discountCumsum_eq]
    rfl
  · exact targets_eq policy.gamma policy.lambda lastR (policy.value batch) hsome hlength
      batch.length_dones hgoes hlastR
  · exact (zipWith_sub_add hadvantages).symm
  · intro t ht
    have hsum := getElem?_discounted (policy.gamma * policy.lambda) _ (hdeltas.symm ▸ ht)
    rw [hdeltas] at hsum
    refine hsum.trans (congrArg some (Finset.sum_congr rfl (fun k hk => ?_)))
    have hk := Finset.mem_range.mp hk
    rw [getD_deltas policy.gamma (by rw [List.length_append, hlength]; rfl) (by omega),
      List.getD_append v _ _ (t + k) (by omega)]
  · intro hone
    rw [computeGaeForSampleBatch, hd]
    show computeAdvantages _ _ lastR _ _ _ _ = _
    rw [computeAdvantages, hcritic, hv]
    have hreturns : (discounted policy.gamma (batch.rewards ++ [lastR])).dropLast
        = List.zipWith (· + ·) advantages v := by
      rw [discounted_concat policy.gamma lastR hlength, List.dropLast_concat]
      show _ = List.zipWith (· + ·) (discounted (policy.gamma * policy.lambda) _) v
      rw [hone, mul_one]
    simp only [discountCumsum_eq]
    show Except.ok (Columns.mk (List.zipWith (· - ·)
      (discounted policy.gamma (batch.rewards ++ [lastR])).dropLast v)
      (discounted policy.gamma (batch.rewards ++ [lastR])).dropLast) = _
    rw [hreturns, zipWith_sub_add hadvantages]

/-- A filter of the first order, one entry after the other. -/
def directForm (c : ℤ) (before : ℤ) : List ℤ → List ℤ
  | [] => []
  | x :: xs => (x - c * before) :: directForm c (x - c * before) xs

theorem directForm_equation (c before : ℤ) (x : List ℤ) :
    (directForm c before x).length = x.length
      ∧ ∀ n < x.length, (directForm c before x).getD n 0
        = x.getD n 0 - c * (if n = 0 then before else (directForm c before x).getD (n - 1) 0) := by
  induction x generalizing before with
  | nil => exact ⟨rfl, fun n hn => absurd hn (Nat.not_lt_zero n)⟩
  | cons x xs ih =>
      obtain ⟨hlength, hequation⟩ := ih (x - c * before)
      refine ⟨congrArg (· + 1) hlength, fun n hn => ?_⟩
      rw [directForm]
      cases n with
      | zero => rfl
      | succ n =>
          rw [List.getD_cons_succ, List.getD_cons_succ, hequation n (Nat.lt_of_succ_lt_succ hn),
            if_neg (Nat.succ_ne_zero n), Nat.succ_sub_one]
          cases n with
          | zero => rfl
          | succ n => rfl

def integers : Scipy ℤ where
  lfilter _ a x := directForm (a.getD 1 0) 0 x
  firstOrder c x := ⟨(directForm_equation c 0 x).1, (directForm_equation c 0 x).2⟩

/-- A rollout of two steps that is cut off. -/
def twoSteps : SampleBatch ℤ := ⟨[1, 2], [false, false], some [3, 4], rfl, by simp⟩

theorem gae_valueTargets_twoSteps :
    ∃ (out : Columns ℤ) (lastR : ℤ),
      computeGaeForSampleBatch integers ⟨1, 1, true, true, fun _ => 5⟩ twoSteps = .ok out
      ∧ (∀ d ∈ twoSteps.dones.getLast?, lastR = if d then 0 else 5)
      ∧ out.valueTargets = tdLambdaTargets 1 1 (tdRows [1, 2] [false, false] [4, 5])
      ∧ out.advantages = List.zipWith (· - ·) out.valueTargets [3, 4]
      ∧ computeGaeForSampleBatch integers ⟨1, 1, false, true, fun _ => 5⟩ twoSteps = .ok out := by
  obtain ⟨out, lastR, hout, hlast, htargets, hadvantages, -, hone⟩ := gae_valueTargets integers
    (rfl : (⟨1, 1, true, true, fun _ => 5⟩ : GaePolicy ℤ).useGae = true) rfl
    (rfl : twoSteps.vfPreds = some [3, 4]) (by decide) (by decide)
  exact ⟨out, lastR, hout, hlast, htargets, hadvantages, hone rfl⟩

end Postprocessing

end Mate.Rllib
