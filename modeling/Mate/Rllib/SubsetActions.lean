import Mate.Library.Fallible
import Mate.Rllib.ActionMapper
import Mathlib.Data.Int.Bitwise

set_option autoImplicit false

/-! # Subsets of targets in the learners

A discrete action of a camera is a set of targets, with the first target as the most significant bit.
The critic of FOCUS tabulates the bits of all actions, and the QPLEX learner decodes the actions of a
batch.
-/

namespace Mate.Rllib

open Fallible

/-! ## Tensors of PyTorch

A tensor is a function of its index, except for the tables. Bits are converted to floats exactly.
-/

/-- `torch.arange(stop, dtype=torch.long)`. -/
def torchArange (stop : ℤ) : Except Error (List ℤ) :=
  if 2 ^ 63 ≤ stop then
    .error (.runtimeError "value cannot be converted to type int64_t without overflow")
  else if stop < 0 then
    .error (.runtimeError "upper bound and larger bound inconsistent with step sign")
  else .ok ((List.range stop.toNat).map (fun k : ℕ => (k : ℤ)))

/-- `//` of a tensor and an integer of Python. -/
def torchFloorDivide {ι : Type} (x : ι → ℤ) (divisor : ℤ) : Except Error (ι → ℤ) :=
  if 2 ^ 63 ≤ divisor then .error (.runtimeError "Overflow when unpacking long")
  else .ok (fun i => Int.fdiv (x i) divisor)

/-- `torch.stack(tensors, dim=-1)`. -/
def torchStack {ι : Type} (tensors : List (ι → ℤ)) : Except Error (ι → List ℤ) :=
  if tensors = [] then .error (.runtimeError "stack expects a non-empty TensorList")
  else .ok (fun i => tensors.map (fun x => x i))

/-! ## The decoders -/

/-- `subset_action_matrix`. -/
def subsetActionMatrix (nActions : ℤ) (nTargets : ℕ) : Except Error (List (List ℤ)) :=
  if nActions ≠ 2 ^ nTargets then
    .error (.valueError "FOCUS action credit requires the target-subset action space")
  else do
    let actions ← torchArange nActions
    let shifts := (List.range nTargets).map (fun j : ℕ => nTargets - 1 - j)
    return actions.map (fun a : ℤ => shifts.map (fun shift : ℕ => Int.land (a >>> shift) 1))

/-- `QPLEXFocusLoss._decode_target_selection`. -/
def decodeTargetSelection {ι : Type} (useActionSelection : Bool) (nActions : ℤ) (actions : ι → ℤ)
    (nTargets : ℕ) : Except Error (Option (ι → List ℤ)) :=
  if !useActionSelection then .ok none
  else if nActions ≠ 2 ^ nTargets then .ok none
  else do
    let bits ← (List.range nTargets).mapM (fun j => do
      let shift := nTargets - 1 - j
      let quotient ← torchFloorDivide actions (2 ^ shift)
      return fun i => Int.fmod (quotient i) 2)
    let selection ← torchStack bits
    return some selection

/-! ## Rows of the table -/

/-- The bits of an action, with the first target in front. -/
def targetBits (n : ℕ) (a : ℤ) : List ℤ :=
  (List.range n).map (fun j : ℕ => a / 2 ^ (n - 1 - j) % 2)

theorem land_one {a : ℤ} (h : 0 ≤ a) : Int.land a 1 = a % 2 := by
  obtain ⟨m, rfl⟩ := Int.eq_ofNat_of_zero_le h
  have hland : Int.land (m : ℤ) 1 = ((m &&& 1 : ℕ) : ℤ) := rfl
  rw [hland, Nat.and_one_is_mod]
  rfl

theorem subsetActionMatrix_eq {n : ℕ} (h : n < 63) :
    ∃ matrix, subsetActionMatrix (2 ^ n) n = .ok matrix ∧
      ∀ a : ℤ, 0 ≤ a → a < 2 ^ n → matrix[a.toNat]? = some (targetBits n a) := by
  have hpow : (2 : ℤ) ^ n < 2 ^ 63 := pow_lt_pow_right₀ (by decide) h
  have hnonneg : (0 : ℤ) ≤ 2 ^ n := by positivity
  have harange : torchArange (2 ^ n)
      = .ok ((List.range ((2 : ℤ) ^ n).toNat).map (fun k : ℕ => (k : ℤ))) := by
    rw [torchArange, if_neg (not_le.mpr hpow), if_neg (not_lt.mpr hnonneg)]
  refine ⟨_, (if_neg (not_not_intro rfl)).trans (bind_eq_ok.mpr ⟨_, harange, rfl⟩), ?_⟩
  intro a ha hlt
  have hindex : a.toNat < ((2 : ℤ) ^ n).toNat := by omega
  rw [List.getElem?_map, List.getElem?_map, List.getElem?_range hindex, Option.map_some,
    Option.map_some, Int.toNat_of_nonneg ha, List.map_map]
  refine congrArg some (List.map_congr_left (fun j _ => ?_))
  have hshift : a >>> (n - 1 - j) = a / 2 ^ (n - 1 - j) := by
    rw [Int.shiftRight_eq_div_pow]
    push_cast
    rfl
  rw [Function.comp, hshift, land_one (Int.ediv_nonneg ha (by positivity))]

end Mate.Rllib
