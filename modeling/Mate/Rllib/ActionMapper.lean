import Mate.Library.MixedRadix
import Mate.Library.NdArray
import Mate.Spaces
import Mathlib.Data.List.Infix

set_option autoImplicit false

/-! # Multi-discrete actions as numbers

`HierarchicalCamera` takes a bit for every target, and `MultiDiscrete2DiscreteActionMapper` numbers
such selections, or the actions of any `MultiDiscrete` space. The numbers are NumPy integers, which
have 64 bits.
-/

namespace Mate.Rllib

open NdArrays

/-! ## Integers of NumPy -/

/-- What is left of a number in `np.int64`. -/
def int64 (x : ℤ) : ℤ := Int.bmod x (2 ^ 64)

/-- `np.prod`. -/
def npProd (l : List ℤ) : ℤ := int64 l.prod

/-- `np.cumprod`. -/
def npCumprod (l : List ℤ) : List ℤ := l.inits.tail.map npProd

/-- `//` rounds down; division by zero only warns, and gives zero. -/
def npFloorDivide (a s : ℤ) : ℤ := if s = 0 then 0 else int64 (Int.fdiv a s)

/-- `%`. -/
def npRemainder (a s : ℤ) : ℤ := if s = 0 then 0 else Int.fmod a s

/-! ## Spaces -/

/-- `spaces.Discrete(n)`. -/
structure Discrete where
  n : ℤ
  nonneg : 0 ≤ n

def Discrete.contains (self : Discrete) (x : ℤ) : Bool := decide (0 ≤ x ∧ x < self.n)

/-- `spaces.MultiDiscrete(nvec)`, with an `nvec` of any shape. -/
structure MultiDiscrete where
  nvec : NdArray ℤ
  pos : ∀ x ∈ nvec.data, (0 : ℤ) < x

/-- `contains`, for an array of the shape of the space. -/
def MultiDiscrete.contains (self : MultiDiscrete) (x : List ℤ) : Bool :=
  decide (List.Forall₂ (fun n digit => 0 ≤ digit ∧ digit < n) self.nvec.data x)

/-! ## The mapper -/

structure MultiDiscrete2DiscreteActionMapper where
  originalSpace : MultiDiscrete
  space : Discrete
  strides : List ℤ

namespace MultiDiscrete2DiscreteActionMapper

def init (originalSpace : MultiDiscrete) : Except Error MultiDiscrete2DiscreteActionMapper :=
  let nvec := originalSpace.nvec.data
  if nonneg : 0 ≤ npProd nvec then
    .ok {
      originalSpace
      space := ⟨npProd nvec, nonneg⟩
      strides := (npCumprod nvec.reverse).reverse.tail ++ [1] }
  else .error (.assertionError "")

/-- The loop over the strides, for one entry of the batch. -/
def divideBy : List ℤ → ℤ → List ℤ
  | [], _ => []
  | s :: strides, a => npFloorDivide a s :: divideBy strides (npRemainder a s)

theorem length_divideBy (strides : List ℤ) (a : ℤ) :
    (divideBy strides a).length = strides.length := by
  induction strides generalizing a with
  | nil => rfl
  | cons s strides ih => exact congrArg (· + 1) (ih _)

def reshapeError : Error := .valueError "cannot reshape array"

def orReshapeError (x : Option (NdArray ℤ)) : Except Error (NdArray ℤ) :=
  match x with
  | some x => .ok x
  | none => .error reshapeError

/-- `np.stack(multi_discrete_action_batch, axis=-1)`. -/
def stacked (self : MultiDiscrete2DiscreteActionMapper) (batch : List ℤ) : NdArray ℤ :=
  NdArray.stack self.strides.length (batch.map (divideBy self.strides)) (by
    intro row hrow
    obtain ⟨a, -, rfl⟩ := List.mem_map.mp hrow
    exact length_divideBy self.strides a)

def multiDiscreteActionBatched (self : MultiDiscrete2DiscreteActionMapper)
    (discreteActionBatch : List ℤ) (strict : Bool) : Except Error (NdArray ℤ) :=
  if strict && discreteActionBatch.any (fun a => !self.space.contains a) then
    .error (.assertionError "Discrete action outside given discrete action space.")
  else orReshapeError
    ((self.stacked discreteActionBatch).reshapeFront self.originalSpace.nvec.shape)

/-- `(self.strides[np.newaxis, :] * multi_discrete_action_batch).sum(axis=-1)`, for one row. There
are as many strides as entries, except that an empty row has one stride, and the sum is zero. -/
def dotStrides (self : MultiDiscrete2DiscreteActionMapper) (row : List ℤ) : ℤ :=
  int64 (MixedRadix.value self.strides row)

def discreteActionBatched (self : MultiDiscrete2DiscreteActionMapper)
    (multiDiscreteActionBatch : NdArray ℤ) (strict : Bool) : Except Error (List ℤ) :=
  match multiDiscreteActionBatch.shape with
  | [] => .error (.typeError "iteration over a 0-d array")
  | batchSize :: shape =>
      if shape ≠ self.originalSpace.nvec.shape then .error (.assertionError "")
      else if strict && multiDiscreteActionBatch.rows.any (fun x => !self.originalSpace.contains x) then
        .error
          (.assertionError "Multi-discrete action outside given multi-discrete action space.")
      else do
        let batch ← orReshapeError (multiDiscreteActionBatch.reshapeBack batchSize)
        return batch.rows.map self.dotStrides

/-! ### Masks -/

/-- `np.sum(self.nvec)`, the number of entries of a mask. -/
def maskSize (self : MultiDiscrete2DiscreteActionMapper) : ℕ :=
  self.originalSpace.nvec.data.sum.toNat

/-- `np.cumsum([0, *self.nvec.ravel()[:-1]])`. -/
def offsets (self : MultiDiscrete2DiscreteActionMapper) : List ℤ :=
  ((0 :: self.originalSpace.nvec.data.dropLast).inits.tail).map List.sum

/-- A row of `size` zeros with ones at the indices. -/
def markRow (size : ℕ) (indices : List ℤ) : Except Error (List Bool) :=
  if ∀ index ∈ indices, -(size : ℤ) ≤ index ∧ index < size then
    .ok ((List.range size).map (fun k : ℕ => decide (∃ index ∈ indices, index = k ∨ index + size = k)))
  else .error (.indexError "index is out of bounds for axis 1")

/-- `mask_table`, whose rows belong to the discrete actions. -/
def maskTable (self : MultiDiscrete2DiscreteActionMapper) : Except Error (List (List Bool)) := do
  let n := self.space.n.toNat
  let allMultiDiscreteActions ←
    self.multiDiscreteActionBatched ((List.range n).map (fun a : ℕ => (a : ℤ))) false
  let actions ← orReshapeError (allMultiDiscreteActions.reshapeBack n)
  actions.rows.mapM (fun row => markRow self.maskSize (List.zipWith (· + ·) row self.offsets))

def discreteActionMask (self : MultiDiscrete2DiscreteActionMapper)
    (multiDiscreteActionMask : List Bool) : Except Error (List Bool) :=
  if multiDiscreteActionMask.length ≠ self.maskSize then
    .error (.assertionError "Multi-discrete action mask outside given Multi-discrete action mask space.")
  else do
    let table ← self.maskTable
    return table.map (fun row =>
      (List.zipWith (fun allowed marked => !marked || allowed) multiDiscreteActionMask row).all id)

end MultiDiscrete2DiscreteActionMapper

/-! ## Cameras that select -/

/-- `HierarchicalCamera.action_mask`: the mask of an observation of a camera. -/
noncomputable def HierarchicalCamera.actionMask (multiSelection : Bool) (targetViewMaskSlice : Slice)
    (observation : List ℝ) : List Bool :=
  let targetViewMask := (targetViewMaskSlice.read observation).map (fun x => decide (x ≠ 0))
  if multiSelection then
    (targetViewMask.flatMap (List.replicate 2)).mapIdx
      (fun index seen => if index % 2 = 0 then true else seen)
  else targetViewMask ++ [true]

/-- `spaces.MultiDiscrete((2,) * num_targets)`. -/
def HierarchicalCamera.selectionSpace (numTargets : ℕ) : MultiDiscrete where
  nvec := ⟨[numTargets], List.replicate numTargets 2, by
    rw [List.length_replicate, List.prod_singleton]⟩
  pos := by
    intro x hx
    rw [List.eq_of_mem_replicate hx]
    decide

/-- `DiscreteMultiSelection.action_mask`. -/
noncomputable def DiscreteMultiSelection.actionMask (numCameras numTargets numObstacles : ℕ)
    (actionMapper : MultiDiscrete2DiscreteActionMapper) (observation : List ℝ) :
    Except Error (List Bool) :=
  actionMapper.discreteActionMask (HierarchicalCamera.actionMask true
    (cameraObservationSlicesOf numCameras numTargets numObstacles).opponentMask observation)

end Mate.Rllib
