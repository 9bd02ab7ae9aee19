import Mate.Library.Layout
import Mate.Library.Numerals
import Mathlib.Data.Real.Basic

set_option autoImplicit false

/-! # The observations of centralised training

`RLlibMultiAgentCentralizedTraining` gives every agent a dictionary, and RLlib's preprocessor
writes its values one after the other into a flat vector (`transform_eq_flatten`). The
centralised models cut this vector again, at the cumulative sums of the same sizes
(`flatObsSlice_eq`).
-/

namespace Mate.Rllib

open Layout

/-! ## Spaces and their flat sizes -/

/-- The spaces of gym, and the `Repeated` of RLlib. -/
inductive GymSpace
  | box (shape : List ℕ)
  | discrete (n : ℕ)
  | multiDiscrete (nvec : List ℕ)
  | multiBinary (n : ℕ)
  | tuple (spaces : List GymSpace)
  | dict (keys : List String) (spaces : List GymSpace)
  | repeated (child : GymSpace) (maxLen : ℕ)

def ATARI_OBS_SHAPE : List ℕ := [210, 160, 3]

namespace GymSpace

mutual

/-- `get_space_flat_size`: the size of the preprocessor of the space. -/
def flatSize : GymSpace → ℕ
  -- images are downsampled to `dim` by `dim` in three colours
  | box shape => if shape = ATARI_OBS_SHAPE then 84 * 84 * 3 else shape.prod
  | discrete n => n
  | multiDiscrete nvec => nvec.sum
  | multiBinary n => n
  | tuple spaces => flatSizes spaces
  | dict _ spaces => flatSizes spaces
  -- the first column holds the length of the list
  | repeated child maxLen => 1 + child.flatSize * maxLen

def flatSizes : List GymSpace → ℕ
  | [] => 0
  | space :: spaces => space.flatSize + flatSizes spaces

end

theorem flatSizes_eq (spaces : List GymSpace) : flatSizes spaces = (spaces.map flatSize).sum := by
  induction spaces with
  | nil => rfl
  | cons space spaces ih => rw [flatSizes, ih, List.map_cons, List.sum_cons]

end GymSpace

/-! ## The preprocessor -/

/-- `array[offset : offset + len(values)] = values`. -/
def assign (offset : ℕ) (values array : List ℝ) : List ℝ :=
  array.take offset ++ values ++ array.drop (offset + values.length)

/-- `DictFlatteningPreprocessor.write`: what the sub-preprocessors transform the values to is
written at a running offset. -/
def writeFields : List (List ℝ) → ℕ → List ℝ → List ℝ
  | [], _, array => array
  | field :: fields, offset, array =>
      writeFields fields (offset + field.length) (assign offset field array)

/-- `DictFlatteningPreprocessor.transform` into an array of the size of the preprocessor. -/
def transform (size : ℕ) (fields : List (List ℝ)) : List ℝ :=
  writeFields fields 0 (List.replicate size 0)

theorem length_assign {offset : ℕ} {values array : List ℝ}
    (h : offset + values.length ≤ array.length) :
    (assign offset values array).length = array.length := by
  simp [assign]
  omega

theorem writeFields_eq (fields : List (List ℝ)) (offset : ℕ) (array : List ℝ)
    (h : offset + fields.flatten.length ≤ array.length) :
    writeFields fields offset array
      = array.take offset ++ fields.flatten ++ array.drop (offset + fields.flatten.length) := by
  induction fields generalizing offset array with
  | nil => simp [writeFields]
  | cons field fields ih =>
      rw [List.flatten_cons, List.length_append] at h
      have hlength : (assign offset field array).length = array.length :=
        length_assign (by omega)
      have htake : (assign offset field array).take (offset + field.length)
          = array.take offset ++ field := by
        rw [assign, List.take_left']
        rw [List.length_append, List.length_take, min_eq_left (by omega)]
      have hdrop : (assign offset field array).drop (offset + field.length + fields.flatten.length)
          = array.drop (offset + field.length + fields.flatten.length) := by
        have hfront : (array.take offset ++ field).length = offset + field.length := by
          rw [List.length_append, List.length_take, min_eq_left (by omega)]
        rw [assign, ← List.drop_drop, List.drop_left' hfront, List.drop_drop]
      rw [writeFields, ih _ _ (by omega), htake, hdrop, List.flatten_cons, List.length_append,
        List.append_assoc, List.append_assoc, List.append_assoc, List.append_assoc, Nat.add_assoc]

/-- The flat observation is the concatenation of the fields. -/
theorem transform_eq_flatten {size : ℕ} {fields : List (List ℝ)}
    (h : (fields.map List.length).sum = size) : transform size fields = fields.flatten := by
  have hlength : fields.flatten.length = size := by rw [List.length_flatten, h]
  rw [transform, writeFields_eq _ _ _ (by rw [List.length_replicate]; omega), List.take_zero,
    List.nil_append, List.drop_of_length_le (by rw [List.length_replicate]; omega), List.append_nil]

/-! ## The wrapper -/

/-- An environment as the wrapper finds it, with the options of its constructor. -/
structure CentralizedTraining where
  numTeammates : ℕ
  observationSpace : GymSpace
  stateSpace : GymSpace
  actionSpace : GymSpace
  /-- `env.action_mask_space` if `add_action_mask` is on -/
  actionMaskSpace : Option GymSpace
  addJointObservation : Bool

namespace CentralizedTraining

variable (env : CentralizedTraining)

def othersJointActionSpace : GymSpace :=
  .tuple (List.replicate (env.numTeammates - 1) env.actionSpace)

def othersJointObservationSpace : GymSpace :=
  .tuple (List.replicate (env.numTeammates - 1) env.observationSpace)

/-- The items of the ordered dictionary `subspaces`. -/
def subspaces : List (String × GymSpace) :=
  [("obs", env.observationSpace), ("state", env.stateSpace),
    ("prev_others_joint_action", env.othersJointActionSpace)]
  ++ (env.actionMaskSpace.map (fun space => ("action_mask", space))).toList
  ++ (if env.addJointObservation then
        [("others_joint_observation", env.othersJointObservationSpace)] else [])

/-- `observation_space`, a dictionary that keeps this order. -/
def space : GymSpace := .dict (env.subspaces.map Prod.fst) (env.subspaces.map Prod.snd)

/-- The sizes of the fields, in their order. -/
def spaceDims : List ℕ := env.subspaces.map (fun item => item.2.flatSize)

def flatObsDim : ℕ := env.space.flatSize

theorem flatObsDim_eq : env.flatObsDim = env.spaceDims.sum := by
  rw [flatObsDim, space, GymSpace.flatSize, GymSpace.flatSizes_eq, List.map_map, spaceDims]
  rfl

/-- The position of a key among the items. -/
def keyIndex (key : String) : ℕ := (env.subspaces.map Prod.fst).idxOf key

/-- Columns `start` up to, and without, `stop`. -/
abbrev Columns : Type := ℕ × ℕ

/-- The columns that the preprocessor writes for a key: its offset is the sum of the sizes before
it. -/
def writtenColumns (key : String) : Columns :=
  (offset env.spaceDims (env.keyIndex key), offset env.spaceDims (env.keyIndex key + 1))

/-- `np.cumsum`. -/
def npCumsum (l : List ℕ) : List ℕ := (List.range l.length).map (fun i => (l.take (i + 1)).sum)

/-- `flat_obs_slices[key]` of the centralised models. -/
def flatObsSlice (key : String) : Columns :=
  let indices := npCumsum (0 :: env.spaceDims)
  (indices.getD (env.keyIndex key) 0, indices.getD (env.keyIndex key + 1) 0)

theorem getD_npCumsum (dims : List ℕ) {i : ℕ} (hi : i ≤ dims.length) :
    (npCumsum (0 :: dims)).getD i 0 = offset dims i := by
  rw [npCumsum, List.getD_eq_getElem?_getD, List.getElem?_map,
    List.getElem?_range (by rw [List.length_cons]; omega)]
  show ((0 :: dims).take (i + 1)).sum = offset dims i
  rw [List.take_succ_cons, List.sum_cons, Nat.zero_add]
  rfl

/-- **The models cut where the preprocessor writes.** -/
theorem flatObsSlice_eq {key : String} (h : key ∈ env.subspaces.map Prod.fst) :
    env.flatObsSlice key = env.writtenColumns key := by
  have hlt : env.keyIndex key < env.spaceDims.length := by
    have hidx := List.idxOf_lt_length_iff.mpr h
    rw [List.length_map] at hidx
    rwa [keyIndex, spaceDims, List.length_map]
  rw [flatObsSlice, writtenColumns, getD_npCumsum _ hlt.le, getD_npCumsum _ hlt]

end CentralizedTraining

end Mate.Rllib
