import Mate.ConfigValues
import Mate.Constants

set_option autoImplicit false

/-! # Reading a configuration

`read_config` updates a mapping with keyword arguments, validates it and converts the ranges of its
sections. All of this is done by passes over the entries of dictionaries. The default values of a
section are filled in before a missing section is created, so a second reading changes the result
of the first one exactly when there was no section `camera`.
-/

namespace Mate

open NdArrays Dicts Fallible

/-! ## Updating -/

mutual

/-- The value of a key that had the value `old` before. -/
def overridden (old : Option Value) : Value → Value
  | .mapping d₂ =>
      match old with
      | some (.mapping d₁) => .mapping (deepUpdate d₁ d₂)
      | _ => .mapping d₂
  | value => value

/-- `_deep_update`. -/
def deepUpdate (d₁ : Mapping) : Mapping → Mapping
  | ⟨entries⟩ => updateEntries d₁ entries

def updateEntries (d₁ : Mapping) : List (String × Value) → Mapping
  | [] => d₁
  | e :: rest => updateEntries (updateEntry d₁ e) rest

def updateEntry (d₁ : Mapping) : String × Value → Mapping
  | (key, value) => d₁.set key (overridden (d₁.get? key) value)

end

/-! ## Validation -/

/-- A key that is set to its default when it is missing, and checked then. -/
def withDefault (default : Value) (check : Value → Except Error Value) (value : Option Value) :
    Except Error (Option Value) := do
  let value ← check (value.getD default)
  return some value

def required (message : String) (check : Value → Except Error Value) :
    Option Value → Except Error (Option Value)
  | none => .error (.valueError message)
  | some value => do
      let value ← check value
      return some value

def whenPresent (f : Value → Except Error Value) : Option Value → Except Error (Option Value)
  | none => .ok none
  | some value => do
      let value ← f value
      return some value

/-- Raise unless the condition holds. -/
def accept (condition : Value → Except Error Bool) (message : String) (value : Value) :
    Except Error Value := do
  if ← condition value then return value else .error (.valueError message)

def positiveSteps : Value → Except Error Value :=
  accept (fun value => do
    let nonpositive ← value.compare (fun x => x.le (.finite 0))
    return !nonpositive) "`max_episode_steps` must be a positive integer."

def rewardType : Value → Except Error Value :=
  accept (fun value => .ok (match value with
    | .text s => s == "dense" || s == "sparse"
    | _ => false)) "Invalid reward type. Expect one of ('dense', 'sparse')"

/-- `len(target.get('location', [])) + len(target.get('location_random_range', []))`. -/
def numTargets (target : Mapping) : Except Error ℕ := do
  let fixed ← ((target.get? "location").getD (.sequence [])).len
  let random ← ((target.get? "location_random_range").getD (.sequence [])).len
  return fixed + random

def someTarget : Value → Except Error Value :=
  accept (fun value => match value with
    | .mapping target => do
        let n ← numTargets target
        return decide (n ≠ 0)
    | _ => .error (.attributeError "object has no attribute 'get'"))
    "There must be at least one target in the environment."

def enoughCargoes : Value → Except Error Value :=
  accept (fun value => do
    let few ← value.compare (fun x => x.lt (.finite NUM_WAREHOUSES))
    return !few) "`num_cargoes_per_target` should be no less than 4."

def fraction : Value → Except Error Value :=
  accept (fun value => do
    if ← value.compare (fun x => Number.le (.finite 0) x) then
      value.compare (fun x => x.le (.finite 1))
    else return false) "`high_capacity_target_split` must be between 0 and 1."

def nonnegative : Value → Except Error Value :=
  accept (fun value => value.compare (fun x => Number.le (.finite 0) x))
    "`bounty_factor` must be a non-negative number."

def toBool (value : Value) : Except Error Value := do
  let b ← value.truth
  return .bool b

def positive (name : String) : Value → Except Error Value :=
  accept (fun value => value.compare (fun x => Number.lt (.finite 0) x))
    ("`" ++ name ++ "` must be a positive number.")

/-- `Camera.DEFAULTS`. -/
def cameraDefaults : List (String × ℚ) :=
  [("radius", 40), ("min_viewing_angle", 90), ("max_sight_range", 500), ("rotation_step", 5),
    ("zooming_step", 5 / 2)]

/-- `Target.DEFAULTS`. -/
def targetDefaults : List (String × ℚ) := [("sight_range", 500), ("step_size", 10)]

/-- The loop over `Entity.DEFAULTS`. -/
def defaultPasses (entity : String) (defaults : List (String × ℚ)) :
    List (Pass String Value Error) :=
  defaults.map (fun e => ⟨e.1, withDefault (.ofRat e.2) (positive (entity ++ "/" ++ e.1))⟩)

def fillDefaults (entity : String) (defaults : List (String × ℚ)) : Value → Except Error Value
  | .mapping d => do
      let d ← Dict.run (defaultPasses entity defaults) d
      return .mapping d
  | _ => .error (.typeError "argument is not a mapping")

/-- What `validate_config` does to the entries of a configuration. -/
def validations : List (Pass String Value Error) :=
  [⟨"max_episode_steps", withDefault (.ofRat 10000) positiveSteps⟩,
    ⟨"reward_type", withDefault (.text "dense") rewardType⟩,
    ⟨"target", required
      "Missing key \"target\". There must be at least one target in the environment." someTarget⟩,
    ⟨"num_cargoes_per_target", required "Missing key \"num_cargoes_per_target\"." enoughCargoes⟩,
    ⟨"high_capacity_target_split", withDefault (.ofRat (1 / 2)) fraction⟩,
    ⟨"targets_start_with_cargoes", withDefault (.bool true) toBool⟩,
    ⟨"bounty_factor", withDefault (.ofRat 1) nonnegative⟩,
    ⟨"shuffle_entities", withDefault (.bool true) toBool⟩,
    ⟨"camera", whenPresent (fillDefaults "camera" cameraDefaults)⟩,
    ⟨"target", whenPresent (fillDefaults "target" targetDefaults)⟩]

/-- `validate_config`, which changes the configuration in place. -/
def validateMapping (config : Mapping) : Except Error Mapping := Dict.run validations config

/-! ## Conversion -/

section

variable [FloatSyntax]

/-- The bounds that `to_box` takes from a range. -/
def rangeBounds : Value → Except Error (Value × Value)
  | .box b => .ok (.array b.low, .array b.high)
  | .mapping d =>
      match d.get? "low", d.get? "high" with
      | some low, some high => .ok (low, high)
      | none, _ => .error (.keyError "low")
      | some _, none => .error (.keyError "high")
  | randomRange => do
      -- lower and upper bounds take turns; a plain pair is a range for all components
      let low ← randomRange.slice 0
      let high ← randomRange.slice 1
      if (← low.len) = 1 ∧ (← high.len) = 1 then
        let low ← low.first
        let high ← high.first
        return (low, high)
      else return (low, high)

/-- `to_box`. -/
def toBox (randomRange : Value) : Except Error Value := do
  let (low, high) ← rangeBounds randomRange
  let low ← low.asarray
  let high ← high.asarray
  if h : low.shape = high.shape then return .box ⟨low, high, h⟩
  else .error (.assertionError "high.shape doesn't match provided shape")

/-- `[np.asarray(array, dtype=np.float64) for array in value]`. -/
def toArrays (value : Value) : Except Error Value := do
  let items ← value.items
  let arrays ← items.mapM Value.asarray
  return .sequence (arrays.map Value.array)

/-- `list(map(to_box, value))`. -/
def toBoxes (value : Value) : Except Error Value := do
  let items ← value.items
  let boxes ← items.mapM toBox
  return .sequence boxes

def conversions : List (Pass String Value Error) :=
  [⟨"location", whenPresent toArrays⟩,
    ⟨"location_random_range", whenPresent toBoxes⟩,
    ⟨"radius_random_range", whenPresent toBox⟩]

/-- The conversions of a section. What is no mapping is left alone unless it contains the keys. -/
def convertSection : Value → Except Error Value
  | .mapping d => do
      let d ← Dict.run conversions d
      return .mapping d
  | value => do
      for p in conversions do
        if ← value.contains p.key then throw (.typeError "indices must be integers")
      return value

/-- One round of the loop over the sections, which starts with `config.setdefault(entity, {})`. -/
def sectionPass (entity : String) : Pass String Value Error :=
  ⟨entity, withDefault (.mapping ⟨[]⟩) convertSection⟩

/-- `read_config` of a mapping, with keyword arguments. -/
def readConfig (config kwargs : Mapping) : Except Error Mapping := do
  let config ← validateMapping (deepUpdate config kwargs)
  Dict.run (["camera", "obstacle", "target"].map sectionPass) config

end

/-! ## Checks and conversions of values -/

/-- What the function returns it returns again. -/
def Stable (f : Value → Except Error Value) : Prop :=
  ∀ value value', f value = .ok value' → f value' = .ok value'

theorem accept_eq_ok {condition : Value → Except Error Bool} {message : String}
    {value value' : Value} :
    accept condition message value = .ok value' ↔ condition value = .ok true ∧ value' = value := by
  unfold accept
  rw [bind_eq_ok]
  constructor
  · rintro ⟨b, hb, h⟩
    cases b with
    | false => cases h
    | true =>
        cases h
        exact ⟨hb, rfl⟩
  · rintro ⟨hb, rfl⟩
    exact ⟨true, hb, rfl⟩

theorem accept_stable (condition : Value → Except Error Bool) (message : String) :
    Stable (accept condition message) := by
  intro value value' h
  obtain ⟨-, rfl⟩ := accept_eq_ok.mp h
  exact h

theorem toBool_stable : Stable toBool := by
  intro value value' h
  obtain ⟨b, -, h⟩ := bind_eq_ok.mp h
  cases h
  rfl

theorem fillDefaults_eq_ok {entity : String} {defaults : List (String × ℚ)}
    {value value' : Value} (h : fillDefaults entity defaults value = .ok value') :
    ∃ d d', value = .mapping d ∧ value' = .mapping d'
      ∧ Dict.run (defaultPasses entity defaults) d = .ok d' := by
  cases value with
  | mapping d =>
      obtain ⟨d', hrun, h⟩ := bind_eq_ok.mp h
      cases h
      exact ⟨d, d', rfl, rfl, hrun⟩
  | _ => cases h

theorem fillDefaults_mapping {entity : String} {defaults : List (String × ℚ)} {d d' : Mapping}
    (h : Dict.run (defaultPasses entity defaults) d = .ok d') :
    fillDefaults entity defaults (.mapping d) = .ok (.mapping d') :=
  bind_eq_ok.mpr ⟨d', h, rfl⟩

theorem map_key_defaultPasses (entity : String) (defaults : List (String × ℚ)) :
    (defaultPasses entity defaults).map Pass.key = defaults.map Prod.fst := by
  rw [defaultPasses, List.map_map]
  rfl

theorem withDefault_eq_ok {default : Value} {check : Value → Except Error Value}
    {value value' : Option Value} :
    withDefault default check value = .ok value'
      ↔ ∃ checked, check (value.getD default) = .ok checked ∧ value' = some checked := by
  unfold withDefault
  rw [bind_eq_ok]
  constructor
  · rintro ⟨checked, hchecked, h⟩
    cases h
    exact ⟨checked, hchecked, rfl⟩
  · rintro ⟨checked, hchecked, rfl⟩
    exact ⟨checked, hchecked, rfl⟩

theorem whenPresent_some {f : Value → Except Error Value} {value : Value} {value' : Option Value} :
    whenPresent f (some value) = .ok value' ↔ ∃ v, f value = .ok v ∧ value' = some v := by
  unfold whenPresent
  rw [bind_eq_ok]
  constructor
  · rintro ⟨v, hv, h⟩
    cases h
    exact ⟨v, hv, rfl⟩
  · rintro ⟨v, hv, rfl⟩
    exact ⟨v, hv, rfl⟩

theorem required_some (message : String) {f : Value → Except Error Value} {value : Value}
    {value' : Option Value} :
    required message f (some value) = .ok value' ↔ ∃ v, f value = .ok v ∧ value' = some v :=
  whenPresent_some

section

variable [FloatSyntax]

theorem toBox_box (b : RangeBox) : toBox (.box b) = .ok (.box b) :=
  dif_pos b.shape_eq

/-- A converted range is a box. -/
theorem toBox_eq_ok {value value' : Value} (h : toBox value = .ok value') :
    ∃ b, value' = .box b := by
  obtain ⟨bounds, -, h⟩ := bind_eq_ok.mp h
  obtain ⟨low, -, h⟩ := bind_eq_ok.mp h
  obtain ⟨high, -, h⟩ := bind_eq_ok.mp h
  split at h
  · rename_i hshape
    exact ⟨⟨low, high, hshape⟩, (Except.ok.inj h).symm⟩
  · cases h

theorem toBox_stable : Stable toBox := by
  intro value value' h
  obtain ⟨b, rfl⟩ := toBox_eq_ok h
  exact toBox_box b

theorem mapM_asarray_array (arrays : List (NdArray Number)) :
    (arrays.map Value.array).mapM Value.asarray = .ok arrays := by
  induction arrays with
  | nil => rfl
  | cons a rest ih =>
      rw [List.map_cons, List.mapM_cons, ih]
      rfl

theorem toArrays_eq_ok {value value' : Value} (h : toArrays value = .ok value') :
    toArrays value' = .ok value' ∧ value'.len = value.len := by
  obtain ⟨items, hitems, h⟩ := bind_eq_ok.mp h
  obtain ⟨arrays, harrays, h⟩ := bind_eq_ok.mp h
  cases h
  constructor
  · refine bind_eq_ok.mpr ⟨_, rfl, ?_⟩
    rw [mapM_asarray_array]
    rfl
  · rw [Value.len_of_items hitems, ← length_of_mapM harrays, Value.len, List.length_map]

theorem toBoxes_eq_ok {value value' : Value} (h : toBoxes value = .ok value') :
    toBoxes value' = .ok value' ∧ value'.len = value.len := by
  obtain ⟨items, hitems, h⟩ := bind_eq_ok.mp h
  obtain ⟨boxes, hboxes, h⟩ := bind_eq_ok.mp h
  cases h
  constructor
  · have hagain : ∀ item ∈ boxes, toBox item = .ok (id item) :=
      Ensures.mapM (fun item _ value' hvalue' => toBox_stable item value' hvalue') boxes hboxes
    refine bind_eq_ok.mpr ⟨boxes, rfl, ?_⟩
    rw [mapM_eq_ok hagain, List.map_id]
    rfl
  · rw [Value.len_of_items hitems, ← length_of_mapM hboxes, Value.len]

/-! ## Sections -/

theorem convertSection_mapping {d d' : Mapping} (h : Dict.run conversions d = .ok d') :
    convertSection (.mapping d) = .ok (.mapping d') :=
  bind_eq_ok.mpr ⟨d', h, rfl⟩

theorem convertSection_mapping_eq_ok {d : Mapping} {value' : Value}
    (h : convertSection (.mapping d) = .ok value') :
    ∃ d', value' = .mapping d' ∧ Dict.run conversions d = .ok d' := by
  obtain ⟨d', hrun, h⟩ := bind_eq_ok.mp h
  cases h
  exact ⟨d', rfl, hrun⟩

/-- What is no mapping is not converted. -/
theorem convertSection_eq_ok {value value' : Value} (hvalue : ∀ d, value ≠ .mapping d)
    (h : convertSection value = .ok value') : value' = value := by
  cases value with
  | mapping d => exact absurd rfl (hvalue d)
  | _ =>
      obtain ⟨-, -, h⟩ := bind_eq_ok.mp h
      exact (Except.ok.inj h).symm

omit [FloatSyntax] in
/-- A pass over entries that are there, or are left missing. -/
theorem settles_whenPresent {key : String} {f : Value → Except Error Value} (hf : Stable f) :
    Dict.Settles (fun _ _ => True) (⟨key, whenPresent f⟩ : Pass String Value Error) := by
  rintro value value' - h
  refine ⟨trivial, ?_⟩
  cases value with
  | none =>
      cases h
      rfl
  | some v =>
      obtain ⟨v', hv', rfl⟩ := whenPresent_some.mp h
      exact whenPresent_some.mpr ⟨v', hf v v' hv', rfl⟩

omit [FloatSyntax] in
theorem settles_withDefault {key : String} {default : Value} {check : Value → Except Error Value}
    (hcheck : Stable check) :
    Dict.Settles (fun _ _ => True)
      (⟨key, withDefault default check⟩ : Pass String Value Error) := by
  rintro value value' - h
  obtain ⟨checked, hchecked, rfl⟩ := withDefault_eq_ok.mp h
  exact ⟨trivial, withDefault_eq_ok.mpr ⟨checked, hcheck _ _ hchecked, rfl⟩⟩

theorem settles_conversions : ∀ p ∈ conversions, Dict.Settles (fun _ _ => True) p := by
  unfold conversions
  rw [List.forall_mem_cons, List.forall_mem_cons, List.forall_mem_singleton]
  refine ⟨settles_whenPresent (fun value value' h => (toArrays_eq_ok h).1),
    settles_whenPresent (fun value value' h => (toBoxes_eq_ok h).1),
    settles_whenPresent toBox_stable⟩

theorem nodup_conversions : (conversions.map Pass.key).Nodup := by
  simp [conversions]

theorem convertSection_stable : Stable convertSection := by
  intro value value' h
  by_cases hvalue : ∃ d, value = .mapping d
  · obtain ⟨d, rfl⟩ := hvalue
    obtain ⟨d', rfl, hrun⟩ := convertSection_mapping_eq_ok h
    exact convertSection_mapping (Dict.run_idempotent settles_conversions
      (Dict.respects_of_nodup nodup_conversions) (fun _ => trivial) hrun)
  · obtain rfl := convertSection_eq_ok (fun d hd => hvalue ⟨d, hd⟩) h
    exact h

omit [FloatSyntax] in
theorem fillDefaults_stable {entity : String} {defaults : List (String × ℚ)}
    (hnodup : (defaults.map Prod.fst).Nodup) : Stable (fillDefaults entity defaults) := by
  intro value value' h
  obtain ⟨d, d', rfl, rfl, hrun⟩ := fillDefaults_eq_ok h
  have hsettles : ∀ p ∈ defaultPasses entity defaults, Dict.Settles (fun _ _ => True) p := by
    intro p hp
    obtain ⟨e, -, rfl⟩ := List.mem_map.mp hp
    exact settles_withDefault (accept_stable _ _)
  have hkeys : ((defaultPasses entity defaults).map Pass.key).Nodup := by
    rw [map_key_defaultPasses]
    exact hnodup
  exact fillDefaults_mapping (Dict.run_idempotent hsettles (Dict.respects_of_nodup hkeys)
    (fun _ => trivial) hrun)

/-- The conversions of a section leave the values alone that the defaults fill in. -/
theorem fillDefaults_convertSection {entity : String} {defaults : List (String × ℚ)}
    (hnodup : (defaults.map Prod.fst).Nodup)
    (hdisjoint : ∀ key ∈ defaults.map Prod.fst, key ∉ conversions.map Pass.key)
    {value value' : Value} (h : fillDefaults entity defaults value = .ok value)
    (hconvert : convertSection value = .ok value') :
    fillDefaults entity defaults value' = .ok value' := by
  obtain ⟨d, d₁, rfl, heq, hrun⟩ := fillDefaults_eq_ok h
  cases heq
  obtain ⟨d', rfl, hconverted⟩ := convertSection_mapping_eq_ok hconvert
  rw [← map_key_defaultPasses entity] at hnodup hdisjoint
  exact fillDefaults_mapping (Dict.run_of_disjoint hnodup
    (fun p hp => hdisjoint p.key (List.mem_map_of_mem hp)) hrun hconverted)

/-! ## The targets -/

omit [FloatSyntax] in
theorem someTarget_eq_ok {value value' : Value} :
    someTarget value = .ok value' ↔
      (∃ d n, value = .mapping d ∧ numTargets d = .ok n ∧ n ≠ 0) ∧ value' = value := by
  unfold someTarget
  rw [accept_eq_ok]
  refine and_congr_left (fun _ => ?_)
  constructor
  · intro h
    cases value with
    | mapping d =>
        obtain ⟨n, hn, h⟩ := bind_eq_ok.mp h
        exact ⟨d, n, rfl, hn, of_decide_eq_true (Except.ok.inj h)⟩
    | _ => cases h
  · rintro ⟨d, n, rfl, hn, hne⟩
    exact bind_eq_ok.mpr ⟨n, hn, congrArg Except.ok (decide_eq_true hne)⟩

omit [FloatSyntax] in
/-- The number of targets depends on the lengths of two entries only. -/
theorem someTarget_congr {d d' : Mapping}
    (hlocation : ((d'.get? "location").getD (.sequence [])).len
      = ((d.get? "location").getD (.sequence [])).len)
    (hrange : ((d'.get? "location_random_range").getD (.sequence [])).len
      = ((d.get? "location_random_range").getD (.sequence [])).len)
    (h : someTarget (.mapping d) = .ok (.mapping d)) :
    someTarget (.mapping d') = .ok (.mapping d') := by
  obtain ⟨⟨d₁, n, heq, hn, hne⟩, -⟩ := someTarget_eq_ok.mp h
  cases heq
  refine someTarget_eq_ok.mpr ⟨⟨d', n, rfl, ?_, hne⟩, rfl⟩
  unfold numTargets at hn ⊢
  rw [hlocation, hrange]
  exact hn

omit [FloatSyntax] in
theorem someTarget_fillDefaults {value value' : Value} (h : someTarget value = .ok value)
    (hfill : fillDefaults "target" targetDefaults value = .ok value') :
    someTarget value' = .ok value' := by
  obtain ⟨d, d', rfl, rfl, hrun⟩ := fillDefaults_eq_ok hfill
  have hkeys := map_key_defaultPasses "target" targetDefaults
  have hlocation : d'.get? "location" = d.get? "location" :=
    Dict.run_get?_of_notMem hrun (by rw [hkeys]; simp [targetDefaults])
  have hrange : d'.get? "location_random_range" = d.get? "location_random_range" :=
    Dict.run_get?_of_notMem hrun (by rw [hkeys]; simp [targetDefaults])
  exact someTarget_congr (by rw [hlocation]) (by rw [hrange]) h

omit [FloatSyntax] in
/-- A conversion that keeps lengths keeps that of an entry that may be missing. -/
theorem len_whenPresent {f : Value → Except Error Value}
    (hf : ∀ value value', f value = .ok value' → value'.len = value.len)
    {value value' : Option Value} (h : whenPresent f value = .ok value') :
    (value'.getD (.sequence [])).len = (value.getD (.sequence [])).len := by
  cases value with
  | none =>
      cases h
      rfl
  | some v =>
      obtain ⟨v', hv', rfl⟩ := whenPresent_some.mp h
      exact hf v v' hv'

theorem someTarget_convertSection {value value' : Value} (h : someTarget value = .ok value)
    (hconvert : convertSection value = .ok value') : someTarget value' = .ok value' := by
  obtain ⟨⟨d, n, rfl, -, -⟩, -⟩ := someTarget_eq_ok.mp h
  obtain ⟨d', rfl, hrun⟩ := convertSection_mapping_eq_ok hconvert
  have hlocation := Dict.run_get?_of_mem nodup_conversions
    (p := ⟨"location", whenPresent toArrays⟩) (by simp [conversions]) hrun
  have hrange := Dict.run_get?_of_mem nodup_conversions
    (p := ⟨"location_random_range", whenPresent toBoxes⟩) (by simp [conversions]) hrun
  exact someTarget_congr (len_whenPresent (fun v v' hv => (toArrays_eq_ok hv).2) hlocation)
    (len_whenPresent (fun v v' hv => (toBoxes_eq_ok hv).2) hrange) h

/-! ## Reading twice -/

/-- Known of the entries: the sections with default values are there. -/
def Present (key : String) (value : Option Value) : Prop :=
  key = "camera" ∨ key = "target" → value.isSome = true

/-- All passes over the entries of a configuration, in their order. -/
def readPasses : List (Pass String Value Error) :=
  validations ++ ["camera", "obstacle", "target"].map sectionPass

theorem readConfig_eq_run (config kwargs : Mapping) :
    readConfig config kwargs = Dict.run readPasses (deepUpdate config kwargs) := by
  unfold readConfig validateMapping readPasses
  exact List.foldlM_append.symm

omit [FloatSyntax] in
theorem settles_required {key message : String} {check : Value → Except Error Value}
    (hcheck : Stable check) :
    Dict.Settles Present (⟨key, required message check⟩ : Pass String Value Error) := by
  intro value value' _ h
  cases value with
  | none => cases h
  | some v =>
      obtain ⟨v', hv', rfl⟩ := (required_some message).mp h
      exact ⟨fun _ => rfl, (required_some message).mpr ⟨v', hcheck v v' hv', rfl⟩⟩

omit [FloatSyntax] in
/-- A pass that never removes an entry keeps these sections. -/
theorem settles_present {p : Pass String Value Error}
    (hp : Dict.Settles (fun _ _ => True) p)
    (hsome : ∀ value value', value.isSome = true → p.apply value = .ok value' →
      value'.isSome = true) : Dict.Settles Present p := by
  intro value value' hvalue h
  exact ⟨fun hkey => hsome value value' (hvalue hkey) h, (hp value value' trivial h).2⟩

omit [FloatSyntax] in
theorem settles_present_withDefault {key : String} {default : Value}
    {check : Value → Except Error Value} (hcheck : Stable check) :
    Dict.Settles Present
      (⟨key, withDefault default check⟩ : Pass String Value Error) := by
  refine settles_present (settles_withDefault hcheck) (fun value value' _ h => ?_)
  obtain ⟨checked, -, rfl⟩ := withDefault_eq_ok.mp h
  rfl

omit [FloatSyntax] in
theorem settles_present_whenPresent {key : String} {f : Value → Except Error Value}
    (hf : Stable f) :
    Dict.Settles Present (⟨key, whenPresent f⟩ : Pass String Value Error) := by
  refine settles_present (settles_whenPresent hf) (fun value value' hvalue h => ?_)
  obtain ⟨v, rfl⟩ := Option.isSome_iff_exists.mp hvalue
  obtain ⟨v', -, rfl⟩ := whenPresent_some.mp h
  rfl

theorem settles_readPasses : ∀ p ∈ readPasses, Dict.Settles Present p := by
  unfold readPasses validations
  simp only [List.map_cons, List.map_nil, List.cons_append, List.nil_append, List.forall_mem_cons]
  refine ⟨settles_present_withDefault (accept_stable _ _),
    settles_present_withDefault (accept_stable _ _), settles_required (accept_stable _ _),
    settles_required (accept_stable _ _), settles_present_withDefault (accept_stable _ _),
    settles_present_withDefault toBool_stable, settles_present_withDefault (accept_stable _ _),
    settles_present_withDefault toBool_stable,
    settles_present_whenPresent (fillDefaults_stable (by simp [cameraDefaults])),
    settles_present_whenPresent (fillDefaults_stable (by simp [targetDefaults])),
    settles_present_withDefault convertSection_stable,
    settles_present_withDefault convertSection_stable,
    settles_present_withDefault convertSection_stable,
    fun p hp => absurd hp List.not_mem_nil⟩

omit [FloatSyntax] in
/-- Of two passes over a section that is there, the later one gets along with the earlier one if
what they do to the section does. -/
theorem along_of_some {key : String} (hkey : key = "camera" ∨ key = "target")
    {f g : Value → Except Error Value}
    (hfg : ∀ v v', f v = .ok v → g v = .ok v' → f v' = .ok v')
    {F G : Option Value → Except Error (Option Value)}
    (hF : ∀ v value', F (some v) = .ok value' ↔ ∃ v', f v = .ok v' ∧ value' = some v')
    (hG : ∀ v value', G (some v) = .ok value' ↔ ∃ v', g v = .ok v' ∧ value' = some v') :
    Dict.Along (Present key) F G := by
  intro value value' hvalue hf hg
  obtain ⟨v, rfl⟩ := Option.isSome_iff_exists.mp (hvalue hkey)
  obtain ⟨v₁, hv₁, heq⟩ := (hF v _).mp hf
  obtain ⟨v', hv', rfl⟩ := (hG v _).mp hg
  cases heq
  exact (hF v' _).mpr ⟨v', hfg v v' hv₁ hv', rfl⟩

theorem respects_readPasses : readPasses.Pairwise (Dict.Respects Present) := by
  unfold readPasses validations
  simp only [List.map_cons, List.map_nil, List.cons_append, List.nil_append, List.pairwise_cons,
    List.forall_mem_cons, Dict.Respects, sectionPass, String.reduceEq, false_implies,
    forall_const, true_and, and_true, List.not_mem_nil, implies_true, List.Pairwise.nil]
  have htarget : "target" = "camera" ∨ "target" = "target" := Or.inr rfl
  refine ⟨⟨?_, ?_⟩, ?_, ?_⟩
  · exact along_of_some htarget (fun v v' => someTarget_fillDefaults)
      (fun v _ => required_some _) (fun v _ => whenPresent_some)
  · exact along_of_some htarget (fun v v' => someTarget_convertSection)
      (fun v _ => required_some _) (fun v _ => withDefault_eq_ok)
  · exact along_of_some (Or.inl rfl)
      (fun v v' => fillDefaults_convertSection (by simp [cameraDefaults])
        (by simp [cameraDefaults, conversions]))
      (fun v _ => whenPresent_some) (fun v _ => withDefault_eq_ok)
  · exact along_of_some htarget
      (fun v v' => fillDefaults_convertSection (by simp [targetDefaults])
        (by simp [targetDefaults, conversions]))
      (fun v _ => whenPresent_some) (fun v _ => withDefault_eq_ok)

/-- What is read has targets. -/
theorem target_isSome {config read : Mapping} (h : Dict.run readPasses config = .ok read) :
    (config.get? "target").isSome = true := by
  have hget := Dict.run_get? h "target"
  cases hconfig : config.get? "target" with
  | some v => rfl
  | none =>
      rw [hconfig] at hget
      cases hget

/-- The section `camera` goes through the defaults and the conversions. -/
theorem camera_get? {config read : Mapping} (h : Dict.run readPasses config = .ok read) :
    ∃ value, whenPresent (fillDefaults "camera" cameraDefaults) (config.get? "camera") = .ok value
      ∧ withDefault (.mapping ⟨[]⟩) convertSection value = .ok (read.get? "camera") := by
  have hget := Dict.run_get? h "camera"
  have hpasses : readPasses.filter (fun p => p.key = "camera")
      = [⟨"camera", whenPresent (fillDefaults "camera" cameraDefaults)⟩, sectionPass "camera"] := by
    simp [readPasses, validations, sectionPass]
  rw [hpasses, List.foldlM_cons] at hget
  obtain ⟨value, hvalue, hget⟩ := bind_eq_ok.mp hget
  rw [List.foldlM_cons] at hget
  obtain ⟨value', hvalue', hget⟩ := bind_eq_ok.mp hget
  cases hget
  exact ⟨value, hvalue, hvalue'⟩

/-- Without a section `camera`, an empty one is created after the defaults have been filled in. -/
theorem camera_of_missing {config read : Mapping} (h : Dict.run readPasses config = .ok read)
    (hcamera : config.get? "camera" = none) : read.get? "camera" = some (.mapping ⟨[]⟩) := by
  obtain ⟨value, hvalue, hread⟩ := camera_get? h
  rw [hcamera] at hvalue
  cases hvalue
  exact (Except.ok.inj hread).symm

/-- An empty section `camera` gets all its default values. -/
theorem camera_of_empty {config read : Mapping} (h : Dict.run readPasses config = .ok read)
    (hcamera : config.get? "camera" = some (.mapping ⟨[]⟩)) :
    ∃ d, read.get? "camera" = some (.mapping d)
      ∧ ∀ e ∈ cameraDefaults, d.get? e.1 = some (.ofRat e.2) := by
  obtain ⟨value, hvalue, hread⟩ := camera_get? h
  rw [hcamera] at hvalue
  obtain ⟨v, hfill, rfl⟩ := whenPresent_some.mp hvalue
  obtain ⟨d, filled, heq, rfl, hfilled⟩ := fillDefaults_eq_ok hfill
  cases heq
  obtain ⟨v', hconvert, hread⟩ := withDefault_eq_ok.mp hread
  obtain ⟨converted, rfl, hconverted⟩ := convertSection_mapping_eq_ok hconvert
  refine ⟨converted, hread, fun e he => ?_⟩
  have hnodup : ((defaultPasses "camera" cameraDefaults).map Pass.key).Nodup := by
    rw [map_key_defaultPasses]
    simp [cameraDefaults]
  have hkey : e.1 ∉ conversions.map Pass.key := by
    have hkeys : ∀ e ∈ cameraDefaults, e.1 ∉ conversions.map Pass.key := by
      simp [cameraDefaults, conversions]
    exact hkeys e he
  have hset := Dict.run_get?_of_mem hnodup (List.mem_map_of_mem he) hfilled
  rw [Dict.run_get?_of_notMem hconverted hkey]
  obtain ⟨checked, hchecked, hset⟩ := withDefault_eq_ok.mp hset
  obtain ⟨-, rfl⟩ := accept_eq_ok.mp hchecked
  exact hset

/-! ## Idempotence -/

omit [FloatSyntax] in
theorem isSome_updateEntries (d₁ : Mapping) (entries : List (String × Value)) (key : String) :
    ((updateEntries d₁ entries).get? key).isSome = true
      ↔ (d₁.get? key).isSome = true ∨ (Dict.lookup key entries).isSome = true := by
  induction entries generalizing d₁ with
  | nil => simp [updateEntries, Dict.lookup]
  | cons e rest ih =>
      obtain ⟨k, v⟩ := e
      rw [updateEntries, ih, updateEntry]
      have hget := Dict.get?_put d₁ k (some (overridden (d₁.get? k) v)) key
      rw [Dict.put] at hget
      rw [hget, Dict.lookup]
      by_cases hkey : k = key
      · rw [if_pos hkey.symm, if_pos hkey]
        simp
      · rw [if_neg (fun h => hkey h.symm), if_neg hkey]

omit [FloatSyntax] in
/-- Updating adds the keys of the update. -/
theorem isSome_deepUpdate (d₁ d₂ : Mapping) (key : String) :
    ((deepUpdate d₁ d₂).get? key).isSome = true
      ↔ (d₁.get? key).isSome = true ∨ (d₂.get? key).isSome = true := by
  obtain ⟨entries⟩ := d₂
  rw [deepUpdate]
  exact isSome_updateEntries d₁ entries key

/-- Two mappings that Python finds equal: they have the same values under the same keys. -/
def SameEntries (d d' : Mapping) : Prop := ∀ key, d.get? key = d'.get? key

/-- With a section `camera`, a second reading changes nothing. -/
theorem readConfig_again {config kwargs read : Mapping} (h : readConfig config kwargs = .ok read)
    (hcamera : (config.get? "camera").isSome = true ∨ (kwargs.get? "camera").isSome = true) :
    readConfig read ⟨[]⟩ = .ok read := by
  rw [readConfig_eq_run] at h ⊢
  refine Dict.run_idempotent settles_readPasses respects_readPasses (fun key hkey => ?_) h
  rcases hkey with rfl | rfl
  · exact (isSome_deepUpdate config kwargs "camera").mpr hcamera
  · exact target_isSome h

/-- Without a section `camera`, the first reading returns an empty one, and the second reading
fills it. -/
theorem readConfig_differs {config kwargs read : Mapping} (h : readConfig config kwargs = .ok read)
    (hcamera : ¬ ((config.get? "camera").isSome = true ∨ (kwargs.get? "camera").isSome = true)) :
    ¬ ∃ again, readConfig read ⟨[]⟩ = .ok again ∧ SameEntries again read := by
  rintro ⟨again, hagain, hsame⟩
  rw [← isSome_deepUpdate, Bool.not_eq_true, Option.isSome_eq_false_iff,
    Option.isNone_iff_eq_none] at hcamera
  rw [readConfig_eq_run] at h hagain
  have hread := camera_of_missing h hcamera
  obtain ⟨d, hcopy, hdefaults⟩ := camera_of_empty hagain hread
  -- the radius is one of the defaults
  rw [hsame, hread] at hcopy
  cases hcopy
  have hradius := hdefaults ("radius", 40) List.mem_cons_self
  cases hradius

/-- **Reading a configuration twice** is the same as reading it once exactly when there is a
section `camera`. -/
theorem readConfig_idempotent_iff {config kwargs read : Mapping}
    (h : readConfig config kwargs = .ok read) :
    (∃ again, readConfig read ⟨[]⟩ = .ok again ∧ SameEntries again read)
      ↔ (config.get? "camera").isSome = true ∨ (kwargs.get? "camera").isSome = true := by
  constructor
  · intro hagain
    by_contra hcamera
    exact readConfig_differs h hcamera hagain
  · intro hcamera
    exact ⟨read, readConfig_again h hcamera, fun _ => rfl⟩

end

/-! ## A configuration without cameras -/

/-- Texts of digits only. -/
abbrev FloatSyntax.digits : FloatSyntax :=
  ⟨fun s => s.toNat?.map (fun n => .finite n)⟩

/-- Targets that find their way between obstacles, as in `MATE-Navigation.yaml`. -/
def navigation : Mapping :=
  ⟨[("max_episode_steps", .ofRat 10000), ("num_cargoes_per_target", .ofRat 8),
    ("targets_start_with_cargoes", .bool false), ("reward_type", .text "sparse"),
    ("target", .mapping ⟨[
      ("location_random_range", .sequence [
        .sequence [.ofRat (-200), .ofRat 200, .ofRat (-200), .ofRat 200]]),
      ("step_size", .ofRat 20), ("sight_range", .ofRat 500)]⟩),
    ("obstacle", .mapping ⟨[
      ("location_random_range", .sequence [
        .sequence [.ofRat 200, .ofRat 800, .ofRat 200, .ofRat 800]]),
      ("radius_random_range", .sequence [.ofRat 25, .ofRat 100])]⟩)]⟩

theorem exists_of_isOk {α : Type} {x : Except Error α} (h : x.isOk = true) : ∃ a, x = .ok a := by
  cases x with
  | error e => cases h
  | ok a => exact ⟨a, rfl⟩

/-- With an empty section `camera` among the keyword arguments. -/
theorem readConfig_idempotent_iff_navigation :
    letI := FloatSyntax.digits
    ∃ read, readConfig navigation ⟨[("camera", .mapping ⟨[]⟩)]⟩ = .ok read
      ∧ ((∃ again, readConfig read ⟨[]⟩ = .ok again ∧ SameEntries again read)
        ↔ (navigation.get? "camera").isSome = true
          ∨ ((⟨[("camera", .mapping ⟨[]⟩)]⟩ : Mapping).get? "camera").isSome = true) := by
  let _ := FloatSyntax.digits
  obtain ⟨read, hread⟩ := exists_of_isOk (x := readConfig navigation
    ⟨[("camera", .mapping ⟨[]⟩)]⟩) (by decide +kernel)
  exact ⟨read, hread, readConfig_idempotent_iff hread⟩

/-- The configuration is accepted, and reading it again gives another one. -/
theorem readConfig_not_idempotent :
    letI := FloatSyntax.digits
    ∃ read, readConfig navigation ⟨[]⟩ = .ok read
      ∧ ¬ ∃ again, readConfig read ⟨[]⟩ = .ok again ∧ SameEntries again read := by
  let _ := FloatSyntax.digits
  obtain ⟨read, hread⟩ := exists_of_isOk (x := readConfig navigation ⟨[]⟩) (by decide +kernel)
  exact ⟨read, hread, readConfig_differs hread (by decide)⟩

end Mate
