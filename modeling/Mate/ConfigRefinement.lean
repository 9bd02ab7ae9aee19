import Mate.Config
import Mate.ReadConfig

set_option autoImplicit false

/-! # The validated configuration and its mapping

`Config` is what the rest of the development takes a configuration to be. Here it is connected with
the mappings that `read_config` works on: a mapping may represent a raw configuration
(`Represents`), and `validate_config` turns a mapping that does into one that represents the
validated configuration. It refuses the mapping when the configuration is refused.
-/

namespace Mate

open NdArrays Dicts Fallible

/-! ## What a mapping represents -/

def point (z : ℚ × ℚ) : NdArray Number := ⟨[2], [.finite z.1, .finite z.2], rfl⟩

structure RepresentsPlacement (d : Mapping) (p : Placement) : Prop where
  location : (d.get? "location").getD (.sequence []) =
    .sequence (p.location.map (fun z => .array (point z)))
  locationRandomRange : (d.get? "location_random_range").getD (.sequence []) =
    .sequence (p.locationRandomRange.map (fun b => .box ⟨point b.low, point b.high, rfl⟩))

/-- The section holds these numbers under these keys. -/
def HoldsNumbers (d : Mapping) (numbers : List (String × Option ℚ)) : Prop :=
  ∀ e ∈ numbers, d.get? e.1 = e.2.map Value.ofRat

def RawCamera.numbers (c : RawCamera) : List (String × Option ℚ) :=
  [("radius", c.radius), ("min_viewing_angle", c.minViewingAngle),
    ("max_sight_range", c.maxSightRange), ("rotation_step", c.rotationStep),
    ("zooming_step", c.zoomingStep)]

def RawTarget.numbers (t : RawTarget) : List (String × Option ℚ) :=
  [("sight_range", t.sightRange), ("step_size", t.stepSize)]

/-- A section with entities at these places and with these numbers. -/
def RepresentsSection (numbers : List (String × Option ℚ)) (p : Placement) (value : Value) : Prop :=
  ∃ d, value = .mapping d ∧ RepresentsPlacement d p ∧ HoldsNumbers d numbers

def scalarRange (r : ℚ × ℚ) : RangeBox :=
  ⟨Value.scalar (.finite r.1), Value.scalar (.finite r.2), rfl⟩

def RepresentsObstacles (value : Value) (o : ObstacleConfig) : Prop :=
  RepresentsSection [("radius", o.radius), ("transmittance", o.transmittance)] o.placement value
    ∧ ∃ d, value = .mapping d
      ∧ d.get? "radius_random_range" = o.radiusRandomRange.map (fun r => .box (scalarRange r))

structure Represents (config : Mapping) (raw : RawConfig) : Prop where
  maxEpisodeSteps : config.get? "max_episode_steps" =
    raw.maxEpisodeSteps.map (fun n : ℤ => .ofRat n)
  rewardType : config.get? "reward_type" = raw.rewardType.map .text
  target : Option.Rel (fun value (t : RawTarget) => RepresentsSection t.numbers t.placement value)
    (config.get? "target") raw.target
  numCargoesPerTarget : config.get? "num_cargoes_per_target" =
    raw.numCargoesPerTarget.map (fun n : ℤ => .ofRat n)
  highCapacityTargetSplit : config.get? "high_capacity_target_split" =
    raw.highCapacityTargetSplit.map .ofRat
  targetsStartWithCargoes : config.get? "targets_start_with_cargoes" =
    raw.targetsStartWithCargoes.map .bool
  bountyFactor : config.get? "bounty_factor" = raw.bountyFactor.map .ofRat
  shuffleEntities : config.get? "shuffle_entities" = raw.shuffleEntities.map .bool
  camera : Option.Rel (fun value (c : RawCamera) => RepresentsSection c.numbers c.placement value)
    (config.get? "camera") raw.camera
  obstacle : Option.Rel RepresentsObstacles (config.get? "obstacle") raw.obstacle

/-! ## Sections -/

theorem positiveKey_eq_ok {key : String} {default q : Positive} {value : Option ℚ}
    (h : positiveKey key default value = .ok q) : value.getD default = q := by
  unfold positiveKey at h
  cases value with
  | none =>
      cases h
      rfl
  | some x =>
      dsimp only at h
      split at h
      · cases h
        rfl
      · cases h

theorem compare_ofRat (p : Number → Bool) (q : ℚ) :
    (Value.ofRat q).compare p = .ok (p (.finite q)) := rfl

theorem positive_ofRat (name : String) {q : ℚ} (hq : 0 < q) :
    positive name (.ofRat q) = .ok (.ofRat q) := by
  refine accept_eq_ok.mpr ⟨?_, rfl⟩
  rw [compare_ofRat]
  simp [Number.lt, Number.le, hq]

theorem withDefault_map {A : Type} {toValue : A → Value} {check : Value → Except Error Value}
    {default : A} {value : Option A} {checked : Value}
    (h : check (toValue (value.getD default)) = .ok checked) :
    withDefault (toValue default) check (value.map toValue) = .ok (some checked) := by
  refine withDefault_eq_ok.mpr ⟨checked, ?_, rfl⟩
  cases value with
  | none => exact h
  | some a => exact h

/-- A number of a section: what is given, what it is by default, and what it becomes. -/
structure Field where
  key : String
  default : ℚ
  given : Option ℚ
  value : ℚ

def Field.Filled (f : Field) : Prop := 0 < f.value ∧ f.given.getD f.default = f.value

/-- The numbers of a section are filled in when they are positive. -/
theorem fillDefaults_returns (entity : String) {fields : List Field}
    (hnodup : (fields.map Field.key).Nodup) (hfilled : ∀ f ∈ fields, f.Filled) {d : Mapping}
    (hgiven : ∀ f ∈ fields, d.get? f.key = f.given.map Value.ofRat) :
    Returns (Dict.run (defaultPasses entity (fields.map (fun f => (f.key, f.default)))) d)
      (fun d' => (∀ f ∈ fields, d'.get? f.key = some (.ofRat f.value))
        ∧ ∀ key ∉ fields.map Field.key, d'.get? key = d.get? key) := by
  set passes := defaultPasses entity (fields.map (fun f => (f.key, f.default))) with hpasses
  have hkeys : passes.map Pass.key = fields.map Field.key := by
    rw [hpasses, map_key_defaultPasses, List.map_map]
    rfl
  rw [← hkeys] at hnodup ⊢
  have hmem : ∀ f ∈ fields, (⟨f.key, withDefault (.ofRat f.default)
      (positive (entity ++ "/" ++ f.key))⟩ : Pass String Value Error) ∈ passes := by
    intro f hf
    exact List.mem_map_of_mem (List.mem_map_of_mem hf)
  have hpass : ∀ f ∈ fields, withDefault (.ofRat f.default) (positive (entity ++ "/" ++ f.key))
      (d.get? f.key) = .ok (some (.ofRat f.value)) := by
    intro f hf
    obtain ⟨hpos, hvalue⟩ := hfilled f hf
    rw [hgiven f hf]
    apply withDefault_map
    rw [hvalue]
    exact positive_ofRat _ hpos
  obtain ⟨d', hd'⟩ : ∃ d', Dict.run passes d = .ok d' := by
    refine Dict.run_returns_of_nodup hnodup (fun p hp => ?_)
    obtain ⟨e, he, rfl⟩ := List.mem_map.mp hp
    obtain ⟨f, hf, rfl⟩ := List.mem_map.mp he
    exact ⟨_, hpass f hf⟩
  refine ⟨d', hd', fun f hf => ?_, fun key hkey => Dict.run_get?_of_notMem hd' hkey⟩
  have hmine := Dict.run_get?_of_mem hnodup (hmem f hf) hd'
  exact (Except.ok.inj ((hpass f hf).symm.trans hmine)).symm

/-- A section whose numbers are filled in represents the filled section. -/
theorem fillDefaults_represents (entity : String) {fields : List Field}
    (hnodup : (fields.map Field.key).Nodup) (hfilled : ∀ f ∈ fields, f.Filled)
    (hplaces : ∀ f ∈ fields, f.key ≠ "location" ∧ f.key ≠ "location_random_range")
    {p : Placement} {value : Value}
    (h : RepresentsSection (fields.map (fun f => (f.key, f.given))) p value) :
    Returns (fillDefaults entity (fields.map (fun f => (f.key, f.default))) value)
      (RepresentsSection (fields.map (fun f => (f.key, some f.value))) p) := by
  obtain ⟨d, rfl, hplacement, hnumbers⟩ := h
  have hgiven : ∀ f ∈ fields, d.get? f.key = f.given.map Value.ofRat := fun f hf =>
    hnumbers (f.key, f.given) (List.mem_map_of_mem hf)
  obtain ⟨d', hrun, hset, hother⟩ := fillDefaults_returns entity hnodup hfilled hgiven
  have hkept : ∀ key, (∀ f ∈ fields, f.key ≠ key) → d'.get? key = d.get? key := by
    intro key hkey
    refine hother key (fun hmem => ?_)
    obtain ⟨f, hf, hfkey⟩ := List.mem_map.mp hmem
    exact hkey f hf hfkey
  refine ⟨.mapping d', fillDefaults_mapping hrun, d', rfl, ⟨?_, ?_⟩, fun e he => ?_⟩
  · rw [hkept "location" (fun f hf => (hplaces f hf).1)]
    exact hplacement.location
  · rw [hkept "location_random_range" (fun f hf => (hplaces f hf).2)]
    exact hplacement.locationRandomRange
  · obtain ⟨f, hf, rfl⟩ := List.mem_map.mp he
    exact hset f hf

theorem validateCamera_represents {raw : RawCamera} {camera : CameraConfig}
    (h : validateCamera raw = .ok camera) {value : Value}
    (hvalue : RepresentsSection raw.numbers raw.placement value) :
    Returns (fillDefaults "camera" cameraDefaults value)
      (RepresentsSection camera.toRaw.numbers camera.placement) := by
  obtain ⟨radius, hradius, h⟩ := bind_eq_ok.mp h
  obtain ⟨minViewingAngle, hminViewingAngle, h⟩ := bind_eq_ok.mp h
  obtain ⟨maxSightRange, hmaxSightRange, h⟩ := bind_eq_ok.mp h
  obtain ⟨rotationStep, hrotationStep, h⟩ := bind_eq_ok.mp h
  obtain ⟨zoomingStep, hzoomingStep, h⟩ := bind_eq_ok.mp h
  cases h
  have hfilled : ∀ f ∈ [(⟨"radius", 40, raw.radius, radius⟩ : Field),
      ⟨"min_viewing_angle", 90, raw.minViewingAngle, minViewingAngle⟩,
      ⟨"max_sight_range", 500, raw.maxSightRange, maxSightRange⟩,
      ⟨"rotation_step", 5, raw.rotationStep, rotationStep⟩,
      ⟨"zooming_step", 5 / 2, raw.zoomingStep, zoomingStep⟩], f.Filled := by
    simp only [List.forall_mem_cons]
    exact ⟨⟨radius.2, positiveKey_eq_ok hradius⟩,
      ⟨minViewingAngle.2, positiveKey_eq_ok hminViewingAngle⟩,
      ⟨maxSightRange.2, positiveKey_eq_ok hmaxSightRange⟩,
      ⟨rotationStep.2, positiveKey_eq_ok hrotationStep⟩,
      ⟨zoomingStep.2, positiveKey_eq_ok hzoomingStep⟩, fun f hf => absurd hf List.not_mem_nil⟩
  exact fillDefaults_represents "camera" (by simp) hfilled (by simp) hvalue

theorem validateTarget_represents {raw : RawTarget} {target : TargetConfig}
    (h : validateTarget raw = .ok target) {value : Value}
    (hvalue : RepresentsSection raw.numbers raw.placement value) :
    Returns (fillDefaults "target" targetDefaults value)
      (RepresentsSection target.toRaw.numbers target.placement) := by
  obtain ⟨sightRange, hsightRange, h⟩ := bind_eq_ok.mp h
  obtain ⟨stepSize, hstepSize, h⟩ := bind_eq_ok.mp h
  cases h
  have hfilled : ∀ f ∈ [(⟨"sight_range", 500, raw.sightRange, sightRange⟩ : Field),
      ⟨"step_size", 10, raw.stepSize, stepSize⟩], f.Filled := by
    simp only [List.forall_mem_cons]
    exact ⟨⟨sightRange.2, positiveKey_eq_ok hsightRange⟩,
      ⟨stepSize.2, positiveKey_eq_ok hstepSize⟩, fun f hf => absurd hf List.not_mem_nil⟩
  exact fillDefaults_represents "target" (by simp) hfilled (by simp) hvalue

/-! ## The whole configuration -/

theorem RewardType.eq_toString {name : String} {r : RewardType}
    (h : RewardType.ofString? name = some r) : name = r.toString := by
  unfold RewardType.ofString? at h
  split at h
  · cases h
    rfl
  · cases h
    rfl
  · cases h

/-- What an accepted raw configuration and its validated form have to do with each other. -/
structure Validates (raw : RawConfig) (cfg : Config) : Prop where
  maxEpisodeSteps : raw.maxEpisodeSteps.getD 10000 = cfg.maxEpisodeSteps
  rewardType : raw.rewardType.getD "dense" = cfg.rewardType.toString
  target : ∃ t, raw.target = some t ∧ validateTarget t = .ok cfg.target
  numCargoesPerTarget : raw.numCargoesPerTarget = some (cfg.numCargoesPerTarget : ℤ)
  highCapacityTargetSplit : raw.highCapacityTargetSplit.getD (1 / 2) = cfg.highCapacityTargetSplit
  targetsStartWithCargoes : raw.targetsStartWithCargoes.getD true = cfg.targetsStartWithCargoes
  bountyFactor : raw.bountyFactor.getD 1 = cfg.bountyFactor
  shuffleEntities : raw.shuffleEntities.getD true = cfg.shuffleEntities
  camera : validateCamera? raw.camera = .ok cfg.camera
  obstacle : raw.obstacle = cfg.obstacle

theorem validates_of_validateConfig {raw : RawConfig} {cfg : Config}
    (h : validateConfig raw = .ok cfg) : Validates raw cfg := by
  unfold validateConfig at h
  dsimp only at h
  split at h
  · cases h
  rename_i hsteps
  split at h
  · cases h
  rename_i rewardType hreward
  split at h
  · cases h
  rename_i rawTarget htarget
  split at h
  · cases h
  rename_i hnum
  split at h
  · cases h
  rename_i numCargoesPerTarget hcargoes
  split at h
  · cases h
  rename_i hfew
  split at h
  · cases h
  rename_i hsplit
  split at h
  · cases h
  rename_i hbounty
  split at h
  · cases h
  rename_i camera hcamera
  split at h
  · cases h
  rename_i target hvalid
  cases h
  -- past all the checks, each of them tells its field
  constructor
  · dsimp only
    omega
  · exact RewardType.eq_toString hreward
  · exact ⟨rawTarget, htarget, hvalid⟩
  · rw [hcargoes]
    congr 1
    dsimp only
    omega
  · rfl
  · rfl
  · rfl
  · rfl
  · exact hcamera
  · rfl

/-- What the passes of a validation make of the entry of a key. -/
def validated (key : String) (value : Option Value) : Except Error (Option Value) :=
  (validations.filter (fun p => p.key = key)).foldlM (fun value p => p.apply value) value

theorem validated_single {key : String} {f : Option Value → Except Error (Option Value)}
    (h : validations.filter (fun p => p.key = key) = [⟨key, f⟩]) {value value' : Option Value}
    (hf : f value = .ok value') : validated key value = .ok value' := by
  rw [validated, h, List.foldlM_cons]
  exact bind_eq_ok.mpr ⟨value', hf, rfl⟩

theorem validations_target : ∃ message, validations.filter (fun p => p.key = "target")
    = [⟨"target", required message someTarget⟩,
      ⟨"target", whenPresent (fillDefaults "target" targetDefaults)⟩] := by
  refine ⟨"Missing key \"target\". There must be at least one target in the environment.", ?_⟩
  simp [validations]

theorem validated_target {value value₁ value₂ : Value} (h₁ : someTarget value = .ok value₁)
    (h₂ : fillDefaults "target" targetDefaults value₁ = .ok value₂) :
    validated "target" (some value) = .ok (some value₂) := by
  obtain ⟨message, hpasses⟩ := validations_target
  rw [validated, hpasses, List.foldlM_cons]
  exact bind_eq_ok.mpr ⟨some value₁, (required_some message).mpr ⟨value₁, h₁, rfl⟩,
    bind_eq_ok.mpr ⟨some value₂, whenPresent_some.mpr ⟨value₂, h₂, rfl⟩, rfl⟩⟩

theorem positiveSteps_ofRat {n : ℕ} (hn : 0 < n) :
    positiveSteps (.ofRat ((n : ℤ) : ℚ)) = .ok (.ofRat ((n : ℤ) : ℚ)) := by
  refine accept_eq_ok.mpr ⟨?_, rfl⟩
  rw [compare_ofRat]
  simp [Number.le, hn.ne']

theorem rewardType_toString (r : RewardType) :
    rewardType (.text r.toString) = .ok (.text r.toString) := by
  refine accept_eq_ok.mpr ⟨?_, rfl⟩
  cases r with
  | dense => rfl
  | sparse => rfl

theorem enoughCargoes_ofRat {n : ℕ} (hn : NUM_WAREHOUSES ≤ n) :
    enoughCargoes (.ofRat ((n : ℤ) : ℚ)) = .ok (.ofRat ((n : ℤ) : ℚ)) := by
  refine accept_eq_ok.mpr ⟨?_, rfl⟩
  have hle : 4 ≤ n := hn
  rw [compare_ofRat]
  simp [Number.lt, Number.le, hle]

theorem fraction_ofRat {q : ℚ} (h₀ : 0 ≤ q) (h₁ : q ≤ 1) :
    fraction (.ofRat q) = .ok (.ofRat q) := by
  refine accept_eq_ok.mpr ⟨?_, rfl⟩
  rw [compare_ofRat, compare_ofRat]
  simp [Number.le, h₀, h₁]
  rfl

theorem nonnegative_ofRat {q : ℚ} (h : 0 ≤ q) : nonnegative (.ofRat q) = .ok (.ofRat q) := by
  refine accept_eq_ok.mpr ⟨?_, rfl⟩
  rw [compare_ofRat]
  simp [Number.le, h]

theorem toBool_bool (b : Bool) : toBool (.bool b) = .ok (.bool b) := rfl

theorem someTarget_represents {t : RawTarget} {value : Value}
    (h : RepresentsSection t.numbers t.placement value) (hnum : 0 < t.placement.boxes.length) :
    someTarget value = .ok value := by
  obtain ⟨d, rfl, hplacement, -⟩ := h
  refine someTarget_eq_ok.mpr ⟨⟨d, _, rfl, ?_, hnum.ne'⟩, rfl⟩
  rw [numTargets, hplacement.location, hplacement.locationRandomRange, Placement.boxes,
    List.length_append]
  simp [Value.len]
  rfl

theorem validateCamera?_represents {raw : Option RawCamera} {camera : Option CameraConfig}
    (h : validateCamera? raw = .ok camera) {value : Option Value}
    (hvalue : Option.Rel (fun value (c : RawCamera) =>
      RepresentsSection c.numbers c.placement value) value raw) :
    ∃ value', validated "camera" value = .ok value'
      ∧ Option.Rel (fun value (c : RawCamera) => RepresentsSection c.numbers c.placement value)
        value' (camera.map CameraConfig.toRaw) := by
  have hpass : validations.filter (fun p => p.key = "camera")
      = [⟨"camera", whenPresent (fillDefaults "camera" cameraDefaults)⟩] := by
    simp [validations]
  cases hvalue with
  | none =>
      cases h
      exact ⟨none, validated_single hpass rfl, Option.Rel.none⟩
  | some hsection =>
      obtain ⟨camera', hcamera, h⟩ := bind_eq_ok.mp h
      cases h
      obtain ⟨value', hfill, hrepresents⟩ := validateCamera_represents hcamera hsection
      exact ⟨some value', validated_single hpass (whenPresent_some.mpr ⟨value', hfill, rfl⟩),
        Option.Rel.some hrepresents⟩

theorem validated_withDefault {A : Type} (toValue : A → Value) {key : String}
    {default checked : A} {check : Value → Except Error Value}
    (hpass : validations.filter (fun p => p.key = key) =
      [⟨key, withDefault (toValue default) check⟩]) {value : Option A}
    (hvalue : value.getD default = checked)
    (hcheck : check (toValue checked) = .ok (toValue checked)) :
    validated key (value.map toValue) = .ok (some (toValue checked)) := by
  refine validated_single hpass (withDefault_map ?_)
  rw [hvalue]
  exact hcheck

/-- Entries that `validate_config` does not look at. -/
theorem validated_other {key : String} (hkey : key ∉ validations.map Pass.key)
    (value : Option Value) : validated key value = .ok value := by
  have hnone : validations.filter (fun p => p.key = key) = [] := by
    rw [List.filter_eq_nil_iff]
    intro p hp
    have hne : p.key ≠ key := fun h => hkey (h ▸ List.mem_map_of_mem hp)
    simpa using hne
  rw [validated, hnone]
  rfl

/-- **Refinement.** A mapping that represents an accepted configuration is accepted, and becomes
one that represents the validated configuration. -/
theorem validateMapping_represents {config : Mapping} {raw : RawConfig} {cfg : Config}
    (h : Represents config raw) (hvalid : validateConfig raw = .ok cfg) :
    Returns (validateMapping config) (fun config' => Represents config' cfg.toRaw) := by
  obtain ⟨hsteps, hreward, ⟨t, ht, htarget⟩, hcargoes, hsplit, hstart, hbounty, hshuffle, hcamera,
    hobstacle⟩ := validates_of_validateConfig hvalid
  obtain ⟨targetValue, htargetValue, hsection⟩ : ∃ value, config.get? "target" = some value
      ∧ RepresentsSection t.numbers t.placement value := by
    have hrel := h.target
    rw [ht] at hrel
    generalize config.get? "target" = value at hrel
    cases hrel with
    | some hsection => exact ⟨_, rfl, hsection⟩
  have hnum : 0 < t.placement.boxes.length := by
    rw [← validateTarget_placement htarget]
    exact cfg.numTargets_pos
  obtain ⟨target, hfill, hrepresented⟩ := validateTarget_represents htarget hsection
  obtain ⟨camera, hvalidCamera, hcameraRel⟩ := validateCamera?_represents hcamera h.camera
  -- what becomes of each entry
  have hvalidSteps : validated "max_episode_steps" (config.get? "max_episode_steps")
      = .ok (some (.ofRat ((cfg.maxEpisodeSteps : ℤ) : ℚ))) := by
    rw [h.maxEpisodeSteps]
    exact validated_withDefault (fun n : ℤ => .ofRat n) (by simp [validations]) hsteps
      (positiveSteps_ofRat cfg.maxEpisodeSteps_pos)
  have hvalidReward : validated "reward_type" (config.get? "reward_type")
      = .ok (some (.text cfg.rewardType.toString)) := by
    rw [h.rewardType]
    exact validated_withDefault .text (by simp [validations]) hreward (rewardType_toString _)
  have hvalidTarget : validated "target" (config.get? "target") = .ok (some target) := by
    rw [htargetValue]
    exact validated_target (someTarget_represents hsection hnum) hfill
  have hvalidCargoes : validated "num_cargoes_per_target" (config.get? "num_cargoes_per_target")
      = .ok (some (.ofRat ((cfg.numCargoesPerTarget : ℤ) : ℚ))) := by
    rw [h.numCargoesPerTarget, hcargoes]
    exact validated_single (f := required "Missing key \"num_cargoes_per_target\"." enoughCargoes)
      (by simp [validations])
      ((required_some _).mpr ⟨_, enoughCargoes_ofRat cfg.le_numCargoesPerTarget, rfl⟩)
  have hvalidSplit : validated "high_capacity_target_split"
      (config.get? "high_capacity_target_split")
        = .ok (some (.ofRat cfg.highCapacityTargetSplit)) := by
    rw [h.highCapacityTargetSplit]
    exact validated_withDefault .ofRat (by simp [validations]) hsplit
      (fraction_ofRat cfg.split_nonneg cfg.split_le_one)
  have hvalidStart : validated "targets_start_with_cargoes"
      (config.get? "targets_start_with_cargoes")
        = .ok (some (.bool cfg.targetsStartWithCargoes)) := by
    rw [h.targetsStartWithCargoes]
    exact validated_withDefault .bool (by simp [validations]) hstart (toBool_bool _)
  have hvalidBounty : validated "bounty_factor" (config.get? "bounty_factor")
      = .ok (some (.ofRat cfg.bountyFactor)) := by
    rw [h.bountyFactor]
    exact validated_withDefault .ofRat (by simp [validations]) hbounty
      (nonnegative_ofRat cfg.bountyFactor_nonneg)
  have hvalidShuffle : validated "shuffle_entities" (config.get? "shuffle_entities")
      = .ok (some (.bool cfg.shuffleEntities)) := by
    rw [h.shuffleEntities]
    exact validated_withDefault .bool (by simp [validations]) hshuffle (toBool_bool _)
  have hvalidObstacle : validated "obstacle" (config.get? "obstacle")
      = .ok (config.get? "obstacle") := validated_other (by simp [validations]) _
  have hall : ∀ key, ∃ value, validated key (config.get? key) = .ok value := by
    intro key
    by_cases hkey : key ∈ validations.map Pass.key
    · simp only [validations, List.map_cons, List.map_nil, List.mem_cons, List.not_mem_nil,
        or_false] at hkey
      rcases hkey with rfl | rfl | rfl | rfl | rfl | rfl | rfl | rfl | rfl | rfl
      · exact ⟨_, hvalidSteps⟩
      · exact ⟨_, hvalidReward⟩
      · exact ⟨_, hvalidTarget⟩
      · exact ⟨_, hvalidCargoes⟩
      · exact ⟨_, hvalidSplit⟩
      · exact ⟨_, hvalidStart⟩
      · exact ⟨_, hvalidBounty⟩
      · exact ⟨_, hvalidShuffle⟩
      · exact ⟨_, hvalidCamera⟩
      · exact ⟨_, hvalidTarget⟩
    · exact ⟨_, validated_other hkey _⟩
  choose values hvalues using hall
  obtain ⟨config', hrun, hconfig'⟩ := Dict.run_returns hvalues
  have hget : ∀ {key value}, validated key (config.get? key) = .ok value →
      config'.get? key = value := by
    intro key value hvalue
    rw [hconfig' key]
    exact Except.ok.inj ((hvalues key).symm.trans hvalue)
  refine ⟨config', hrun, hget hvalidSteps, hget hvalidReward, ?_, hget hvalidCargoes,
    hget hvalidSplit, hget hvalidStart, hget hvalidBounty, hget hvalidShuffle, ?_, ?_⟩
  · rw [hget hvalidTarget]
    exact Option.Rel.some hrepresented
  · rw [hget hvalidCamera]
    exact hcameraRel
  · rw [hget hvalidObstacle]
    have hkept := h.obstacle
    rwa [hobstacle] at hkept

/-! ## Refused configurations -/

theorem positiveKey_returns (key : String) (default : Positive) {value : Option ℚ}
    (h : 0 < value.getD default) : ∃ q, positiveKey key default value = .ok q := by
  unfold positiveKey
  cases value with
  | none => exact ⟨default, rfl⟩
  | some x => exact ⟨⟨x, h⟩, dif_pos h⟩

/-- Defaults are filled in only where the numbers of the section are positive. -/
theorem pos_of_fillDefaults {entity : String} {defaults : List (String × ℚ)}
    (hnodup : (defaults.map Prod.fst).Nodup) {d : Mapping} {value' : Value}
    (h : fillDefaults entity defaults (.mapping d) = .ok value') {e : String × ℚ}
    (he : e ∈ defaults) {x : Option ℚ} (hx : d.get? e.1 = x.map Value.ofRat) :
    0 < x.getD e.2 := by
  obtain ⟨d₁, d', heq, -, hrun⟩ := fillDefaults_eq_ok h
  cases heq
  rw [← map_key_defaultPasses entity] at hnodup
  have hmine := Dict.run_get?_of_mem hnodup (List.mem_map_of_mem he) hrun
  obtain ⟨checked, hchecked, -⟩ := withDefault_eq_ok.mp hmine
  obtain ⟨hpositive, -⟩ := accept_eq_ok.mp hchecked
  rw [hx] at hpositive
  have hvalue : (x.map Value.ofRat).getD (.ofRat e.2) = .ofRat (x.getD e.2) := by
    cases x with
    | none => rfl
    | some x => rfl
  rw [hvalue, compare_ofRat] at hpositive
  simpa [Number.lt, Number.le] using hpositive

theorem validateCamera_returns {raw : RawCamera} {value value' : Value}
    (hvalue : RepresentsSection raw.numbers raw.placement value)
    (h : fillDefaults "camera" cameraDefaults value = .ok value') :
    ∃ camera, validateCamera raw = .ok camera := by
  obtain ⟨d, rfl, -, hnumbers⟩ := hvalue
  have hpos : ∀ e ∈ cameraDefaults, ∀ x, (e.1, x) ∈ raw.numbers → 0 < x.getD e.2 :=
    fun e he x hx => pos_of_fillDefaults (by simp [cameraDefaults]) h he (hnumbers (e.1, x) hx)
  have hradius := hpos ("radius", 40) (by simp [cameraDefaults]) raw.radius
    (by simp [RawCamera.numbers])
  have hangle := hpos ("min_viewing_angle", 90) (by simp [cameraDefaults]) raw.minViewingAngle
    (by simp [RawCamera.numbers])
  have hrange := hpos ("max_sight_range", 500) (by simp [cameraDefaults]) raw.maxSightRange
    (by simp [RawCamera.numbers])
  have hrotation := hpos ("rotation_step", 5) (by simp [cameraDefaults]) raw.rotationStep
    (by simp [RawCamera.numbers])
  have hzooming := hpos ("zooming_step", 5 / 2) (by simp [cameraDefaults]) raw.zoomingStep
    (by simp [RawCamera.numbers])
  obtain ⟨radius, h₁⟩ := positiveKey_returns "camera/radius" ⟨40, by norm_num⟩ hradius
  obtain ⟨minViewingAngle, h₂⟩ :=
    positiveKey_returns "camera/min_viewing_angle" ⟨90, by norm_num⟩ hangle
  obtain ⟨maxSightRange, h₃⟩ :=
    positiveKey_returns "camera/max_sight_range" ⟨500, by norm_num⟩ hrange
  obtain ⟨rotationStep, h₄⟩ := positiveKey_returns "camera/rotation_step" ⟨5, by norm_num⟩ hrotation
  obtain ⟨zoomingStep, h₅⟩ := positiveKey_returns "camera/zooming_step" ⟨5 / 2, by norm_num⟩ hzooming
  exact ⟨_, bind_eq_ok.mpr ⟨radius, h₁, bind_eq_ok.mpr ⟨minViewingAngle, h₂,
    bind_eq_ok.mpr ⟨maxSightRange, h₃, bind_eq_ok.mpr ⟨rotationStep, h₄,
      bind_eq_ok.mpr ⟨zoomingStep, h₅, rfl⟩⟩⟩⟩⟩⟩

theorem validateTarget_returns {raw : RawTarget} {value value' : Value}
    (hvalue : RepresentsSection raw.numbers raw.placement value)
    (h : fillDefaults "target" targetDefaults value = .ok value') :
    ∃ target, validateTarget raw = .ok target := by
  obtain ⟨d, rfl, -, hnumbers⟩ := hvalue
  have hpos : ∀ e ∈ targetDefaults, ∀ x, (e.1, x) ∈ raw.numbers → 0 < x.getD e.2 :=
    fun e he x hx => pos_of_fillDefaults (by simp [targetDefaults]) h he (hnumbers (e.1, x) hx)
  have hrange := hpos ("sight_range", 500) (by simp [targetDefaults]) raw.sightRange
    (by simp [RawTarget.numbers])
  have hstep := hpos ("step_size", 10) (by simp [targetDefaults]) raw.stepSize
    (by simp [RawTarget.numbers])
  obtain ⟨sightRange, h₁⟩ := positiveKey_returns "target/sight_range" ⟨500, by norm_num⟩ hrange
  obtain ⟨stepSize, h₂⟩ := positiveKey_returns "target/step_size" ⟨10, by norm_num⟩ hstep
  exact ⟨_, bind_eq_ok.mpr ⟨sightRange, h₁, bind_eq_ok.mpr ⟨stepSize, h₂, rfl⟩⟩⟩

/-- The conditions under which a raw configuration is accepted. -/
structure Acceptable (raw : RawConfig) : Prop where
  maxEpisodeSteps : 0 < raw.maxEpisodeSteps.getD 10000
  rewardType : (RewardType.ofString? (raw.rewardType.getD "dense")).isSome = true
  target : ∃ t, raw.target = some t ∧ t.placement.boxes.length ≠ 0
    ∧ ∃ target, validateTarget t = .ok target
  numCargoesPerTarget : ∃ n : ℤ, raw.numCargoesPerTarget = some n ∧ NUM_WAREHOUSES ≤ n
  highCapacityTargetSplit : 0 ≤ raw.highCapacityTargetSplit.getD (1 / 2)
    ∧ raw.highCapacityTargetSplit.getD (1 / 2) ≤ 1
  bountyFactor : 0 ≤ raw.bountyFactor.getD 1
  camera : ∃ camera, validateCamera? raw.camera = .ok camera

theorem Acceptable.returns {raw : RawConfig} (h : Acceptable raw) :
    ∃ cfg, validateConfig raw = .ok cfg := by
  obtain ⟨rewardType, hreward⟩ := Option.isSome_iff_exists.mp h.rewardType
  obtain ⟨t, ht, hnum, target, htarget⟩ := h.target
  obtain ⟨n, hn, hcargoes⟩ := h.numCargoesPerTarget
  obtain ⟨camera, hcamera⟩ := h.camera
  unfold validateConfig
  simp only [hreward, ht, hn, hcamera, dif_neg hnum, dif_neg (not_le.mpr h.maxEpisodeSteps),
    dif_neg (not_lt.mpr hcargoes), dif_neg (not_not.mpr h.highCapacityTargetSplit),
    dif_neg (not_not.mpr h.bountyFactor)]
  split
  · rename_i e he
    rw [htarget] at he
    cases he
  · exact ⟨_, rfl⟩

theorem validated_eq_ok {key : String} {f : Option Value → Except Error (Option Value)}
    (hpass : validations.filter (fun p => p.key = key) = [⟨key, f⟩]) {value value' : Option Value}
    (h : validated key value = .ok value') : f value = .ok value' := by
  rw [validated, hpass, List.foldlM_cons] at h
  obtain ⟨value₁, hf, h⟩ := bind_eq_ok.mp h
  cases h
  exact hf

theorem check_of_withDefault {A : Type} (toValue : A → Value) (default : A)
    (check : Value → Except Error Value) {key : String}
    (hpass : validations.filter (fun p => p.key = key) =
      [⟨key, withDefault (toValue default) check⟩]) {value : Option A} {value' : Option Value}
    (h : validated key (value.map toValue) = .ok value') :
    ∃ checked, check (toValue (value.getD default)) = .ok checked := by
  obtain ⟨checked, hchecked, -⟩ := withDefault_eq_ok.mp (validated_eq_ok hpass h)
  refine ⟨checked, ?_⟩
  cases value with
  | none => exact hchecked
  | some a => exact hchecked

theorem pos_of_positiveSteps {n : ℤ} {checked : Value}
    (h : positiveSteps (.ofRat n) = .ok checked) : 0 < n := by
  obtain ⟨h, -⟩ := accept_eq_ok.mp h
  rw [compare_ofRat] at h
  by_contra hn
  have hle : n ≤ 0 := not_lt.mp hn
  simp [Number.le, hle] at h

theorem le_of_enoughCargoes {n : ℤ} {checked : Value}
    (h : enoughCargoes (.ofRat n) = .ok checked) : NUM_WAREHOUSES ≤ n := by
  obtain ⟨h, -⟩ := accept_eq_ok.mp h
  rw [compare_ofRat] at h
  by_contra hn
  have hlt : n < 4 := not_le.mp hn
  have hle : ¬ (4 : ℚ) ≤ n := by
    rw [not_le]
    exact_mod_cast hlt
  simp [Number.lt, Number.le, hle] at h

theorem mem_of_fraction {q : ℚ} {checked : Value} (h : fraction (.ofRat q) = .ok checked) :
    0 ≤ q ∧ q ≤ 1 := by
  obtain ⟨h, -⟩ := accept_eq_ok.mp h
  rw [compare_ofRat, compare_ofRat] at h
  by_cases h₀ : 0 ≤ q
  · by_cases h₁ : q ≤ 1
    · exact ⟨h₀, h₁⟩
    · simp [Number.le, h₀, h₁] at h
      cases h
  · simp [Number.le, h₀] at h
    cases h

theorem nonneg_of_nonnegative {q : ℚ} {checked : Value}
    (h : nonnegative (.ofRat q) = .ok checked) : 0 ≤ q := by
  obtain ⟨h, -⟩ := accept_eq_ok.mp h
  rw [compare_ofRat] at h
  simpa [Number.le] using h

theorem isSome_of_rewardType {name : String} {checked : Value}
    (h : rewardType (.text name) = .ok checked) : (RewardType.ofString? name).isSome = true := by
  obtain ⟨h, -⟩ := accept_eq_ok.mp h
  have hname : name = "dense" ∨ name = "sparse" := by simpa using h
  rcases hname with rfl | rfl
  · rfl
  · rfl

theorem someTarget_section {t : RawTarget} {value checked : Value}
    (hsection : RepresentsSection t.numbers t.placement value)
    (h : someTarget value = .ok checked) : t.placement.boxes.length ≠ 0 := by
  obtain ⟨d, rfl, hplacement, -⟩ := hsection
  obtain ⟨⟨d₁, n, heq, hn, hne⟩, -⟩ := someTarget_eq_ok.mp h
  cases heq
  rw [numTargets, hplacement.location, hplacement.locationRandomRange] at hn
  have hlength : n = t.placement.boxes.length := by
    rw [Placement.boxes, List.length_append, List.length_map]
    simpa [Value.len] using (Except.ok.inj hn).symm
  exact hlength ▸ hne

theorem acceptable_of_validateMapping {config config' : Mapping} {raw : RawConfig}
    (h : Represents config raw) (hvalid : validateMapping config = .ok config') :
    Acceptable raw := by
  have hget : ∀ key, validated key (config.get? key) = .ok (config'.get? key) :=
    fun key => Dict.run_get? hvalid key
  -- one key after the other: what its checks have let through
  constructor
  · have hsteps := hget "max_episode_steps"
    rw [h.maxEpisodeSteps] at hsteps
    obtain ⟨checked, hchecked⟩ := check_of_withDefault (fun n : ℤ => .ofRat n) 10000
      positiveSteps (by simp [validations]) hsteps
    exact pos_of_positiveSteps hchecked
  · have hreward := hget "reward_type"
    rw [h.rewardType] at hreward
    obtain ⟨checked, hchecked⟩ := check_of_withDefault .text "dense" rewardType
      (by simp [validations]) hreward
    exact isSome_of_rewardType hchecked
  · have htarget := hget "target"
    have hrel := h.target
    generalize config.get? "target" = value at htarget hrel
    obtain ⟨message, hpasses⟩ := validations_target
    rw [validated, hpasses, List.foldlM_cons] at htarget
    obtain ⟨value₁, hrequired, htarget⟩ := bind_eq_ok.mp htarget
    obtain ⟨value₂, hfill, -⟩ := bind_eq_ok.mp htarget
    generalize raw.target = rawTarget at hrel ⊢
    cases hrel with
    | none => cases hrequired
    | some hsection =>
        rename_i t
        obtain ⟨checked, hchecked, rfl⟩ := (required_some message).mp hrequired
        obtain ⟨-, rfl⟩ := someTarget_eq_ok.mp hchecked
        obtain ⟨filled, hfilled, -⟩ := whenPresent_some.mp hfill
        exact ⟨t, rfl, someTarget_section hsection hchecked,
          validateTarget_returns hsection hfilled⟩
  · have hcargoes := hget "num_cargoes_per_target"
    rw [h.numCargoesPerTarget] at hcargoes
    have hrequired := validated_eq_ok (f := required "Missing key \"num_cargoes_per_target\"."
      enoughCargoes) (by simp [validations]) hcargoes
    cases hn : raw.numCargoesPerTarget with
    | none =>
        rw [hn] at hrequired
        cases hrequired
    | some n =>
        rw [hn] at hrequired
        obtain ⟨checked, hchecked, -⟩ := (required_some _).mp hrequired
        exact ⟨n, rfl, le_of_enoughCargoes hchecked⟩
  · have hsplit := hget "high_capacity_target_split"
    rw [h.highCapacityTargetSplit] at hsplit
    obtain ⟨checked, hchecked⟩ := check_of_withDefault .ofRat (1 / 2) fraction
      (by simp [validations]) hsplit
    exact mem_of_fraction hchecked
  · have hbounty := hget "bounty_factor"
    rw [h.bountyFactor] at hbounty
    obtain ⟨checked, hchecked⟩ := check_of_withDefault .ofRat 1 nonnegative
      (by simp [validations]) hbounty
    exact nonneg_of_nonnegative hchecked
  · have hcamera := hget "camera"
    have hrel := h.camera
    generalize config.get? "camera" = value at hcamera hrel
    have hfill := validated_eq_ok (f := whenPresent (fillDefaults "camera" cameraDefaults))
      (by simp [validations]) hcamera
    generalize raw.camera = rawCamera at hrel ⊢
    cases hrel with
    | none => exact ⟨none, rfl⟩
    | some hsection =>
        obtain ⟨filled, hfilled, -⟩ := whenPresent_some.mp hfill
        obtain ⟨camera, hvalidCamera⟩ := validateCamera_returns hsection hfilled
        exact ⟨some camera, bind_eq_ok.mpr ⟨camera, hvalidCamera, rfl⟩⟩

/-- A mapping that represents a refused configuration is refused. -/
theorem validateMapping_refused {config : Mapping} {raw : RawConfig} {e : Error}
    (h : Represents config raw) (hrefused : validateConfig raw = .error e) :
    ∃ e', validateMapping config = .error e' := by
  cases hvalid : validateMapping config with
  | error e' => exact ⟨e', rfl⟩
  | ok config' =>
      obtain ⟨cfg, hcfg⟩ := (acceptable_of_validateMapping h hvalid).returns
      rw [hrefused] at hcfg
      cases hcfg

/-! ## Every raw configuration has a mapping -/

def Placement.toMapping (p : Placement) : Mapping :=
  ⟨[("location", .sequence (p.location.map (fun z => .array (point z)))),
    ("location_random_range",
      .sequence (p.locationRandomRange.map (fun b => .box ⟨point b.low, point b.high, rfl⟩)))]⟩

def sectionMapping (numbers : List (String × Option ℚ)) (p : Placement) : Mapping :=
  p.toMapping.putAll (numbers.map (fun e => (e.1, e.2.map .ofRat)))

def ObstacleConfig.toMapping (o : ObstacleConfig) : Mapping :=
  (sectionMapping [("radius", o.radius), ("transmittance", o.transmittance)] o.placement).put
    "radius_random_range" (o.radiusRandomRange.map (fun r => .box (scalarRange r)))

def RawConfig.toMapping (raw : RawConfig) : Mapping :=
  (⟨[]⟩ : Mapping).putAll
    [("max_episode_steps", raw.maxEpisodeSteps.map (fun n : ℤ => .ofRat n)),
      ("reward_type", raw.rewardType.map .text),
      ("target", raw.target.map (fun t => .mapping (sectionMapping t.numbers t.placement))),
      ("num_cargoes_per_target", raw.numCargoesPerTarget.map (fun n : ℤ => .ofRat n)),
      ("high_capacity_target_split", raw.highCapacityTargetSplit.map .ofRat),
      ("targets_start_with_cargoes", raw.targetsStartWithCargoes.map .bool),
      ("bounty_factor", raw.bountyFactor.map .ofRat),
      ("shuffle_entities", raw.shuffleEntities.map .bool),
      ("camera", raw.camera.map (fun c => .mapping (sectionMapping c.numbers c.placement))),
      ("obstacle", raw.obstacle.map (fun o => .mapping o.toMapping))]

theorem RawCamera.represents (c : RawCamera) :
    RepresentsSection c.numbers c.placement (.mapping (sectionMapping c.numbers c.placement)) := by
  refine ⟨_, rfl, ⟨?_, ?_⟩, ?_⟩
  · simp [sectionMapping, Dict.putAll, RawCamera.numbers, Dict.get?_put]
    rfl
  · simp [sectionMapping, Dict.putAll, RawCamera.numbers, Dict.get?_put]
    rfl
  · simp [HoldsNumbers, sectionMapping, Dict.putAll, RawCamera.numbers, Dict.get?_put]

theorem RawTarget.represents (t : RawTarget) :
    RepresentsSection t.numbers t.placement (.mapping (sectionMapping t.numbers t.placement)) := by
  refine ⟨_, rfl, ⟨?_, ?_⟩, ?_⟩
  · simp [sectionMapping, Dict.putAll, RawTarget.numbers, Dict.get?_put]
    rfl
  · simp [sectionMapping, Dict.putAll, RawTarget.numbers, Dict.get?_put]
    rfl
  · simp [HoldsNumbers, sectionMapping, Dict.putAll, RawTarget.numbers, Dict.get?_put]

theorem ObstacleConfig.represents (o : ObstacleConfig) :
    RepresentsObstacles (.mapping o.toMapping) o := by
  refine ⟨⟨_, rfl, ⟨?_, ?_⟩, ?_⟩, _, rfl, ?_⟩
  · simp [ObstacleConfig.toMapping, sectionMapping, Dict.putAll, Dict.get?_put]
    rfl
  · simp [ObstacleConfig.toMapping, sectionMapping, Dict.putAll, Dict.get?_put]
    rfl
  · simp [HoldsNumbers, ObstacleConfig.toMapping, sectionMapping, Dict.putAll, Dict.get?_put]
  · simp [ObstacleConfig.toMapping]

theorem represents_toMapping (raw : RawConfig) : Represents raw.toMapping raw := by
  constructor
  all_goals simp only [RawConfig.toMapping, Dict.putAll, List.foldl_cons, List.foldl_nil,
    Dict.get?_put, String.reduceEq, if_true, if_false]
  · cases raw.target with
    | none => exact Option.Rel.none
    | some t => exact Option.Rel.some t.represents
  · cases raw.camera with
    | none => exact Option.Rel.none
    | some c => exact Option.Rel.some c.represents
  · cases raw.obstacle with
    | none => exact Option.Rel.none
    | some o => exact Option.Rel.some o.represents

/-- `validate_config` accepts the mapping of a raw configuration exactly when the configuration is
accepted. -/
theorem validateMapping_toMapping_isOk (raw : RawConfig) :
    (validateMapping raw.toMapping).isOk = (validateConfig raw).isOk := by
  cases hvalid : validateConfig raw with
  | error e =>
      obtain ⟨e', he'⟩ := validateMapping_refused (represents_toMapping raw) hvalid
      rw [he']
      rfl
  | ok cfg =>
      obtain ⟨config', hconfig', -⟩ := validateMapping_represents (represents_toMapping raw) hvalid
      rw [hconfig']
      rfl

end Mate
