import Mate.Library.Batches
import Mate.Library.Numerals
import Mathlib.Analysis.SpecialFunctions.Pow.Real
import Mathlib.Data.List.AList

set_option autoImplicit false

/-! # Metrics of episodes

A `MetricCollector` is told the infos of all agents, step by step. It keeps the mean over the
agents of every entry that a pattern of its table matches, and reduces these in the end as the
table says. `CustomMetricCallback` has one collector for an episode, and adds the sums of rewards.
Only the entries of an info that are numbers are looked at here: no table names another one.
-/

namespace Mate.Rllib

open Batches

/-- A dictionary with numbers. -/
abbrev Dict := AList (fun _ : String => ℝ)

/-- The characters that `\w` stands for. -/
class WordCharacters where
  isWord : Char → Bool

/-- A key of a table: a string, or `re.compile(r'^name(\w*)$')`. -/
inductive Pattern
  | key (name : String)
  | family (name : String)
  deriving DecidableEq

/-- `(\w*)$`, which also matches before a newline at the end. -/
def wordOnly [WordCharacters] (rest : List Char) : Bool :=
  rest.all WordCharacters.isWord ||
    (rest.getLast? == some (Char.ofNat 10) && rest.dropLast.all WordCharacters.isWord)

/-- `MetricCollector.match`. -/
def Pattern.matches [WordCharacters] : Pattern → String → Bool
  | .key name, string => decide (string = name)
  | .family name, string =>
      name.toList.isPrefixOf string.toList && wordOnly (string.toList.drop name.toList.length)

inductive Reducer
  | mean
  | sum
  | std
  | last

/-- `REDUCERS`. -/
noncomputable def Reducer.reduce : Reducer → List ℝ → ℝ
  | .mean, data => Batches.mean data
  | .sum, data => data.sum
  | .std, data => √(Batches.mean (data.map (fun x => (x - Batches.mean data) ^ 2)))
  | .last, data => data.getLastD 0

/-- A table of patterns and reductions. -/
abbrev Metrics := List (Pattern × Reducer)

/-! ## The collector -/

structure MetricCollector where
  metrics : Metrics
  /-- The keys that were read for each pattern, in the order in which the patterns came up. -/
  accessedPatterns : List (Pattern × List String) := []
  data : String → List ℝ := fun _ => []

namespace MetricCollector

/-- `accessed_patterns[pattern].add(key)`. -/
def access (pattern : Pattern) (key : String) :
    List (Pattern × List String) → List (Pattern × List String)
  | [] => [(pattern, [key])]
  | (pattern', keys) :: rest =>
      if pattern' = pattern then (pattern', if key ∈ keys then keys else keys ++ [key]) :: rest
      else (pattern', keys) :: access pattern key rest

variable [WordCharacters]

/-- What the loops of `add` come by: the entries of the infos that match, pattern by pattern. -/
def visits (metrics : Metrics) (infos : List Dict) : List (Pattern × String × ℝ) :=
  metrics.flatMap (fun entry => infos.flatMap (fun info => info.entries.filterMap (fun item =>
    if entry.1.matches item.1 then some (entry.1, item.1, item.2) else none)))

/-- `values[key]`. -/
def valuesOf (key : String) (visits : List (Pattern × String × ℝ)) : List ℝ :=
  visits.filterMap (fun visit => if visit.2.1 = key then some visit.2.2 else none)

noncomputable def add (self : MetricCollector) (infos : List Dict) : MetricCollector :=
  let visits := visits self.metrics infos
  { self with
    accessedPatterns :=
      visits.foldl (fun patterns visit => access visit.1 visit.2.1 patterns) self.accessedPatterns
    data := fun key =>
      match valuesOf key visits with
      | [] => self.data key
      | value :: values => self.data key ++ [mean (value :: values)] }

/-- The loop over the keys of one pattern. -/
noncomputable def collectKeys (self : MetricCollector) (reducer : Reducer) (keys : List String)
    (results : Dict) : Dict :=
  keys.foldl
    (fun results key =>
      if 0 < (self.data key).length then results.insert key (reducer.reduce (self.data key))
      else results)
    results

noncomputable def collect (self : MetricCollector) : Dict :=
  self.accessedPatterns.foldl
    (fun results accessed =>
      match self.metrics.lookup accessed.1 with
      | some reducer => self.collectKeys reducer accessed.2 results
      | none => results)
    ∅

/-! ## What a collector has read -/

/-- `info[key]`. -/
noncomputable def entry (key : String) (info : Dict) : ℝ := (info.lookup key).getD 0

omit [WordCharacters] in
/-- The items of a dictionary with one key. -/
theorem filterMap_entries (key : String) (info : Dict) :
    info.entries.filterMap (fun item => if item.1 = key then some item.2 else none)
      = (info.lookup key).toList := by
  obtain ⟨entries, hnodup⟩ := info
  show entries.filterMap _ = (entries.dlookup key).toList
  induction entries with
  | nil => rfl
  | cons item rest ih =>
      obtain ⟨key', value⟩ := item
      obtain ⟨hnot, hrest⟩ := List.nodupKeys_cons.mp hnodup
      by_cases heq : key' = key
      · subst heq
        have hnone : rest.dlookup key' = none := List.dlookup_eq_none.mpr hnot
        rw [List.dlookup_cons_eq, List.filterMap_cons]
        simp only [if_true]
        rw [ih hrest, hnone]
        rfl
      · have hne : key ≠ (Sigma.mk key' value : Sigma (fun _ : String => ℝ)).1 := Ne.symm heq
        rw [List.dlookup_cons_ne _ _ hne, List.filterMap_cons]
        simp only [heq, if_false]
        exact ih hrest

/-- The table has one pattern for the key. -/
def Selects (metrics : Metrics) (key : String) (pattern : Pattern) (reducer : Reducer) : Prop :=
  metrics.filter (fun entry => entry.1.matches key) = [(pattern, reducer)]

variable {metrics : Metrics} {key : String} {pattern : Pattern} {reducer : Reducer}

theorem Selects.eq (h : Selects metrics key pattern reducer) {entry : Pattern × Reducer}
    (hmem : entry ∈ metrics) (hmatches : entry.1.matches key = true) :
    entry = (pattern, reducer) := by
  have hfilter : entry ∈ metrics.filter (fun entry => entry.1.matches key) :=
    List.mem_filter.mpr ⟨hmem, hmatches⟩
  rw [h] at hfilter
  exact List.mem_singleton.mp hfilter

/-- The matching items of a dictionary with one key. -/
theorem filterMap_matching (pattern : Pattern) (key : String) (info : Dict) :
    (info.entries.filterMap (fun item =>
        if pattern.matches item.1 then some (pattern, item.1, item.2) else none)).filterMap
      (fun visit => if visit.2.1 = key then some visit.2.2 else none)
      = if pattern.matches key then (info.lookup key).toList else [] := by
  rw [List.filterMap_filterMap]
  by_cases hmatches : pattern.matches key = true
  · rw [if_pos hmatches, ← filterMap_entries]
    refine List.filterMap_congr (fun item _ => ?_)
    by_cases heq : item.1 = key
    · have hitem : pattern.matches item.1 = true := heq ▸ hmatches
      rw [if_pos hitem, if_pos heq]
      exact if_pos heq
    · rw [if_neg heq]
      split
      · exact if_neg heq
      · rfl
  · rw [if_neg hmatches]
    refine List.filterMap_eq_nil_iff.mpr (fun item _ => ?_)
    by_cases heq : item.1 = key
    · have hitem : ¬ pattern.matches item.1 = true := heq ▸ hmatches
      rw [if_neg hitem]
      rfl
    · split
      · exact if_neg heq
      · rfl

/-- The loop over the patterns, as far as it comes by one key. -/
theorem valuesOf_visits_eq (metrics : Metrics) (key : String) (infos : List Dict) :
    valuesOf key (visits metrics infos)
      = (metrics.filter (fun entry => entry.1.matches key)).flatMap
          (fun _ => infos.filterMap (fun info => info.lookup key)) := by
  induction metrics with
  | nil => rfl
  | cons entry metrics ih =>
      have hcons : valuesOf key (visits (entry :: metrics) infos)
          = (infos.flatMap (fun info => if entry.1.matches key then (info.lookup key).toList
              else [])) ++ valuesOf key (visits metrics infos) := by
        unfold valuesOf visits
        rw [List.flatMap_cons, List.filterMap_append, List.filterMap_flatMap]
        simp only [filterMap_matching]
      rw [hcons, ih, List.filter_cons]
      by_cases hmatches : entry.1.matches key = true
      · simp only [hmatches, if_true, ← List.filterMap_eq_flatMap_toList, List.flatMap_cons]
      · simp [hmatches]

/-- One pattern reads every entry once. -/
theorem valuesOf_visits (h : Selects metrics key pattern reducer) (infos : List Dict) :
    valuesOf key (visits metrics infos) = infos.filterMap (fun info => info.lookup key) := by
  rw [valuesOf_visits_eq, h, List.flatMap_singleton]

theorem metrics_foldl_add (steps : List (List Dict)) (c : MetricCollector) :
    (steps.foldl add c).metrics = c.metrics := by
  induction steps generalizing c with
  | nil => rfl
  | cons infos steps ih => exact ih (c.add infos)

/-- One call of `add`, if all agents have the entry. -/
theorem data_add (c : MetricCollector) (h : Selects c.metrics key pattern reducer)
    {infos : List Dict} (hne : infos ≠ []) (hkey : ∀ info ∈ infos, key ∈ info) :
    (c.add infos).data key = c.data key ++ [mean (infos.map (entry key))] := by
  have hvalues : infos.filterMap (fun info => info.lookup key) = infos.map (entry key) := by
    rw [← List.filterMap_eq_map]
    refine List.filterMap_congr (fun info hinfo => ?_)
    obtain ⟨value, hvalue⟩ := Option.isSome_iff_exists.mp (AList.lookup_isSome.mpr (hkey info hinfo))
    show info.lookup key = some ((info.lookup key).getD 0)
    rw [hvalue]
    rfl
  show (match valuesOf key (visits c.metrics infos) with
    | [] => c.data key
    | value :: values => c.data key ++ [mean (value :: values)]) = _
  rw [valuesOf_visits h, hvalues]
  cases infos with
  | nil => exact absurd rfl hne
  | cons info infos => rfl

/-- A collector after a sequence of calls of `add`. -/
theorem data_foldl_add (steps : List (List Dict)) (c : MetricCollector)
    (h : Selects c.metrics key pattern reducer)
    (hsteps : ∀ infos ∈ steps, infos ≠ [] ∧ ∀ info ∈ infos, key ∈ info) :
    (steps.foldl add c).data key
      = c.data key ++ steps.map (fun infos => mean (infos.map (entry key))) := by
  induction steps generalizing c with
  | nil => rw [List.foldl_nil, List.map_nil, List.append_nil]
  | cons infos steps ih =>
      obtain ⟨⟨hne, hkey⟩, hrest⟩ := List.forall_mem_cons.mp hsteps
      rw [List.foldl_cons, ih (c.add infos) h hrest, data_add c h hne hkey, List.append_assoc,
        List.map_cons, List.singleton_append]

/-! ## What a collector returns -/

/-- The key was read for the pattern. -/
def Accessed (accessed : List (Pattern × List String)) (pattern : Pattern) (key : String) : Prop :=
  ∃ keys, (pattern, keys) ∈ accessed ∧ key ∈ keys

omit [WordCharacters] in
theorem accessed_access {accessed : List (Pattern × List String)} {pattern pattern' : Pattern}
    {key key' : String} :
    Accessed (access pattern key accessed) pattern' key'
      ↔ (pattern' = pattern ∧ key' = key) ∨ Accessed accessed pattern' key' := by
  induction accessed with
  | nil => simp [access, Accessed]
  | cons entry rest ih =>
      obtain ⟨pattern'', keys⟩ := entry
      -- the keys of the pattern in front, or of one behind it
      have hcons : ∀ (keys : List String) (rest : List (Pattern × List String)),
          Accessed ((pattern'', keys) :: rest) pattern' key'
            ↔ (pattern' = pattern'' ∧ key' ∈ keys) ∨ Accessed rest pattern' key' := by
        intro keys rest
        unfold Accessed
        constructor
        · rintro ⟨keys', hmem, hkey⟩
          rcases List.mem_cons.mp hmem with heq | hmem
          · cases heq
            exact Or.inl ⟨rfl, hkey⟩
          · exact Or.inr ⟨keys', hmem, hkey⟩
        · rintro (⟨rfl, hkey⟩ | ⟨keys', hmem, hkey⟩)
          · exact ⟨keys, List.mem_cons_self, hkey⟩
          · exact ⟨keys', List.mem_cons_of_mem _ hmem, hkey⟩
      unfold access
      by_cases heq : pattern'' = pattern
      · rw [if_pos heq, hcons, hcons, heq]
        have hkeys : key' ∈ (if key ∈ keys then keys else keys ++ [key]) ↔ key' = key ∨ key' ∈ keys := by
          split
          · exact ⟨Or.inr, fun h => h.elim (fun h => h ▸ ‹_›) id⟩
          · rw [List.mem_append, List.mem_singleton, or_comm]
        rw [hkeys]
        tauto
      · rw [if_neg heq, hcons, hcons, ih]
        tauto

omit [WordCharacters] in
theorem accessed_foldl {visits : List (Pattern × String × ℝ)}
    {accessed : List (Pattern × List String)} {pattern : Pattern} {key : String} :
    Accessed (visits.foldl (fun patterns visit => access visit.1 visit.2.1 patterns) accessed)
        pattern key
      ↔ (∃ visit ∈ visits, visit.1 = pattern ∧ visit.2.1 = key) ∨ Accessed accessed pattern key := by
  induction visits generalizing accessed with
  | nil => simp
  | cons visit visits ih =>
      have hsymm : (pattern = visit.1 ∧ key = visit.2.1) ↔ (visit.1 = pattern ∧ visit.2.1 = key) :=
        and_congr eq_comm eq_comm
      rw [List.foldl_cons, ih, accessed_access, List.exists_mem_cons_iff, hsymm, ← or_assoc]
      exact or_congr_left or_comm

theorem mem_visits {metrics : Metrics} {infos : List Dict} {visit : Pattern × String × ℝ}
    (h : visit ∈ visits metrics infos) :
    visit.1 ∈ metrics.map Prod.fst ∧ visit.1.matches visit.2.1 = true := by
  obtain ⟨entry, hentry, h⟩ := List.mem_flatMap.mp h
  obtain ⟨info, -, h⟩ := List.mem_flatMap.mp h
  obtain ⟨item, -, h⟩ := List.mem_filterMap.mp h
  split at h
  · cases h
    exact ⟨List.mem_map_of_mem hentry, ‹_›⟩
  · cases h

/-- What was read belongs to a pattern of the table that matches it, and all data was read. -/
structure Sound (c : MetricCollector) : Prop where
  matches_of_accessed : ∀ pattern key, Accessed c.accessedPatterns pattern key →
    pattern ∈ c.metrics.map Prod.fst ∧ pattern.matches key = true
  accessed_of_data : ∀ key, c.data key ≠ [] → ∃ pattern, Accessed c.accessedPatterns pattern key

theorem sound_start (metrics : Metrics) : Sound { metrics := metrics } := by
  refine ⟨fun pattern key h => ?_, fun key h => absurd rfl h⟩
  obtain ⟨keys, hmem, -⟩ := h
  exact absurd hmem List.not_mem_nil

theorem Sound.add {c : MetricCollector} (h : Sound c) (infos : List Dict) : Sound (c.add infos) := by
  refine ⟨fun pattern key haccessed => ?_, fun key hdata => ?_⟩
  · rcases accessed_foldl.mp haccessed with ⟨visit, hvisit, rfl, rfl⟩ | hold
    · exact mem_visits hvisit
    · exact h.matches_of_accessed pattern key hold
  · have hcases : (∃ visit ∈ visits c.metrics infos, visit.2.1 = key) ∨ c.data key ≠ [] := by
      by_contra hnone
      obtain ⟨hvisits, hold⟩ := not_or.mp hnone
      have hvalues : valuesOf key (visits c.metrics infos) = [] := by
        refine List.filterMap_eq_nil_iff.mpr (fun visit hvisit => if_neg (fun heq => ?_))
        exact hvisits ⟨visit, hvisit, heq⟩
      apply hdata
      show (match valuesOf key (visits c.metrics infos) with
        | [] => c.data key
        | value :: values => c.data key ++ [mean (value :: values)]) = []
      rw [hvalues]
      exact not_not.mp hold
    rcases hcases with ⟨visit, hvisit, hkey⟩ | hold
    · exact ⟨visit.1, accessed_foldl.mpr (Or.inl ⟨visit, hvisit, rfl, hkey⟩)⟩
    · obtain ⟨pattern, haccessed⟩ := h.accessed_of_data key hold
      exact ⟨pattern, accessed_foldl.mpr (Or.inr haccessed)⟩

theorem Sound.foldl_add {c : MetricCollector} (h : Sound c) (steps : List (List Dict)) :
    Sound (steps.foldl MetricCollector.add c) := by
  induction steps generalizing c with
  | nil => exact h
  | cons infos steps ih => exact ih (h.add infos)

omit [WordCharacters] in
theorem lookup_collectKeys (c : MetricCollector) (reducer : Reducer) {key : String}
    (hdata : c.data key ≠ []) {keys : List String} {results : Dict}
    (h : results.lookup key = some (reducer.reduce (c.data key)) ∨ key ∈ keys) :
    (c.collectKeys reducer keys results).lookup key = some (reducer.reduce (c.data key)) := by
  unfold collectKeys
  induction keys generalizing results with
  | nil => exact h.resolve_right List.not_mem_nil
  | cons key' keys ih =>
      rw [List.foldl_cons]
      apply ih
      by_cases heq : key = key'
      · subst heq
        rw [if_pos (List.length_pos_iff.mpr hdata)]
        exact Or.inl (AList.lookup_insert results)
      · refine h.imp (fun hresults => ?_) (fun hmem => (List.mem_cons.mp hmem).resolve_left heq)
        split
        · rw [AList.lookup_insert_ne heq]
          exact hresults
        · exact hresults

omit [WordCharacters] in
theorem lookup_collectKeys_of_notMem (c : MetricCollector) (reducer : Reducer) {key : String}
    {keys : List String} {results : Dict} (h : key ∉ keys) :
    (c.collectKeys reducer keys results).lookup key = results.lookup key := by
  unfold collectKeys
  induction keys generalizing results with
  | nil => rfl
  | cons key' keys ih =>
      obtain ⟨hne, hrest⟩ := not_or.mp (mt List.mem_cons.mpr h)
      rw [List.foldl_cons, ih hrest]
      split
      · exact AList.lookup_insert_ne hne
      · rfl

theorem Selects.lookup (h : Selects metrics key pattern reducer) {pattern' : Pattern}
    (hmem : pattern' ∈ metrics.map Prod.fst) (hmatches : pattern'.matches key = true) :
    metrics.lookup pattern' = some reducer := by
  obtain ⟨value, hvalue⟩ : ∃ value, metrics.lookup pattern' = some value := by
    obtain ⟨entry, hentry, rfl⟩ := List.mem_map.mp hmem
    refine Option.isSome_iff_exists.mp (List.lookup_isSome_iff.mpr ?_)
    exact ⟨entry, hentry, beq_self_eq_true _⟩
  obtain ⟨before, after, hsplit, -⟩ := List.lookup_eq_some_iff.mp hvalue
  have hentry : (pattern', value) ∈ metrics := by
    rw [hsplit]
    exact List.mem_append_right _ List.mem_cons_self
  have heq : value = reducer := congrArg Prod.snd (h.eq hentry hmatches)
  rw [hvalue, heq]

/-- What the table says of the data of a key. -/
theorem lookup_collect {c : MetricCollector} (hsound : Sound c)
    (h : Selects c.metrics key pattern reducer) (hdata : c.data key ≠ []) :
    c.collect.lookup key = some (reducer.reduce (c.data key)) := by
  -- the invariant: the key is in the result, or still to come
  have hloop : ∀ (accessed : List (Pattern × List String)) (results : Dict),
      (∀ entry ∈ accessed, ∀ key' ∈ entry.2, Accessed c.accessedPatterns entry.1 key') →
      (results.lookup key = some (reducer.reduce (c.data key)) ∨
        ∃ entry ∈ accessed, key ∈ entry.2) →
      (accessed.foldl (fun results entry =>
        match c.metrics.lookup entry.1 with
        | some reducer => c.collectKeys reducer entry.2 results
        | none => results) results).lookup key = some (reducer.reduce (c.data key)) := by
    intro accessed
    induction accessed with
    | nil =>
        intro results _ hcases
        exact hcases.resolve_right (fun hex => by obtain ⟨_, hmem, _⟩ := hex; cases hmem)
    | cons entry rest ih =>
        intro results hall hcases
        obtain ⟨hentry, hrest⟩ := List.forall_mem_cons.mp hall
        rw [List.foldl_cons]
        apply ih _ hrest
        by_cases hmem : key ∈ entry.2
        · obtain ⟨hin, hmatches⟩ := hsound.matches_of_accessed _ _ (hentry key hmem)
          rw [h.lookup hin hmatches]
          exact Or.inl (lookup_collectKeys c reducer hdata (Or.inr hmem))
        · rcases hcases with hresults | ⟨entry', hentry', hkey⟩
          · refine Or.inl ?_
            split
            · rw [lookup_collectKeys_of_notMem c _ hmem]
              exact hresults
            · exact hresults
          · rcases List.mem_cons.mp hentry' with rfl | hentry'
            · exact absurd hkey hmem
            · exact Or.inr ⟨entry', hentry', hkey⟩
  apply hloop
  · intro entry hentry key' hkey'
    exact ⟨entry.2, hentry, hkey'⟩
  · obtain ⟨pattern', keys, hmem, hkey⟩ := hsound.accessed_of_data key hdata
    exact Or.inr ⟨(pattern', keys), hmem, hkey⟩

end MetricCollector

/-! ## The callback -/

/-- What `last_info_for` returns: the info of an agent, or that of a group with the infos of its
agents under `GROUP_INFO`. -/
inductive EpisodeInfo
  | agent (info : Dict)
  | group (infos : List Dict)

/-- `info.get(GROUP_INFO, [info])`. -/
def EpisodeInfo.infos : EpisodeInfo → List Dict
  | .agent info => [info]
  | .group infos => infos

namespace CustomMetricCallback

def DEFAULT_CUSTOM_METRICS : Metrics :=
  [(.key "raw_reward", .mean),
    (.key "normalized_raw_reward", .mean),
    (.family "auxiliary_reward", .mean),
    (.family "reward_coefficient", .mean),
    (.key "coverage_rate", .mean),
    (.key "real_coverage_rate", .mean),
    (.key "mean_transport_rate", .last),
    (.key "num_delivered_cargoes", .last),
    (.key "num_tracked", .mean)]

def onEpisodeStart (customMetrics : Metrics) : MetricCollector := { metrics := customMetrics }

noncomputable def onEpisodeStep [WordCharacters] (collector : MetricCollector)
    (lastInfos : List EpisodeInfo) : MetricCollector :=
  collector.add (lastInfos.flatMap EpisodeInfo.infos)

/-- `key.endswith('reward') and not key.startswith(('episode', 'reward_coefficient'))`. -/
def isReward (key : String) : Bool :=
  "reward".toList.isSuffixOf key.toList &&
    ! ("episode".toList.isPrefixOf key.toList || "reward_coefficient".toList.isPrefixOf key.toList)

/-- The custom metrics of an episode. -/
noncomputable def onEpisodeEnd (collector : MetricCollector) : Dict :=
  let customMetrics := collector.collect
  customMetrics.keys.foldl
    (fun metrics key =>
      if isReward key then metrics.insert ("episode_" ++ key) (collector.data key).sum
      else metrics)
    customMetrics

/-- What is reported of an episode, given the infos of its steps. -/
noncomputable def report [WordCharacters] (customMetrics : Metrics)
    (steps : List (List EpisodeInfo)) : Dict :=
  onEpisodeEnd (steps.foldl onEpisodeStep (onEpisodeStart customMetrics))

/-! ## What is reported -/

theorem episode_inj {key key' : String} (h : "episode_" ++ key = "episode_" ++ key') : key = key' := by
  have hlist := congrArg String.toList h
  rw [String.toList_append, String.toList_append] at hlist
  exact String.toList_inj.mp (List.append_cancel_left hlist)

theorem episode_ne {key : String} (h : ("episode_".toList.isPrefixOf key.toList) = false)
    (key' : String) : key ≠ "episode_" ++ key' := by
  rintro rfl
  have hinitial : "episode_".toList <+: ("episode_" ++ key').toList := by
    rw [String.toList_append]
    exact List.prefix_append _ _
  rw [List.isPrefixOf_iff_prefix.mpr hinitial] at h
  cases h

/-- The entries of the collector are reported as they are. -/
theorem lookup_onEpisodeEnd (c : MetricCollector) {key : String}
    (h : ("episode_".toList.isPrefixOf key.toList) = false) :
    (onEpisodeEnd c).lookup key = c.collect.lookup key := by
  have hloop : ∀ (keys : List String) (metrics : Dict),
      (keys.foldl (fun metrics key =>
        if isReward key then metrics.insert ("episode_" ++ key) (c.data key).sum else metrics)
        metrics).lookup key = metrics.lookup key := by
    intro keys
    induction keys with
    | nil => intro metrics; rfl
    | cons key' keys ih =>
        intro metrics
        rw [List.foldl_cons, ih]
        split
        · exact AList.lookup_insert_ne (episode_ne h key')
        · rfl
  exact hloop c.collect.keys c.collect

/-- The sum over the episode of a reward. -/
theorem lookup_onEpisodeEnd_episode (c : MetricCollector) {key : String}
    (hreward : isReward key = true) (hkey : key ∈ c.collect) :
    (onEpisodeEnd c).lookup ("episode_" ++ key) = some (c.data key).sum := by
  have hloop : ∀ (keys : List String) (metrics : Dict),
      (metrics.lookup ("episode_" ++ key) = some (c.data key).sum ∨ key ∈ keys) →
      (keys.foldl (fun metrics key =>
        if isReward key then metrics.insert ("episode_" ++ key) (c.data key).sum else metrics)
        metrics).lookup ("episode_" ++ key) = some (c.data key).sum := by
    intro keys
    induction keys with
    | nil => intro metrics hcases; exact hcases.resolve_right List.not_mem_nil
    | cons key' keys ih =>
        intro metrics hcases
        rw [List.foldl_cons]
        apply ih
        by_cases heq : key = key'
        · subst heq
          rw [if_pos hreward]
          exact Or.inl (AList.lookup_insert metrics)
        · refine hcases.imp (fun hmetrics => ?_)
            (fun hmem => (List.mem_cons.mp hmem).resolve_left heq)
          split
          · rw [AList.lookup_insert_ne (fun h => heq (episode_inj h))]
            exact hmetrics
          · exact hmetrics
  exact hloop c.collect.keys c.collect (Or.inr (AList.mem_keys.mp hkey))

section

variable [WordCharacters] {customMetrics : Metrics} {key : String} {pattern : Pattern}
  {reducer : Reducer} {steps : List (List EpisodeInfo)}

/-- The mean over the agents of an entry of their infos. -/
noncomputable def average (key : String) (infos : List Dict) : ℝ :=
  mean (infos.map (MetricCollector.entry key))

theorem foldl_onEpisodeStep : steps.foldl onEpisodeStep (onEpisodeStart customMetrics)
    = (steps.map (fun step => step.flatMap EpisodeInfo.infos)).foldl MetricCollector.add
        { metrics := customMetrics } := by
  rw [List.foldl_map]
  rfl

/-- The collector of an episode whose infos all have the key. -/
theorem data_episode (h : MetricCollector.Selects customMetrics key pattern reducer)
    (hsteps : ∀ step ∈ steps, step.flatMap EpisodeInfo.infos ≠ [] ∧
      ∀ info ∈ step.flatMap EpisodeInfo.infos, key ∈ info) :
    (steps.foldl onEpisodeStep (onEpisodeStart customMetrics)).data key
      = steps.map (fun step => average key (step.flatMap EpisodeInfo.infos)) := by
  rw [foldl_onEpisodeStep, MetricCollector.data_foldl_add _ _ h, List.nil_append, List.map_map]
  · rfl
  · intro infos hinfos
    obtain ⟨step, hstep, rfl⟩ := List.mem_map.mp hinfos
    exact hsteps step hstep

theorem sound_episode : MetricCollector.Sound
    (steps.foldl onEpisodeStep (onEpisodeStart customMetrics)) := by
  rw [foldl_onEpisodeStep]
  exact (MetricCollector.sound_start customMetrics).foldl_add _

theorem metrics_episode : (steps.foldl onEpisodeStep (onEpisodeStart customMetrics)).metrics
    = customMetrics := by
  rw [foldl_onEpisodeStep]
  exact MetricCollector.metrics_foldl_add _ _

/-- What the collector of an episode returns. -/
theorem lookup_collect_episode (h : MetricCollector.Selects customMetrics key pattern reducer)
    (hne : steps ≠ [])
    (hsteps : ∀ step ∈ steps, step.flatMap EpisodeInfo.infos ≠ [] ∧
      ∀ info ∈ step.flatMap EpisodeInfo.infos, key ∈ info) :
    (steps.foldl onEpisodeStep (onEpisodeStart customMetrics)).collect.lookup key
      = some (reducer.reduce
          (steps.map (fun step => average key (step.flatMap EpisodeInfo.infos)))) := by
  have hselects : MetricCollector.Selects
      (steps.foldl onEpisodeStep (onEpisodeStart customMetrics)).metrics key pattern reducer := by
    rw [metrics_episode]
    exact h
  rw [← data_episode h hsteps]
  refine MetricCollector.lookup_collect sound_episode hselects ?_
  rw [data_episode h hsteps]
  exact fun hnil => hne (List.map_eq_nil_iff.mp hnil)

/-- The value of a key in the report. -/
theorem lookup_report (h : MetricCollector.Selects customMetrics key pattern reducer)
    (hkey : ("episode_".toList.isPrefixOf key.toList) = false) (hne : steps ≠ [])
    (hsteps : ∀ step ∈ steps, step.flatMap EpisodeInfo.infos ≠ [] ∧
      ∀ info ∈ step.flatMap EpisodeInfo.infos, key ∈ info) :
    (report customMetrics steps).lookup key
      = some (reducer.reduce
          (steps.map (fun step => average key (step.flatMap EpisodeInfo.infos)))) := by
  rw [report, lookup_onEpisodeEnd _ hkey]
  exact lookup_collect_episode h hne hsteps

/-- The sum of a reward in the report. -/
theorem lookup_report_episode (h : MetricCollector.Selects customMetrics key pattern reducer)
    (hreward : isReward key = true) (hne : steps ≠ [])
    (hsteps : ∀ step ∈ steps, step.flatMap EpisodeInfo.infos ≠ [] ∧
      ∀ info ∈ step.flatMap EpisodeInfo.infos, key ∈ info) :
    (report customMetrics steps).lookup ("episode_" ++ key)
      = some (steps.map (fun step => average key (step.flatMap EpisodeInfo.infos))).sum := by
  rw [report, lookup_onEpisodeEnd_episode _ hreward, data_episode h hsteps]
  refine AList.lookup_isSome.mp ?_
  rw [lookup_collect_episode h hne hsteps]
  rfl

end

end CustomMetricCallback

end Mate.Rllib
