import Mate.Rllib.TrackingTeam

set_option autoImplicit false

/-! # Metrics with and without frame skipping

`FrameSkip` reduces the infos of a fragment, `CustomMetricCallback` those of an episode, and takes
the mean over the agents in between. Sums and last values come out the same as without skipping.
A mean of means is the mean over the frames only if the last fragment, which may be shorter,
counts for no more than its frames.
-/

namespace Mate.Rllib

open Batches Fallible CustomMetricCallback FrameSkip

variable {S A O : Type}

/-- The infos of the agents as RLlib has them in the end of a step, one by one or in a group. -/
def lastInfos (grouped : Bool) (outcome : Outcome O) : List EpisodeInfo :=
  if grouped then [.group outcome.infos] else outcome.infos.map .agent

theorem infos_lastInfos (grouped : Bool) (outcome : Outcome O) :
    (lastInfos grouped outcome).flatMap EpisodeInfo.infos = outcome.infos := by
  cases grouped with
  | true => exact List.flatMap_singleton _ _
  | false =>
      show (outcome.infos.map EpisodeInfo.agent).flatMap EpisodeInfo.infos = outcome.infos
      rw [List.flatMap_map]
      exact List.flatMap_singleton' _

variable [WordCharacters]

/-- What is reported of an episode. -/
noncomputable def reportOf (grouped : Bool) (outcomes : List (Outcome O)) : Dict :=
  report DEFAULT_CUSTOM_METRICS (outcomes.map (lastInfos grouped))

/-- The metrics of an episode that are not those of a single step. -/
def REPORTED : List String :=
  ["episode_raw_reward", "episode_normalized_raw_reward", "mean_transport_rate",
    "num_delivered_cargoes", "coverage_rate", "real_coverage_rate"]

/-- The mean over the agents, step by step. -/
noncomputable def averages (key : String) (outcomes : List (Outcome O)) : List ℝ :=
  outcomes.map (fun outcome => average key outcome.infos)

section

variable {m : ℕ} {key : String} {pattern : Pattern} {reducer : Reducer}
  {outcomes : List (Outcome O)} {grouped : Bool}

omit [WordCharacters] in
theorem average_eq {outcome : Outcome O} (h : outcome.Complete m) :
    average key outcome.infos
      = mean ((List.range m).map (fun i => MetricCollector.entry key (infoOf i outcome))) := by
  rw [average, infos_eq h, List.map_map]
  rfl

omit [WordCharacters] in
theorem infos_of_complete (hm : 0 < m) (hkey : key ∈ STEP_KEYS)
    (h : ∀ outcome ∈ outcomes, outcome.Complete m) :
    ∀ step ∈ outcomes.map (lastInfos grouped), step.flatMap EpisodeInfo.infos ≠ [] ∧
      ∀ info ∈ step.flatMap EpisodeInfo.infos, key ∈ info := by
  intro step hstep
  obtain ⟨outcome, houtcome, rfl⟩ := List.mem_map.mp hstep
  have hcomplete := h outcome houtcome
  rw [infos_lastInfos]
  refine ⟨List.ne_nil_of_length_pos ?_, fun info hinfo => hcomplete.keys info hinfo key hkey⟩
  rw [hcomplete.infos]
  exact hm

omit [WordCharacters] in
theorem map_lastInfos (grouped : Bool) (key : String) (outcomes : List (Outcome O)) :
    (outcomes.map (lastInfos grouped)).map
        (fun step => average key (step.flatMap EpisodeInfo.infos)) = averages key outcomes := by
  rw [List.map_map]
  refine List.map_congr_left (fun outcome _ => ?_)
  exact congrArg (average key) (infos_lastInfos grouped outcome)

theorem lookup_reportOf (hm : 0 < m) (hkey : key ∈ STEP_KEYS)
    (hselects : MetricCollector.Selects DEFAULT_CUSTOM_METRICS key pattern reducer)
    (hepisode : ("episode_".toList.isPrefixOf key.toList) = false) (hne : outcomes ≠ [])
    (h : ∀ outcome ∈ outcomes, outcome.Complete m) :
    (reportOf grouped outcomes).lookup key = some (reducer.reduce (averages key outcomes)) := by
  rw [← map_lastInfos grouped]
  exact lookup_report hselects hepisode (fun hnil => hne (List.map_eq_nil_iff.mp hnil))
    (infos_of_complete hm hkey h)

theorem lookup_reportOf_episode (hm : 0 < m) (hkey : key ∈ STEP_KEYS)
    (hselects : MetricCollector.Selects DEFAULT_CUSTOM_METRICS key pattern reducer)
    (hreward : isReward key = true) (hne : outcomes ≠ [])
    (h : ∀ outcome ∈ outcomes, outcome.Complete m) :
    (reportOf grouped outcomes).lookup ("episode_" ++ key) = some (averages key outcomes).sum := by
  rw [← map_lastInfos grouped]
  exact lookup_report_episode hselects hreward (fun hnil => hne (List.map_eq_nil_iff.mp hnil))
    (infos_of_complete hm hkey h)

/-! ## Fragments -/

/-- The reductions that may be taken before or after the mean over the agents. -/
def Reducer.Linear : Reducer → Prop
  | .std => False
  | _ => True

omit [WordCharacters] in
theorem mean_reduce (hlinear : reducer.Linear) {α ι : Type} (agents : List ι) {frames : List α}
    (hne : frames ≠ []) (f : ι → α → ℝ) :
    mean (agents.map (fun i => reducer.reduce (frames.map (f i))))
      = reducer.reduce (frames.map (fun frame => mean (agents.map (f · frame)))) := by
  cases reducer with
  | mean => exact mean_map_mean agents frames f
  | sum => exact mean_map_sum agents frames f
  | std => exact hlinear.elim
  | last =>
      obtain ⟨before, last, rfl⟩ := (List.eq_nil_or_concat' frames).resolve_left hne
      simp only [Reducer.reduce, List.map_append, List.map_cons, List.map_nil,
        List.getLastD_concat]

/-- The mean over the agents in a fragment is the reduction of those in its frames. -/
theorem average_of_merges (hselects : MetricCollector.Selects INFO_KEYS key pattern reducer)
    (hkey : key ∈ STEP_KEYS) (hlinear : reducer.Linear) {outcome : Outcome O}
    (hmerges : Merges m outcomes outcome) (h : ∀ outcome ∈ outcomes, outcome.Complete m) :
    average key outcome.infos = reducer.reduce (averages key outcomes) := by
  have hne : outcomes ≠ [] := by
    obtain ⟨last, hmem, -⟩ := hmerges.eq h
    exact List.ne_nil_of_mem hmem
  have hentries : ∀ i ∈ List.range m, MetricCollector.entry key (infoOf i outcome)
      = reducer.reduce
          (outcomes.map (fun outcome => MetricCollector.entry key (infoOf i outcome))) :=
    fun i hi => hmerges.entry h hselects hkey (List.mem_range.mp hi)
  rw [average_eq (hmerges.complete h), List.map_congr_left hentries,
    mean_reduce hlinear _ hne (fun i outcome => MetricCollector.entry key (infoOf i outcome))]
  refine congrArg reducer.reduce (List.map_congr_left (fun outcome' hmem => ?_))
  exact (average_eq (h outcome' hmem)).symm

/-- The values of the fragments are the reductions of those of their frames. -/
theorem averages_of_merges (hselects : MetricCollector.Selects INFO_KEYS key pattern reducer)
    (hkey : key ∈ STEP_KEYS) (hlinear : reducer.Linear) {fragments : List (List (Outcome O))}
    {merged : List (Outcome O)} (hall : List.Forall₂ (Merges m) fragments merged)
    (h : ∀ outcome ∈ fragments.flatten, outcome.Complete m) :
    averages key merged = (fragments.map (averages key)).map reducer.reduce := by
  induction hall with
  | nil => rfl
  | @cons fragment outcome fragments merged hmerges _ ih =>
      rw [List.flatten_cons] at h
      have hhead := average_of_merges hselects hkey hlinear hmerges
        (fun outcome' hmem => h outcome' (List.mem_append_left _ hmem))
      have htail := ih (fun outcome' hmem => h outcome' (List.mem_append_right _ hmem))
      show average key outcome.infos :: averages key merged = _
      rw [hhead, htail]
      rfl

omit [WordCharacters] in
theorem averages_flatten (key : String) (fragments : List (List (Outcome O))) :
    averages key fragments.flatten = (fragments.map (averages key)).flatten :=
  List.map_flatten

theorem complete_of_merges {fragments : List (List (Outcome O))} {merged : List (Outcome O)}
    (hall : List.Forall₂ (Merges m) fragments merged)
    (h : ∀ outcome ∈ fragments.flatten, outcome.Complete m) :
    ∀ outcome ∈ merged, outcome.Complete m := by
  induction hall with
  | nil => exact fun outcome hmem => absurd hmem List.not_mem_nil
  | @cons fragment outcome fragments merged hmerges _ ih =>
      rw [List.flatten_cons] at h
      refine List.forall_mem_cons.mpr ⟨hmerges.complete (fun outcome' hmem => ?_), ?_⟩
      · exact h outcome' (List.mem_append_left _ hmem)
      · exact ih (fun outcome' hmem => h outcome' (List.mem_append_right _ hmem))

/-! ## Reports -/

/-- An episode with its fragments, and the outcomes that they are merged into. -/
structure Skipped (m k : ℕ) (frames merged : List (Outcome O)) (fragments : List (List (Outcome O))) :
    Prop where
  cut : Cut k fragments
  flatten : frames = fragments.flatten
  merges : List.Forall₂ (Merges m) fragments merged
  complete : ∀ outcome ∈ frames, outcome.Complete m

variable {k : ℕ} {frames merged : List (Outcome O)} {fragments : List (List (Outcome O))}

namespace Skipped

theorem merged_complete (h : Skipped m k frames merged fragments) :
    ∀ outcome ∈ merged, outcome.Complete m :=
  complete_of_merges h.merges (h.flatten ▸ h.complete)

theorem averages_merged (h : Skipped m k frames merged fragments)
    (hselects : MetricCollector.Selects INFO_KEYS key pattern reducer) (hkey : key ∈ STEP_KEYS)
    (hlinear : reducer.Linear) :
    averages key merged = (fragments.map (averages key)).map reducer.reduce :=
  averages_of_merges hselects hkey hlinear h.merges (h.flatten ▸ h.complete)

theorem averages_frames (h : Skipped m k frames merged fragments) (key : String) :
    averages key frames = (fragments.map (averages key)).flatten := by
  rw [h.flatten, averages_flatten]

/-- There are no frames, or frames and fragments. -/
theorem nil_or_ne (h : Skipped m k frames merged fragments) (hk : 0 < k) :
    (frames = [] ∧ merged = []) ∨ (frames ≠ [] ∧ merged ≠ []) := by
  obtain ⟨hcut, rfl, hmerges, -⟩ := h
  cases hmerges with
  | nil => exact Or.inl ⟨rfl, rfl⟩
  | @cons fragment outcome fragments merged _ _ =>
      have hpos : 0 < fragment.length := hcut.length_pos hk _ List.mem_cons_self
      refine Or.inr ⟨fun hnil => ?_, List.cons_ne_nil _ _⟩
      rw [List.flatten_cons] at hnil
      rw [(List.append_eq_nil_iff.mp hnil).1] at hpos
      exact absurd hpos (Nat.lt_irrefl 0)

variable (h : Skipped m k frames merged fragments)

include h

/-- The sums of sums. -/
theorem lookup_sum (key : String) (hm : 0 < m) (hk : 0 < k) (hkey : key ∈ STEP_KEYS)
    (hselects : MetricCollector.Selects DEFAULT_CUSTOM_METRICS key pattern reducer)
    (hfragment : MetricCollector.Selects INFO_KEYS key pattern .sum)
    (hreward : isReward key = true) :
    (reportOf grouped merged).lookup ("episode_" ++ key)
      = (reportOf grouped frames).lookup ("episode_" ++ key) := by
  rcases h.nil_or_ne hk with ⟨rfl, rfl⟩ | ⟨hframes, hmerged⟩
  · rfl
  · rw [lookup_reportOf_episode hm hkey hselects hreward hframes h.complete,
      lookup_reportOf_episode hm hkey hselects hreward hmerged h.merged_complete,
      h.averages_merged hfragment hkey trivial, h.averages_frames, List.sum_flatten]
    rfl

/-- The last of the last values. -/
theorem lookup_last (key : String) (hm : 0 < m) (hk : 0 < k) (hkey : key ∈ STEP_KEYS)
    (hselects : MetricCollector.Selects DEFAULT_CUSTOM_METRICS key pattern .last)
    (hfragment : MetricCollector.Selects INFO_KEYS key pattern .last)
    (hepisode : ("episode_".toList.isPrefixOf key.toList) = false) :
    (reportOf grouped merged).lookup key = (reportOf grouped frames).lookup key := by
  rcases h.nil_or_ne hk with ⟨rfl, rfl⟩ | ⟨hframes, hmerged⟩
  · rfl
  · have hpos : ∀ values ∈ fragments.map (averages key), 0 < values.length :=
      (h.cut.map (fun (outcome : Outcome O) => average key outcome.infos)).length_pos hk
    rw [lookup_reportOf hm hkey hselects hepisode hframes h.complete,
      lookup_reportOf hm hkey hselects hepisode hmerged h.merged_complete,
      h.averages_merged hfragment hkey trivial, h.averages_frames]
    exact congrArg some (getLastD_flatten hpos 0)

/-- The mean of the means is the mean if and only if the fragments are even. -/
theorem lookup_mean_iff (key : String) (hm : 0 < m) (hk : 0 < k) (hkey : key ∈ STEP_KEYS)
    (hselects : MetricCollector.Selects DEFAULT_CUSTOM_METRICS key pattern .mean)
    (hfragment : MetricCollector.Selects INFO_KEYS key pattern .mean)
    (hepisode : ("episode_".toList.isPrefixOf key.toList) = false) :
    (reportOf grouped merged).lookup key = (reportOf grouped frames).lookup key
      ↔ Even k (averages key frames) := by
  rcases h.nil_or_ne hk with ⟨rfl, rfl⟩ | ⟨hframes, hmerged⟩
  · exact iff_of_true rfl (Or.inl (dvd_zero k))
  · have hcut : Cut k (fragments.map (averages key)) :=
      h.cut.map (fun (outcome : Outcome O) => average key outcome.infos)
    rw [lookup_reportOf hm hkey hselects hepisode hframes h.complete,
      lookup_reportOf hm hkey hselects hepisode hmerged h.merged_complete,
      h.averages_merged hfragment hkey trivial, h.averages_frames, Option.some_inj]
    exact mean_map_mean_iff hcut

/-- All metrics, of which those that are means need even fragments. -/
theorem lookup_reported_iff (grouped : Bool) (hm : 0 < m) (hk : 0 < k) :
    (∀ key ∈ REPORTED, (reportOf grouped merged).lookup key = (reportOf grouped frames).lookup key)
      ↔ ∀ key ∈ ["coverage_rate", "real_coverage_rate"], Even k (averages key frames) := by
  have hcoverage : (reportOf grouped merged).lookup "coverage_rate"
      = (reportOf grouped frames).lookup "coverage_rate" ↔ _ :=
    h.lookup_mean_iff "coverage_rate" hm hk (by decide) rfl rfl (by decide)
  have hreal : (reportOf grouped merged).lookup "real_coverage_rate"
      = (reportOf grouped frames).lookup "real_coverage_rate" ↔ _ :=
    h.lookup_mean_iff "real_coverage_rate" hm hk (by decide) rfl rfl (by decide)
  rw [List.forall_mem_cons, List.forall_mem_singleton, ← hcoverage, ← hreal]
  constructor
  · intro hall
    exact ⟨hall _ (by decide), hall _ (by decide)⟩
  · rintro ⟨hcoverage, hreal⟩ key hkey
    unfold REPORTED at hkey
    simp only [List.mem_cons, List.not_mem_nil, or_false] at hkey
    rcases hkey with rfl | rfl | rfl | rfl | rfl | rfl
    · exact h.lookup_sum "raw_reward" hm hk (by decide) rfl rfl (by decide)
    · exact h.lookup_sum "normalized_raw_reward" hm hk (by decide) rfl rfl (by decide)
    · exact h.lookup_last "mean_transport_rate" hm hk (by decide) rfl rfl (by decide)
    · exact h.lookup_last "num_delivered_cargoes" hm hk (by decide) rfl rfl (by decide)
    · exact hcoverage
    · exact hreal

end Skipped

end

/-- An episode of the environment is one of the wrapper, fragment by fragment. -/
theorem episode_skipped (env : TeamEnv S A O) {k : ℕ} (hk : 0 < k) {seed : Option ℕ}
    {actions : List A} {s s' : S} (before : Option (List O)) {frames : List (Outcome O)}
    (h : episode env.reset env.step seed (actions.flatMap (List.replicate k)) s
      = .ok (frames, s')) :
    ∃ merged fragments last, Skipped env.numTeammates k frames merged fragments ∧
      episode (FrameSkip.reset env) (FrameSkip.step env k) seed actions ⟨s, before⟩
        = .ok (merged, ⟨s', some last⟩) := by
  obtain ⟨⟨observations, s₁⟩, hreset, hrollout⟩ := bind_eq_ok.mp h
  obtain ⟨fragments, merged, last, hcut, hflatten, hmerges, hskip⟩ :=
    rollout_eq_ok hk (env.length_reset hreset) hrollout
  refine ⟨merged, fragments, last, ⟨hcut, hflatten, hmerges, complete_rollout hrollout⟩, ?_⟩
  refine bind_eq_ok.mpr ⟨(observations, ⟨s₁, some observations⟩), ?_, hskip⟩
  exact bind_eq_ok.mpr ⟨(observations, s₁), hreset, rfl⟩

/-! ## A target that leaves -/

/-- `\w` for the letters of ASCII. -/
abbrev asciiWords : WordCharacters := ⟨fun c => c.isAlphanum || c == '_'⟩

/-- The info of a step without rewards, with a coverage rate. -/
def infoWith (rate : ℚ) : Info where
  rawReward := 0
  normalizedRawReward := 0
  messages := 0
  outCommunicationEdges := 0
  inCommunicationEdges := 0
  coverageRate := rate
  realCoverageRate := rate
  meanTransportRate := 0
  numDeliveredCargoes := 0

omit [WordCharacters] in
theorem entry_coverageRate (rate : ℚ) :
    MetricCollector.entry "coverage_rate" (toDict (infoWith rate)) = (rate : ℝ) := by
  rw [MetricCollector.entry, toDict, AList.lookup_to_alist]
  rfl

/-- A team of one agent, in episodes of three steps. Its coverage rate is one in the first two, and
zero in the last one. -/
noncomputable def leaving : TeamEnv ℕ Unit Unit where
  numTeammates := 1
  numTeammates_pos := Nat.one_pos
  reset _ _ := .ok ([()], 0)
  step t _ := .ok (⟨[()], [0], [decide (2 ≤ t)], [toDict (infoWith (if t < 2 then 1 else 0))]⟩, t + 1)
  length_reset := by
    intro seed s observations s' h
    cases h
    rfl
  step_complete := by
    intro s action outcome s' h
    cases h
    refine ⟨rfl, rfl, fun info hinfo => ?_⟩
    rw [List.mem_singleton.mp hinfo]
    exact keys_toDict _

/-- The outcomes of the episode. -/
noncomputable def leavingFrames : List (Outcome Unit) :=
  [⟨[()], [0], [false], [toDict (infoWith 1)]⟩, ⟨[()], [0], [false], [toDict (infoWith 1)]⟩,
    ⟨[()], [0], [true], [toDict (infoWith 0)]⟩]

omit [WordCharacters] in
theorem episode_leaving :
    episode leaving.reset leaving.step none ([(), ()].flatMap (List.replicate 2)) 0
      = .ok (leavingFrames, 3) := rfl

omit [WordCharacters] in
theorem averages_leaving : averages "coverage_rate" leavingFrames = [1, 1, 0] := by
  have haverage : ∀ rate : ℚ, average "coverage_rate" [toDict (infoWith rate)] = (rate : ℝ) := by
    intro rate
    rw [average, List.map_singleton, mean_singleton, entry_coverageRate]
  unfold averages leavingFrames
  rw [List.map_cons, List.map_cons, List.map_singleton]
  simp only [haverage, Rat.cast_one, Rat.cast_zero]

omit [WordCharacters] in
theorem not_even_leaving : ¬ Even 2 (averages "coverage_rate" leavingFrames) := by
  rw [averages_leaving]
  rintro (hdvd | hle | hmean)
  · exact absurd hdvd (by decide)
  · exact absurd hle (by decide)
  · norm_num [mean] at hmean

/-- What is reported with frame skipping is what is reported without, exactly if the coverage rates
of a last fragment that is shorter are on average those of the frames before. -/
theorem frameSkip_reports_iff (env : TeamEnv S A O) (grouped : Bool) {k : ℕ} (hk : 0 < k)
    {seed : Option ℕ} {actions : List A} {s s' : S} (before : Option (List O))
    {frames : List (Outcome O)}
    (h : episode env.reset env.step seed (actions.flatMap (List.replicate k)) s
      = .ok (frames, s')) :
    ∃ merged after,
      episode (FrameSkip.reset env) (FrameSkip.step env k) seed actions ⟨s, before⟩
        = .ok (merged, after) ∧ after.env = s' ∧
      ((∀ key ∈ REPORTED,
          (reportOf grouped merged).lookup key = (reportOf grouped frames).lookup key) ↔
        ∀ key ∈ ["coverage_rate", "real_coverage_rate"], Even k (averages key frames)) := by
  obtain ⟨merged, fragments, last, hskipped, hepisode⟩ := episode_skipped env hk before h
  exact ⟨merged, _, hepisode, rfl, hskipped.lookup_reported_iff grouped env.numTeammates_pos hk⟩

omit [WordCharacters] in
/-- With two frames per fragment, the coverage rates of the three steps are not reported. -/
theorem frameSkip_reports_iff_leaving :
    letI := asciiWords
    ∃ merged after, episode (FrameSkip.reset leaving) (FrameSkip.step leaving 2) none [(), ()]
        ⟨0, none⟩ = .ok (merged, after) ∧
      ¬ ∀ key ∈ REPORTED,
        (reportOf false merged).lookup key = (reportOf false leavingFrames).lookup key := by
  let _ := asciiWords
  obtain ⟨merged, after, hepisode, -, hiff⟩ :=
    frameSkip_reports_iff leaving false Nat.two_pos none episode_leaving
  exact ⟨merged, after, hepisode, fun hall => not_even_leaving (hiff.mp hall _ List.mem_cons_self)⟩

omit [WordCharacters] in
/-- The mean of one and zero is not the mean of one, one and zero. -/
theorem not_frameSkip_reports :
    ¬ ∀ (_ : WordCharacters) (S A O : Type) (env : TeamEnv S A O) (grouped : Bool) (k : ℕ)
      (seed : Option ℕ) (actions : List A) (s s' : S) (before : Option (List O))
      (frames merged : List (Outcome O)) (after : State S O), 0 < k →
      episode env.reset env.step seed (actions.flatMap (List.replicate k)) s = .ok (frames, s') →
      episode (FrameSkip.reset env) (FrameSkip.step env k) seed actions ⟨s, before⟩
        = .ok (merged, after) →
      ∀ key ∈ REPORTED,
        (reportOf grouped merged).lookup key = (reportOf grouped frames).lookup key := by
  intro h
  let _ := asciiWords
  obtain ⟨merged, fragments, last, hskipped, hepisode⟩ :=
    episode_skipped leaving Nat.two_pos none episode_leaving
  have hall := h asciiWords ℕ Unit Unit leaving false 2 none [(), ()] 0 3 none leavingFrames merged _
    Nat.two_pos episode_leaving hepisode
  have heven := (hskipped.lookup_reported_iff false Nat.one_pos Nat.two_pos).mp hall
  exact not_even_leaving (heven _ List.mem_cons_self)

end Mate.Rllib
