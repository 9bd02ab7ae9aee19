import Mate.GreedyLoads

set_option autoImplicit false

/-! # The tasks of an episode in training

What `HiTMACWrapper` returns along an episode of a team of cameras, whose observations come through
the wrappers: `observed_eq_ok` carries what every frame keeps up through the fragments, and
`Coordinated` and `Greedy` are what the frames keep up of the coordinators and of the assignments.
-/

namespace Mate.Rllib

open Fallible Mealy Env

/-! ## Teams of cameras -/

/-- An observation for every camera. -/
structure JointRows (cfg : Config) (rows : List (List ℝ)) : Prop where
  length_eq : rows.length = cfg.numCameras
  row : ∀ i : Fin (cfg.teamSize .camera), ObservationRow cfg .camera i (rows.getD i [])

/-- A `MultiCamera` around the environment of a configuration, without wrappers that change its
observations. Once it has been reset, it answers with observations of the cameras. -/
structure CameraTeam (cfg : Config) (S A : Type) extends TeamEnv S A (List ℝ) where
  Ready : S → Prop
  reset_ready : ∀ {seed s observations s'}, reset seed s = .ok (observations, s') →
    JointRows cfg observations ∧ Ready s'
  step_ready : ∀ {s action outcome s'}, Ready s → step s action = .ok (outcome, s') →
    JointRows cfg outcome.observations ∧ Ready s'

section

variable {cfg : Config} {rows : List (List ℝ)}

theorem JointRows.getElem? (h : JointRows cfg rows) (i : Fin (cfg.teamSize .camera)) :
    rows[(i : ℕ)]? = some (rows.getD i []) := by
  have hi : (i : ℕ) < rows.length := h.length_eq ▸ i.isLt
  rw [List.getD_eq_getElem?_getD, List.getElem?_eq_getElem hi]
  rfl

theorem JointRows.exists_of_mem (h : JointRows cfg rows) {row : List ℝ} (hrow : row ∈ rows) :
    ∃ i, ObservationRow cfg .camera i row := by
  obtain ⟨k, hk, rfl⟩ := List.mem_iff_getElem.mp hrow
  have hi := h.row ⟨k, lt_of_lt_of_eq hk h.length_eq⟩
  rw [List.getD_eq_getElem?_getD, List.getElem?_eq_getElem hk] at hi
  exact ⟨_, hi⟩

/-- The observations of all cameras behind the wrappers. -/
noncomputable def transformEach (cfg : Config) (flags : Preprocessing) (rows : List (List ℝ)) :
    List (List ℝ) :=
  rows.map (flags.transform .camera cfg.numCameras cfg.numTargets cfg.numObstacles)

theorem JointRows.getD_transformEach (h : JointRows cfg rows) (flags : Preprocessing)
    (i : Fin (cfg.teamSize .camera)) :
    (transformEach cfg flags rows).getD i []
      = flags.transform .camera cfg.numCameras cfg.numTargets cfg.numObstacles (rows.getD i []) := by
  rw [transformEach, List.getD_eq_getElem?_getD, List.getElem?_map, h.getElem? i]
  rfl

theorem JointRows.transformEach (h : JointRows cfg rows) (flags : Preprocessing) :
    JointRows cfg (transformEach cfg flags rows) where
  length_eq := (List.length_map _).trans h.length_eq
  row := by
    intro i
    rw [h.getD_transformEach]
    exact (h.row i).transform flags

theorem JointRows.preprocessEach (h : JointRows cfg rows) (flags : Preprocessing) :
    preprocessEach cfg flags rows = .ok (Rllib.transformEach cfg flags rows) := by
  refine mapM_eq_ok (fun row hrow => ?_)
  obtain ⟨i, hi⟩ := h.exists_of_mem hrow
  exact hi.apply flags

end

/-! ## Histories -/

section

variable {cfg : Config} {S A O : Type}

/-- The joint observations that the agents of a team act on in an episode: that of the reset, and
those of the steps after which not all of them are done. -/
def history (env : TeamEnv S A O) (seed : Option ℕ) (actions : List A) (s : S) :
    Except Error (List (List O)) := do
  let (observations, s) ← env.reset seed s
  let (outcomes, _) ← rollout env.step actions s
  return observations
    :: (outcomes.takeWhile (fun outcome => !outcome.allDone)).map Outcome.observations

/-- An outcome behind the wrappers. -/
noncomputable def Outcome.transformed (cfg : Config) (flags : Preprocessing)
    (outcome : Outcome (List ℝ)) : Outcome (List ℝ) :=
  { outcome with observations := transformEach cfg flags outcome.observations }

theorem CameraTeam.rollout_ready (team : CameraTeam cfg S A) {actions : List A} {s s' : S}
    {outcomes : List (Outcome (List ℝ))} (hs : team.Ready s)
    (h : rollout team.step actions s = .ok (outcomes, s')) :
    ∀ outcome ∈ outcomes, JointRows cfg outcome.observations := by
  induction actions generalizing s outcomes with
  | nil =>
      cases h
      exact fun outcome hmem => absurd hmem List.not_mem_nil
  | cons action actions ih =>
      obtain ⟨outcome, s₁, hstep, ⟨-, rfl, -⟩ | ⟨-, rest, hrest, rfl⟩⟩ := rollout_cons.mp h
      · exact fun outcome' hmem => List.mem_singleton.mp hmem ▸ (team.step_ready hs hstep).1
      · obtain ⟨hrows, hready⟩ := team.step_ready hs hstep
        exact List.forall_mem_cons.mpr ⟨hrows, ih hready hrest⟩

/-- A rollout behind the wrappers. -/
theorem CameraTeam.rollout_preprocessed (team : CameraTeam cfg S A) (flags : Preprocessing)
    {actions : List A} {s s' : S} {outcomes : List (Outcome (List ℝ))} (hs : team.Ready s)
    (h : rollout team.step actions s = .ok (outcomes, s')) :
    rollout (team.preprocessed cfg flags).step actions s
      = .ok (outcomes.map (Outcome.transformed cfg flags), s') := by
  induction actions generalizing s outcomes with
  | nil =>
      cases h
      rfl
  | cons action actions ih =>
      obtain ⟨outcome, s₁, hstep, hcases⟩ := rollout_cons.mp h
      obtain ⟨hrows, hready⟩ := team.step_ready hs hstep
      have hstep' : (team.preprocessed cfg flags).step s action
          = .ok (outcome.transformed cfg flags, s₁) :=
        bind_eq_ok.mpr ⟨(outcome, s₁), hstep, bind_eq_ok.mpr ⟨_, hrows.preprocessEach flags, rfl⟩⟩
      refine rollout_cons.mpr ⟨_, s₁, hstep', ?_⟩
      rcases hcases with ⟨hdone, rfl, rfl⟩ | ⟨hdone, rest, hrest, rfl⟩
      · exact Or.inl ⟨hdone, rfl, rfl⟩
      · exact Or.inr ⟨hdone, _, ih hready hrest, rfl⟩

end

/-! ## Runs of the wrapper -/

namespace HiTMACWrapper

variable {cfg : Config} {Hidden G S A : Type} [WordCharacters]
  {config : HierarchyConfig Hidden cfg.numTargets} {env : TeamEnv S A (List ℝ)} {s s' : S}

/-- The loop goes through a rollout in which the action is held. -/
theorem frames_eq_ok {action : A} {k : ℕ} {outcomes : List (Outcome (List ℝ))}
    {fragment : Fragment Hidden G cfg.numTargets} {tasks : Tasks Hidden G cfg.numTargets}
    (h : rollout env.step (List.replicate k action) s = .ok (outcomes, s'))
    (hticks : (outcomes.map Outcome.observations).foldlM (Tasks.tick config) fragment.tasks
      = .ok tasks) :
    ∃ after, frames config env action k fragment s = .ok (after, s') ∧ after.tasks = tasks ∧
      (outcomes = [] → after.outcome = fragment.outcome) ∧
      ∀ last, outcomes.getLast? = some last → ∃ infos, after.outcome = some { last with infos } := by
  induction k generalizing s outcomes fragment with
  | zero =>
      cases h
      cases hticks
      exact ⟨fragment, rfl, rfl, fun _ => rfl, fun last hlast => by cases hlast⟩
  | succ k ih =>
      rw [List.replicate_succ] at h
      obtain ⟨outcome, s₁, hstep, hcases⟩ := rollout_cons.mp h
      have hadd : ∀ tasks₁, fragment.tasks.tick config outcome.observations = .ok tasks₁ →
          ∃ fragment₁ infos, fragment.add config outcome = .ok fragment₁ ∧ fragment₁.tasks = tasks₁
            ∧ fragment₁.outcome = some { outcome with infos } :=
        fun tasks₁ htick => ⟨_, _, bind_eq_ok.mpr ⟨tasks₁, htick, rfl⟩, rfl, rfl⟩
      unfold frames
      -- the loop breaks at a frame in which all are done
      rcases hcases with ⟨hdone, rfl, rfl⟩ | ⟨hdone, rest, hrest, rfl⟩
      · rw [List.map_singleton, List.foldlM_cons] at hticks
        obtain ⟨tasks₁, htick, htasks⟩ := bind_eq_ok.mp hticks
        cases htasks
        obtain ⟨fragment₁, infos, hfragment, htasks₁, houtcome⟩ := hadd tasks htick
        refine ⟨fragment₁, bind_eq_ok.mpr ⟨(outcome, s'), hstep,
          bind_eq_ok.mpr ⟨fragment₁, hfragment, if_pos hdone⟩⟩, htasks₁, ?_, ?_⟩
        · intro hnil
          cases hnil
        · intro last hlast
          cases hlast
          exact ⟨infos, houtcome⟩
      · rw [List.map_cons, List.foldlM_cons] at hticks
        obtain ⟨tasks₁, htick, hticks⟩ := bind_eq_ok.mp hticks
        obtain ⟨fragment₁, infos, hfragment, rfl, houtcome⟩ := hadd tasks₁ htick
        obtain ⟨after, hafter, htasks, hempty, hlast⟩ := ih hrest hticks
        have hgo : ¬ outcome.allDone = true := by
          rw [hdone]
          exact Bool.false_ne_true
        refine ⟨after, bind_eq_ok.mpr ⟨(outcome, s₁), hstep,
          bind_eq_ok.mpr ⟨fragment₁, hfragment, (if_neg hgo).trans hafter⟩⟩, htasks, ?_, ?_⟩
        · intro hnil
          cases hnil
        · intro last hcons
          cases rest with
          | nil =>
              cases hcons
              exact ⟨infos, (hempty rfl).trans houtcome⟩
          | cons outcome' rest => exact hlast last hcons

/-- One step of the wrapper. -/
theorem step_eq_ok {action : A} {before : State S Hidden G cfg.numTargets}
    {outcomes : List (Outcome (List ℝ))} {last : Outcome (List ℝ)}
    {tasks : Tasks Hidden G cfg.numTargets}
    (h : rollout env.step (List.replicate config.frameSkip action) before.env = .ok (outcomes, s'))
    (hlast : outcomes.getLast? = some last)
    (hticks : (outcomes.map Outcome.observations).foldlM (Tasks.tick config) before.tasks
      = .ok tasks) :
    ∃ outcome, step config env before action = .ok (outcome, ⟨s', last.observations, tasks⟩) ∧
      outcome.observations = augmentObservations last.observations tasks.currentAssignments ∧
      outcome.dones = last.dones := by
  have hstart : (start config before.tasks).tasks = before.tasks := rfl
  obtain ⟨after, hafter, rfl, -, houtcome⟩ := frames_eq_ok h (hstart ▸ hticks)
  obtain ⟨infos, houtcome⟩ := houtcome last hlast
  have hresult : ∃ outcome, after.result config = .ok (outcome, last.observations)
      ∧ outcome.observations = augmentObservations last.observations after.tasks.currentAssignments
      ∧ outcome.dones = last.dones := by
    unfold Fragment.result
    rw [houtcome]
    exact ⟨_, rfl, rfl, rfl⟩
  obtain ⟨outcome, hresult, hobservations, hdones⟩ := hresult
  refine ⟨outcome, ?_, hobservations, hdones⟩
  exact bind_eq_ok.mpr ⟨(after, s'), hafter, bind_eq_ok.mpr ⟨_, hresult, rfl⟩⟩

omit [WordCharacters] in
/-- What every frame keeps up is kept up by a fragment. -/
theorem ticks_eq_ok {I : ℕ → Tasks Hidden G cfg.numTargets → Prop}
    {outcomes : List (Outcome (List ℝ))} {tasks : Tasks Hidden G cfg.numTargets} (hI : I 0 tasks)
    (htick : ∀ t outcome tasks, outcomes[t]? = some outcome → I t tasks →
      ∃ tasks', tasks.tick config outcome.observations = .ok tasks' ∧ I (t + 1) tasks') :
    ∃ tasks', (outcomes.map Outcome.observations).foldlM (Tasks.tick config) tasks = .ok tasks' ∧
      I outcomes.length tasks' := by
  induction outcomes generalizing I tasks with
  | nil => exact ⟨tasks, rfl, hI⟩
  | cons outcome outcomes ih =>
      obtain ⟨tasks₁, hfirst, hI₁⟩ := htick 0 outcome tasks rfl hI
      have htick₁ : ∀ t outcome tasks, outcomes[t]? = some outcome → I (t + 1) tasks →
          ∃ tasks', tasks.tick config outcome.observations = .ok tasks' ∧ I (t + 1 + 1) tasks' :=
        fun t outcome tasks ht => htick (t + 1) outcome tasks ht
      obtain ⟨tasks₂, hrest, hI₂⟩ := ih (I := fun t => I (t + 1)) hI₁ htick₁
      refine ⟨tasks₂, ?_, hI₂⟩
      rw [List.map_cons, List.foldlM_cons]
      exact bind_eq_ok.mpr ⟨tasks₁, hfirst, hrest⟩

/-- **A run of the wrapper**: after every fragment that the frames fill, what every frame keeps up
holds, and the assignments are behind the observations of the last frame. -/
theorem rollout_step_eq_ok {I : ℕ → Tasks Hidden G cfg.numTargets → Prop} {actions : List A}
    {before : State S Hidden G cfg.numTargets} {outcomes : List (Outcome (List ℝ))}
    (h : rollout env.step (actions.flatMap (List.replicate config.frameSkip)) before.env
      = .ok (outcomes, s'))
    (hI : I 0 before.tasks)
    (htick : ∀ t outcome tasks, outcomes[t]? = some outcome → I t tasks →
      ∃ tasks', tasks.tick config outcome.observations = .ok tasks' ∧ I (t + 1) tasks') :
    ∃ merged after, rollout (step config env) actions before = .ok (merged, after) ∧
      ∀ j last, outcomes[j * config.frameSkip + (config.frameSkip - 1)]? = some last →
        ∃ outcome tasks, merged[j]? = some outcome ∧ I ((j + 1) * config.frameSkip) tasks ∧
          outcome.observations = augmentObservations last.observations tasks.currentAssignments := by
  induction actions generalizing I before outcomes with
  | nil =>
      cases h
      exact ⟨[], before, rfl, fun j last hlast => by cases hlast⟩
  | cons action actions ih =>
      have hk := config.frameSkip_pos
      rw [List.flatMap_cons] at h
      obtain ⟨first, s₁, hfirst, hcases⟩ := rollout_append h
      -- there is at least one frame, so there is a last one
      have hne : 0 < first.length := by
        refine (length_rollout hfirst).2 (fun hnil => ?_)
        rw [List.replicate_eq_nil_iff] at hnil
        omega
      have hle : first.length ≤ config.frameSkip := by
        rw [← List.length_replicate (n := config.frameSkip) (a := action)]
        exact (length_rollout hfirst).1
      obtain ⟨last, hlast⟩ : ∃ last, first.getLast? = some last :=
        Option.isSome_iff_exists.mp (List.getLast?_isSome.mpr (List.ne_nil_of_length_pos hne))
      have hinitial : ∀ (t : ℕ) (outcome : Outcome (List ℝ)), first[t]? = some outcome →
          outcomes[t]? = some outcome := by
        intro t outcome ht
        rcases hcases with ⟨-, rfl, -⟩ | ⟨-, -, after, -, rfl⟩
        · exact ht
        · rw [List.getElem?_append_left (List.getElem?_eq_some_iff.mp ht).1]
          exact ht
      obtain ⟨tasks₁, hticks, hI₁⟩ := ticks_eq_ok hI
        (fun t outcome tasks ht => htick t outcome tasks (hinitial t outcome ht))
      obtain ⟨outcome, hstep, hobservations, hdones⟩ := step_eq_ok hfirst hlast hticks
      have hdone : outcome.allDone = last.allDone := by
        unfold Outcome.allDone
        rw [hdones]
      rcases hcases with ⟨⟨last', hlast', hended⟩, rfl, rfl⟩ | ⟨hgo, hlength, rest, hrest, rfl⟩
      · obtain rfl : last = last' := Option.some.inj (hlast.symm.trans hlast')
        refine ⟨[outcome], _, rollout_cons.mpr
          ⟨outcome, _, hstep, Or.inl ⟨hdone.trans hended, rfl, rfl⟩⟩, ?_⟩
        intro j last' hj
        have hlt := (List.getElem?_eq_some_iff.mp hj).1
        cases j with
        | zero =>
            -- the episode ends with the last frame of the fragment
            have hfull : outcomes.length = config.frameSkip := by omega
            rw [Nat.zero_mul, Nat.zero_add, ← hfull, ← List.getLast?_eq_getElem?, hlast] at hj
            obtain rfl := Option.some.inj hj
            refine ⟨outcome, tasks₁, rfl, ?_, hobservations⟩
            rw [Nat.zero_add, Nat.one_mul, ← hfull]
            exact hI₁
        | succ j =>
            rw [Nat.succ_mul] at hlt
            omega
      · rw [List.length_replicate] at hlength
        have hnot : outcome.allDone = false := by
          rw [hdone]
          exact Bool.eq_false_iff.mpr (fun htrue => hgo ⟨last, hlast, htrue⟩)
        have hrest_tick : ∀ (t : ℕ) outcome tasks, rest[t]? = some outcome →
            I (t + config.frameSkip) tasks →
            ∃ tasks', tasks.tick config outcome.observations = .ok tasks' ∧
              I (t + 1 + config.frameSkip) tasks' := by
          intro t outcome tasks ht hIt
          rw [Nat.add_right_comm]
          refine htick (t + config.frameSkip) outcome tasks ?_ hIt
          rw [List.getElem?_append_right (by omega), hlength, Nat.add_sub_cancel]
          exact ht
        have hI₀ : I (0 + config.frameSkip) tasks₁ := by
          rw [Nat.zero_add, ← hlength]
          exact hI₁
        obtain ⟨merged, after, hmerged, hall⟩ :=
          @ih (fun t => I (t + config.frameSkip)) ⟨s₁, last.observations, tasks₁⟩ rest hrest hI₀
            hrest_tick
        refine ⟨outcome :: merged, after,
          rollout_cons.mpr ⟨outcome, _, hstep, Or.inr ⟨hnot, merged, hmerged, rfl⟩⟩, ?_⟩
        intro j last' hj
        cases j with
        | zero =>
            rw [Nat.zero_mul, Nat.zero_add, List.getElem?_append_left (by omega), ← hlength,
              ← List.getLast?_eq_getElem?, hlast] at hj
            obtain rfl := Option.some.inj hj
            refine ⟨outcome, tasks₁, rfl, ?_, hobservations⟩
            rw [Nat.zero_add, Nat.one_mul, ← hlength]
            exact hI₁
        | succ j =>
            have hindex : (j + 1) * config.frameSkip + (config.frameSkip - 1) - first.length
                = j * config.frameSkip + (config.frameSkip - 1) := by
              rw [hlength, Nat.succ_mul]
              omega
            have hge : first.length ≤ (j + 1) * config.frameSkip + (config.frameSkip - 1) := by
              rw [hlength, Nat.succ_mul]
              omega
            rw [List.getElem?_append_right hge, hindex] at hj
            obtain ⟨outcome', tasks', hget, hI', hobs⟩ := hall j last' hj
            refine ⟨outcome', tasks', hget, ?_, hobs⟩
            rw [Nat.succ_mul (j + 1)]
            exact hI'

/-- **What the wrapper returns in an episode**: whenever a fragment is over, the observations of
that time with assignments that every frame so far kept up with. -/
theorem observed_eq_ok [RandomState G] {I : ℕ → Tasks Hidden G cfg.numTargets → Prop}
    (rows : ℕ → List (List ℝ)) {generators : List G} {seed : Option ℕ} {actions : List A} {s₁ : S}
    {outcomes : List (Outcome (List ℝ))}
    (hreset : ∃ tasks, reset config env generators seed s
        = .ok (augmentObservations (rows 0) tasks.currentAssignments, ⟨s₁, rows 0, tasks⟩)
      ∧ I 0 tasks)
    (h : rollout env.step (actions.flatMap (List.replicate config.frameSkip)) s₁
      = .ok (outcomes, s'))
    (hrows : ∀ (t : ℕ) outcome, outcomes[t]? = some outcome → outcome.observations = rows (t + 1))
    (htick : ∀ t tasks, t < outcomes.length → I t tasks →
      ∃ tasks', tasks.tick config (rows (t + 1)) = .ok tasks' ∧ I (t + 1) tasks') :
    ∃ joint, observed config env generators seed actions s = .ok joint ∧
      ∀ j, j * config.frameSkip ≤ outcomes.length → ∃ tasks, I (j * config.frameSkip) tasks ∧
        joint[j]?
          = some (augmentObservations (rows (j * config.frameSkip)) tasks.currentAssignments) := by
  obtain ⟨tasks, hreset, hI⟩ := hreset
  have hrollout : rollout env.step (actions.flatMap (List.replicate config.frameSkip))
      (⟨s₁, rows 0, tasks⟩ : State S Hidden G cfg.numTargets).env = .ok (outcomes, s') := h
  obtain ⟨merged, after, hmerged, hall⟩ :=
    rollout_step_eq_ok hrollout hI (fun t outcome tasks ht hIt => by
      rw [hrows t outcome ht]
      exact htick t tasks (List.getElem?_eq_some_iff.mp ht).1 hIt)
  refine ⟨_, bind_eq_ok.mpr ⟨_, hreset, bind_eq_ok.mpr ⟨_, hmerged, rfl⟩⟩, fun j hj => ?_⟩
  cases j with
  | zero =>
      rw [Nat.zero_mul]
      exact ⟨tasks, hI, rfl⟩
  | succ j =>
      have hk := config.frameSkip_pos
      -- the last frame of the fragment
      have htime : j * config.frameSkip + (config.frameSkip - 1) + 1 = (j + 1) * config.frameSkip := by
        rw [Nat.succ_mul]
        omega
      have hlt : j * config.frameSkip + (config.frameSkip - 1) < outcomes.length := by omega
      obtain ⟨outcome, tasks', hget, hI', hobservations⟩ :=
        hall j _ (List.getElem?_eq_getElem hlt)
      refine ⟨tasks', hI', ?_⟩
      have hlast := hrows _ _ (List.getElem?_eq_getElem hlt)
      rw [htime] at hlast
      rw [List.getElem?_cons_succ, List.getElem?_map, hget, Option.map_some, hobservations, hlast]

end HiTMACWrapper

/-! ## The decisions of the coordinators -/

section

variable {period : ℕ} (row : ℕ → List ℝ)

/-- The rows that a camera has seen at the times of the decisions, up to the time `t`. -/
def decisionRows (period : ℕ) (row : ℕ → List ℝ) (t : ℕ) : List (List ℝ) :=
  (List.range (t / period + 1)).map (fun m => row (m * period))

theorem decisionRows_zero : decisionRows period row 0 = [row 0] := by
  rw [decisionRows, Nat.zero_div, List.range_one, List.map_singleton, Nat.zero_mul]

theorem decisionRows_succ (t : ℕ) :
    decisionRows period row (t + 1)
      = if (t + 1) % period = 0 then decisionRows period row t ++ [row (t + 1)]
        else decisionRows period row t := by
  unfold decisionRows
  rw [Nat.succ_div]
  by_cases hdvd : period ∣ t + 1
  · have hlast : (t / period + 1) * period = t + 1 := by
      rw [← Nat.div_mul_cancel hdvd, Nat.succ_div, if_pos hdvd]
    rw [if_pos hdvd, if_pos (Nat.mod_eq_zero_of_dvd hdvd), List.range_succ, List.map_append,
      List.map_singleton, hlast]
  · rw [if_neg hdvd, if_neg (fun hmod => hdvd (Nat.dvd_of_mod_eq_zero hmod)), Nat.add_zero]

/-- The rows of the decisions before the time `t`. -/
def earlierRows (period : ℕ) (row : ℕ → List ℝ) : ℕ → List (List ℝ)
  | 0 => []
  | t + 1 => decisionRows period row t

theorem decisionRows_eq (t : ℕ) :
    decisionRows period row t
      = if t % period = 0 then earlierRows period row t ++ [row t] else earlierRows period row t := by
  cases t with
  | zero =>
      rw [decisionRows_zero, Nat.zero_mod, if_pos rfl]
      rfl
  | succ t => exact decisionRows_succ row t

end

/-- The tasks that a coordinator has given after calls on these rows. -/
def Coordinator.tasks {cfg : Config} {Hidden : Type} (settings : Coordinator Hidden cfg.numTargets)
    (inputs : List (List ℝ)) : Fin cfg.numTargets → Bool :=
  ((settings.policy.last (decided settings.frameSkip inputs)).map Selection.bits).getD
    (fun _ => false)

/-! ## What the wrapper assigns -/

/-- A loop over agents that have a row each. -/
theorem HiTMACWrapper.forEach_eq_ok {α β : Type} {f : α → List ℝ → Except Error β}
    {agents : List α} {rows : List (List ℝ)} (hlength : agents.length = rows.length)
    (P : ℕ → β → Prop)
    (h : ∀ (k : ℕ) agent row, agents[k]? = some agent → rows[k]? = some row →
      ∃ b, f agent row = .ok b ∧ P k b) :
    ∃ bs, HiTMACWrapper.forEach f agents rows = .ok bs ∧ bs.length = agents.length ∧
      ∀ (k : ℕ) b, bs[k]? = some b → P k b := by
  induction agents generalizing rows P with
  | nil => exact ⟨[], rfl, rfl, fun k b hb => by cases hb⟩
  | cons agent agents ih =>
      cases rows with
      | nil => cases hlength
      | cons row rows =>
          obtain ⟨b, hb, hP⟩ := h 0 agent row rfl rfl
          obtain ⟨bs, hbs, hlength', hall⟩ := ih (Nat.succ.inj hlength) (fun k => P (k + 1))
            (fun k agent row ha hr => h (k + 1) agent row ha hr)
          refine ⟨b :: bs, ?_, congrArg (· + 1) hlength', ?_⟩
          · exact bind_eq_ok.mpr ⟨b, hb, bind_eq_ok.mpr ⟨bs, hbs, rfl⟩⟩
          · intro k b' hb'
            cases k with
            | zero =>
                cases hb'
                exact hP
            | succ k => exact hall k b' hb'

section

variable {cfg : Config} {Hidden G : Type} {settings : Coordinator Hidden cfg.numTargets}
  {i : Fin (cfg.teamSize .camera)} {rows : List (List ℝ)}

theorem Acted.tasks_eq {agent : HRLMAPPOCameraAgent Hidden G cfg.numTargets}
    (h : Acted settings i rows agent) :
    agent.lastSelection.getD (fun _ => false) = settings.tasks (rows.map settings.input) := by
  rw [h.lastSelection]
  rfl

end

namespace HiTMACWrapper

variable {cfg : Config} {Hidden G S A : Type} {config : HierarchyConfig Hidden cfg.numTargets}
  {settings : Coordinator Hidden cfg.numTargets} {rows : ℕ → List (List ℝ)} {t : ℕ}
  {tasks : Tasks Hidden G cfg.numTargets}

/-- The history of camera `i`. -/
def cameraRow (rows : ℕ → List (List ℝ)) (i : ℕ) (t : ℕ) : List ℝ := (rows t).getD i []

/-- Every coordinator has been called at the times of the decisions up to `t`. -/
structure Coordinated (config : HierarchyConfig Hidden cfg.numTargets)
    (settings : Coordinator Hidden cfg.numTargets) (rows : ℕ → List (List ℝ)) (t : ℕ)
    (tasks : Tasks Hidden G cfg.numTargets) : Prop where
  episodeStep : tasks.episodeStep = t
  agents : ∃ agents, tasks.coordinatorAgents = some agents ∧ agents.length = cfg.numCameras ∧
    ∀ i : Fin (cfg.teamSize .camera), ∃ agent, agents[(i : ℕ)]? = some agent ∧
      Acted settings i (decisionRows config.coordPeriod (cameraRow rows i) t) agent
  assignments : ∀ i : Fin (cfg.teamSize .camera), tasks.currentAssignments[(i : ℕ)]?
    = some (settings.tasks
        ((decisionRows config.coordPeriod (cameraRow rows i) t).map settings.input))

/-- The coordinators are called once more. -/
theorem runCoordinator_eq_ok {agents : List (HRLMAPPOCameraAgent Hidden G cfg.numTargets)}
    {base : List (List ℝ)} (hbase : JointRows cfg base) (hlength : agents.length = cfg.numCameras)
    {before : Fin (cfg.teamSize .camera) → List (List ℝ)}
    (h : ∀ i : Fin (cfg.teamSize .camera), ∃ agent, agents[(i : ℕ)]? = some agent ∧
      Acted settings i (before i) agent) :
    ∃ assignments agents', runCoordinator (some agents) base = .ok (assignments, some agents') ∧
      agents'.length = cfg.numCameras ∧
      (∀ i : Fin (cfg.teamSize .camera), ∃ agent, agents'[(i : ℕ)]? = some agent ∧
        Acted settings i (before i ++ [base.getD i []]) agent) ∧
      ∀ i : Fin (cfg.teamSize .camera), assignments[(i : ℕ)]?
        = some (settings.tasks ((before i ++ [base.getD i []]).map settings.input)) := by
  -- every agent acts on the row of its own camera
  obtain ⟨agents', hagents', hlength', hall⟩ := forEach_eq_ok (f := HRLMAPPOCameraAgent.act)
    (hlength.trans hbase.length_eq.symm)
    (fun k agent => ∀ i : Fin (cfg.teamSize .camera), (i : ℕ) = k →
      Acted settings i (before i ++ [base.getD i []]) agent) (by
      intro k agent row hagent hrow
      have hk : k < cfg.teamSize .camera :=
        lt_of_lt_of_eq (List.getElem?_eq_some_iff.mp hagent).1 hlength
      obtain ⟨agent₀, hagent₀, hacted⟩ := h ⟨k, hk⟩
      obtain rfl : agent = agent₀ := Option.some.inj (hagent.symm.trans hagent₀)
      obtain rfl : row = base.getD k [] :=
        Option.some.inj (hrow.symm.trans (hbase.getElem? ⟨k, hk⟩))
      obtain ⟨agent', hact, hacted'⟩ := hacted.act (hbase.row ⟨k, hk⟩)
      refine ⟨agent', hact, fun i hi => ?_⟩
      obtain rfl : i = ⟨k, hk⟩ := Fin.ext hi
      exact hacted')
  have hsome : ∀ i : Fin (cfg.teamSize .camera), ∃ agent, agents'[(i : ℕ)]? = some agent ∧
      Acted settings i (before i ++ [base.getD i []]) agent := by
    intro i
    have hi : (i : ℕ) < agents'.length := (hlength'.trans hlength).symm ▸ i.isLt
    exact ⟨_, List.getElem?_eq_getElem hi, hall i _ (List.getElem?_eq_getElem hi) i rfl⟩
  refine ⟨_, agents', bind_eq_ok.mpr ⟨agents', hagents', rfl⟩, hlength'.trans hlength, hsome, ?_⟩
  intro i
  obtain ⟨agent, hagent, hacted⟩ := hsome i
  have hi : (i : ℕ) < cfg.numCameras := i.isLt
  rw [List.getElem?_map, List.getElem?_range hi, Option.map_some, hagent, Option.bind_some,
    hacted.tasks_eq]

theorem Coordinated.tick (h : Coordinated config settings rows t tasks)
    (hrows : JointRows cfg (rows (t + 1))) :
    ∃ tasks', tasks.tick config (rows (t + 1)) = .ok tasks' ∧
      Coordinated config settings rows (t + 1) tasks' := by
  obtain ⟨agents, hagents, hlength, hacted⟩ := h.agents
  unfold Tasks.tick
  rw [h.episodeStep, hagents]
  -- at a multiple of the period there is one more decision
  by_cases hdue : (t + 1) % config.coordPeriod = 0
  · have hnext : ∀ i : Fin (cfg.teamSize .camera),
        decisionRows config.coordPeriod (cameraRow rows i) (t + 1)
          = decisionRows config.coordPeriod (cameraRow rows i) t ++ [(rows (t + 1)).getD i []] := by
      intro i
      rw [decisionRows_succ, if_pos hdue]
      rfl
    obtain ⟨assignments, agents', hrun, hlength', hacted', hassigned⟩ :=
      runCoordinator_eq_ok hrows hlength hacted
    refine ⟨⟨some agents', assignments, t + 1⟩, ?_, rfl, ⟨agents', rfl, hlength', ?_⟩, ?_⟩
    · rw [if_pos hdue]
      exact bind_eq_ok.mpr ⟨_, hrun, rfl⟩
    · intro i
      rw [hnext]
      exact hacted' i
    · intro i
      rw [hnext]
      exact hassigned i
  · have hnext : ∀ i : Fin (cfg.teamSize .camera),
        decisionRows config.coordPeriod (cameraRow rows i) (t + 1)
          = decisionRows config.coordPeriod (cameraRow rows i) t := by
      intro i
      rw [decisionRows_succ, if_neg hdue]
    refine ⟨{ tasks with episodeStep := t + 1 }, ?_, rfl, ⟨agents, hagents, hlength, ?_⟩, ?_⟩
    · rw [if_neg hdue, ← hagents]
      rfl
    · intro i
      rw [hnext]
      exact hacted i
    · intro i
      rw [hnext]
      exact h.assignments i

variable (rows) in
/-- The reset with trained coordinators. -/
theorem Coordinated.start [RandomState G] {env : TeamEnv S A (List ℝ)} {seed : Option ℕ} {s s₁ : S}
    (hconfig : config.coordinator = some settings) (hreset : env.reset seed s = .ok (rows 0, s₁))
    (hrows : JointRows cfg (rows 0)) (generators : Fin (cfg.teamSize .camera) → G) :
    ∃ tasks, reset config env (List.ofFn generators) seed s
        = .ok (augmentObservations (rows 0) tasks.currentAssignments, ⟨s₁, rows 0, tasks⟩)
      ∧ Coordinated config settings rows 0 tasks := by
  have hgenerators : (List.ofFn generators).length = (rows 0).length := by
    rw [List.length_ofFn, hrows.length_eq]
    rfl
  -- every agent is reset with its own generator and row
  obtain ⟨agents, hagents, hlength, hall⟩ := forEach_eq_ok
    (f := HRLMAPPOCameraAgent.reset settings) hgenerators
    (fun k agent => ∀ i : Fin (cfg.teamSize .camera), (i : ℕ) = k → Acted settings i [] agent) (by
      intro k npRandom row hrandom hrow
      have hk : k < cfg.teamSize .camera := by
        have hlt := (List.getElem?_eq_some_iff.mp hrandom).1
        rwa [List.length_ofFn] at hlt
      obtain rfl : row = (rows 0).getD k [] :=
        Option.some.inj (hrow.symm.trans (hrows.getElem? ⟨k, hk⟩))
      obtain ⟨agent, hreset, hacted⟩ := Acted.reset (hrows.row ⟨k, hk⟩) npRandom
      refine ⟨agent, hreset, fun i hi => ?_⟩
      obtain rfl : i = ⟨k, hk⟩ := Fin.ext hi
      exact hacted)
  have hcount : agents.length = cfg.numCameras := hlength.trans (hgenerators.trans hrows.length_eq)
  have hsome : ∀ i : Fin (cfg.teamSize .camera), ∃ agent, agents[(i : ℕ)]? = some agent ∧
      Acted settings i [] agent := by
    intro i
    have hi : (i : ℕ) < agents.length := hcount.symm ▸ i.isLt
    exact ⟨_, List.getElem?_eq_getElem hi, hall i _ (List.getElem?_eq_getElem hi) i rfl⟩
  -- and decides once
  obtain ⟨assignments, agents', hrun, hlength', hacted, hassigned⟩ :=
    runCoordinator_eq_ok hrows hcount hsome
  refine ⟨⟨some agents', assignments, 0⟩, ?_, rfl, ⟨agents', rfl, hlength', ?_⟩, ?_⟩
  · refine bind_eq_ok.mpr ⟨(rows 0, s₁), hreset, ?_⟩
    rw [hconfig]
    refine bind_eq_ok.mpr ⟨agents, hagents, bind_eq_ok.mpr ⟨some agents, rfl, ?_⟩⟩
    exact bind_eq_ok.mpr ⟨_, hrun, rfl⟩
  · intro i
    rw [decisionRows_zero]
    exact hacted i
  · intro i
    rw [decisionRows_zero]
    exact hassigned i

/-- Without coordinators the assignments are those of the last decision. -/
structure Greedy (config : HierarchyConfig Hidden cfg.numTargets) (rows : ℕ → List (List ℝ))
    (t : ℕ) (tasks : Tasks Hidden G cfg.numTargets) : Prop where
  episodeStep : tasks.episodeStep = t
  coordinatorAgents : tasks.coordinatorAgents = none
  assigned : GreedyAssigner.assign cfg.numTargets ⟨cfg.numCameras, targetViewMaskSlice cfg⟩
    (rows (t / config.coordPeriod * config.coordPeriod)) = .ok tasks.currentAssignments

end HiTMACWrapper

namespace GreedyAssigner

variable {numTargets : ℕ} {assigner : GreedyAssigner} {rows : List (List ℝ)}

/-- There is an assignment for every camera. -/
theorem assign_eq_ok (hpos : 0 < numTargets) (assigner : GreedyAssigner)
    (h : rows.length = assigner.numCameras) :
    ∃ assignments, assign numTargets assigner rows = .ok assignments ∧
      assignments.length = assigner.numCameras := by
  obtain ⟨bins, hlength, hassign, -⟩ := assign_greedy hpos h
  exact ⟨_, hassign, by rw [List.length_map, hlength]⟩

/-- The assignments depend on what the slice reads of the rows. -/
theorem assign_congr {assigner' : GreedyAssigner} {rows' : List (List ℝ)}
    (hcameras : assigner.numCameras = assigner'.numCameras)
    (h : rows.map assigner.targetViewMaskSlice.read
      = rows'.map assigner'.targetViewMaskSlice.read) :
    assign numTargets assigner rows = assign numTargets assigner' rows' := by
  -- one camera, from its own row
  have hone : (assigner.assignOne rows : (Fin numTargets → ℕ) → ℕ → _) = assigner'.assignOne rows' := by
    funext targetCoverage c
    have hc := congrArg (fun l => l[c]?) h
    simp only [List.getElem?_map] at hc
    unfold assignOne readRow
    cases hrow : rows[c]? with
    | none =>
        cases hrow' : rows'[c]? with
        | none => rfl
        | some row' =>
            rw [hrow, hrow'] at hc
            cases hc
    | some row =>
        cases hrow' : rows'[c]? with
        | none =>
            rw [hrow, hrow'] at hc
            cases hc
        | some row' =>
            rw [hrow, hrow'] at hc
            have hread := Option.some.inj hc
            have hvisible : (isVisible assigner.targetViewMaskSlice row : Fin numTargets → Bool)
                = isVisible assigner'.targetViewMaskSlice row' := by
              funext t
              unfold isVisible
              rw [hread]
            show (bind (Except.ok row) _ : Except Error _) = bind (Except.ok row') _
            simp only [bind, Except.bind, hvisible]
  unfold assign
  rw [hone, hcameras]

/-- **An array of one row** is too short for an assigner of several cameras. -/
theorem assign_singleton_error (h : 2 ≤ assigner.numCameras) (row : List ℝ) :
    ∀ assignments, assign numTargets assigner [row] ≠ .ok assignments := by
  intro assignments hassign
  obtain ⟨n, hn⟩ := Nat.exists_eq_add_of_le h
  have hrange : List.range assigner.numCameras = 0 :: 1 :: (List.range n).map (2 + ·) := by
    rw [hn, List.range_add]
    rfl
  unfold assign at hassign
  rw [hrange] at hassign
  obtain ⟨first, -, hassign⟩ := bind_eq_ok.mp hassign
  obtain ⟨rest, hrest, -⟩ := bind_eq_ok.mp hassign
  obtain ⟨second, hsecond, -⟩ := bind_eq_ok.mp hrest
  obtain ⟨row', hrow', -⟩ := bind_eq_ok.mp hsecond
  cases hrow'

end GreedyAssigner

namespace HiTMACWrapper

variable {cfg : Config} {Hidden G S A : Type} {config : HierarchyConfig Hidden cfg.numTargets}
  {rows : ℕ → List (List ℝ)} {t : ℕ} {tasks : Tasks Hidden G cfg.numTargets}

theorem Greedy.tick (h : Greedy config rows t tasks) (hrows : JointRows cfg (rows (t + 1))) :
    ∃ tasks', tasks.tick config (rows (t + 1)) = .ok tasks' ∧
      Greedy config rows (t + 1) tasks' := by
  unfold Tasks.tick
  rw [h.episodeStep, h.coordinatorAgents]
  by_cases hdue : (t + 1) % config.coordPeriod = 0
  · obtain ⟨assignments, hassign, -⟩ := GreedyAssigner.assign_eq_ok
      cfg.numTargets_pos ⟨cfg.numCameras, targetViewMaskSlice cfg⟩ hrows.length_eq
    refine ⟨⟨none, assignments, t + 1⟩, ?_, rfl, rfl, ?_⟩
    · rw [if_pos hdue]
      exact bind_eq_ok.mpr ⟨_, bind_eq_ok.mpr ⟨assignments, hassign, rfl⟩, rfl⟩
    · rw [Nat.div_mul_cancel (Nat.dvd_of_mod_eq_zero hdue)]
      exact hassign
  · refine ⟨{ tasks with episodeStep := t + 1 }, ?_, rfl, h.coordinatorAgents, ?_⟩
    · rw [if_neg hdue, ← h.coordinatorAgents]
      rfl
    · have hsame : (t + 1) / config.coordPeriod = t / config.coordPeriod := by
        rw [Nat.succ_div, if_neg (fun hdvd => hdue (Nat.mod_eq_zero_of_dvd hdvd)), Nat.add_zero]
      rw [hsame]
      exact h.assigned

variable (rows) in
/-- The reset without coordinators. -/
theorem Greedy.start [RandomState G] {env : TeamEnv S A (List ℝ)} {seed : Option ℕ} {s s₁ : S}
    (hconfig : config.coordinator = none) (hreset : env.reset seed s = .ok (rows 0, s₁))
    (hrows : JointRows cfg (rows 0)) (generators : List G) :
    ∃ tasks, reset config env generators seed s
        = .ok (augmentObservations (rows 0) tasks.currentAssignments, ⟨s₁, rows 0, tasks⟩)
      ∧ Greedy config rows 0 tasks := by
  obtain ⟨assignments, hassign, -⟩ := GreedyAssigner.assign_eq_ok
    cfg.numTargets_pos ⟨cfg.numCameras, targetViewMaskSlice cfg⟩ hrows.length_eq
  refine ⟨⟨none, assignments, 0⟩, ?_, rfl, rfl, ?_⟩
  · refine bind_eq_ok.mpr ⟨(rows 0, s₁), hreset, ?_⟩
    rw [hconfig]
    refine bind_eq_ok.mpr ⟨none, rfl, ?_⟩
    exact bind_eq_ok.mpr ⟨_, bind_eq_ok.mpr ⟨assignments, hassign, rfl⟩, rfl⟩
  · rw [Nat.zero_div, Nat.zero_mul]
    exact hassign

end HiTMACWrapper

end Mate.Rllib
