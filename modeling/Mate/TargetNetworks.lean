import Mate.Library.Fallible
import Mate.Library.Runs
import Mate.Rllib.FocusPolicies

set_option autoImplicit false

/-! # Target networks

A grouped policy copies its networks to its target networks after every so many updates. It counts the
updates, and remembers the count of the last copy; both are saved and loaded with the networks. Beside
a policy we keep the networks after each of the updates that led to it (`Session`). The target networks
are those after the last multiple of the interval (`target_of_last_multiple`), whatever has been saved and
loaded in between.
-/

namespace Mate.Rllib.Focus.GroupedCTDEPolicy

open Fallible Runs

variable {cfg : FocusConfig} {N O S W : Type} {D H n : ℕ}

/-- The networks of an algorithm and their targets. The optimizers have the parameters of the networks
only, and `update_target` loads their state into the targets. -/
structure TargetNetworks (learner : GroupedLearner N O S D H n cfg.nTargets) (W : Type) where
  online : N → W
  target : N → W
  target_optimise : ∀ {policy samples credit out},
    learner.optimise policy samples credit = .ok out → target out.1 = target policy.modules
  online_updateTarget : ∀ modules, online (learner.updateTarget modules) = online modules
  target_updateTarget : ∀ modules, target (learner.updateTarget modules) = online modules

/-- What a policy is used for on the learner. A checkpoint may be loaded any time after it was saved. -/
inductive Use (S : Type)
  | learnOnBatch (samples : S)
  | computeActions (epsilon : ℚ)
  | setEpsilon (epsilon : ℚ)
  | getState
  | setState

/-- A policy, with the networks after each of the updates that led to it, the first networks in front. The
checkpoints have theirs. -/
structure Session (N O W : Type) (D H J : ℕ) where
  policy : GroupedCTDEPolicy N O D H J
  history : List W
  saved : List (SavedState N O D H J × List W)

section

variable [Quadrature] {learner : GroupedLearner N O S D H n cfg.nTargets}

inductive Session.Step (networks : TargetNetworks learner W) :
    Session N O W D H cfg.nTargets → Use S → Session N O W D H cfg.nTargets → Prop
  | learnOnBatch {session : Session N O W D H cfg.nTargets} {samples : S} {blend : Option ℚ}
      {policy' : GroupedCTDEPolicy N O D H cfg.nTargets}
      (h : learnOnBatch cfg learner session.policy samples = .ok (blend, policy')) :
      Step networks session (.learnOnBatch samples)
        { session with
          policy := policy', history := session.history ++ [networks.online policy'.modules] }
  | computeActions {session : Session N O W D H cfg.nTargets} {epsilon : ℚ} :
      Step networks session (.computeActions epsilon)
        { session with policy := { session.policy with curEpsilon := epsilon } }
  | setEpsilon {session : Session N O W D H cfg.nTargets} {epsilon : ℚ} :
      Step networks session (.setEpsilon epsilon)
        { session with policy := { session.policy with curEpsilon := epsilon } }
  | getState {session : Session N O W D H cfg.nTargets} :
      Step networks session .getState
        { session with saved := session.saved ++ [(session.policy.getState, session.history)] }
  | setState {session : Session N O W D H cfg.nTargets} {state : SavedState N O D H cfg.nTargets}
      {history : List W} {policy' : GroupedCTDEPolicy N O D H cfg.nTargets}
      (hsaved : (state, history) ∈ session.saved)
      (h : session.policy.setState state = .ok policy') :
      Step networks session .setState { session with policy := policy', history := history }

end

/-! ## The schedule -/

/-- The last update at which the networks are copied: the last multiple of the interval. -/
def lastMultiple (freq : ℤ) (updates : ℕ) : ℤ := if 0 < freq then freq * (updates / freq) else 0

theorem lastMultiple_le (freq : ℤ) (updates : ℕ) : lastMultiple freq updates ≤ updates := by
  unfold lastMultiple
  split
  · rename_i hfreq
    exact Int.mul_ediv_self_le hfreq.ne'
  · exact Int.natCast_nonneg updates

theorem lt_lastMultiple_add {freq : ℤ} (hfreq : 0 < freq) (updates : ℕ) :
    (updates : ℤ) < lastMultiple freq updates + freq := by
  rw [lastMultiple, if_pos hfreq]
  exact Int.lt_mul_ediv_self_add hfreq

/-- The condition of `learn_on_batch` for a copy, and what it is remembered by. -/
theorem lastMultiple_succ (freq : ℤ) (updates : ℕ) :
    lastMultiple freq (updates + 1)
      = if 0 < freq ∧ freq ≤ ((updates + 1 : ℕ) : ℤ) - lastMultiple freq updates
        then ((updates + 1 : ℕ) : ℤ) else lastMultiple freq updates := by
  by_cases hfreq : 0 < freq
  · have hle := lastMultiple_le freq updates
    have hlt := lt_lastMultiple_add hfreq updates
    rw [lastMultiple, if_pos hfreq] at hle hlt
    have hsucc : ((updates + 1 : ℕ) : ℤ) = (updates : ℤ) + 1 := Nat.cast_succ updates
    rw [lastMultiple, lastMultiple, if_pos hfreq, if_pos hfreq, hsucc]
    by_cases hcopy : freq ≤ (updates : ℤ) + 1 - freq * ((updates : ℤ) / freq)
    · -- the next multiple is reached
      have hnext : (updates : ℤ) + 1 = freq * ((updates : ℤ) / freq + 1) := by
        rw [mul_add, mul_one]
        omega
      rw [if_pos ⟨hfreq, hcopy⟩, hnext, Int.mul_ediv_cancel_left _ hfreq.ne']
    · have hdiv : ((updates : ℤ) + 1) / freq = (updates : ℤ) / freq := by
        refine ((Int.ediv_emod_unique hfreq (r := (updates : ℤ) + 1 - freq * ((updates : ℤ) / freq))).mpr
          ⟨?_, ?_, ?_⟩).1
        · omega
        · omega
        · omega
      rw [if_neg (fun h => hcopy h.2), hdiv]
  · rw [lastMultiple, lastMultiple, if_neg hfreq, if_neg hfreq, if_neg (fun h => hfreq h.1)]

/-! ## Updates -/

/-- The networks of a policy and of its targets are found in a history of the updates. -/
structure Synced {learner : GroupedLearner N O S D H n cfg.nTargets}
    (networks : TargetNetworks learner W) (modules : N) (updates : ℕ) (last : ℤ) (history : List W) :
    Prop where
  length_eq : history.length = updates + 1
  last_eq : last = lastMultiple learner.targetNetworkUpdateFreq updates
  online_eq : history[updates]? = some (networks.online modules)
  target_eq : history[last.toNat]? = some (networks.target modules)

/-- The policy of a session and its checkpoints are synced, each with its own history. -/
structure Session.Synced {learner : GroupedLearner N O S D H n cfg.nTargets}
    (networks : TargetNetworks learner W) (session : Session N O W D H cfg.nTargets) : Prop where
  policy : GroupedCTDEPolicy.Synced networks session.policy.modules session.policy.learnerUpdates
    session.policy.lastTargetUpdate session.history
  saved : ∀ state history, (state, history) ∈ session.saved →
    GroupedCTDEPolicy.Synced networks state.weights.modules state.learnerUpdates
      state.lastTargetUpdate history

section

variable [Quadrature] {learner : GroupedLearner N O S D H n cfg.nTargets}
  {networks : TargetNetworks learner W}

/-- The estimator leaves the networks and the counts alone. -/
theorem focusOutput_same (policy : GroupedCTDEPolicy N O D H cfg.nTargets) (batch : FocusBatch D n) :
    Ensures (focusOutput cfg learner policy batch) (fun r => r.2.modules = policy.modules
      ∧ r.2.learnerUpdates = policy.learnerUpdates
      ∧ r.2.lastTargetUpdate = policy.lastTargetUpdate) := by
  unfold focusOutput
  split
  · exact Ensures.pure ⟨rfl, rfl, rfl⟩
  · exact Ensures.andThen (fun r => Ensures.pure ⟨rfl, rfl, rfl⟩)

/-- What an update does to the networks and the counts. -/
theorem learnOnBatch_cases (networks : TargetNetworks learner W)
    {policy policy' : GroupedCTDEPolicy N O D H cfg.nTargets} {samples : S} {blend : Option ℚ} (h : learnOnBatch cfg learner policy samples = .ok (blend, policy')) :
    ∃ modules, networks.target modules = networks.target policy.modules
      ∧ policy'.learnerUpdates = policy.learnerUpdates + 1
      ∧ ((0 < learner.targetNetworkUpdateFreq ∧ learner.targetNetworkUpdateFreq
            ≤ ((policy.learnerUpdates + 1 : ℕ) : ℤ) - policy.lastTargetUpdate)
          ∧ policy'.modules = learner.updateTarget modules
          ∧ policy'.lastTargetUpdate = ((policy.learnerUpdates + 1 : ℕ) : ℤ)
        ∨ ¬ (0 < learner.targetNetworkUpdateFreq ∧ learner.targetNetworkUpdateFreq
            ≤ ((policy.learnerUpdates + 1 : ℕ) : ℤ) - policy.lastTargetUpdate)
          ∧ policy'.modules = modules ∧ policy'.lastTargetUpdate = policy.lastTargetUpdate) := by
  obtain ⟨⟨credit, told⟩, hfocus, h⟩ := bind_eq_ok.mp h
  obtain ⟨hmodules, hupdates, hlast⟩ := focusOutput_same policy (learner.sequences samples) _ hfocus
  obtain ⟨out, hoptimise, h⟩ := bind_eq_ok.mp h
  dsimp only at hmodules hupdates hlast
  cases h
  have htarget : networks.target out.1 = networks.target policy.modules := by
    rw [networks.target_optimise hoptimise, hmodules]
  refine ⟨out.1, htarget, congrArg Nat.succ hupdates, ?_⟩
  dsimp only
  rw [hupdates, hlast]
  by_cases hcopy : 0 < learner.targetNetworkUpdateFreq ∧ learner.targetNetworkUpdateFreq
      ≤ ((policy.learnerUpdates + 1 : ℕ) : ℤ) - policy.lastTargetUpdate
  · exact Or.inl ⟨hcopy, if_pos hcopy, if_pos hcopy⟩
  · exact Or.inr ⟨hcopy, if_neg hcopy, if_neg hcopy⟩

theorem Synced.learnOnBatch {policy policy' : GroupedCTDEPolicy N O D H cfg.nTargets} {samples : S}
    {blend : Option ℚ} {history : List W}
    (hsynced : Synced networks policy.modules policy.learnerUpdates policy.lastTargetUpdate history)
    (h : learnOnBatch cfg learner policy samples = .ok (blend, policy')) :
    Synced networks policy'.modules policy'.learnerUpdates policy'.lastTargetUpdate
      (history ++ [networks.online policy'.modules]) := by
  obtain ⟨modules, htarget, hupdates, hcases⟩ := learnOnBatch_cases networks h
  have hschedule := lastMultiple_succ learner.targetNetworkUpdateFreq policy.learnerUpdates
  have hlength : (history ++ [networks.online policy'.modules]).length
      = policy.learnerUpdates + 1 + 1 := by
    rw [List.length_append, hsynced.length_eq]
    rfl
  have hnew : (history ++ [networks.online policy'.modules])[policy.learnerUpdates + 1]?
      = some (networks.online policy'.modules) := by
    rw [← hsynced.length_eq]
    exact List.getElem?_concat_length
  rw [hsynced.last_eq] at hcases
  rcases hcases with ⟨hcopy, hmodules, hlast⟩ | ⟨hcopy, hmodules, hlast⟩
  · rw [if_pos hcopy] at hschedule
    refine ⟨by rw [hlength, hupdates], by rw [hlast, hupdates, hschedule], by rw [hupdates, hnew], ?_⟩
    rw [hlast, Int.toNat_natCast, hnew, hmodules, networks.target_updateTarget,
      networks.online_updateTarget]
  · rw [if_neg hcopy] at hschedule
    refine ⟨by rw [hlength, hupdates], by rw [hlast, hupdates, hschedule], by rw [hupdates, hnew], ?_⟩
    -- the copy is an older entry of the history
    have hle := lastMultiple_le learner.targetNetworkUpdateFreq policy.learnerUpdates
    have hold := hsynced.target_eq
    rw [hsynced.last_eq] at hold
    rw [hlast, List.getElem?_append_left (by rw [hsynced.length_eq]; omega), hold, hmodules, htarget]

omit [Quadrature] in
theorem setState_eq_ok {policy policy' : GroupedCTDEPolicy N O D H cfg.nTargets}
    {state : SavedState N O D H cfg.nTargets} (h : policy.setState state = .ok policy') :
    policy'.modules = state.weights.modules ∧ policy'.learnerUpdates = state.learnerUpdates
      ∧ policy'.lastTargetUpdate = state.lastTargetUpdate := by
  obtain ⟨loaded, hweights, h⟩ := bind_eq_ok.mp h
  obtain ⟨engine, -, hweights⟩ := bind_eq_ok.mp hweights
  cases hweights
  cases h
  exact ⟨rfl, rfl, rfl⟩

/-- **One use** of a policy. -/
theorem Session.Synced.step {session session' : Session N O W D H cfg.nTargets} {use : Use S}
    (hsynced : session.Synced networks) (h : Session.Step networks session use session') :
    session'.Synced networks := by
  cases h with
  | learnOnBatch h => exact ⟨hsynced.policy.learnOnBatch h, hsynced.saved⟩
  | computeActions => exact ⟨hsynced.policy, hsynced.saved⟩
  | setEpsilon => exact ⟨hsynced.policy, hsynced.saved⟩
  | getState =>
      refine ⟨hsynced.policy, fun state history hmem => ?_⟩
      rcases List.mem_append.mp hmem with hmem | hmem
      · exact hsynced.saved state history hmem
      · cases List.mem_singleton.mp hmem
        exact hsynced.policy
  | setState hsaved h =>
      obtain ⟨hmodules, hupdates, hlast⟩ := setState_eq_ok h
      refine ⟨?_, hsynced.saved⟩
      show GroupedCTDEPolicy.Synced networks _ _ _ _
      rw [hmodules, hupdates, hlast]
      exact hsynced.saved _ _ hsaved

/-- **The target networks are those after the last multiple of the interval.** A policy is built, with its
networks copied once, and used in any way. Then its targets are its networks as they were after the update
that is the last multiple of `target_network_update_freq`, or the first ones without an interval; a copy
is never older than one interval. -/
theorem target_of_last_multiple {belief : BeliefConfig} {modules : N} {net : (O : ℕ) → Net D H cfg.nTargets O}
    {optimizers : O} {initialEpsilon : ℚ} {policy : GroupedCTDEPolicy N O D H cfg.nTargets}
    (hnew : new cfg belief (learner.updateTarget modules) net optimizers initialEpsilon = .ok policy)
    {uses : List (Use S)} {session : Session N O W D H cfg.nTargets}
    (hrun : Run (Session.Step networks) ⟨policy, [networks.online modules], []⟩ uses session) :
    session.policy.lastTargetUpdate
        = lastMultiple learner.targetNetworkUpdateFreq session.policy.learnerUpdates
      ∧ session.history.length = session.policy.learnerUpdates + 1
      ∧ session.history[session.policy.learnerUpdates]?
        = some (networks.online session.policy.modules)
      ∧ session.history[session.policy.lastTargetUpdate.toNat]?
        = some (networks.target session.policy.modules)
      ∧ (0 < learner.targetNetworkUpdateFreq → (session.policy.learnerUpdates : ℤ)
        < session.policy.lastTargetUpdate + learner.targetNetworkUpdateFreq) := by
  have hstart : (⟨policy, [networks.online modules], []⟩ : Session N O W D H cfg.nTargets).Synced
      networks := by
    obtain ⟨model, -, hnew⟩ := bind_eq_ok.mp hnew
    cases hnew
    refine ⟨⟨rfl, ?_, ?_, ?_⟩, fun state history hmem => absurd hmem List.not_mem_nil⟩
    · show (0 : ℤ) = lastMultiple learner.targetNetworkUpdateFreq 0
      unfold lastMultiple
      split
      · rw [Nat.cast_zero, Int.zero_ediv, mul_zero]
      · rfl
    · show some (networks.online modules) = some (networks.online (learner.updateTarget modules))
      rw [networks.online_updateTarget]
    · show some (networks.online modules) = some (networks.target (learner.updateTarget modules))
      rw [networks.target_updateTarget]
  have hsynced : session.Synced networks :=
    hrun.invariant (Session.Synced networks) hstart (fun _ _ _ h hstep => h.step hstep)
  refine ⟨hsynced.policy.last_eq, hsynced.policy.length_eq, hsynced.policy.online_eq,
    hsynced.policy.target_eq, fun hfreq => ?_⟩
  rw [hsynced.policy.last_eq]
  exact lt_lastMultiple_add hfreq _

end

/-! ## A policy that counts -/

def plainConfig : FocusConfig := { enabled := false }

/-- The networks are a number that every update raises, and are copied every second time. -/
def counting : GroupedLearner (ℕ × ℕ) Unit Unit 1 1 1 plainConfig.nTargets where
  nActions := 2
  targetNetworkUpdateFreq := 2
  sequences _ := ⟨0, 0, none, none, fun _ _ _ => 0, fun _ _ => 0⟩
  optimise policy _ _ :=
    .ok ((policy.modules.1 + 1, policy.modules.2), fun _ _ _ _ _ => 0, ())
  updateTarget modules := (modules.1, modules.1)

def countingNetworks : TargetNetworks counting ℕ where
  online := Prod.fst
  target := Prod.snd
  target_optimise h := by
    cases h
    rfl
  online_updateTarget _ := rfl
  target_updateTarget _ := rfl

@[reducible] noncomputable def zeroNodes : Quadrature where
  hermgauss _ := (fun _ => 0, fun _ => 0)
  weights_nonneg _ _ := le_refl 0
  sobol _ _ _ := (0, 0)
  erfinv _ := 0

/-- Two updates, and the checkpoint that was saved between them. -/
theorem target_of_last_multiple_counting :
    letI := zeroNodes
    ∃ (policy : GroupedCTDEPolicy (ℕ × ℕ) Unit 1 1 plainConfig.nTargets)
      (session : Session (ℕ × ℕ) Unit ℕ 1 1 plainConfig.nTargets),
      new plainConfig {} (counting.updateTarget (0, 7)) (fun _ _ _ _ _ => 0) () 1 = .ok policy
        ∧ Run (Session.Step countingNetworks) ⟨policy, [0], []⟩
          [.learnOnBatch (), .getState, .learnOnBatch (), .setState] session
        ∧ session.policy.lastTargetUpdate = lastMultiple 2 session.policy.learnerUpdates
        ∧ session.history[session.policy.lastTargetUpdate.toNat]?
          = some (countingNetworks.target session.policy.modules) := by
  let _ := zeroNodes
  let start : GroupedCTDEPolicy (ℕ × ℕ) Unit 1 1 plainConfig.nTargets := ⟨(0, 0), none, (), 0, 0, 1⟩
  let once : GroupedCTDEPolicy (ℕ × ℕ) Unit 1 1 plainConfig.nTargets := ⟨(1, 0), none, (), 1, 0, 1⟩
  let twice : GroupedCTDEPolicy (ℕ × ℕ) Unit 1 1 plainConfig.nTargets := ⟨(2, 2), none, (), 2, 2, 1⟩
  have hnew : new plainConfig {} (counting.updateTarget (0, 7)) (fun _ _ _ _ _ => 0) () 1
      = .ok start := rfl
  have hfirst : learnOnBatch plainConfig counting start () = .ok (none, once) := rfl
  have hsecond : learnOnBatch plainConfig counting once () = .ok (none, twice) := rfl
  have hload : twice.setState once.getState = .ok once := rfl
  have hrun : Run (Session.Step countingNetworks) ⟨start, [countingNetworks.online (0, 7)], []⟩
      [.learnOnBatch (), .getState, .learnOnBatch (), .setState]
      ⟨once, [0, 1], [(once.getState, [0, 1])]⟩ :=
    .snoc (.snoc (.snoc (.snoc .nil (.learnOnBatch hfirst)) .getState) (.learnOnBatch hsecond))
      (.setState (List.mem_singleton.mpr rfl) hload)
  obtain ⟨hlast, -, -, htarget, -⟩ := target_of_last_multiple hnew hrun
  exact ⟨start, _, hnew, hrun, hlast, htarget⟩

end Mate.Rllib.Focus.GroupedCTDEPolicy
