import Mate.Rllib.Losses
import Mate.Rllib.WorldModel

set_option autoImplicit false

/-! # What the features of the world model know

The feature that is appended to the observation of step `t` is read off the posterior of step `t`,
and the transition to this posterior takes in the action of the same step. So the values of step
`t` may depend on the action that they are the values of (`noLeak_iff`). They do not depend on any
later action (`take_macOut_eq`).
-/

namespace Mate.Rllib

open Nets

/-- The sizes of a WM4 policy: those of its world model, and the hidden state of its agents. -/
structure QplexWM4 extends WorldModelShape where
  rnnHiddenDim : ℕ
  nActions_pos : 0 < nActions

namespace QplexWM4

variable {policy : QplexWM4}

/-- The agents' network, on augmented observations. -/
abbrev Model (policy : QplexWM4) : Type :=
  Recurrent (Fin policy.obsSize ⊕ policy.Feature) (Fin policy.rnnHiddenDim) (Fin policy.nActions)

abbrev Step (policy : QplexWM4) : Type := WorldModelStep policy.toWorldModelShape

/-- `cat([obs, feature])`, the feature being the same for all agents. -/
def augment (obs : policy.JointObs) (feature : policy.Feature → ℝ) :
    Fin policy.nAgents → Fin policy.obsSize ⊕ policy.Feature → ℝ :=
  fun i => Sum.elim (obs i) feature

section

variable (worldModel : LatentWorldModel policy.toWorldModelShape) (model : policy.Model)

-- The loss takes these features from its `ema_world_model`; the world model here is that one.
/-- `obs_aug` of the loss, for one row of its batch. -/
noncomputable def obsAug (sequence : List policy.Step) :
    List (Fin policy.nAgents → Fin policy.obsSize ⊕ policy.Feature → ℝ) :=
  List.zipWith augment (sequence.map WorldModelStep.obs) (worldModel.features sequence)

/-- `mac_out` of the loss. -/
noncomputable def macOut (batch : List (List policy.Step)) :
    List (List (Fin policy.nAgents → Fin policy.nActions → ℝ)) :=
  batch.map (fun sequence => unrollMac model (obsAug worldModel sequence))

end

/-- Sequences that agree on everything but the actions of the steps from `t` on. -/
def AgreeBefore (t : ℕ) (sequence sequence' : List policy.Step) : Prop :=
  sequence.take t = sequence'.take t
    ∧ sequence.map (fun s => (s.obs, s.noise)) = sequence'.map (fun s => (s.obs, s.noise))

/-- `mac_out[:, :t+1]` is the same for all batches of sequences of length `T` that agree on
everything but the actions of the steps from `t` on. -/
def NoLeak (policy : QplexWM4) (T t : ℕ) : Prop :=
  ∀ (worldModel : LatentWorldModel policy.toWorldModelShape) (model : policy.Model)
    (batch batch' : List (List policy.Step)),
    (∀ sequence ∈ batch, sequence.length = T) → List.Forall₂ (AgreeBefore t) batch batch' →
    (macOut worldModel model batch).map (List.take (t + 1))
      = (macOut worldModel model batch').map (List.take (t + 1))

/-! ## Values along a sequence -/

section

variable (worldModel : LatentWorldModel policy.toWorldModelShape) (model : policy.Model)

/-- The values from a posterior state and hidden states on. -/
noncomputable def valuesFrom (state : policy.Latent)
    (h : Fin policy.nAgents → Fin policy.rnnHiddenDim → ℝ) :
    List policy.Step → List (Fin policy.nAgents → Fin policy.nActions → ℝ)
  | [] => []
  | s :: rest =>
      let obs := augment s.obs (worldModel.posterior state s).feature
      (mac model obs h).1 :: valuesFrom (worldModel.posterior state s) (mac model obs h).2 rest

theorem unrollMac_obsAug (sequence : List policy.Step) :
    unrollMac model (obsAug worldModel sequence)
      = valuesFrom worldModel model policy.initialLatent (fun _ _ => 0) sequence := by
  rw [unrollMac, obsAug, LatentWorldModel.features_eq]
  generalize policy.initialLatent = state
  generalize (fun _ _ => 0 : Fin policy.nAgents → Fin policy.rnnHiddenDim → ℝ) = h
  induction sequence generalizing state h with
  | nil => rfl
  | cons s rest ih =>
      rw [List.map_cons, LatentWorldModel.featuresFrom, List.zipWith_cons_cons, unrollMacFrom,
        valuesFrom, ih]

/-- **Later actions are not known**: the first `t` values depend on the first `t` steps only. -/
theorem take_valuesFrom (state : policy.Latent)
    (h : Fin policy.nAgents → Fin policy.rnnHiddenDim → ℝ) (t : ℕ) (sequence : List policy.Step) :
    (valuesFrom worldModel model state h sequence).take t
      = valuesFrom worldModel model state h (sequence.take t) := by
  induction sequence generalizing state h t with
  | nil => rw [valuesFrom, List.take_nil, List.take_nil, valuesFrom]
  | cons s rest ih =>
      cases t with
      | zero => rfl
      | succ t => rw [valuesFrom, List.take_succ_cons, ih, List.take_succ_cons, valuesFrom]

theorem take_macOut_eq {t : ℕ} {batch batch' : List (List policy.Step)}
    (h : List.Forall₂ (AgreeBefore t) batch batch') :
    (macOut worldModel model batch).map (List.take t)
      = (macOut worldModel model batch').map (List.take t) := by
  induction h with
  | nil => rfl
  | cons hagree _ ih =>
      rw [macOut, macOut] at ih ⊢
      rw [List.map_cons, List.map_cons, List.map_cons, List.map_cons, ih, unrollMac_obsAug,
        unrollMac_obsAug, take_valuesFrom, take_valuesFrom, hagree.1]

end

/-! ## Where nothing leaks -/

/-- Transitions that do not look at the action. -/
def ActionBlind (worldModel : LatentWorldModel policy.toWorldModelShape) : Prop :=
  ∀ (state : policy.Latent) (actions actions' : policy.Actions),
    worldModel.transition.deterStep state (worldModel.actionEmbed.forward actions)
      = worldModel.transition.deterStep state (worldModel.actionEmbed.forward actions')

theorem posterior_of_actionBlind {worldModel : LatentWorldModel policy.toWorldModelShape}
    (h : ActionBlind worldModel) (state : policy.Latent) {s s' : policy.Step}
    (hs : (s.obs, s.noise) = (s'.obs, s'.noise)) :
    worldModel.posterior state s = worldModel.posterior state s' := by
  obtain ⟨hobs, hnoise⟩ := Prod.ext_iff.mp hs
  dsimp only at hobs hnoise
  rw [LatentWorldModel.posterior, LatentWorldModel.posterior, hobs, hnoise]
  exact LatentWorldModel.obsStep_congr _ (h state s.actions s'.actions) _ _

theorem valuesFrom_of_actionBlind {worldModel : LatentWorldModel policy.toWorldModelShape}
    (h : ActionBlind worldModel) (model : policy.Model) {sequence sequence' : List policy.Step}
    (hs : sequence.map (fun s => (s.obs, s.noise)) = sequence'.map (fun s => (s.obs, s.noise)))
    (state : policy.Latent) (hidden : Fin policy.nAgents → Fin policy.rnnHiddenDim → ℝ) :
    valuesFrom worldModel model state hidden sequence
      = valuesFrom worldModel model state hidden sequence' := by
  induction sequence generalizing sequence' state hidden with
  | nil =>
      cases sequence' with
      | nil => rfl
      | cons s' rest' => cases hs
  | cons s rest ih =>
      cases sequence' with
      | nil => cases hs
      | cons s' rest' =>
          rw [List.map_cons, List.map_cons] at hs
          obtain ⟨hhead, htail⟩ := List.cons.inj hs
          have hobs : s.obs = s'.obs := (Prod.ext_iff.mp hhead).1
          rw [valuesFrom, valuesFrom, posterior_of_actionBlind h state hhead, hobs, ih htail]

/-- Sizes for which no transition looks at the action. -/
theorem actionBlind_of (worldModel : LatentWorldModel policy.toWorldModelShape)
    (h : policy.nAgents = 0 ∨ policy.nActions ≤ 1 ∨ policy.actionEmbedDim = 0 ∨ policy.hiddenDim = 0
      ∨ policy.deterDim = 0) : ActionBlind worldModel := by
  intro state actions actions'
  have hembed : (worldModel.actionEmbed.forward actions = worldModel.actionEmbed.forward actions') →
      worldModel.transition.deterStep state (worldModel.actionEmbed.forward actions)
        = worldModel.transition.deterStep state (worldModel.actionEmbed.forward actions') :=
    fun heq => by rw [heq]
  rcases h with h | h | h | h | h
  · exact hembed (funext fun c => absurd c.1.2 (by omega))
  · apply hembed
    have hactions : actions = actions' := by
      funext i
      apply Fin.ext
      have h₁ := (actions i).2
      have h₂ := (actions' i).2
      omega
    rw [hactions]
  · exact hembed (funext fun c => absurd c.2.2 (by omega))
  · rw [TransitionModel.deterStep, TransitionModel.deterStep]
    congr 1
    exact funext fun k => absurd k.2 (by omega)
  · exact funext fun k => absurd k.2 (by omega)

/-- Agents without a hidden state have constant values. -/
theorem valuesFrom_of_rnnHiddenDim (h : policy.rnnHiddenDim = 0)
    (worldModel : LatentWorldModel policy.toWorldModelShape) (model : policy.Model)
    (state : policy.Latent) (hidden : Fin policy.nAgents → Fin policy.rnnHiddenDim → ℝ)
    (sequence : List policy.Step) :
    valuesFrom worldModel model state hidden sequence
      = List.replicate sequence.length (fun _ => model.fc2.apply (fun _ => 0)) := by
  induction sequence generalizing state hidden with
  | nil => rfl
  | cons s rest ih =>
      rw [valuesFrom, ih, List.length_cons, List.replicate_succ]
      congr 1
      funext i
      exact congrArg model.fc2.apply (funext fun k => absurd k.2 (by omega))

/-- What the sizes rule out, the batch does not show. -/
theorem noLeak_of {T t : ℕ} (h : T ≤ t ∨ policy.nAgents = 0 ∨ policy.nActions ≤ 1
      ∨ policy.actionEmbedDim = 0 ∨ policy.hiddenDim = 0 ∨ policy.deterDim = 0
      ∨ policy.rnnHiddenDim = 0) : policy.NoLeak T t := by
  intro worldModel model batch batch' hlength hagree
  induction hagree with
  | nil => rfl
  | @cons sequence sequence' batch batch' hs _ ih =>
      have ih' := ih (fun s hs => hlength s (List.mem_cons_of_mem sequence hs))
      rw [macOut, macOut] at ih' ⊢
      rw [List.map_cons, List.map_cons, List.map_cons, List.map_cons, ih', unrollMac_obsAug,
        unrollMac_obsAug]
      congr 2
      have hsame : sequence'.length = sequence.length := by
        have := congrArg List.length hs.2
        rw [List.length_map, List.length_map] at this
        exact this.symm
      rcases h with h | h
      · have hT := hlength sequence List.mem_cons_self
        have hequal : sequence = sequence' := by
          have htake := hs.1
          rwa [List.take_of_length_le (by omega), List.take_of_length_le (by omega)] at htake
        rw [hequal]
      by_cases hrnn : policy.rnnHiddenDim = 0
      · rw [valuesFrom_of_rnnHiddenDim hrnn, valuesFrom_of_rnnHiddenDim hrnn, hsame]
      · exact valuesFrom_of_actionBlind (actionBlind_of worldModel (by omega)) model hs.2 _ _

/-! ## Where an action leaks -/

section Probe

variable (c : policy.ActionColumn) (a : Fin policy.nActions) (k : Fin policy.hiddenDim)
  (d : Fin policy.deterDim) (j : Fin policy.rnnHiddenDim)

/-- Agents whose value of action `0` tells the deterministic state `d` from zero. -/
def hearing (policy : QplexWM4) (d : Fin policy.deterDim) (j : Fin policy.rnnHiddenDim) :
    policy.Model where
  fc1 := Linear.reading (.inr (.inr d)) j
  rnn := GRUCell.copying j j
  fc2 := Linear.reading j ⟨0, policy.nActions_pos⟩

theorem mac_hearing (obs : policy.JointObs) (feature : policy.Feature → ℝ) :
    (mac (hearing policy d j) (augment obs feature) (fun _ => 0)).1
      = fun _ b => if b = ⟨0, policy.nActions_pos⟩ then Real.tanh (relu (feature (.inr d))) / 2
        else 0 := by
  have hhidden : (mac (hearing policy d j) (augment obs feature) (fun _ => 0)).2
      = fun _ k => if k = j then Real.tanh (relu (feature (.inr d))) / 2 else 0 := by
    funext i
    refine (GRUCell.copying_apply j j _).trans ?_
    funext k
    rw [hearing]
    dsimp only
    rw [Linear.reading_apply_self]
    rfl
  funext i
  refine (Linear.reading_apply j _ _).trans (funext fun b => ?_)
  have hij := congrFun (congrFun hhidden i) j
  rw [if_pos rfl] at hij
  exact congrArg (fun x => if b = ⟨0, policy.nActions_pos⟩ then x else 0) hij

/-- Nothing to hear leaves the hidden states as they are. -/
theorem mac_hearing_quiet (obs : policy.JointObs) {feature : policy.Feature → ℝ}
    (h : feature (.inr d) = 0) :
    (mac (hearing policy d j) (augment obs feature) (fun _ => 0)).2 = fun _ => 0 := by
  funext i
  refine GRUCell.copying_apply_zero j ?_
  have hread : (Linear.reading (.inr (.inr d)) j).apply (augment obs feature i) j = 0 :=
    (Linear.reading_apply_self _ _ _).trans h
  exact (congrArg relu hread).trans relu_zero

/-- Along steps with other actions the world model and the agents stay as they are. -/
theorem drop_valuesFrom_quiet {actions : policy.Actions} (ha : actions c.1 ≠ a)
    (rest : List policy.Step) (t : ℕ) {state : policy.Latent}
    (h : LatentWorldModel.Quiet state) : ∃ state' : policy.Latent, LatentWorldModel.Quiet state' ∧
      (valuesFrom (LatentWorldModel.copying c a k d) (hearing policy d j) state (fun _ => 0)
        (List.replicate t (LatentWorldModel.still actions) ++ rest)).drop t
      = valuesFrom (LatentWorldModel.copying c a k d) (hearing policy d j) state' (fun _ => 0)
        rest := by
  induction t generalizing state with
  | zero => exact ⟨state, h, rfl⟩
  | succ t ih =>
      have hquiet := LatentWorldModel.copying_quiet ha k d h
      obtain ⟨state', hstate', heq⟩ := ih hquiet
      refine ⟨state', hstate', ?_⟩
      have hfeature := congrFun (LatentWorldModel.feature_quiet hquiet) (.inr d)
      rw [List.replicate_succ, List.cons_append, valuesFrom, List.drop_succ_cons,
        mac_hearing_quiet d j _ hfeature]
      exact heq

/-- The value of step `t` shows whether its action is `a`. -/
theorem value_hearing {actions actions' : policy.Actions} (ha : actions c.1 ≠ a)
    (rest : List policy.Step) (t : ℕ) (i : Fin policy.nAgents) :
    ((unrollMac (hearing policy d j) (obsAug (LatentWorldModel.copying c a k d)
        (List.replicate t (LatentWorldModel.still actions)
          ++ LatentWorldModel.still actions' :: rest)))[t]?.map
        (fun q => q i ⟨0, policy.nActions_pos⟩))
      = some (Real.tanh (relu
          (Real.tanh (elu (if actions' c.1 = a then 1 else 0)) / 2)) / 2) := by
  obtain ⟨state, hstate, hdrop⟩ := drop_valuesFrom_quiet c a k d j ha
    (LatentWorldModel.still actions' :: rest) t LatentWorldModel.quiet_initialLatent
  obtain ⟨-, hdeter⟩ := LatentWorldModel.copying_posterior c a k d hstate actions'
  have hfeature : ((LatentWorldModel.copying c a k d).posterior state
      (LatentWorldModel.still actions')).feature (.inr d)
        = Real.tanh (elu (if actions' c.1 = a then 1 else 0)) / 2 := by
    refine (congrFun hdeter d).trans ?_
    rw [if_pos rfl]
  have hhead : ∀ l : List (Fin policy.nAgents → Fin policy.nActions → ℝ), l[t]? = (l.drop t)[0]? := by
    intro l
    rw [List.getElem?_drop, Nat.add_zero]
  rw [unrollMac_obsAug, hhead]
  refine (congrArg (fun l : List _ => l[0]?.map _) hdrop).trans ?_
  rw [valuesFrom, List.getElem?_cons_zero, Option.map_some,
    mac_hearing, hfeature]
  exact congrArg some (if_pos rfl)

end Probe

/-- The two sequences that show a leak: they differ in the action of step `t` only. -/
theorem agreeBefore_still (T t : ℕ) (actions actions' : policy.Actions) :
    AgreeBefore t (List.replicate t (LatentWorldModel.still actions)
        ++ LatentWorldModel.still actions' :: List.replicate T (LatentWorldModel.still actions))
      (List.replicate t (LatentWorldModel.still actions)
        ++ LatentWorldModel.still actions :: List.replicate T (LatentWorldModel.still actions)) := by
  constructor
  · rw [List.take_left' List.length_replicate, List.take_left' List.length_replicate]
  · rw [List.map_append, List.map_append, List.map_cons, List.map_cons]
    rfl

/-- For a world model and agents of any size there is a leak from the action of step `t`. -/
theorem macOut_still_ne (c : policy.ActionColumn) {a a' : Fin policy.nActions} (ha : a' ≠ a)
    (k : Fin policy.hiddenDim) (d : Fin policy.deterDim) (j : Fin policy.rnnHiddenDim) (T t : ℕ) :
    (macOut (LatentWorldModel.copying c a k d) (hearing policy d j)
        [List.replicate t (LatentWorldModel.still (fun _ => a'))
          ++ LatentWorldModel.still (fun _ => a)
            :: List.replicate T (LatentWorldModel.still (fun _ => a'))]).map (List.take (t + 1))
      ≠ (macOut (LatentWorldModel.copying c a k d) (hearing policy d j)
        [List.replicate t (LatentWorldModel.still (fun _ => a'))
          ++ LatentWorldModel.still (fun _ => a')
            :: List.replicate T (LatentWorldModel.still (fun _ => a'))]).map (List.take (t + 1)) := by
  intro h
  have ha' : (fun _ => a' : policy.Actions) c.1 ≠ a := ha
  have hrow := (List.cons.inj h).1
  have hvalue := congrArg (fun l => l[t]?.map (fun q => q c.1 ⟨0, policy.nActions_pos⟩)) hrow
  dsimp only at hvalue
  rw [List.getElem?_take_of_lt (Nat.lt_succ_self t), List.getElem?_take_of_lt (Nat.lt_succ_self t),
    value_hearing c a k d j ha', value_hearing c a k d j ha', if_pos rfl, if_neg ha] at hvalue
  have hone := tanh_pos one_pos
  have hpos := tanh_pos (half_pos hone)
  rw [elu_of_pos one_pos, elu_zero, Real.tanh_zero, zero_div, relu_zero, Real.tanh_zero,
    relu_of_pos (half_pos hone), zero_div] at hvalue
  exact (half_pos hpos).ne' (Option.some.inj hvalue)

/-- One agent with two actions, and all networks one unit wide. -/
def onePolicy : QplexWM4 where
  obsSize := 1
  nAgents := 1
  nActions := 2
  stochDim := 1
  deterDim := 1
  hiddenDim := 1
  actionEmbedDim := 1
  embedDim := 1
  rnnHiddenDim := 1
  nActions_pos := Nat.two_pos

/-- The value of its first step knows the action of the first step. -/
theorem onePolicy_leaks : ¬ onePolicy.NoLeak 1 0 := by
  intro h
  have hne : (⟨1, by decide⟩ : Fin onePolicy.nActions) ≠ ⟨0, by decide⟩ := by decide
  refine macOut_still_ne (⟨0, by decide⟩, ⟨0, by decide⟩) hne ⟨0, by decide⟩ ⟨0, by decide⟩
    ⟨0, by decide⟩ 0 0 (h _ _ _ _ ?_ ?_)
  · intro sequence hsequence
    rw [List.mem_singleton.mp hsequence]
    rfl
  · exact List.Forall₂.cons (agreeBefore_still 0 0 _ _) List.Forall₂.nil

/-- **When the values do not know the actions they are the values of**: there is no step `t`, or
the sizes leave no way from an action to a value. -/
theorem noLeak_iff (policy : QplexWM4) (T t : ℕ) : policy.NoLeak T t ↔
    T ≤ t ∨ policy.nAgents = 0 ∨ policy.nActions ≤ 1 ∨ policy.actionEmbedDim = 0
      ∨ policy.hiddenDim = 0 ∨ policy.deterDim = 0 ∨ policy.rnnHiddenDim = 0 := by
  constructor
  · intro h
    by_contra hnot
    simp only [not_or, not_le] at hnot
    obtain ⟨hT, hagents, hactions, hembed, hhidden, hdeter, hrnn⟩ := hnot
    have hne : (⟨1, hactions⟩ : Fin policy.nActions) ≠ ⟨0, policy.nActions_pos⟩ := by simp
    refine macOut_still_ne (⟨0, Nat.pos_of_ne_zero hagents⟩, ⟨0, Nat.pos_of_ne_zero hembed⟩) hne
      ⟨0, Nat.pos_of_ne_zero hhidden⟩
      ⟨0, Nat.pos_of_ne_zero hdeter⟩ ⟨0, Nat.pos_of_ne_zero hrnn⟩ (T - t - 1) t (h _ _ _ _ ?_ ?_)
    · intro sequence hsequence
      rw [List.mem_singleton.mp hsequence, List.length_append, List.length_cons,
        List.length_replicate, List.length_replicate]
      omega
    · exact List.Forall₂.cons (agreeBefore_still _ _ _ _) List.Forall₂.nil
  · exact noLeak_of

end QplexWM4

end Mate.Rllib
