import Mate.Agents.GreedyCamera
import Mate.Clock
import Mate.Library.Runs

set_option autoImplicit false

/-! # The neighbours of a greedy camera

A greedy camera tells its neighbours of the targets it sees. A teammate is to be a neighbour while
the state it sent last was in range (`Encounter.InRange`). The dictionary of the agent has the last
state of every teammate that has ever sent one (`Remembers`), in range or not: the line after the
branches of `receive_responses` writes it once more. So it is right just when no teammate was out of
range when it was heard last (`keeps_neighbours_iff`).
-/

namespace Mate

open Fallible Runs

/-! ## Encounters -/

/-- The state of a teammate in a message, and the state of the agent when it receives it. -/
structure Encounter where
  sender : ℤ
  teammateState : CameraStatePrivate
  ownState : CameraStatePrivate

/-- The teammate is so near that both may see the same target. -/
def Encounter.InRange (e : Encounter) : Prop :=
  (e.teammateState.sub e.ownState).norm
    < e.ownState.maxSightRange + RANGE_FACTOR * e.teammateState.maxSightRange

/-- The last encounter with a sender. -/
def lastEncounter (history : List Encounter) (sender : ℤ) : Option Encounter :=
  (history.filter (fun e => e.sender = sender)).getLast?

@[simp] theorem lastEncounter_nil (sender : ℤ) : lastEncounter [] sender = none := rfl

theorem lastEncounter_concat (history : List Encounter) (e : Encounter) (sender : ℤ) :
    lastEncounter (history ++ [e]) sender
      = if e.sender = sender then some e else lastEncounter history sender := by
  unfold lastEncounter
  rw [List.filter_append, List.getLast?_append]
  by_cases h : e.sender = sender
  · simp [h]
  · simp [h]

/-- What is met last was met. -/
theorem mem_of_lastEncounter {history : List Encounter} {sender : ℤ} {e : Encounter}
    (h : lastEncounter history sender = some e) : e ∈ history ∧ e.sender = sender := by
  obtain ⟨hmem, hsender⟩ := List.mem_filter.mp (List.mem_of_getLast? h)
  exact ⟨hmem, of_decide_eq_true hsender⟩

/-- The encounter in a message, if there is one. -/
def encounterOf (memory : Memory Content) (ownState : CameraStatePrivate) (message : Message) :
    Option Encounter :=
  match memory.value message.content with
  | .camera content => content.state.map (fun state => ⟨message.sender, state, ownState⟩)
  | _ => none

namespace GreedyCameraAgent

variable {G : Type}

/-! ## What the agent does -/

section

variable [RandomState G]

/-- The calls between two resets, with the encounters in them. -/
inductive Does : GreedyCameraAgent G → List Encounter → GreedyCameraAgent G → Prop
  | observe {self after : GreedyCameraAgent G} {observation : List ℝ} :
      self.observe observation = .ok after → Does self [] after
  | act {self after : GreedyCameraAgent G} {observation : List ℝ} {action : ℂ} :
      self.act observation = .ok (action, after) → Does self [] after
  | sendResponses {self after : GreedyCameraAgent G} {memory memory' : Memory Content}
      {messages : List Message} :
      self.sendResponses memory = .ok (messages, memory', after) → Does self [] after
  | receiveResponses {self after : GreedyCameraAgent G} {memory : Memory Content}
      {messages : List Message} :
      self.receiveResponses memory messages = .ok after →
      Does self (messages.filterMap (encounterOf memory self.state)) after

end

/-! ## What the dictionary has -/

/-- The dictionary has the last state of every sender. -/
def Remembers (self : GreedyCameraAgent G) (history : List Encounter) : Prop :=
  ∀ sender, self.neighboringTeammateStates sender
    = (lastEncounter history sender).map Encounter.teammateState

variable {self after : GreedyCameraAgent G} {history : List Encounter}

theorem Remembers.of_eq (h : self.Remembers history)
    (heq : after.neighboringTeammateStates = self.neighboringTeammateStates) :
    after.Remembers history := by
  intro sender
  rw [heq]
  exact h sender

/-- Out of range or not, the state of the sender is written. -/
theorem Remembers.meetTeammate (h : self.Remembers history) (sender : ℤ)
    (teammateState ownState : CameraStatePrivate) :
    (self.meetTeammate sender teammateState).Remembers
      (history ++ [⟨sender, teammateState, ownState⟩]) := by
  intro sender'
  rw [lastEncounter_concat]
  unfold GreedyCameraAgent.meetTeammate
  by_cases hsame : sender = sender'
  · subst hsame
    simp
  · have hother : sender' ≠ sender := fun heq => hsame heq.symm
    simp only [Function.update_of_ne hother, hsame, if_false]
    exact h sender'

/-- Learning of a target leaves the dictionary alone. -/
theorem learnTarget_neighbours (self : GreedyCameraAgent G) (targetState : TargetStatePublic) :
    Ensures (self.learnTarget targetState)
      (fun a => a.neighboringTeammateStates = self.neighboringTeammateStates) := by
  unfold learnTarget
  intro a ha
  obtain ⟨t, -, ha⟩ := bind_eq_ok.mp ha
  cases ha
  rfl

theorem learnTargets_neighbours (self : GreedyCameraAgent G) (targets : List TargetStatePublic) :
    Ensures (targets.foldlM learnTarget self)
      (fun a => a.neighboringTeammateStates = self.neighboringTeammateStates) := by
  refine Ensures.foldlM (I := fun a : GreedyCameraAgent G =>
    a.neighboringTeammateStates = self.neighboringTeammateStates) targets self rfl ?_
  intro a targetState _ ha
  exact (a.learnTarget_neighbours targetState).mono (fun a' ha' => ha'.trans ha)

/-- **Receiving messages** adds their encounters. -/
theorem Remembers.receiveResponses (h : self.Remembers history) (memory : Memory Content)
    (messages : List Message) :
    Ensures (self.receiveResponses memory messages)
      (fun a => a.Remembers (history ++ messages.filterMap (encounterOf memory self.state))) := by
  -- the agent remembers what it has read, and the rest of the messages is to come
  refine (Ensures.foldlM_rest (fun rest (a : GreedyCameraAgent G) =>
    a.toAgentBase = self.toAgentBase ∧ ∃ read, a.Remembers read ∧
      read ++ rest.filterMap (encounterOf memory self.state)
        = history ++ messages.filterMap (encounterOf memory self.state)) ?_ messages self
    ⟨rfl, history, h, rfl⟩).mono ?_
  · rintro message rest a ⟨hbase, read, hread, hrest⟩
    dsimp only
    have hstep : ∀ (met : GreedyCameraAgent G) (targets : List TargetStatePublic)
        (new : List Encounter), met.toAgentBase = self.toAgentBase → met.Remembers (read ++ new) →
        read ++ new ++ rest.filterMap (encounterOf memory self.state)
          = history ++ messages.filterMap (encounterOf memory self.state) →
        Ensures (targets.foldlM learnTarget met) (fun a' => a'.toAgentBase = self.toAgentBase
          ∧ ∃ read', a'.Remembers read' ∧ read' ++ rest.filterMap (encounterOf memory self.state)
            = history ++ messages.filterMap (encounterOf memory self.state)) := by
      intro met targets new hmetBase hmet hall a' ha'
      have hbase' : a'.toAgentBase = self.toAgentBase := by
        refine Ensures.foldlM (I := fun a : GreedyCameraAgent G =>
          a.toAgentBase = self.toAgentBase) targets met hmetBase ?_ a' ha'
        intro b targetState _ hb
        exact (b.learnTarget_base targetState).mono (fun b' hb' => hb'.trans hb)
      exact ⟨hbase', _, hmet.of_eq (met.learnTargets_neighbours targets a' ha'), hall⟩
    cases hvalue : memory.value message.content with
    | camera content =>
        cases hstate : content.state with
        | none =>
            have hnone : encounterOf memory self.state message = none := by
              simp [encounterOf, hvalue, hstate]
            rw [List.filterMap_cons_none hnone] at hrest
            simp only [hstate]
            refine hstep a _ [] hbase ?_ ?_
            · rw [List.append_nil]
              exact hread
            · rw [List.append_nil]
              exact hrest
        | some teammateState =>
            have hsome : encounterOf memory self.state message
                = some ⟨message.sender, teammateState, self.state⟩ := by
              simp [encounterOf, hvalue, hstate]
            rw [List.filterMap_cons_some hsome] at hrest
            simp only [hstate]
            refine hstep (a.meetTeammate message.sender teammateState) _ _ hbase
              (hread.meetTeammate message.sender teammateState self.state) ?_
            rw [List.append_assoc]
            exact hrest
    | _ =>
        intro a' ha'
        cases ha'
  · rintro a ⟨-, read, hread, hall⟩
    rw [List.filterMap_nil, List.append_nil] at hall
    rw [← hall]
    exact hread

/-! ## The other calls -/

theorem observe_neighbours (self : GreedyCameraAgent G) (observation : List ℝ) :
    Ensures (self.observe observation)
      (fun a => a.neighboringTeammateStates = self.neighboringTeammateStates) := by
  intro a ha
  unfold observe processMessages at ha
  obtain ⟨⟨state, base⟩, -, ha⟩ := bind_eq_ok.mp ha
  obtain ⟨states, -, ha⟩ := bind_eq_ok.mp ha
  cases ha
  refine List.foldlRecOn (motive := fun a : GreedyCameraAgent G =>
    a.neighboringTeammateStates = self.neighboringTeammateStates) _ _ rfl ?_
  rintro a ha ⟨⟨targetState, tracked⟩, t⟩ -
  dsimp only
  split
  · exact ha
  · exact ha

section

variable [RandomState G]

theorem act_neighbours (self : GreedyCameraAgent G) (observation : List ℝ) :
    Ensures (self.act observation)
      (fun r => r.2.neighboringTeammateStates = self.neighboringTeammateStates) := by
  intro r hr
  unfold act at hr
  obtain ⟨⟨state, base⟩, -, hr⟩ := bind_eq_ok.mp hr
  obtain ⟨targets, -, hr⟩ := bind_eq_ok.mp hr
  split at hr
  · obtain ⟨action, -, hr⟩ := bind_eq_ok.mp hr
    cases hr
    rfl
  · cases hr
    rfl

theorem sendTo_neighbours (c : ℕ) (self : GreedyCameraAgent G) (memory : Memory Content)
    (messages : List Message) :
    Ensures (sendTo c self memory messages)
      (fun r => r.1.neighboringTeammateStates = self.neighboringTeammateStates) := by
  intro r hr
  unfold sendTo at hr
  split at hr
  · cases hr
    rfl
  · dsimp only at hr
    split at hr
    · obtain ⟨⟨delay, npRandom⟩, -, hr⟩ := bind_eq_ok.mp hr
      cases hr
      rfl
    · cases hr
      rfl

theorem sendResponses_neighbours (self : GreedyCameraAgent G) (memory : Memory Content) :
    Ensures (self.sendResponses memory)
      (fun r => r.2.2.neighboringTeammateStates = self.neighboringTeammateStates) := by
  unfold sendResponses
  dsimp only
  split
  · refine Ensures.bind (P := fun r : GreedyCameraAgent G × Memory Content × List Message =>
      r.1.neighboringTeammateStates = self.neighboringTeammateStates) ?_ ?_
    · refine Ensures.foldlM _ _ rfl ?_
      rintro ⟨a, memory', messages⟩ c _ ha
      exact (sendTo_neighbours c a memory' messages).mono (fun r hr => hr.trans ha)
    · rintro ⟨a, memory', messages⟩ ha
      exact Ensures.pure ha
  · exact Ensures.pure rfl

/-! ## Every run -/

/-- One call. -/
theorem Does.remembers {new : List Encounter} (hdoes : Does self new after)
    (h : self.Remembers history) : after.Remembers (history ++ new) := by
  cases hdoes with
  | observe hcall =>
      rw [List.append_nil]
      exact h.of_eq (self.observe_neighbours _ _ hcall)
  | act hcall =>
      rw [List.append_nil]
      exact h.of_eq (self.act_neighbours _ _ hcall)
  | sendResponses hcall =>
      rw [List.append_nil]
      exact h.of_eq (self.sendResponses_neighbours _ _ hcall)
  | receiveResponses hcall => exact h.receiveResponses _ _ _ hcall

/-- From an empty dictionary, every run remembers all that it met. -/
theorem remembers_of_run {told : List (List Encounter)}
    (hempty : ∀ sender, self.neighboringTeammateStates sender = none)
    (hrun : Run Does self told after) : after.Remembers told.flatten := by
  refine hrun.induct (fun told a => a.Remembers told.flatten) ?_ ?_
  · intro sender
    rw [hempty]
    rfl
  · intro told a new a' ha hdoes
    rw [List.flatten_append, List.flatten_singleton]
    exact hdoes.remembers ha

/-- **The neighbours of a greedy camera.** After every sequence of calls from a reset on, the
dictionary has just the teammates whose last state was in range if and only if no teammate's last
state was out of range. -/
theorem keeps_neighbours_iff {told : List (List Encounter)}
    (hempty : ∀ sender, self.neighboringTeammateStates sender = none)
    (hrun : Run Does self told after) :
    (∀ sender, after.neighboringTeammateStates sender ≠ none
      ↔ ∃ e, lastEncounter told.flatten sender = some e ∧ e.InRange)
      ↔ ∀ sender e, lastEncounter told.flatten sender = some e → e.InRange := by
  have hremembers := remembers_of_run hempty hrun
  constructor
  · intro hright sender e hlast
    have hkept : after.neighboringTeammateStates sender ≠ none := by
      rw [hremembers sender, hlast]
      exact Option.some_ne_none _
    obtain ⟨e', hlast', hrange⟩ := (hright sender).mp hkept
    obtain rfl : e' = e := Option.some.inj (hlast'.symm.trans hlast)
    exact hrange
  · intro hall sender
    rw [hremembers sender]
    cases hlast : lastEncounter told.flatten sender with
    | none =>
        refine iff_of_false (fun hne => hne rfl) ?_
        rintro ⟨e, ⟨⟩, -⟩
    | some e => exact iff_of_true (Option.some_ne_none _) ⟨e, rfl, hall sender e hlast⟩

end

/-! ## Two cameras -/

/-- A camera on the x-axis that looks ten units up. -/
noncomputable def cameraState (x : ℝ) (index : ℤ) : CameraStatePrivate :=
  ⟨[x, 0, 40, 0, 10, 90, 10, 5, 5], index, rfl⟩

/-- The first of two cameras, which stands at the origin and has heard nothing yet. -/
noncomputable def firstCamera : GreedyCameraAgent (Fin 4) where
  numCameras := 2
  numTargets := 0
  numObstacles := 0
  index := 0
  observationIndices := observationIndicesOf .camera 2 0 0
  observationSlices := observationSlicesOf .camera 2 0 0
  observationDim := observationIndicesOf .camera 2 0 0 5
  state := cameraState 0 0
  actionSpace := ⟨-5, 5, 0⟩
  episodeStep := 0
  stepCounter := 1
  npRandom := 0
  memoryPeriod := 25
  filteroutUnloaded := false
  filteroutBeyondRange := true
  memory := []
  time2forget := []
  neverLoaded := []
  prevAction := CAMERA_DEFAULT_ACTION
  neighboringTeammateStates := fun _ => none
  message2send := ⟨none, none⟩
  communicationDelay := [0, 0]

/-- The second camera sends its state. -/
noncomputable def hello (x : ℝ) : Memory Content :=
  ⟨1, fun _ => .camera ⟨some (cameraState x 1), none⟩⟩

theorem firstCamera_receives (x : ℝ) :
    letI := Env.rotating
    Run Does firstCamera [[⟨1, cameraState x 1, cameraState 0 0⟩]]
      (firstCamera.meetTeammate 1 (cameraState x 1)) := by
  let _ := Env.rotating
  have hcall : firstCamera.receiveResponses (hello x) [⟨1, some 0, 0, .camera, false⟩]
      = .ok (firstCamera.meetTeammate 1 (cameraState x 1)) := rfl
  exact Run.single (Does.receiveResponses hcall)

/-- How far the second camera may be. -/
theorem inRange_iff (x : ℝ) :
    (⟨1, cameraState x 1, cameraState 0 0⟩ : Encounter).InRange ↔ |x| < 21 := by
  have hdistance : ((cameraState x 1).sub (cameraState 0 0)).norm = |x| := by
    have hdifference : (cameraState x 1).location - (cameraState 0 0).location = (x : ℂ) := by
      apply Complex.ext <;> simp [cameraState, StateBase.location, StateBase.entry]
    show ‖(cameraState x 1).location - (cameraState 0 0).location‖ = |x|
    rw [hdifference, Complex.norm_real, Real.norm_eq_abs]
  unfold Encounter.InRange
  dsimp only
  rw [hdistance]
  norm_num [cameraState, StateBase.maxSightRange, StateBase.entry, RANGE_FACTOR]

/-- A teammate three units away is in range, and a neighbour. -/
theorem keeps_neighbours_iff_near :
    (∀ sender e, lastEncounter [⟨1, cameraState 3 1, cameraState 0 0⟩] sender = some e →
        e.InRange)
      ∧ ∀ sender,
        (firstCamera.meetTeammate 1 (cameraState 3 1)).neighboringTeammateStates sender ≠ none
        ↔ ∃ e, lastEncounter [⟨1, cameraState 3 1, cameraState 0 0⟩] sender = some e
          ∧ e.InRange := by
  let _ := Env.rotating
  have hnear : ∀ sender e,
      lastEncounter [⟨1, cameraState 3 1, cameraState 0 0⟩] sender = some e → e.InRange := by
    intro sender e hlast
    obtain ⟨hmem, -⟩ := mem_of_lastEncounter hlast
    rw [List.mem_singleton.mp hmem]
    apply (inRange_iff 3).mpr
    norm_num
  exact ⟨hnear, (keeps_neighbours_iff (fun _ => rfl) (firstCamera_receives 3)).mpr hnear⟩

/-- A teammate a hundred units away is kept as a neighbour. -/
theorem keeps_far_neighbour :
    ¬ ∀ sender,
      (firstCamera.meetTeammate 1 (cameraState 100 1)).neighboringTeammateStates sender ≠ none
      ↔ ∃ e, lastEncounter [⟨1, cameraState 100 1, cameraState 0 0⟩] sender = some e
        ∧ e.InRange := by
  intro hall
  have hkept :
      (firstCamera.meetTeammate 1 (cameraState 100 1)).neighboringTeammateStates 1 ≠ none := by
    simp [meetTeammate]
  obtain ⟨e, hlast, hrange⟩ := (hall 1).mp hkept
  obtain ⟨hmem, -⟩ := mem_of_lastEncounter hlast
  rw [List.mem_singleton.mp hmem, inRange_iff] at hrange
  norm_num at hrange

end GreedyCameraAgent

end Mate
