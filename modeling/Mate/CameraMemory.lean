import Mate.Clock
import Mate.Environment.Posting
import Mate.Library.Expiry

set_option autoImplicit false

/-! # The memory of a greedy camera

A greedy camera notes the targets that it sees and those that its teammates tell it of, and forgets
them by and by. `Learns` has the calls between two resets with the notes in them. The lists of the
agent are a board of notes that expire (`GreedyCameraAgent.board`), so after every run of calls they
can be told from the notes alone (`GreedyCameraAgent.recalls`), and with them what the next action is
(`act_from_notes`).
-/

namespace Mate

open Fallible Runs Expiry

/-! ## Notes -/

abbrev Sighting := Event TargetStatePublic

/-- What an agent notes of the rows of an observation. -/
def sightings (states : List (TargetStatePublic × Bool)) : List Sighting :=
  states.zipIdx.filterMap (fun ((ts, tracked), t) => if tracked then some (.note t ts) else none)

/-- The note of a target that a teammate tells of. -/
def hearing (size : ℕ) (ts : TargetStatePublic) : Option Sighting :=
  match axisIndex size ts.index with
  | .ok t => some (.note t ts)
  | .error _ => none

/-- The notes of a message. -/
def hearings (memory : Memory Content) (size : ℕ) (message : Message) : List Sighting :=
  match memory.value message.content with
  | .camera content => (content.targetStates.getD []).filterMap (hearing size)
  | _ => []

/-- Every note stands at the place its state has for an index. -/
def Placed (size : ℕ) (events : List Sighting) : Prop :=
  ∀ t v, Event.note t v ∈ events → ∃ i, axisIndex size v.index = .ok i ∧ (i : ℕ) = t

/-- A target was noted with a cargo. -/
def WasLoaded (events : List Sighting) (t : ℕ) : Prop :=
  ∃ v, Event.note t v ∈ events ∧ v.isLoaded = true

theorem Placed.append {size : ℕ} {events events' : List Sighting} (h : Placed size events)
    (h' : Placed size events') : Placed size (events ++ events') := by
  intro t v hmem
  rcases List.mem_append.mp hmem with hmem | hmem
  · exact h t v hmem
  · exact h' t v hmem

/-! ### What is seen -/

@[simp] theorem sightings_nil : sightings [] = [] := rfl

theorem note_mem_sightings {states : List (TargetStatePublic × Bool)} {t : ℕ}
    {v : TargetStatePublic} (h : Event.note t v ∈ sightings states) : states[t]? = some (v, true) := by
  obtain ⟨⟨⟨ts, tracked⟩, t'⟩, hmem, hnote⟩ := List.mem_filterMap.mp h
  have hat := List.mem_zipIdx_iff_getElem?.mp hmem
  cases tracked with
  | false => cases hnote
  | true =>
      cases hnote
      exact hat

theorem tick_notMem_sightings (states : List (TargetStatePublic × Bool)) :
    Event.tick ∉ sightings states := by
  intro h
  obtain ⟨⟨⟨ts, tracked⟩, t⟩, -, hnote⟩ := List.mem_filterMap.mp h
  cases tracked with
  | false => cases hnote
  | true => cases hnote

theorem mem_sightings {states : List (TargetStatePublic × Bool)} {t : ℕ} {v : TargetStatePublic}
    (h : states[t]? = some (v, true)) : Event.note t v ∈ sightings states :=
  List.mem_filterMap.mpr ⟨((v, true), t), List.mem_zipIdx_iff_getElem?.mpr h, rfl⟩

/-- A row that is read has the index it is read at. -/
theorem getState_index (DIM start num : ℕ) (outOfRange : String) (observation : List ℝ)
    (index : ℤ) : Ensures (AgentBase.getState DIM start num outOfRange observation index)
      (fun s => s.1.index = index) := by
  intro s h
  unfold AgentBase.getState at h
  split at h
  · obtain ⟨state, hstate, h⟩ := bind_eq_ok.mp h
    obtain ⟨sensed, -, h⟩ := bind_eq_ok.mp h
    cases h
    unfold StateBase.make at hstate
    split at hstate
    · cases hstate
      rfl
    · cases hstate
  · cases h

/-- The rows of an observation stand at their indices. -/
theorem index_of_unpack {team : Team} {G : Type} {base : AgentBase team G} {observation : List ℝ}
    {states : List (StateBase team.opponentStateDim × Bool)}
    (h : base.unpackOpponentStates observation = .ok states) :
    states.length = base.numOpponents
      ∧ ∀ (t : ℕ) (s : StateBase team.opponentStateDim × Bool),
        states[t]? = some s → s.1.index = t := by
  obtain ⟨all, hall, h⟩ := bind_eq_ok.mp h
  split at h
  · cases h
  · cases h
    have hindices : (do let a ← List.range base.numOpponents; pure (a : ℤ))
        = (List.range base.numOpponents).map Nat.cast := List.map_eq_flatMap.symm
    unfold AgentBase.getAllOpponentStates at hall
    rw [hindices] at hall
    have hrows := forall₂_of_mapM hall
    have hlength : states.length = base.numOpponents := by
      rw [← hrows.length_eq, List.length_map, List.length_range]
    refine ⟨hlength, fun t s hs => ?_⟩
    obtain ⟨hlt, hget⟩ := List.getElem?_eq_some_iff.mp hs
    have hrow := hrows.get (by rw [hrows.length_eq]; exact hlt) hlt
    rw [List.get_eq_getElem, List.get_eq_getElem, hget, List.getElem_map, List.getElem_range]
      at hrow
    exact getState_index _ _ _ _ _ _ _ hrow

theorem placed_sightings {G : Type} {base : AgentBase .camera G} {observation : List ℝ}
    {states : List (TargetStatePublic × Bool)}
    (h : base.unpackOpponentStates observation = .ok states) :
    Placed base.numTargets (sightings states) := by
  obtain ⟨hlength, hindex⟩ := index_of_unpack h
  intro t v hmem
  have hrow := note_mem_sightings hmem
  have hlt : t < base.numTargets := (List.getElem?_eq_some_iff.mp hrow).1.trans_eq hlength
  refine ⟨⟨t, hlt⟩, ?_, rfl⟩
  rw [hindex t _ hrow]
  exact Mail.axisIndex_natCast ⟨t, hlt⟩

/-! ### What is heard -/

theorem placed_hearings (memory : Memory Content) (size : ℕ) (message : Message) :
    Placed size (hearings memory size message) := by
  intro t v hmem
  unfold hearings at hmem
  split at hmem
  · obtain ⟨ts, -, hnote⟩ := List.mem_filterMap.mp hmem
    unfold hearing at hnote
    split at hnote
    · rename_i t' hindex
      cases hnote
      exact ⟨t', hindex, rfl⟩
    · cases hnote
  · exact absurd hmem List.not_mem_nil

/-! ## The mind of an agent -/

/-- What the notes change, and what tells where they go. -/
structure Mind where
  board : Board TargetStatePublic
  neverLoaded : List Bool
  filteroutUnloaded : Bool
  filteroutBeyondRange : Bool
  numTargets : ℕ
  observationIndices : Fin 6 → ℕ

noncomputable def Mind.run (self : Mind) (events : List Sighting) : Mind :=
  { self with
    board := self.board.run events
    neverLoaded := events.foldl (clearMark StateBase.isLoaded) self.neverLoaded }

theorem Mind.run_nil (self : Mind) : self.run [] = self := rfl

theorem Mind.run_append (self : Mind) (events events' : List Sighting) :
    self.run (events ++ events') = (self.run events).run events' := by
  unfold Mind.run
  rw [Board.run_append, List.foldl_append]

namespace GreedyCameraAgent

variable {G : Type}

/-- The memory of the agent as a board. -/
def board (self : GreedyCameraAgent G) : Board TargetStatePublic :=
  ⟨self.memoryPeriod, self.memory, self.time2forget⟩

def mind (self : GreedyCameraAgent G) : Mind :=
  ⟨self.board, self.neverLoaded, self.filteroutUnloaded, self.filteroutBeyondRange, self.numTargets,
    self.observationIndices⟩

theorem see_mind (self : GreedyCameraAgent G) (t : ℕ) (ts : TargetStatePublic) :
    (self.see t ts).mind = self.mind.run [.note t ts] := rfl

/-! ### Observing -/

/-- The loop of `process_messages`. -/
theorem seeAll_mind (rows : List ((TargetStatePublic × Bool) × ℕ)) (self : GreedyCameraAgent G) :
    (rows.foldl (fun self ((ts, tracked), t) => if tracked then see self t ts else self) self).mind
      = self.mind.run (rows.filterMap
          (fun ((ts, tracked), t) => if tracked then some (Event.note t ts) else none)) := by
  induction rows generalizing self with
  | nil => rfl
  | cons row rows ih =>
      obtain ⟨⟨ts, tracked⟩, t⟩ := row
      rw [List.foldl_cons, ih]
      cases tracked with
      | false => rfl
      | true =>
          show (self.see t ts).mind.run _ = self.mind.run (.note t ts :: _)
          rw [see_mind, ← Mind.run_append]
          rfl

theorem observe_mind {self after : GreedyCameraAgent G} {observation : List ℝ}
    {states : List (TargetStatePublic × Bool)} (h : self.observe observation = .ok after)
    (hstates : self.unpackOpponentStates observation = .ok states) :
    after.mind = self.mind.run (.tick :: sightings states) := by
  unfold observe processMessages at h
  obtain ⟨⟨state, base⟩, hcheck, h⟩ := bind_eq_ok.mp h
  obtain ⟨-, -, rfl⟩ := AgentBase.checkInputs_eq_ok hcheck
  obtain ⟨states', hstates', h⟩ := bind_eq_ok.mp h
  obtain rfl : states' = states := Except.ok.inj (hstates'.symm.trans hstates)
  cases h
  exact seeAll_mind states'.zipIdx _

/-! ### Receiving -/

theorem length_memory_of_mind {self after : GreedyCameraAgent G} {events : List Sighting}
    (h : after.mind = self.mind.run events) : after.memory.length = self.memory.length :=
  (congrArg (fun m => m.board.values.length) h).trans (Board.length_values_run self.board events)

/-- The loop over the targets of a message. -/
theorem learnTargets_mind (targets : List TargetStatePublic) (self : GreedyCameraAgent G) :
    Ensures (targets.foldlM learnTarget self) (fun a =>
      a.mind = self.mind.run (targets.filterMap (hearing self.memory.length))) := by
  induction targets generalizing self with
  | nil => exact Ensures.pure rfl
  | cons ts targets ih =>
      rw [List.foldlM_cons]
      intro a ha
      obtain ⟨a', hlearn, ha⟩ := bind_eq_ok.mp ha
      obtain ⟨t, hindex, hlearn⟩ := bind_eq_ok.mp hlearn
      cases hlearn
      have hhearing : hearing self.memory.length ts = some (.note t ts) := by
        rw [hearing, hindex]
      have hlength : (self.note t ts).memory.length = self.memory.length := List.length_set
      have hrest := ih (self.note t ts) a ha
      rw [hlength] at hrest
      rw [List.filterMap_cons_some hhearing, ← List.singleton_append, Mind.run_append]
      exact hrest

theorem receiveResponses_mind (memory : Memory Content) (messages : List Message)
    (self : GreedyCameraAgent G) :
    Ensures (self.receiveResponses memory messages) (fun a =>
      a.mind = self.mind.run (messages.flatMap (hearings memory self.memory.length))) := by
  induction messages generalizing self with
  | nil => exact Ensures.pure rfl
  | cons message messages ih =>
      unfold receiveResponses
      rw [List.foldlM_cons]
      intro a ha
      obtain ⟨a', hfirst, ha⟩ := bind_eq_ok.mp ha
      have hmind : a'.mind = self.mind.run (hearings memory self.memory.length message) := by
        unfold hearings
        cases hvalue : memory.value message.content with
        | camera content =>
            rw [hvalue] at hfirst
            dsimp only at hfirst ⊢
            cases hstate : content.state with
            | none =>
                rw [hstate] at hfirst
                exact learnTargets_mind _ self a' hfirst
            | some teammateState =>
                rw [hstate] at hfirst
                exact learnTargets_mind _ (self.meetTeammate message.sender teammateState) a' hfirst
        | _ =>
            rw [hvalue] at hfirst
            cases hfirst
      rw [List.flatMap_cons, Mind.run_append, ← hmind, ← length_memory_of_mind hmind]
      exact ih a' a ha

/-! ### Acting and sending -/

section

variable [RandomState G]

omit [RandomState G] in
/-- A base with the same layout, and another last action. -/
theorem withBase_mind (self : GreedyCameraAgent G) {base : AgentBase .camera G} (action : ℂ)
    (htargets : base.numTargets = self.numTargets)
    (hindices : base.observationIndices = self.observationIndices) :
    { self with toAgentBase := base, prevAction := action }.mind = self.mind := by
  unfold mind
  dsimp only
  rw [htargets, hindices]
  rfl

theorem act_mind (self : GreedyCameraAgent G) (observation : List ℝ) :
    Ensures (self.act observation) (fun r => r.2.mind = self.mind) := by
  intro r hr
  unfold act at hr
  obtain ⟨⟨state, base⟩, hcheck, hr⟩ := bind_eq_ok.mp hr
  obtain ⟨-, -, hbase⟩ := AgentBase.checkInputs_eq_ok hcheck
  have htargets : base.numTargets = self.numTargets := by rw [hbase]
  have hindices : base.observationIndices = self.observationIndices := by rw [hbase]
  obtain ⟨targets, -, hr⟩ := bind_eq_ok.mp hr
  split at hr
  · obtain ⟨action, -, hr⟩ := bind_eq_ok.mp hr
    cases hr
    exact self.withBase_mind action htargets hindices
  · obtain ⟨npRandom, actionSpace, hidle⟩ := idle_keeps { base with state } self.prevAction
    cases hr
    refine self.withBase_mind _ ?_ ?_
    · exact (congrArg AgentBase.numTargets hidle).trans htargets
    · exact (congrArg AgentBase.observationIndices hidle).trans hindices

theorem sendTo_mind (c : ℕ) (self : GreedyCameraAgent G) (memory : Memory Content)
    (messages : List Message) :
    Ensures (sendTo c self memory messages) (fun r => r.1.mind = self.mind) := by
  intro r hr
  unfold sendTo at hr
  split at hr
  · cases hr
    rfl
  · dsimp only at hr
    split at hr
    · obtain ⟨⟨delay, npRandom⟩, -, hr⟩ := bind_eq_ok.mp hr
      cases hr
      rfl
    · cases hr
      rfl

theorem sendResponses_mind (self : GreedyCameraAgent G) (memory : Memory Content) :
    Ensures (self.sendResponses memory) (fun r => r.2.2.mind = self.mind) := by
  unfold sendResponses
  dsimp only
  split
  · refine Ensures.bind (P := fun r : GreedyCameraAgent G × Memory Content × List Message =>
      r.1.mind = self.mind) ?_ ?_
    · refine Ensures.foldlM _ _ rfl ?_
      rintro ⟨a, memory', messages⟩ c _ ha
      exact (sendTo_mind c a memory' messages).mono (fun r hr => hr.trans ha)
    · rintro ⟨a, memory', messages⟩ ha
      exact Ensures.pure ha
  · exact Ensures.pure rfl

end

/-! ## Every run -/

section

variable [RandomState G]

/-- The calls between two resets, with the notes in them. An observation is also a tick. -/
inductive Learns : GreedyCameraAgent G → List Sighting → GreedyCameraAgent G → Prop
  | observe {self after : GreedyCameraAgent G} {observation : List ℝ}
      {states : List (TargetStatePublic × Bool)} :
      self.observe observation = .ok after → self.unpackOpponentStates observation = .ok states →
      Learns self (.tick :: sightings states) after
  | act {self after : GreedyCameraAgent G} {observation : List ℝ} {action : ℂ} :
      self.act observation = .ok (action, after) → Learns self [] after
  | sendResponses {self after : GreedyCameraAgent G} {memory memory' : Memory Content}
      {messages : List Message} :
      self.sendResponses memory = .ok (messages, memory', after) → Learns self [] after
  | receiveResponses {self after : GreedyCameraAgent G} {memory : Memory Content}
      {messages : List Message} :
      self.receiveResponses memory messages = .ok after →
      Learns self (messages.flatMap (hearings memory self.memory.length)) after

variable {self after : GreedyCameraAgent G} {first later events : List Sighting}

theorem Learns.mind (h : Learns self events after) : after.mind = self.mind.run events := by
  cases h with
  | observe hcall hstates => exact observe_mind hcall hstates
  | act hcall => exact self.act_mind _ _ hcall
  | sendResponses hcall => exact self.sendResponses_mind _ _ hcall
  | receiveResponses hcall => exact receiveResponses_mind _ _ self _ hcall

theorem Learns.placed (h : Learns self events after) (hsize : self.memory.length = self.numTargets) :
    Placed self.numTargets events := by
  cases h with
  | @observe _ _ states _ hstates =>
      intro t v hmem
      rcases List.mem_cons.mp hmem with hmem | hmem
      · cases hmem
      · exact placed_sightings hstates t v hmem
  | act _ => exact fun t v hmem => absurd hmem List.not_mem_nil
  | sendResponses _ => exact fun t v hmem => absurd hmem List.not_mem_nil
  | @receiveResponses _ memory messages _ =>
      intro t v hmem
      obtain ⟨message, -, hmem⟩ := List.mem_flatMap.mp hmem
      rw [hsize] at hmem
      exact placed_hearings memory self.numTargets message t v hmem

omit [RandomState G] in
/-- **What the agent has in mind** after the notes `first` of the reset and the notes `later`. -/
structure Recollects (agent : GreedyCameraAgent G) (first later : List Sighting) : Prop where
  shows : agent.board.Shows agent.numTargets (first ++ later)
  neverLoaded : agent.neverLoaded
    = later.foldl (clearMark StateBase.isLoaded) (List.replicate agent.numTargets true)
  placed : Placed agent.numTargets (first ++ later)

omit [RandomState G] in
theorem Recollects.of_mind (h : self.Recollects first later) (hmind : after.mind = self.mind) :
    after.Recollects first later := by
  have hboard : after.board = self.board := congrArg Mind.board hmind
  have hmarks : after.neverLoaded = self.neverLoaded := congrArg Mind.neverLoaded hmind
  have htargets : after.numTargets = self.numTargets := congrArg Mind.numTargets hmind
  refine ⟨?_, ?_, ?_⟩
  · rw [hboard, htargets]
    exact h.shows
  · rw [hmarks, htargets]
    exact h.neverLoaded
  · rw [htargets]
    exact h.placed

/-- One call. -/
theorem Recollects.learn (h : self.Recollects first later) (hlearn : Learns self events after) :
    after.Recollects first (later ++ events) := by
  have hmind := hlearn.mind
  have hboard : after.board = self.board.run events := congrArg Mind.board hmind
  have hmarks : after.neverLoaded = events.foldl (clearMark StateBase.isLoaded) self.neverLoaded :=
    congrArg Mind.neverLoaded hmind
  have htargets : after.numTargets = self.numTargets := congrArg Mind.numTargets hmind
  refine ⟨?_, ?_, ?_⟩
  · rw [hboard, htargets, ← List.append_assoc]
    exact h.shows.run events
  · rw [hmarks, htargets, List.foldl_append, ← h.neverLoaded]
  · rw [htargets, ← List.append_assoc]
    exact h.placed.append (hlearn.placed h.shows.length_values)

theorem Recollects.run {told : List (List Sighting)} (h : self.Recollects first [])
    (hrun : Run Learns self told after) : after.Recollects first told.flatten := by
  refine hrun.induct (fun told a => a.Recollects first told.flatten) h ?_
  intro told a events a' ha hlearn
  rw [List.flatten_append, List.flatten_singleton]
  exact ha.learn hlearn

/-! ### The reset -/

/-- **After a reset** the agent has noted what it sees, and marks no target as loaded. -/
theorem reset_recollects {memoryPeriod : ℤ} {filteroutUnloaded filteroutBeyondRange : Bool}
    {npRandom : G} {observation : List ℝ} {start : GreedyCameraAgent G}
    {states : List (TargetStatePublic × Bool)}
    (hreset : reset memoryPeriod filteroutUnloaded filteroutBeyondRange npRandom observation
      = .ok start)
    (hstates : start.unpackOpponentStates observation = .ok states) :
    start.Recollects (sightings states) [] := by
  obtain ⟨base, -, hreset⟩ := bind_eq_ok.mp hreset
  obtain ⟨states', hstates', hreset⟩ := bind_eq_ok.mp hreset
  cases hreset
  obtain rfl : states = states' := Except.ok.inj (hstates.symm.trans hstates')
  have hlength : states.length = base.numTargets := (index_of_unpack hstates').1
  refine ⟨?_, rfl, ?_⟩
  · rw [List.append_nil]
    refine ⟨(List.length_map _).trans hlength, (List.length_map _).trans hlength, ?_, ?_⟩
    · intro t _ v hlast
      have hrow := note_mem_sightings (mem_of_lastNote hlast)
      rw [age_of_no_tick (tick_notMem_sightings states)]
      exact ⟨List.getElem?_map.trans (congrArg (Option.map Prod.fst) hrow),
        List.getElem?_map.trans (congrArg (Option.map _) hrow)⟩
    · intro t ht hlast
      obtain ⟨s, hs⟩ : ∃ s, states[t]? = some s :=
        ⟨_, List.getElem?_eq_getElem (ht.trans_eq hlength.symm)⟩
      obtain ⟨v, tracked⟩ := s
      have hhidden : tracked = false := by
        cases tracked with
        | false => rfl
        | true => exact absurd (mem_sightings hs) (note_notMem_of_lastNote hlast v)
      rw [hhidden] at hs
      exact List.getElem?_map.trans (congrArg (Option.map _) hs)
  · rw [List.append_nil]
    exact placed_sightings hstates'

end

/-! ## What an agent turns to -/

open Classical in
/-- The last note of target `t`, if it is fresh and the target is near enough. -/
noncomputable def nearNote (self : GreedyCameraAgent G) (first later : List Sighting) (t : ℕ) :
    Option TargetStatePublic :=
  (if Fresh self.memoryPeriod (age (first ++ later) t) then lastNote (first ++ later) t
    else none).filter (fun ts => !self.filteroutBeyondRange
      || decide ((ts.sub self.state).norm < RANGE_FACTOR * self.state.maxSightRange))

open Classical in
/-- The state of target `t` that the agent goes by: the target is to have a cargo now, or never to
have been noted with one. -/
noncomputable def recalls (self : GreedyCameraAgent G) (first later : List Sighting) (t : ℕ) :
    Option TargetStatePublic :=
  (self.nearNote first later t).filter
    (fun ts => !self.filteroutUnloaded || ts.isLoaded || decide (¬ WasLoaded later t))

noncomputable def targetsFrom (self : GreedyCameraAgent G) (first later : List Sighting) :
    List TargetStatePublic :=
  (List.range self.numTargets).filterMap (self.recalls first later)

variable {self : GreedyCameraAgent G} {first later : List Sighting}

theorem Recollects.length_neverLoaded (h : self.Recollects first later) :
    self.neverLoaded.length = self.numTargets := by
  rw [h.neverLoaded, length_clearMarks, List.length_replicate]

open Classical in
/-- The marks that `act` reads. -/
theorem Recollects.mark (h : self.Recollects first later) (i : Fin self.neverLoaded.length) :
    self.neverLoaded.get i = decide (¬ WasLoaded later i) := by
  have hlt : (i : ℕ) < self.numTargets := i.isLt.trans_eq h.length_neverLoaded
  have hread := getElem?_clearMarks StateBase.isLoaded later
    (hlt.trans_eq (List.length_replicate (a := true)).symm)
  rw [← h.neverLoaded, List.getElem?_eq_getElem i.isLt, List.getElem?_replicate_of_lt hlt,
    ← apply_ite some] at hread
  have hvalue : self.neverLoaded.get i = if WasLoaded later i then false else true :=
    Option.some.inj hread
  rw [hvalue]
  by_cases hloaded : WasLoaded later i
  · rw [if_pos hloaded, decide_eq_false (not_not_intro hloaded)]
  · rw [if_neg hloaded, decide_eq_true hloaded]

/-- The test of `filterout_unloaded`. -/
noncomputable def wanted (self : GreedyCameraAgent G) (ts : TargetStatePublic) : Bool :=
  ts.isLoaded || match axisIndex self.neverLoaded.length ts.index with
    | .ok i => self.neverLoaded.get i
    | .error _ => true

open Classical in
theorem Recollects.wanted_eq (h : self.Recollects first later) {t : ℕ} {v : TargetStatePublic}
    (hmem : Event.note t v ∈ first ++ later) :
    (if v.isLoaded then pure true
      else do
        let i ← axisIndex self.neverLoaded.length v.index
        return self.neverLoaded.get i : Except Error Bool) = .ok (self.wanted v)
      ∧ self.wanted v = (v.isLoaded || decide (¬ WasLoaded later t)) := by
  have hplaced := h.placed t v hmem
  rw [← h.length_neverLoaded] at hplaced
  obtain ⟨i, hindex, rfl⟩ := hplaced
  unfold wanted
  rw [hindex, ← h.mark i]
  refine ⟨?_, rfl⟩
  cases v.isLoaded with
  | true => rfl
  | false => rfl

/-- Every state that is left is the last note of its target. -/
theorem mem_of_nearNote {t : ℕ} {v : TargetStatePublic} (h : self.nearNote first later t = some v) :
    Event.note t v ∈ first ++ later := by
  have hlast := (Option.filter_eq_some_iff.mp h).1
  split at hlast
  · exact mem_of_lastNote hlast
  · cases hlast

open Classical in
/-- The first two steps of `act`. -/
theorem Recollects.near_eq (h : self.Recollects first later) :
    (if self.filteroutBeyondRange then
        ((self.memory.zip self.time2forget).filterMap
          (fun (ts, time) => if time ≠ 0 then some ts else none)).filter (fun ts =>
            decide ((ts.sub self.state).norm < RANGE_FACTOR * self.state.maxSightRange))
      else (self.memory.zip self.time2forget).filterMap
        (fun (ts, time) => if time ≠ 0 then some ts else none))
      = (List.range self.numTargets).filterMap (self.nearNote first later) := by
  have hfresh : (self.memory.zip self.time2forget).filterMap
      (fun (ts, time) => if time ≠ 0 then some ts else none)
      = (List.range self.numTargets).filterMap (fun t =>
        if Fresh self.memoryPeriod (age (first ++ later) t) then lastNote (first ++ later) t
          else none) := h.shows.recalled_eq
  unfold nearNote
  rw [hfresh, ← List.filter_filterMap]
  cases self.filteroutBeyondRange with
  | false => simp
  | true => rfl

/-- **What `act` looks at** is what the notes tell. -/
theorem Recollects.trackedTargets_eq (h : self.Recollects first later) :
    self.trackedTargets = .ok (self.targetsFrom first later) := by
  unfold trackedTargets
  dsimp only
  rw [h.near_eq]
  unfold targetsFrom recalls
  cases hunloaded : self.filteroutUnloaded with
  | false =>
      refine congrArg Except.ok (List.filterMap_congr (fun t _ => ?_))
      cases self.nearNote first later t with
      | none => rfl
      | some v => rfl
  | true =>
      have htest : ∀ ts ∈ (List.range self.numTargets).filterMap (self.nearNote first later),
          (if ts.isLoaded then pure true
            else do
              let i ← axisIndex self.neverLoaded.length ts.index
              return self.neverLoaded.get i : Except Error Bool) = .ok (self.wanted ts) := by
        intro ts hts
        obtain ⟨t, -, hnear⟩ := List.mem_filterMap.mp hts
        exact (h.wanted_eq (mem_of_nearNote hnear)).1
      refine (filterM_eq_ok htest).trans (congrArg Except.ok ?_)
      rw [List.filter_filterMap]
      refine List.filterMap_congr (fun t _ => ?_)
      cases hnear : self.nearNote first later t with
      | none => rfl
      | some v =>
          rw [Option.filter_some, Option.filter_some, (h.wanted_eq (mem_of_nearNote hnear)).2]
          rfl

/-- There is a nearest one of some targets. -/
theorem actFromTargetStates_returns (self : GreedyCameraAgent G)
    {targetStates : List TargetStatePublic} (h : targetStates ≠ []) :
    ∃ action, self.actFromTargetStates targetStates = .ok action := by
  unfold actFromTargetStates
  cases hnearest : targetStates.argmin (fun ts => (ts.sub self.state).norm) with
  | none => exact absurd (List.argmin_eq_none.mp hnearest) h
  | some targetState => exact ⟨_, rfl⟩

/-- The agent when `act` has read the observation. -/
def reads (self : GreedyCameraAgent G) (state : CameraStatePrivate) (base : AgentBase .camera G) :
    GreedyCameraAgent G :=
  { self with toAgentBase := { base with state } }

variable [RandomState G]

/-- **A greedy camera acts on its notes.** After every sequence of calls from a reset on, `act`
returns on every observation that passes the checks. It turns to the nearest target of those that the
notes of these calls tell of, and without any it keeps its last action or draws a random one. -/
theorem act_from_notes {memoryPeriod : ℤ} {filteroutUnloaded filteroutBeyondRange : Bool}
    {npRandom : G} {observation observation' : List ℝ} {start after : GreedyCameraAgent G}
    {states : List (TargetStatePublic × Bool)} {told : List (List Sighting)}
    {state : CameraStatePrivate} {base : AgentBase .camera G} {targets : List TargetStatePublic}
    (hreset : reset memoryPeriod filteroutUnloaded filteroutBeyondRange npRandom observation
      = .ok start)
    (hstates : start.unpackOpponentStates observation = .ok states)
    (hrun : Run Learns start told after)
    (hcheck : after.checkInputs observation' = .ok (state, base))
    (htargets : targets = (after.reads state base).targetsFrom (sightings states) told.flatten) :
    (after.reads state base).trackedTargets = .ok targets
      ∧ (targets ≠ [] → ∃ action, (after.reads state base).actFromTargetStates targets = .ok action
        ∧ after.act observation' = .ok (action, { after.reads state base with prevAction := action }))
      ∧ (targets = [] →
        after.act observation' = .ok ((idle (after.reads state base).toAgentBase after.prevAction).1,
          { after with
            toAgentBase := (idle (after.reads state base).toAgentBase after.prevAction).2
            prevAction := (idle (after.reads state base).toAgentBase after.prevAction).1 })) := by
  have hrecollects := (reset_recollects hreset hstates).run hrun
  obtain ⟨-, -, hbase⟩ := AgentBase.checkInputs_eq_ok hcheck
  have hmind : (after.reads state base).mind = after.mind := by
    rw [hbase]
    rfl
  have htracked : (after.reads state base).trackedTargets = .ok targets := by
    rw [htargets]
    exact (hrecollects.of_mind hmind).trackedTargets_eq
  have hact : after.act observation' = (if 0 < targets.length then do
        let action ← (after.reads state base).actFromTargetStates targets
        return (action, { after.reads state base with prevAction := action })
      else .ok ((idle (after.reads state base).toAgentBase after.prevAction).1,
        { after with
          toAgentBase := (idle (after.reads state base).toAgentBase after.prevAction).2
          prevAction := (idle (after.reads state base).toAgentBase after.prevAction).1 })) := by
    unfold act
    rw [hcheck]
    show ((after.reads state base).trackedTargets >>= _) = _
    rw [htracked]
    rfl
  refine ⟨htracked, ?_, ?_⟩
  · intro hsome
    obtain ⟨action, haction⟩ := (after.reads state base).actFromTargetStates_returns hsome
    refine ⟨action, haction, ?_⟩
    rw [hact, if_pos (List.length_pos_of_ne_nil hsome), haction]
    rfl
  · intro hnone
    rw [hact, if_neg (by rw [hnone]; decide)]

/-! ## A camera that is told of a target -/

/-- The only target is 50 units away, and has a cargo. -/
def heardTarget : TargetStatePublic := ⟨[30, 40, 0, 1], 0, rfl⟩

/-- A teammate tells of it. -/
def news : Memory Content := ⟨1, fun _ => .camera ⟨none, some [heardTarget]⟩⟩

/-- The second of two cameras is told of the target that it does not see, and goes by that. -/
theorem act_from_notes_lookout :
    letI := Env.rotating
    ∃ (start after : GreedyCameraAgent (Fin 4)) (states : List (TargetStatePublic × Bool))
      (state : CameraStatePrivate) (base : AgentBase .camera (Fin 4)),
      reset 25 true true 0 lookout = .ok start ∧ start.unpackOpponentStates lookout = .ok states
        ∧ Run Learns start [[.note 0 heardTarget]] after
        ∧ after.checkInputs lookout = .ok (state, base)
        ∧ (after.reads state base).trackedTargets
          = .ok ((after.reads state base).targetsFrom (sightings states) [.note 0 heardTarget]) := by
  let _ := Env.rotating
  obtain ⟨agent, hagent, halone⟩ := HeuristicCameraAgent.reset_alone (0 : Fin 4)
  obtain ⟨states, hstates, -⟩ := halone.unpackOpponentStates
  obtain ⟨observed, hobserve, -⟩ := halone.observe_returns
  obtain ⟨⟨state, base⟩, hcheck, -⟩ := bind_eq_ok.mp hobserve
  obtain ⟨first, hfirst, hagent⟩ := bind_eq_ok.mp hagent
  cases hagent
  have hlength : states.length = 1 := (index_of_unpack hstates).1.trans halone.numTargets
  obtain ⟨start, hstart, hbase, hmemory⟩ : ∃ start : GreedyCameraAgent (Fin 4),
      reset 25 true true 0 lookout = .ok start ∧ start.toAgentBase = first
        ∧ start.memory = states.map Prod.fst := by
    unfold reset
    rw [hfirst]
    show ∃ start, (first.unpackOpponentStates lookout >>= _) = _ ∧ _
    rw [show first.unpackOpponentStates lookout = .ok states from hstates]
    exact ⟨_, rfl, rfl, rfl⟩
  have hpos : 0 < start.memory.length :=
    Nat.one_pos.trans_eq ((congrArg List.length hmemory).trans ((List.length_map _).trans hlength)).symm
  have hindex : axisIndex start.memory.length heardTarget.index = .ok ⟨0, hpos⟩ :=
    Mail.axisIndex_natCast ⟨0, hpos⟩
  have hcall : start.receiveResponses news [⟨1, some 1, 0, .camera, false⟩]
      = .ok (start.note 0 heardTarget) := by
    show ((start.learnTarget heardTarget >>= _) >>= _) = _
    unfold learnTarget
    rw [hindex]
    rfl
  have hheard : hearings news start.memory.length ⟨1, some 1, 0, .camera, false⟩
      = [.note 0 heardTarget] := by
    show [heardTarget].filterMap (hearing start.memory.length) = _
    rw [List.filterMap_cons, hearing, hindex]
    rfl
  have hrun : Run Learns start [[.note 0 heardTarget]] (start.note 0 heardTarget) := by
    have hlearn := Learns.receiveResponses hcall
    rw [List.flatMap_singleton, hheard] at hlearn
    exact Run.single hlearn
  have hstates' : start.unpackOpponentStates lookout = .ok states := by
    rw [hbase]
    exact hstates
  have hcheck' : (start.note 0 heardTarget).checkInputs lookout = .ok (state, base) := by
    show start.checkInputs lookout = _
    rw [hbase]
    exact hcheck
  exact ⟨start, start.note 0 heardTarget, states, state, base, hstart, hstates', hrun, hcheck',
    (act_from_notes hstart hstates' hrun hcheck' rfl).1⟩

end GreedyCameraAgent

end Mate
