import Mate.Environment.Messages

set_option autoImplicit false

/-! # What sending and receiving do to the stores

`Mail.Posts` says what becomes of the stores when messages are put into them: the queue and the
buffer of every agent grow by the messages for it, the edges count them, and the lists that
have been handed out stay as they are. Routing copies the content of a broadcast once for every
agent of the team (`Mail.SentAs`).
-/

namespace Mate

namespace Message

/-- The message is from an agent of the team to an agent of the team. -/
def Addressed (cfg : Config) (m : Message) : Prop :=
  ∃ i j : Fin (cfg.teamSize m.team), m.sender = (i : ℕ) ∧ m.recipient = some ((j : ℕ) : ℤ)

/-- The message is from an agent of the team to one of the team, or to all of them. -/
def Existing (cfg : Config) (m : Message) : Prop :=
  (∃ i : Fin (cfg.teamSize m.team), m.sender = (i : ℕ)) ∧
    ∀ r, m.recipient = some r → ∃ j : Fin (cfg.teamSize m.team), r = (j : ℕ)

/-- The message is for agent `r` of the team. -/
def isFor (team : Team) (r : ℤ) (m : Message) : Bool :=
  decide (m.team = team ∧ m.recipient = some r)

/-- The message is from agent `i` of the team to agent `j`. -/
def goes (team : Team) (i j : ℤ) (m : Message) : Bool :=
  decide (m.team = team ∧ m.sender = i ∧ m.recipient = some j)

end Message

namespace Mail

variable {cfg : Config} {V : Type} {mail mail' mail'' : Mail cfg V}

/-! ## Posting -/

/-- The messages in the buffer of an agent. -/
def buffered (mail : Mail cfg V) (team : Team) (r : ℤ) : List Message :=
  ((mail.buffer team r).map mail.lists).getD []

/-- Every list object is the buffer of one agent at most. -/
structure Separate (mail : Mail cfg V) : Prop where
  lt : ∀ team r list, mail.buffer team r = some list → list < mail.nextList
  inj : ∀ team r team' r' list, mail.buffer team r = some list → mail.buffer team' r' = some list →
    team = team' ∧ r = r'

theorem separate_of_empty (h : ∀ team r, mail.buffer team r = none) : mail.Separate := by
  constructor
  · intro team r list hlist
    rw [h] at hlist
    cases hlist
  · intro team r team' r' list hlist
    rw [h] at hlist
    cases hlist

/-- The list object has this content, and is nobody's buffer. -/
structure HandedOut (list : ℕ) (content : List Message) (mail : Mail cfg V) : Prop where
  lt : list < mail.nextList
  lists : mail.lists list = content
  unused : ∀ team r, mail.buffer team r ≠ some list

/-- What putting messages into the stores does. -/
structure Posts (ms : List Message) (mail mail' : Mail cfg V) : Prop where
  peek : ∀ team r, mail'.peek team r = mail.peek team r ++ ms.filter (Message.isFor team r)
  buffered : ∀ team r,
    mail'.buffered team r = mail.buffered team r ++ ms.filter (Message.isFor team r)
  kept : ∀ team r list, mail.buffer team r = some list → mail'.buffer team r = some list
  edges : ∀ team (i j : Fin (cfg.teamSize team)),
    mail'.edges team i j = mail.edges team i j + ms.countP (Message.goes team (i : ℕ) (j : ℕ))
  totalEdges : mail'.totalEdges = mail.totalEdges
  memory : mail'.memory = mail.memory
  handedOut : ∀ list content, HandedOut list content mail → HandedOut list content mail'
  separate : mail'.Separate

theorem Posts.refl (h : mail.Separate) : Posts [] mail mail where
  peek := fun team r => (List.append_nil _).symm
  buffered := fun team r => (List.append_nil _).symm
  kept := fun _ _ _ h => h
  edges := fun team i j => by simp
  totalEdges := rfl
  memory := rfl
  handedOut := fun _ _ h => h
  separate := h

theorem Posts.trans {ms ms' : List Message} (h : Posts ms mail mail') (h' : Posts ms' mail' mail'') :
    Posts (ms ++ ms') mail mail'' where
  peek := fun team r => by rw [h'.peek, h.peek, List.filter_append, List.append_assoc]
  buffered := fun team r => by rw [h'.buffered, h.buffered, List.filter_append, List.append_assoc]
  kept := fun team r list hlist => h'.kept team r list (h.kept team r list hlist)
  edges := fun team i j => by
    rw [h'.edges, h.edges, List.countP_append]
    push_cast
    ring
  totalEdges := h'.totalEdges.trans h.totalEdges
  memory := h'.memory.trans h.memory
  handedOut := fun list content hlist => h'.handedOut list content (h.handedOut list content hlist)
  separate := h'.separate

/-- Assigning to one key of a dictionary of dictionaries. -/
theorem update_update_apply {K L A : Type} [DecidableEq K] [DecidableEq L] (d : K → L → A) (k : K)
    (l : L) (a : A) (k' : K) (l' : L) :
    Function.update d k (Function.update (d k) l a) k' l'
      = if k' = k ∧ l' = l then a else d k' l' := by
  by_cases hk : k' = k
  · subst hk
    by_cases hl : l' = l
    · simp [hl]
    · simp [hl]
  · simp [hk]

/-- The stores with a new list for the buffer of an agent. -/
def created (mail : Mail cfg V) (team : Team) (r : ℤ) : Mail cfg V :=
  { mail with
    lists := Function.update mail.lists mail.nextList []
    nextList := mail.nextList + 1
    buffer := Function.update mail.buffer team
      (Function.update (mail.buffer team) r (some mail.nextList)) }

theorem created_buffer (mail : Mail cfg V) (team : Team) (r : ℤ) (team' : Team) (r' : ℤ) :
    (mail.created team r).buffer team' r'
      = if team' = team ∧ r' = r then some mail.nextList else mail.buffer team' r' :=
  update_update_apply _ _ _ _ _ _

theorem created_lists (mail : Mail cfg V) (team : Team) (r : ℤ) {list : ℕ}
    (h : list < mail.nextList) : (mail.created team r).lists list = mail.lists list :=
  Function.update_of_ne h.ne _ _

theorem Separate.created (h : mail.Separate) (team : Team) (r : ℤ) :
    (mail.created team r).Separate := by
  constructor
  · intro team' r' list hlist
    show list < mail.nextList + 1
    rw [created_buffer] at hlist
    split at hlist
    · cases hlist
      omega
    · have := h.lt team' r' list hlist
      omega
  · intro team₁ r₁ team₂ r₂ list h₁ h₂
    rw [created_buffer] at h₁ h₂
    have hlt := h.lt
    have hinj := h.inj
    grind

theorem created_posts (h : mail.Separate) {team : Team} {r : ℤ} (hnone : mail.buffer team r = none) :
    Posts [] mail (mail.created team r) where
  peek := fun team' r' => (List.append_nil _).symm
  buffered := by
    intro team' r'
    rw [List.filter_nil, List.append_nil, Mail.buffered, Mail.buffered, created_buffer]
    split
    · rename_i hkey
      obtain ⟨rfl, rfl⟩ := hkey
      rw [hnone]
      show Function.update mail.lists mail.nextList [] mail.nextList = []
      rw [Function.update_self]
    · cases hlist : mail.buffer team' r' with
      | none => rfl
      | some list => exact created_lists mail team r (h.lt team' r' list hlist)
  kept := by
    intro team' r' list hlist
    rw [created_buffer, if_neg, hlist]
    -- the store that is created was not there before
    rintro ⟨rfl, rfl⟩
    rw [hnone] at hlist
    cases hlist
  edges := fun team i j => by simp [created]
  totalEdges := rfl
  memory := rfl
  handedOut := by
    intro list content hlist
    refine ⟨Nat.lt_succ_of_lt hlist.lt, ?_, ?_⟩
    · rw [created_lists mail team r hlist.lt, hlist.lists]
    · intro team' r'
      rw [created_buffer]
      split
      · have := hlist.lt
        simp only [ne_eq, Option.some.injEq]
        omega
      · exact hlist.unused team' r'
  separate := h.created team r

/-- Touching a buffer creates an empty one, if there is none. -/
theorem touchBuffer_posts (h : mail.Separate) (team : Team) (r : ℤ) :
    Posts [] mail (mail.touchBuffer team r).2
      ∧ (mail.touchBuffer team r).2.buffer team r = some (mail.touchBuffer team r).1 := by
  unfold touchBuffer
  cases hbuffer : mail.buffer team r with
  | some list => exact ⟨Posts.refl h, hbuffer⟩
  | none =>
      refine ⟨created_posts h hbuffer, ?_⟩
      exact (created_buffer mail team r team r).trans (if_pos ⟨rfl, rfl⟩)

theorem axisIndex_natCast {n : ℕ} (i : Fin n) : axisIndex n (i : ℕ) = .ok i := by
  have hlt := i.isLt
  rw [axisIndex, dif_pos ⟨by omega, by omega⟩]
  rfl

theorem isFor_iff {m : Message} {r : ℤ} (hrecipient : m.recipient = some r) (team : Team) (r' : ℤ) :
    m.isFor team r' = true ↔ team = m.team ∧ r' = r := by
  rw [Message.isFor, decide_eq_true_iff, hrecipient, Option.some.injEq, eq_comm, eq_comm (a := r)]

/-- The messages of a list with one message more, as far as they are for an agent. -/
theorem filter_isFor_singleton {m : Message} {r : ℤ} (hrecipient : m.recipient = some r)
    (team : Team) (r' : ℤ) :
    [m].filter (Message.isFor team r') = if team = m.team ∧ r' = r then [m] else [] := by
  by_cases hkey : team = m.team ∧ r' = r
  · rw [if_pos hkey, List.filter_cons_of_pos ((isFor_iff hrecipient team r').mpr hkey)]
    rfl
  · rw [if_neg hkey, List.filter_cons_of_neg (fun h => hkey ((isFor_iff hrecipient team r').mp h))]
    rfl

/-- Appending to the queue touches nothing else. -/
theorem appendQueue_peek (mail : Mail cfg V) (team : Team) (r : ℤ) (m : Message) (team' : Team)
    (r' : ℤ) : (mail.appendQueue team r m).peek team' r'
      = mail.peek team' r' ++ if team' = team ∧ r' = r then [m] else [] := by
  show (Function.update mail.queue team _ team' r').getD [] = _
  rw [update_update_apply]
  split
  · rename_i hkey
    obtain ⟨rfl, rfl⟩ := hkey
    rfl
  · exact (List.append_nil _).symm

theorem appendBuffer_edges (mail : Mail cfg V) (team : Team) (r : ℤ) (m : Message) :
    (mail.appendBuffer team r m).edges = mail.edges := by
  show (mail.touchBuffer team r).2.edges = mail.edges
  unfold touchBuffer
  split <;> rfl

/-- The buffer of one agent grows by a message. -/
theorem appendBuffer_buffered (h : mail.Separate) (team : Team) (r : ℤ) (m : Message) (team' : Team)
    (r' : ℤ) : (mail.appendBuffer team r m).buffered team' r'
      = mail.buffered team' r' ++ if team' = team ∧ r' = r then [m] else [] := by
  obtain ⟨hposts, hlist⟩ := touchBuffer_posts h team r
  have hbuffered : (mail.touchBuffer team r).2.buffered team' r' = mail.buffered team' r' := by
    rw [hposts.buffered, List.filter_nil, List.append_nil]
  rw [← hbuffered]
  by_cases hkey : team' = team ∧ r' = r
  · obtain ⟨rfl, rfl⟩ := hkey
    simp [Mail.buffered, appendBuffer, hlist]
  · rw [if_neg hkey, List.append_nil]
    show ((((mail.touchBuffer team r).2.buffer team' r').map (Function.update _ _ _)).getD []) = _
    rw [Mail.buffered]
    cases hother : (mail.touchBuffer team r).2.buffer team' r' with
    | none => rfl
    | some list =>
        have hne : list ≠ (mail.touchBuffer team r).1 := by
          rintro rfl
          exact hkey (hposts.separate.inj _ _ _ _ _ hother hlist)
        exact Function.update_of_ne hne _ _

/-- Lists that have been handed out are nobody's buffer, so no message is appended to them. -/
theorem HandedOut.appendBuffer {list : ℕ} {content : List Message}
    (h : HandedOut list content mail) (hmail : mail.Separate) (team : Team) (r : ℤ) (m : Message) :
    HandedOut list content (mail.appendBuffer team r m) := by
  obtain ⟨hposts, hlist⟩ := touchBuffer_posts hmail team r
  have h' := hposts.handedOut list content h
  refine ⟨h'.lt, ?_, h'.unused⟩
  have hne : list ≠ (mail.touchBuffer team r).1 := by
    rintro rfl
    exact h'.unused team r hlist
  exact (Function.update_of_ne hne _ _).trans h'.lists

/-- **One message.** -/
theorem post_one (h : mail.Separate) {m : Message} {i j : Fin (cfg.teamSize m.team)}
    (hsender : m.sender = (i : ℕ)) (hrecipient : m.recipient = some ((j : ℕ) : ℤ)) :
    ∃ mail', ((mail.appendQueue m.team (j : ℕ) m).appendBuffer m.team (j : ℕ) m).countEdge m.team
        m.sender (j : ℕ) = .ok mail' ∧ Posts [m] mail mail' := by
  set queued := mail.appendQueue m.team (j : ℕ) m with hqueued
  have hseparate : queued.Separate := ⟨h.lt, h.inj⟩
  obtain ⟨hposts, hlist⟩ := touchBuffer_posts hseparate m.team (j : ℕ)
  refine ⟨_, by rw [countEdge, hsender, axisIndex_natCast, axisIndex_natCast]; rfl, ?_⟩
  constructor
  · intro team r
    rw [filter_isFor_singleton hrecipient, ← appendQueue_peek]
    have hpeek := hposts.peek team r
    rw [List.filter_nil, List.append_nil] at hpeek
    exact hpeek
  · intro team r
    rw [filter_isFor_singleton hrecipient]
    exact appendBuffer_buffered hseparate m.team (j : ℕ) m team r
  · exact hposts.kept
  · intro team i' j'
    have hedges : (queued.appendBuffer m.team (j : ℕ) m).edges = mail.edges :=
      appendBuffer_edges queued m.team (j : ℕ) m
    show Function.update (queued.appendBuffer m.team (j : ℕ) m).edges m.team _ team i' j' = _
    rw [List.countP_singleton, hedges]
    by_cases hteam : team = m.team
    · subst hteam
      rw [Function.update_self, update_update_apply]
      have hgoes : m.goes m.team (i' : ℕ) (j' : ℕ) = true ↔ i' = i ∧ j' = j := by
        rw [Message.goes, decide_eq_true_iff, hsender, hrecipient]
        simp only [true_and, Nat.cast_inj, Fin.val_inj, Option.some.injEq, eq_comm]
      -- one more on the edge of the two agents, and nothing elsewhere
      by_cases hkey : i' = i ∧ j' = j
      · rw [if_pos hkey, if_pos (hgoes.mpr hkey), hkey.1, hkey.2, Nat.cast_one]
      · rw [if_neg hkey, if_neg (fun h => hkey (hgoes.mp h))]
        exact (add_zero _).symm
    · rw [Function.update_of_ne hteam, if_neg]
      · exact (add_zero _).symm
      · rw [Message.goes, decide_eq_true_iff]
        exact fun h => hteam h.1.symm
  · exact hposts.totalEdges
  · exact hposts.memory
  · intro list content hout
    have hqueue : HandedOut list content queued := ⟨hout.lt, hout.lists, hout.unused⟩
    have hbuffer := hqueue.appendBuffer hseparate m.team (j : ℕ) m
    exact ⟨hbuffer.lt, hbuffer.lists, hbuffer.unused⟩
  · exact ⟨hposts.separate.lt, hposts.separate.inj⟩

/-- **The loop of `send_messages`** puts all messages into the stores. -/
theorem post_posts (ms : List Message) (mail : Mail cfg V) (h : mail.Separate)
    (hms : ∀ m ∈ ms, m.Addressed cfg) :
    ∃ mail', post ms mail = (.ok (), mail') ∧ Posts ms mail mail' := by
  induction ms generalizing mail with
  | nil => exact ⟨mail, rfl, Posts.refl h⟩
  | cons m rest ih =>
      obtain ⟨i, j, hsender, hrecipient⟩ := hms m List.mem_cons_self
      obtain ⟨mail₁, hone, hposts⟩ := post_one h hsender hrecipient
      obtain ⟨mail₂, hrest, hposts'⟩ :=
        ih mail₁ hposts.separate (fun m hm => hms m (List.mem_cons_of_mem _ hm))
      refine ⟨mail₂, ?_, hposts.trans hposts'⟩
      rw [post, hrecipient, Option.getD_some]
      simp only [hone, hrest]

/-- The list objects that `step` hands out are the buffers of the agents. -/
theorem bufferLists_posts (mail : Mail cfg V) (h : mail.Separate) (team : Team)
    (agents : List ℕ) :
    Posts [] mail (mail.bufferLists team agents).2
      ∧ ∀ (k agent : ℕ), agents[k]? = some agent →
          (mail.bufferLists team agents).2.buffer team agent
            = some ((mail.bufferLists team agents).1.getD k 0) := by
  induction agents generalizing mail with
  | nil => exact ⟨Posts.refl h, fun k agent hk => by simp at hk⟩
  | cons agent rest ih =>
      obtain ⟨hposts, hlist⟩ := touchBuffer_posts h team agent
      obtain ⟨hposts', hlists⟩ := ih _ hposts.separate
      refine ⟨hposts.trans hposts', ?_⟩
      intro k agent' hk
      cases k with
      | zero =>
          cases hk
          exact hposts'.kept _ _ _ hlist
      | succ k => exact hlists k agent' hk

/-! ## Routing -/

end Mail

/-- The objects allocated before are the same. -/
structure Memory.Extends {V : Type} (memory memory' : Memory V) : Prop where
  next_le : memory.next ≤ memory'.next
  value : ∀ content < memory.next, memory'.value content = memory.value content

theorem Memory.Extends.refl {V : Type} (memory : Memory V) : memory.Extends memory :=
  ⟨le_refl _, fun _ _ => rfl⟩

theorem Memory.Extends.trans {V : Type} {memory memory' memory'' : Memory V}
    (h : memory.Extends memory') (h' : memory'.Extends memory'') : memory.Extends memory'' where
  next_le := h.next_le.trans h'.next_le
  value := fun content hlt =>
    (h'.value content (hlt.trans_le h.next_le)).trans (h.value content hlt)

theorem Memory.extends_deepcopy {V : Type} (memory : Memory V) (content : ℕ) :
    memory.Extends (memory.deepcopy content).2 where
  next_le := Nat.le_succ _
  value := fun _ hlt => Function.update_of_ne hlt.ne _ _

namespace Mail

variable {cfg : Config} {V : Type} {mail mail' : Mail cfg V}

/-- The copy of a broadcast for agent `r`: its content is a new object with the value of the
content that was broadcast. -/
structure CopyFor (memory memory' : Memory V) (message : Message) (r : ℕ) (copy : Message) :
    Prop where
  eq : copy = { message with recipient := some r, content := copy.content, broadcasting := true }
  fresh : memory.next ≤ copy.content
  allocated : copy.content < memory'.next
  value : memory'.value copy.content = memory.value message.content

/-- What a message becomes when it is routed: itself, or one copy for every agent of the team. -/
def SentAs (cfg : Config) (memory memory' : Memory V) (message : Message) (group : List Message) :
    Prop :=
  match message.recipient with
  | some _ => group = [message]
  | none => List.Forall₂ (CopyFor memory memory' message)
      (List.range (cfg.teamSize message.team)) group

theorem CopyFor.mono {memory₀ memory memory' memory'' : Memory V} {message : Message} {r : ℕ}
    {copy : Message} (h : CopyFor memory memory' message r copy) (h₀ : memory₀.Extends memory)
    (hcontent : message.content < memory₀.next) (h' : memory'.Extends memory'') :
    CopyFor memory₀ memory'' message r copy where
  eq := h.eq
  fresh := h₀.next_le.trans h.fresh
  allocated := h.allocated.trans_le h'.next_le
  value := by rw [h'.value _ h.allocated, h.value, h₀.value _ hcontent]

theorem SentAs.mono {memory₀ memory memory' memory'' : Memory V} {message : Message}
    {group : List Message} (h : SentAs cfg memory memory' message group)
    (h₀ : memory₀.Extends memory) (hcontent : message.content < memory₀.next)
    (h' : memory'.Extends memory'') : SentAs cfg memory₀ memory'' message group := by
  unfold SentAs at h ⊢
  cases hrecipient : message.recipient with
  | some r =>
      rw [hrecipient] at h
      exact h
  | none =>
      rw [hrecipient] at h
      exact h.imp (fun r copy hcopy => hcopy.mono h₀ hcontent h')

/-- The copies of one broadcast, and the objects allocated for them. -/
theorem copies_spec (message : Message) (rs : List ℕ) (memory : Memory V)
    (hcontent : message.content < memory.next) :
    memory.Extends (copies message rs memory).2
      ∧ List.Forall₂ (CopyFor memory (copies message rs memory).2 message) rs
          (copies message rs memory).1
      ∧ (copies message rs memory).1.map Message.content = List.range' memory.next rs.length
      ∧ (copies message rs memory).2.next = memory.next + rs.length := by
  induction rs generalizing memory with
  | nil => exact ⟨Memory.Extends.refl memory, List.Forall₂.nil, rfl, rfl⟩
  | cons r rest ih =>
      have hdeep := memory.extends_deepcopy message.content
      obtain ⟨hextends, hcopies, hcontents, hnext⟩ :=
        ih (memory.deepcopy message.content).2 (hcontent.trans_le hdeep.next_le)
      refine ⟨hdeep.trans hextends, ?_, ?_, ?_⟩
      · refine List.Forall₂.cons ⟨rfl, le_refl _, ?_, ?_⟩ ?_
        · exact lt_of_lt_of_le (Nat.lt_succ_self _) hextends.next_le
        · refine (hextends.value _ (Nat.lt_succ_self _)).trans ?_
          exact Function.update_self _ _ _
        · refine hcopies.imp (fun r' copy hcopy => ?_)
          exact hcopy.mono hdeep hcontent (Memory.Extends.refl _)
      · exact congrArg (memory.next :: ·) hcontents
      · refine hnext.trans ?_
        show memory.next + 1 + rest.length = memory.next + (rest.length + 1)
        omega

/-- What is routed is a message that was sent, or has a new content. -/
theorem SentAs.content {memory memory' : Memory V} {message copy : Message} {group : List Message}
    (h : SentAs cfg memory memory' message group) (hcopy : copy ∈ group) :
    copy = message ∨ memory.next ≤ copy.content := by
  unfold SentAs at h
  cases hrecipient : message.recipient with
  | some r =>
      rw [hrecipient] at h
      rw [h] at hcopy
      exact Or.inl (List.mem_singleton.mp hcopy)
  | none =>
      rw [hrecipient] at h
      obtain ⟨k, hk, rfl⟩ := List.getElem_of_mem hcopy
      have hlength := h.length_eq
      exact Or.inr (h.get (by omega) hk).fresh

variable (cfg) in
/-- **Routing.** Every message becomes a group of its own; the objects allocated meanwhile are
the contents of the copies, one each. -/
theorem routeMessages_spec (ms : List Message) (memory : Memory V)
    (hcontents : ∀ m ∈ ms, m.content < memory.next) :
    memory.Extends (routeMessages cfg ms memory).2
      ∧ (∃ groups : List (List Message), (routeMessages cfg ms memory).1 = groups.flatten
          ∧ List.Forall₂ (SentAs cfg memory (routeMessages cfg ms memory).2) ms groups)
      ∧ ((routeMessages cfg ms memory).1.map Message.content).filter (memory.next ≤ ·)
          = List.range' memory.next ((routeMessages cfg ms memory).2.next - memory.next) := by
  induction ms generalizing memory with
  | nil =>
      refine ⟨Memory.Extends.refl memory, ⟨[], rfl, List.Forall₂.nil⟩, ?_⟩
      simp [routeMessages]
  | cons m rest ih =>
      have hm := hcontents m List.mem_cons_self
      have hrest : ∀ m' ∈ rest, m'.content < memory.next :=
        fun m' hm' => hcontents m' (List.mem_cons_of_mem _ hm')
      cases hrecipient : m.recipient with
      | some r =>
          -- a message to one agent is passed on as it is
          obtain ⟨hextends, ⟨groups, hgroups, hsent⟩, hfresh⟩ := ih memory hrest
          have hroute : routeMessages cfg (m :: rest) memory
              = ([m] ++ (routeMessages cfg rest memory).1, (routeMessages cfg rest memory).2) := by
            rw [routeMessages, hrecipient]
          rw [hroute]
          refine ⟨hextends, ⟨[m] :: groups, ?_, List.Forall₂.cons ?_ hsent⟩, ?_⟩
          · rw [List.flatten_cons, hgroups]
          · unfold SentAs
            rw [hrecipient]
          · rw [List.singleton_append, List.map_cons, List.filter_cons_of_neg (by simpa using hm)]
            exact hfresh
      | none =>
          -- a broadcast: its copies are allocated first, those of the others after them
          set n := cfg.teamSize m.team with hn
          obtain ⟨hcopy, hcopies, hcopied, hnext⟩ := copies_spec m (List.range n) memory hm
          set memory₁ := (copies m (List.range n) memory).2 with hmemory
          obtain ⟨hextends, ⟨groups, hgroups, hsent⟩, hfresh⟩ := ih memory₁
            (fun m' hm' => (hrest m' hm').trans_le hcopy.next_le)
          have hroute : routeMessages cfg (m :: rest) memory
              = ((copies m (List.range n) memory).1 ++ (routeMessages cfg rest memory₁).1,
                (routeMessages cfg rest memory₁).2) := by
            rw [routeMessages, hrecipient]
          rw [hroute]
          refine ⟨hcopy.trans hextends,
            ⟨(copies m (List.range n) memory).1 :: groups, ?_, List.Forall₂.cons ?_ ?_⟩, ?_⟩
          · rw [List.flatten_cons, hgroups]
          · unfold SentAs
            rw [hrecipient]
            exact hcopies.imp (fun r copy h => h.mono (Memory.Extends.refl _) hm hextends)
          · refine ((List.forall₂_and_left _ _).mpr ⟨hrest, hsent⟩).imp ?_
            rintro m' group ⟨hm', hgroup⟩
            exact hgroup.mono hcopy hm' (Memory.Extends.refl _)
          · -- of the contents of the other messages, those that are new are newer than the copies
            have hnew : ∀ content ∈ (routeMessages cfg rest memory₁).1.map Message.content,
                decide (memory.next ≤ content) = decide (memory₁.next ≤ content) := by
              intro content hcontent
              obtain ⟨copy, hmem, rfl⟩ := List.mem_map.mp hcontent
              rw [hgroups] at hmem
              obtain ⟨group, hgroup, hmem⟩ := List.mem_flatten.mp hmem
              obtain ⟨k, hk, rfl⟩ := List.getElem_of_mem hgroup
              have hlength := hsent.length_eq
              have hle := hcopy.next_le
              have hold := hrest _ (List.getElem_mem (by omega : k < rest.length))
              rcases (hsent.get (by omega) hk).content hmem with rfl | hfresh
              · simp only [decide_eq_decide]
                change rest[k].content < _ at hold
                change memory.next ≤ rest[k].content ↔ memory₁.next ≤ rest[k].content
                omega
              · simp only [decide_eq_decide]
                omega
            have hmine : (List.range' memory.next (List.range n).length).filter (memory.next ≤ ·)
                = List.range' memory.next (List.range n).length := by
              refine List.filter_eq_self.mpr (fun content hcontent => ?_)
              exact decide_eq_true (List.mem_range'_1.mp hcontent).1
            rw [List.map_append, List.filter_append, hcopied, hmine, List.filter_congr hnew, hfresh,
              hnext, List.range'_append_1]
            have hle := hextends.next_le
            rw [hnext] at hle
            congr 1
            show _ = (routeMessages cfg rest memory₁).2.next - memory.next
            omega

theorem mem_copies {message copy : Message} {rs : List ℕ} {memory : Memory V}
    (h : copy ∈ (copies message rs memory).1) :
    ∃ r ∈ rs, ∃ content,
      copy = { message with recipient := some r, content := content, broadcasting := true } := by
  induction rs generalizing memory with
  | nil => cases h
  | cons r rest ih =>
      rcases List.mem_cons.mp h with rfl | h
      · exact ⟨r, List.mem_cons_self, _, rfl⟩
      · obtain ⟨r', hr', content, rfl⟩ := ih h
        exact ⟨r', List.mem_cons_of_mem _ hr', content, rfl⟩

/-- **What is routed** is a message with a recipient, or the copy of a broadcast for an agent of
the team. -/
theorem mem_routeMessages {ms : List Message} {memory : Memory V} {copy : Message}
    (h : copy ∈ (routeMessages cfg ms memory).1) :
    ∃ m ∈ ms, (copy = m ∧ ∃ r, m.recipient = some r) ∨
      (m.recipient = none ∧ ∃ r < cfg.teamSize m.team, ∃ content,
        copy = { m with recipient := some (r : ℤ), content := content, broadcasting := true }) := by
  induction ms generalizing memory with
  | nil => cases h
  | cons m rest ih =>
      cases hrecipient : m.recipient with
      | some r =>
          simp only [routeMessages, hrecipient] at h
          rcases List.mem_append.mp h with hmine | hothers
          · exact ⟨m, List.mem_cons_self, Or.inl ⟨List.mem_singleton.mp hmine, r, hrecipient⟩⟩
          · obtain ⟨m', hm', hcopy⟩ := ih hothers
            exact ⟨m', List.mem_cons_of_mem _ hm', hcopy⟩
      | none =>
          simp only [routeMessages, hrecipient] at h
          rcases List.mem_append.mp h with hmine | hothers
          · obtain ⟨r, hr, content, rfl⟩ := mem_copies hmine
            exact ⟨m, List.mem_cons_self,
              Or.inr ⟨hrecipient, r, List.mem_range.mp hr, content, rfl⟩⟩
          · obtain ⟨m', hm', hcopy⟩ := ih hothers
            exact ⟨m', List.mem_cons_of_mem _ hm', hcopy⟩

theorem recipient_of_mem_routeMessages {ms : List Message} {memory : Memory V} :
    ∀ copy ∈ (routeMessages cfg ms memory).1, ∃ r, copy.recipient = some r := by
  intro copy hcopy
  obtain ⟨m, -, ⟨rfl, hrecipient⟩ | ⟨-, r, -, content, rfl⟩⟩ := mem_routeMessages hcopy
  · exact hrecipient
  · exact ⟨r, rfl⟩

/-- Routed messages have a recipient, and it is an agent of the team. -/
theorem addressed_of_mem_routeMessages {ms : List Message} {memory : Memory V}
    (hms : ∀ m ∈ ms, m.Existing cfg) :
    ∀ copy ∈ (routeMessages cfg ms memory).1, copy.Addressed cfg := by
  intro copy hcopy
  obtain ⟨m, hm, hcopy⟩ := mem_routeMessages hcopy
  obtain ⟨⟨i, hsender⟩, hrecipients⟩ := hms m hm
  rcases hcopy with ⟨rfl, r, hrecipient⟩ | ⟨-, r, hr, content, rfl⟩
  · obtain ⟨j, rfl⟩ := hrecipients r hrecipient
    exact ⟨i, j, hsender, hrecipient⟩
  · exact ⟨i, ⟨r, hr⟩, hsender, rfl⟩

/-! ## Receiving -/

/-- Whether `receive_messages`, called with these arguments, reads the queue of an agent. -/
def readsQueue (agentId : Option AgentId) (agent : Option AgentHandle) (team : Team) (r : ℤ) :
    Prop :=
  match agentId, agent with
  | none, none => True
  | some (.agent agent), none => agent.team = team ∧ agent.index = r
  | some (.pair team' index), none => team' = team ∧ index = r
  | none, some agent => agent.team = team ∧ agent.index = r
  | some _, some _ => False

end Mail

/-- The messages that `receive_messages` has returned for an agent. -/
def Received.to (received : Received) (team : Team) (r : ℕ) : List Message :=
  match received with
  | .all camera target => (match team with | .camera => camera | .target => target).getD r []
  | .one team' index messages => if team' = team ∧ index = (r : ℤ) then messages else []

namespace Mail

variable {cfg : Config} {V : Type} {mail mail' : Mail cfg V}

/-- Receiving changes the queues only: it takes out what it returns, and it leaves nothing in the
queues it reads. -/
structure Receives (reads : Team → ℤ → Prop) (received : Received) (mail mail' : Mail cfg V) :
    Prop where
  eq : mail' = { mail with queue := mail'.queue }
  peek : ∀ team (r : Fin (cfg.teamSize team)),
    received.to team r ++ mail'.peek team (r : ℕ) = mail.peek team (r : ℕ)
  read : ∀ team (r : Fin (cfg.teamSize team)), reads team (r : ℕ) → mail'.peek team (r : ℕ) = []

theorem receiveOne_peek (mail : Mail cfg V) (team : Team) (index : ℤ) (team' : Team) (r : ℤ) :
    (mail.receiveOne team index).2.peek team' r
      = if team' = team ∧ r = index then [] else mail.peek team' r := by
  show (Function.update mail.queue team _ team' r).getD [] = _
  rw [update_update_apply]
  split
  · rfl
  · rfl

theorem receiveOne_receives (mail : Mail cfg V) (team : Team) (index : ℤ) :
    Receives (fun team' r => team = team' ∧ index = r) (mail.receiveOne team index).1 mail
      (mail.receiveOne team index).2 where
  eq := rfl
  peek := by
    intro team' r
    rw [receiveOne_peek]
    show (if team = team' ∧ index = ((r : ℕ) : ℤ) then mail.peek team index else []) ++ _ = _
    by_cases hkey : team = team' ∧ index = ((r : ℕ) : ℤ)
    · rw [if_pos hkey, if_pos ⟨hkey.1.symm, hkey.2.symm⟩, List.append_nil, hkey.1, hkey.2]
    · rw [if_neg hkey, if_neg (fun h => hkey ⟨h.1.symm, h.2.symm⟩), List.nil_append]
  read := by
    rintro team' r ⟨rfl, rfl⟩
    rw [receiveOne_peek, if_pos ⟨rfl, rfl⟩]

theorem receiveAll_receives (mail : Mail cfg V) :
    Receives (fun _ _ => True) mail.receiveAll.1 mail mail.receiveAll.2 where
  eq := rfl
  peek := by
    intro team r
    have hnil : mail.receiveAll.2.peek team (r : ℕ) = [] := rfl
    rw [hnil, List.append_nil]
    have hget : ∀ (n : ℕ) (f : ℕ → List Message), (r : ℕ) < n →
        ((List.range n).map f).getD r [] = f r := by
      intro n f hlt
      rw [List.getD_eq_getElem?_getD, List.getElem?_map, List.getElem?_range hlt]
      rfl
    cases team with
    | camera => exact hget cfg.numCameras (fun c => mail.peek .camera c) r.isLt
    | target => exact hget cfg.numTargets (fun t => mail.peek .target t) r.isLt
  read := fun _ _ _ => rfl

/-- **Receiving**, in all its forms. -/
theorem receiveMessages_receives {agentId : Option AgentId} {agent : Option AgentHandle}
    {received : Received} (h : mail.receiveMessages agentId agent = .ok (received, mail')) :
    Receives (readsQueue agentId agent) received mail mail' := by
  unfold receiveMessages at h
  split at h
  · cases h
    exact mail.receiveAll_receives
  · cases h
    exact mail.receiveOne_receives _ _
  · cases h
    exact mail.receiveOne_receives _ _
  · cases h
    exact mail.receiveOne_receives _ _
  · cases h

end Mail

end Mate
