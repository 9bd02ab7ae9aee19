import Mathlib.Algebra.Order.Group.Int
import Mathlib.Data.List.Basic
import Mathlib.Data.List.Induction
import Mathlib.Logic.Function.Iterate
import Mathlib.Tactic.Common
import Mathlib.Tactic.NormNum

set_option autoImplicit false

/-! # Notes that expire

A board has one place for every number. A note puts a value in a place and starts a countdown
there; every tick of a clock counts all places down, and a value is forgotten when its countdown
is at zero. `Board.Shows` says in terms of the history what a board shows: the value of the last
note, as long as its age in ticks is below the period.
-/

namespace Expiry

inductive Event (ν : Type)
  | tick
  | note (place : ℕ) (value : ν)

variable {ν : Type}

/-! ## Histories -/

/-- The value of the last note of a place. -/
def lastNote (history : List (Event ν)) (place : ℕ) : Option ν :=
  history.foldl
    (fun last e => match e with
      | .tick => last
      | .note p v => if p = place then some v else last) none

/-- The ticks since the last note of a place. -/
def age (history : List (Event ν)) (place : ℕ) : ℕ :=
  history.foldl
    (fun n e => match e with
      | .tick => n + 1
      | .note p _ => if p = place then 0 else n) 0

@[simp] theorem lastNote_nil (place : ℕ) : lastNote ([] : List (Event ν)) place = none := rfl

@[simp] theorem lastNote_tick (history : List (Event ν)) (place : ℕ) :
    lastNote (history ++ [.tick]) place = lastNote history place := by
  rw [lastNote, List.foldl_append]
  rfl

@[simp] theorem lastNote_note (history : List (Event ν)) (p place : ℕ) (v : ν) :
    lastNote (history ++ [.note p v]) place
      = if p = place then some v else lastNote history place := by
  rw [lastNote, List.foldl_append]
  rfl

@[simp] theorem age_nil (place : ℕ) : age ([] : List (Event ν)) place = 0 := rfl

@[simp] theorem age_tick (history : List (Event ν)) (place : ℕ) :
    age (history ++ [.tick]) place = age history place + 1 := by
  rw [age, List.foldl_append]
  rfl

@[simp] theorem age_note (history : List (Event ν)) (p place : ℕ) (v : ν) :
    age (history ++ [.note p v]) place = if p = place then 0 else age history place := by
  rw [age, List.foldl_append]
  rfl

/-- What is noted last was noted. -/
theorem mem_of_lastNote {history : List (Event ν)} {place : ℕ} {v : ν}
    (h : lastNote history place = some v) : Event.note place v ∈ history := by
  induction history using List.reverseRec with
  | nil => cases h
  | append_singleton history e ih =>
      cases e with
      | tick =>
          rw [lastNote_tick] at h
          exact List.mem_append_left _ (ih h)
      | note p v' =>
          rw [lastNote_note] at h
          by_cases hp : p = place
          · rw [if_pos hp] at h
            obtain rfl := Option.some.inj h
            subst hp
            exact List.mem_append_right _ (List.mem_singleton.mpr rfl)
          · rw [if_neg hp] at h
            exact List.mem_append_left _ (ih h)

/-- A place without a last note was never noted. -/
theorem note_notMem_of_lastNote {history : List (Event ν)} {place : ℕ}
    (h : lastNote history place = none) (v : ν) : Event.note place v ∉ history := by
  induction history using List.reverseRec with
  | nil => exact List.not_mem_nil
  | append_singleton history e ih =>
      intro hmem
      cases e with
      | tick =>
          rw [lastNote_tick] at h
          rcases List.mem_append.mp hmem with hmem | hmem
          · exact ih h hmem
          · cases List.mem_singleton.mp hmem
      | note p v' =>
          rw [lastNote_note] at h
          by_cases hp : p = place
          · rw [if_pos hp] at h
            cases h
          · rw [if_neg hp] at h
            rcases List.mem_append.mp hmem with hmem | hmem
            · exact ih h hmem
            · cases List.mem_singleton.mp hmem
              exact hp rfl

/-- Without a tick nothing ages. -/
theorem age_of_no_tick {history : List (Event ν)} (h : Event.tick ∉ history) (place : ℕ) :
    age history place = 0 := by
  induction history using List.reverseRec with
  | nil => rfl
  | append_singleton history e ih =>
      have hinit := ih (fun hmem => h (List.mem_append_left _ hmem))
      cases e with
      | tick => exact absurd (List.mem_append_right _ (List.mem_singleton.mpr rfl)) h
      | note p v => rw [age_note, hinit, ite_self]

/-! ### Marks -/

/-- A mark is removed when a value with the property is noted. -/
def clearMark (P : ν → Bool) (marks : List Bool) : Event ν → List Bool
  | .tick => marks
  | .note p v => if P v then marks.set p false else marks

theorem length_clearMarks (P : ν → Bool) (history : List (Event ν)) (marks : List Bool) :
    (history.foldl (clearMark P) marks).length = marks.length := by
  induction history using List.reverseRec with
  | nil => rfl
  | append_singleton history e ih =>
      rw [List.foldl_append]
      cases e with
      | tick => exact ih
      | note p v =>
          show (if P v then _ else _ : List Bool).length = _
          split
          · exact List.length_set.trans ih
          · exact ih

open Classical in
/-- The marks that are left. -/
theorem getElem?_clearMarks (P : ν → Bool) (history : List (Event ν)) {marks : List Bool} {p : ℕ}
    (hp : p < marks.length) : (history.foldl (clearMark P) marks)[p]?
      = if ∃ v, Event.note p v ∈ history ∧ P v = true then some false else marks[p]? := by
  induction history using List.reverseRec with
  | nil =>
      rw [if_neg (fun ⟨v, hmem, _⟩ => List.not_mem_nil hmem)]
      rfl
  | append_singleton history e ih =>
      have hlength := (length_clearMarks P history marks).symm
      rw [List.foldl_append]
      cases e with
      | tick =>
          refine ih.trans (if_congr ?_ rfl rfl)
          simp
      | note q v =>
          show (if P v then _ else _ : List Bool)[p]? = _
          by_cases hv : P v = true
          · rw [if_pos hv]
            by_cases hqp : q = p
            · subst hqp
              rw [List.getElem?_set_self (hp.trans_eq hlength), if_pos]
              exact ⟨v, List.mem_append_right _ (List.mem_singleton.mpr rfl), hv⟩
            · rw [List.getElem?_set_ne hqp, ih]
              refine if_congr ?_ rfl rfl
              simp [Ne.symm hqp]
          · rw [if_neg hv, ih]
            refine if_congr ?_ rfl rfl
            constructor
            · rintro ⟨w, hmem, hw⟩
              exact ⟨w, List.mem_append_left _ hmem, hw⟩
            · rintro ⟨w, hmem, hw⟩
              rcases List.mem_append.mp hmem with hmem | hmem
              · exact ⟨w, hmem, hw⟩
              · cases List.mem_singleton.mp hmem
                exact absurd hw hv

/-! ## Countdowns -/

/-- One tick. -/
def countdown (time : ℤ) : ℤ := max (time - 1) 0

@[simp] theorem countdown_zero : countdown 0 = 0 := rfl

theorem iterate_countdown_succ (period : ℤ) (n : ℕ) :
    countdown^[n + 1] period = max (period - (n + 1)) 0 := by
  induction n with
  | zero =>
      show max (period - 1) 0 = _
      norm_num
  | succ n ih =>
      rw [Function.iterate_succ_apply', ih, countdown]
      push_cast
      omega

/-- A value that was noted `age` ticks ago is still there. -/
def Fresh (period : ℤ) (age : ℕ) : Prop := (age : ℤ) < period ∨ age = 0 ∧ period < 0

theorem iterate_countdown_ne_zero_iff (period : ℤ) (n : ℕ) :
    countdown^[n] period ≠ 0 ↔ Fresh period n := by
  cases n with
  | zero =>
      show period ≠ 0 ↔ 0 < period ∨ (0 : ℕ) = 0 ∧ period < 0
      rw [eq_self, true_and, ne_comm]
      exact ne_iff_lt_or_gt
  | succ n =>
      have hpos : n + 1 ≠ 0 := Nat.succ_ne_zero n
      unfold Fresh
      rw [iterate_countdown_succ, or_iff_left (fun h => hpos h.1)]
      push_cast
      omega

/-! ## Boards -/

structure Board (ν : Type) where
  period : ℤ
  values : List ν
  times : List ℤ

namespace Board

def step (self : Board ν) : Event ν → Board ν
  | .tick => { self with times := self.times.map countdown }
  | .note p v => { self with values := self.values.set p v, times := self.times.set p self.period }

def run (self : Board ν) (events : List (Event ν)) : Board ν := events.foldl step self

/-- The values that are not forgotten, in the order of their places. -/
def recalled (self : Board ν) : List ν :=
  (self.values.zip self.times).filterMap (fun (v, time) => if time ≠ 0 then some v else none)

@[simp] theorem run_nil (self : Board ν) : self.run [] = self := rfl

theorem run_append (self : Board ν) (events events' : List (Event ν)) :
    self.run (events ++ events') = (self.run events).run events' :=
  List.foldl_append

theorem run_cons (self : Board ν) (e : Event ν) (events : List (Event ν)) :
    self.run (e :: events) = (self.step e).run events := rfl

/-- **What a board of `size` places shows** after a history: every place that was noted has the
value of its last note and counts down since, and the others are at zero. -/
structure Shows (board : Board ν) (size : ℕ) (history : List (Event ν)) : Prop where
  length_values : board.values.length = size
  length_times : board.times.length = size
  noted : ∀ p < size, ∀ v, lastNote history p = some v →
    board.values[p]? = some v ∧ board.times[p]? = some (countdown^[age history p] board.period)
  unnoted : ∀ p < size, lastNote history p = none → board.times[p]? = some 0

variable {self : Board ν} {size : ℕ} {history : List (Event ν)}

theorem Shows.tick (h : self.Shows size history) :
    (self.step .tick).Shows size (history ++ [.tick]) := by
  refine ⟨h.length_values, (List.length_map _).trans h.length_times, ?_, ?_⟩
  · intro p hp v hv
    rw [lastNote_tick] at hv
    obtain ⟨hvalue, htime⟩ := h.noted p hp v hv
    refine ⟨hvalue, ?_⟩
    show (self.times.map countdown)[p]? = _
    rw [List.getElem?_map, htime, age_tick, Function.iterate_succ_apply']
    rfl
  · intro p hp hv
    rw [lastNote_tick] at hv
    show (self.times.map countdown)[p]? = _
    rw [List.getElem?_map, h.unnoted p hp hv]
    rfl

theorem Shows.note (h : self.Shows size history) (p : ℕ) (v : ν) :
    (self.step (.note p v)).Shows size (history ++ [.note p v]) := by
  refine ⟨(List.length_set).trans h.length_values, (List.length_set).trans h.length_times, ?_, ?_⟩
  · intro q hq w hw
    rw [lastNote_note] at hw
    rw [age_note]
    show (self.values.set p v)[q]? = some w ∧ (self.times.set p self.period)[q]? = _
    by_cases hpq : p = q
    · subst hpq
      rw [if_pos rfl] at hw ⊢
      rw [List.getElem?_set_self (hq.trans_eq h.length_values.symm),
        List.getElem?_set_self (hq.trans_eq h.length_times.symm)]
      exact ⟨hw, rfl⟩
    · rw [if_neg hpq] at hw ⊢
      rw [List.getElem?_set_ne hpq, List.getElem?_set_ne hpq]
      exact h.noted q hq w hw
  · intro q hq hw
    rw [lastNote_note] at hw
    show (self.times.set p self.period)[q]? = _
    by_cases hpq : p = q
    · rw [if_pos hpq] at hw
      cases hw
    · rw [if_neg hpq] at hw
      rw [List.getElem?_set_ne hpq]
      exact h.unnoted q hq hw

theorem Shows.step (h : self.Shows size history) (e : Event ν) :
    (self.step e).Shows size (history ++ [e]) := by
  cases e with
  | tick => exact h.tick
  | note p v => exact h.note p v

theorem Shows.run (h : self.Shows size history) (events : List (Event ν)) :
    (self.run events).Shows size (history ++ events) := by
  induction events generalizing self history with
  | nil =>
      rw [List.append_nil]
      exact h
  | cons e events ih =>
      rw [run_cons, List.append_cons]
      exact ih (h.step e)

@[simp] theorem period_step (self : Board ν) (e : Event ν) : (self.step e).period = self.period := by
  cases e with
  | tick => rfl
  | note p v => rfl

@[simp] theorem period_run (self : Board ν) (events : List (Event ν)) :
    (self.run events).period = self.period := by
  induction events generalizing self with
  | nil => rfl
  | cons e events ih => rw [run_cons, ih, period_step]

/-- A list is read at its places in turn. -/
theorem filterMap_eq_range {α β : Type} (f : α → Option β) (l : List α) :
    l.filterMap f = (List.range l.length).filterMap (fun p => l[p]?.bind f) := by
  induction l with
  | nil => rfl
  | cons a l ih =>
      rw [List.length_cons, List.range_succ_eq_map, List.filterMap_cons, List.filterMap_cons, ih,
        List.filterMap_map]
      rfl

@[simp] theorem length_values_run (self : Board ν) (events : List (Event ν)) :
    (self.run events).values.length = self.values.length := by
  induction events generalizing self with
  | nil => rfl
  | cons e events ih =>
      rw [run_cons, ih]
      cases e with
      | tick => rfl
      | note p v => exact List.length_set

open Classical in
/-- **What is recalled**: in the order of the places, the last note of each if it is fresh. -/
theorem Shows.recalled_eq (h : self.Shows size history) :
    self.recalled = (List.range size).filterMap
      (fun p => if Fresh self.period (age history p) then lastNote history p else none) := by
  have hlength : (self.values.zip self.times).length = size := by
    rw [List.length_zip, h.length_values, h.length_times, min_self]
  unfold Board.recalled
  rw [filterMap_eq_range, hlength]
  apply List.filterMap_congr
  intro p hp
  have hsize : p < size := List.mem_range.mp hp
  cases hlast : lastNote history p with
  | none =>
      obtain ⟨v, hv⟩ : ∃ v, self.values[p]? = some v :=
        ⟨_, List.getElem?_eq_getElem (hsize.trans_eq h.length_values.symm)⟩
      have hpair : (self.values.zip self.times)[p]? = some (v, 0) :=
        List.getElem?_zip_eq_some.mpr ⟨hv, h.unnoted p hsize hlast⟩
      rw [hpair, ite_self]
      rfl
  | some v =>
      obtain ⟨hvalue, htime⟩ := h.noted p hsize v hlast
      have hpair : (self.values.zip self.times)[p]? = some (v, countdown^[age history p] self.period) :=
        List.getElem?_zip_eq_some.mpr ⟨hvalue, htime⟩
      rw [hpair, Option.bind_some]
      exact if_congr (iterate_countdown_ne_zero_iff self.period (age history p)) rfl rfl

end Board

end Expiry
