import Mate.Library.Dict
import Mathlib.Data.List.Induction

set_option autoImplicit false

/-! # Dictionaries of dictionaries

Entries of several kinds are joined on a key by a dictionary from the keys to the members of the
key (`group`), each of which holds one value. When no two entries have the same key and the same
member, the dictionary holds what was put into it (`get?_members_eq_some`), in whichever order it
was. -/

namespace Dicts

namespace Dict

variable {K V : Type} [DecidableEq K]

/-! ## Keys -/

omit [DecidableEq K] in
def empty : Dict K V := ⟨[]⟩

omit [DecidableEq K] in
def keys (d : Dict K V) : List K := d.entries.map Prod.fst

theorem get?_set (d : Dict K V) (key : K) (value : V) (key' : K) :
    (d.set key value).get? key' = if key' = key then some value else d.get? key' :=
  lookup_insert key value d.entries key'

theorem isSome_lookup {key : K} {l : List (K × V)} :
    (lookup key l).isSome ↔ key ∈ l.map Prod.fst := by
  induction l with
  | nil => simp [lookup]
  | cons e rest ih =>
      obtain ⟨k, v⟩ := e
      by_cases hk : k = key
      · simp [lookup, hk]
      · simp [lookup, hk, ih, Ne.symm hk]

/-- The keys of a dictionary are those that it has values for. -/
theorem isSome_get? {d : Dict K V} {key : K} : (d.get? key).isSome ↔ key ∈ d.keys :=
  isSome_lookup

theorem mem_keys {d : Dict K V} {key : K} : key ∈ d.keys ↔ ∃ value, d.get? key = some value := by
  rw [← isSome_get?, Option.isSome_iff_exists]

theorem nodup_insert {key : K} {value : V} {l : List (K × V)} (h : (l.map Prod.fst).Nodup) :
    ((insert key value l).map Prod.fst).Nodup := by
  induction l with
  | nil => simp [insert]
  | cons e rest ih =>
      obtain ⟨k, v⟩ := e
      rw [List.map_cons, List.nodup_cons] at h
      by_cases hk : k = key
      · subst hk
        rw [insert, if_pos rfl, List.map_cons, List.nodup_cons]
        exact h
      · have hnotin : k ∉ (insert key value rest).map Prod.fst := by
          rw [← isSome_lookup, lookup_insert, if_neg hk, isSome_lookup]
          exact h.1
        rw [insert, if_neg hk, List.map_cons, List.nodup_cons]
        exact ⟨hnotin, ih h.2⟩

/-- Setting keeps the keys apart. -/
theorem nodup_keys_set {d : Dict K V} (h : d.keys.Nodup) (key : K) (value : V) :
    (d.set key value).keys.Nodup :=
  nodup_insert h

end Dict

/-! ## Members -/

section Members

variable {K A V : Type} [DecidableEq K] [DecidableEq A]

/-- `groups.get(key, {})`. -/
def members (groups : Dict K (Dict A V)) (key : K) : Dict A V := (groups.get? key).getD .empty

/-- `groups.setdefault(key, {})[member] = value`. -/
def addMember (groups : Dict K (Dict A V)) (key : K) (member : A) (value : V) : Dict K (Dict A V) :=
  groups.set key ((members groups key).set member value)

/-- The dictionary of the entries of a list, put into it one after the other. -/
def group (entries : List (K × A × V)) : Dict K (Dict A V) :=
  entries.foldl (fun groups e => addMember groups e.1 e.2.1 e.2.2) .empty

theorem members_addMember (groups : Dict K (Dict A V)) (key : K) (member : A) (value : V)
    (key' : K) :
    members (addMember groups key member value) key'
      = if key' = key then (members groups key).set member value else members groups key' := by
  unfold members addMember
  rw [Dict.get?_set]
  split
  · rfl
  · rfl

theorem group_append (entries : List (K × A × V)) (e : K × A × V) :
    group (entries ++ [e]) = addMember (group entries) e.1 e.2.1 e.2.2 := by
  rw [group, List.foldl_append]
  rfl

/-- The members of a key are kept apart. -/
theorem nodup_keys_members (entries : List (K × A × V)) (key : K) :
    (members (group entries) key).keys.Nodup := by
  induction entries using List.reverseRecOn with
  | nil => exact List.nodup_nil
  | append_singleton entries e ih =>
      rw [group_append, members_addMember]
      split
      · rename_i hkey
        exact Dict.nodup_keys_set (hkey ▸ ih) _ _
      · exact ih

/-- No two entries have the same key and the same member. -/
def Single (entries : List (K × A × V)) : Prop :=
  ∀ key member value value', (key, member, value) ∈ entries → (key, member, value') ∈ entries →
    value = value'

omit [DecidableEq K] [DecidableEq A] in
theorem Single.left {entries : List (K × A × V)} {rest : List (K × A × V)}
    (h : Single (entries ++ rest)) : Single entries :=
  fun key member value value' hvalue hvalue' => h key member value value'
    (List.mem_append_left _ hvalue) (List.mem_append_left _ hvalue')

/-- **A join holds what was put into it.** -/
theorem get?_members_eq_some {entries : List (K × A × V)} (hsingle : Single entries) {key : K}
    {member : A} {value : V} :
    (members (group entries) key).get? member = some value ↔ (key, member, value) ∈ entries := by
  induction entries using List.reverseRecOn with
  | nil =>
      constructor
      · intro h
        cases h
      · intro h
        cases h
  | append_singleton entries e ih =>
      obtain ⟨k, a, v⟩ := e
      have ih := ih hsingle.left
      rw [group_append, members_addMember, List.mem_append, List.mem_singleton]
      -- the entry at the end is the last one that was put in
      by_cases hkey : key = k
      · subst hkey
        rw [if_pos rfl, Dict.get?_set]
        by_cases hmember : member = a
        · subst hmember
          rw [if_pos rfl]
          constructor
          · intro h
            cases h
            exact Or.inr rfl
          · rintro (h | h)
            · -- an earlier entry of the same key and the same member has the same value
              exact congrArg some (hsingle key member v value
                (List.mem_append_right _ (List.mem_singleton.mpr rfl)) (List.mem_append_left _ h))
            · cases h
              rfl
        · rw [if_neg hmember, ih]
          exact ⟨Or.inl, fun h => h.elim id (fun h => absurd (by cases h; rfl) hmember)⟩
      · rw [if_neg hkey, ih]
        exact ⟨Or.inl, fun h => h.elim id (fun h => absurd (by cases h; rfl) hkey)⟩

end Members

end Dicts
