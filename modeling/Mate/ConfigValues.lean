import Mate.Library.Dict
import Mate.Library.NdArray
import Mate.Utils
import Mathlib.Data.Rat.Defs
import Mathlib.Data.List.Infix

set_option autoImplicit false

/-! # The values in a configuration

A configuration mapping is read from JSON or YAML, or given as Python objects, so its values may be
of any kind. Here are those kinds, and what Python, numpy and gym do with a value when
`read_config` compares it, takes its length, goes over it or converts it to an array.
-/

namespace Mate

open NdArrays Dicts

/-- A Python number or an entry of an array. -/
inductive Number
  | finite (q : ℚ)
  | infinite (positive : Bool)
  | nan
  deriving DecidableEq

/-- `x <= y`, which is false for NaN. -/
def Number.le : Number → Number → Bool
  | .nan, _ => false
  | _, .nan => false
  | .infinite false, _ => true
  | _, .infinite true => true
  | .finite x, .finite y => decide (x ≤ y)
  | _, _ => false

/-- `x < y`, which is false for NaN. -/
def Number.lt : Number → Number → Bool
  | .nan, _ => false
  | _, .nan => false
  | x, y => !Number.le y x

/-- A `spaces.Box`; gym refuses bounds of different shapes. -/
structure RangeBox where
  low : NdArray Number
  high : NdArray Number
  shape_eq : low.shape = high.shape

inductive Value
  | null
  | bool (b : Bool)
  | number (x : Number)
  | text (s : String)
  | sequence (items : List Value)
  | mapping (d : Dict String Value)
  | array (a : NdArray Number)
  | box (b : RangeBox)

abbrev Mapping := Dict String Value

/-- The number that `float` reads from a text. -/
class FloatSyntax where
  parse : String → Option Number

namespace Value

/-! ## Comparisons -/

def ofRat (q : ℚ) : Value := .number (.finite q)

/-- The truth of a comparison with a number: for an array it is that of its only entry. -/
def compare (p : Number → Bool) : Value → Except Error Bool
  | .number x => .ok (p x)
  | .bool b => .ok (p (.finite (if b then 1 else 0)))
  | .array a =>
      match a.data with
      | [] => .ok false
      | [x] => .ok (p x)
      | _ => .error (.valueError "The truth value of an array is ambiguous.")
  | _ => .error (.typeError "not supported between these instances")

/-- `bool(value)`. -/
def truth : Value → Except Error Bool
  | .null => .ok false
  | .bool b => .ok b
  | .number x => .ok (decide (x ≠ .finite 0))
  | .text s => .ok (decide (s ≠ ""))
  | .sequence items => .ok (!items.isEmpty)
  | .mapping d => .ok (!d.entries.isEmpty)
  | .array a =>
      match a.data with
      | [] => .ok false
      | [x] => .ok (decide (x ≠ .finite 0))
      | _ => .error (.valueError "The truth value of an array is ambiguous.")
  | .box _ => .ok true

/-! ## Sequences -/

/-- `len(value)`. -/
def len : Value → Except Error ℕ
  | .sequence items => .ok items.length
  | .text s => .ok s.toList.length
  | .mapping d => .ok d.entries.length
  | .array a =>
      match a.shape with
      | [] => .error (.typeError "len() of unsized object")
      | n :: _ => .ok n
  | _ => .error (.typeError "object has no len()")

/-- The values that a `for` loop goes over. -/
def items : Value → Except Error (List Value)
  | .sequence items => .ok items
  | .text s => .ok (s.toList.map (fun c => .text (String.singleton c)))
  | .mapping d => .ok (d.entries.map (fun e => .text e.1))
  | .array a =>
      match h : a.shape with
      | [] => .error (.typeError "iteration over a 0-d array")
      | _ :: shape =>
          .ok (a.rows.attach.map (fun row =>
            .array ⟨shape, row.1, NdArray.length_of_mem_rows h row.1 row.2⟩))
  | _ => .error (.typeError "object is not iterable")

/-- Every second element of a list, from the first on. -/
def evens {α : Type} : List α → List α
  | [] => []
  | [x] => [x]
  | x :: _ :: rest => x :: evens rest

theorem mem_of_mem_evens {α : Type} {x : α} {l : List α} (h : x ∈ evens l) : x ∈ l := by
  induction l using evens.induct with
  | case1 => exact h
  | case2 y => exact h
  | case3 y z rest ih =>
      rcases List.mem_cons.mp h with rfl | h
      · exact List.mem_cons_self
      · exact List.mem_cons_of_mem _ (List.mem_cons_of_mem _ (ih h))

/-- `value[start::2]`. -/
def slice (start : ℕ) : Value → Except Error Value
  | .sequence items => .ok (.sequence (evens (items.drop start)))
  | .text s => .ok (.text (String.ofList (evens (s.toList.drop start))))
  | .array a =>
      match h : a.shape with
      | [] => .error (.indexError "too many indices for array")
      | _ :: shape =>
          .ok (.array (NdArray.ofRows shape (evens (a.rows.drop start)) (fun row hrow =>
            NdArray.length_of_mem_rows h row (List.mem_of_mem_drop (mem_of_mem_evens hrow)))))
  | .mapping _ => .error (.typeError "unhashable type: 'slice'")
  | _ => .error (.typeError "object is not subscriptable")

/-- `value[0]`. -/
def first (value : Value) : Except Error Value := do
  match ← value.items with
  | [] => .error (.indexError "index out of range")
  | item :: _ => return item

/-- `key in value`. -/
def contains (key : String) : Value → Except Error Bool
  | .mapping d => .ok (d.get? key).isSome
  | .sequence items =>
      .ok (items.any (fun item => match item with | .text s => s == key | _ => false))
  | .text s => .ok (decide (key.toList <:+: s.toList))
  | .array _ => .ok false
  | .box _ => .error (.valueError "could not convert string to float")
  | _ => .error (.typeError "argument is not iterable")

/-- What goes over a value has the length of it. -/
theorem len_of_items {value : Value} {items : List Value} (h : value.items = .ok items) :
    value.len = .ok items.length := by
  cases value with
  | sequence items' =>
      cases h
      rfl
  | text s =>
      cases h
      rw [len, List.length_map]
  | mapping d =>
      cases h
      rw [len, List.length_map]
  | array a =>
      rw [Value.items] at h
      rw [len]
      split at h
      · cases h
      · rename_i n shape hshape
        cases h
        rw [List.length_map, List.length_attach, NdArray.length_rows hshape, hshape]
  | null => cases h
  | bool b => cases h
  | number x => cases h
  | box b => cases h

/-! ## Arrays -/

def scalar (x : Number) : NdArray Number := ⟨[], [x], rfl⟩

/-- `np.array` of arrays, which have to be of one shape. -/
def stack : List (NdArray Number) → Except Error (NdArray Number)
  | [] => .ok ⟨[0], [], rfl⟩
  | a :: rest =>
      if h : ∀ b ∈ a :: rest, b.shape = a.shape then
        .ok (NdArray.ofRows a.shape ((a :: rest).map NdArray.data) (by
          intro row hrow
          obtain ⟨b, hb, rfl⟩ := List.mem_map.mp hrow
          rw [b.length_data, h b hb]))
      else .error (.valueError "setting an array element with a sequence.")

variable [FloatSyntax]

mutual

/-- `np.asarray(value, dtype=np.float64)`. -/
def asarray : Value → Except Error (NdArray Number)
  | .null => .ok (scalar .nan)
  | .bool b => .ok (scalar (.finite (if b then 1 else 0)))
  | .number x => .ok (scalar x)
  | .text s =>
      match FloatSyntax.parse s with
      | none => .error (.valueError "could not convert string to float")
      | some x => .ok (scalar x)
  | .sequence items => do
      let arrays ← asarrays items
      stack arrays
  | .array a => .ok a
  | .mapping _ => .error (.typeError "float() argument must be a string or a number")
  | .box _ => .error (.typeError "float() argument must be a string or a number")

def asarrays : List Value → Except Error (List (NdArray Number))
  | [] => .ok []
  | item :: rest => do
      let a ← asarray item
      let arrays ← asarrays rest
      return a :: arrays

end

end Value

end Mate
