import Mathlib.Data.List.MinMax

set_option autoImplicit false

/-! # The first largest value, chunk by chunk

A scan keeps the largest value of `f` seen so far, and where it was first reached (`improve`). A scan
by chunks looks up the first largest value of each chunk, and compares only that with what it keeps
(`improveChunk`). Both keep the same (`improveChunk_eq_foldl`, `foldl_improveChunk`), and what is kept in
the end bounds all values and is one of them, or is what the scan was started with (`le_foldl_improve`,
`foldl_improve_cases`).
-/

namespace RunningMax

variable {α β : Type*} [LinearOrder β] (f : α → β)

/-- Keep a value that is larger than all before. -/
def improve (best : β × α) (x : α) : β × α := if best.1 < f x then (f x, x) else best

/-- Compare with the first largest value of a chunk. -/
def improveChunk (best : β × α) (chunk : List α) : β × α :=
  match chunk.argmax f with
  | some x => improve f best x
  | none => best

variable {f}

theorem improve_of_lt {best : β × α} {x : α} (h : best.1 < f x) : improve f best x = (f x, x) :=
  if_pos h

theorem improve_of_le {best : β × α} {x : α} (h : f x ≤ best.1) : improve f best x = best :=
  if_neg h.not_gt

/-- What is kept after two values, by the larger one of them. -/
theorem improve_improve (best : β × α) (x y : α) :
    improve f (improve f best x) y = improve f best (if f x < f y then y else x) := by
  by_cases hxy : f x < f y
  · rw [if_pos hxy]
    by_cases hx : best.1 < f x
    · rw [improve_of_lt hx, improve_of_lt hxy, improve_of_lt (hx.trans hxy)]
    · rw [improve_of_le (not_lt.mp hx)]
  · rw [if_neg hxy]
    have hyx := not_lt.mp hxy
    by_cases hx : best.1 < f x
    · rw [improve_of_lt hx, improve_of_le hyx]
    · rw [improve_of_le (not_lt.mp hx), improve_of_le (hyx.trans (not_lt.mp hx))]

variable (f)

/-- Looking up the largest value of a chunk first makes no difference. -/
theorem improveChunk_eq_foldl (best : β × α) (chunk : List α) :
    improveChunk f best chunk = chunk.foldl (improve f) best := by
  induction chunk using List.reverseRecOn with
  | nil => rfl
  | append_singleton l x ih =>
      rw [List.foldl_append, List.foldl_cons, List.foldl_nil, ← ih]
      unfold improveChunk
      rw [List.argmax_concat]
      cases l.argmax f with
      | none => rfl
      | some y =>
          rw [improve_improve]
          dsimp only
          -- the chunk keeps `x` exactly if it beats `y`
          by_cases hlt : f y < f x
          · rw [if_pos hlt, if_pos hlt]
          · rw [if_neg hlt, if_neg hlt]

theorem foldl_improveChunk (best : β × α) (chunks : List (List α)) :
    chunks.foldl (improveChunk f) best = chunks.flatten.foldl (improve f) best := by
  induction chunks generalizing best with
  | nil => rfl
  | cons chunk rest ih =>
      rw [List.foldl_cons, ih, improveChunk_eq_foldl, List.flatten_cons, List.foldl_append]

/-! ## What is kept -/

variable {f}

theorem le_improve (best : β × α) (x : α) : best.1 ≤ (improve f best x).1 := by
  by_cases h : best.1 < f x
  · rw [improve_of_lt h]
    exact h.le
  · rw [improve_of_le (not_lt.mp h)]

theorem apply_le_improve (best : β × α) (x : α) : f x ≤ (improve f best x).1 := by
  by_cases h : best.1 < f x
  · rw [improve_of_lt h]
  · rw [improve_of_le (not_lt.mp h)]
    exact not_lt.mp h

theorem start_le_foldl_improve (best : β × α) (l : List α) : best.1 ≤ (l.foldl (improve f) best).1 := by
  induction l generalizing best with
  | nil => exact le_rfl
  | cons x rest ih => exact (le_improve best x).trans (ih (improve f best x))

/-- What is kept bounds all values. -/
theorem le_foldl_improve (best : β × α) {l : List α} {x : α} (hx : x ∈ l) :
    f x ≤ (l.foldl (improve f) best).1 := by
  induction l generalizing best with
  | nil => exact absurd hx List.not_mem_nil
  | cons y rest ih =>
      rw [List.foldl_cons]
      rcases List.mem_cons.mp hx with rfl | hrest
      · exact (apply_le_improve best x).trans (start_le_foldl_improve _ rest)
      · exact ih _ hrest

/-- It is one of them, and larger than what the scan was started with, if it is not the start. -/
theorem foldl_improve_cases (best : β × α) (l : List α) :
    l.foldl (improve f) best = best ∨
      (l.foldl (improve f) best).1 = f (l.foldl (improve f) best).2 ∧
        best.1 < (l.foldl (improve f) best).1 := by
  induction l generalizing best with
  | nil => exact .inl rfl
  | cons x rest ih =>
      rw [List.foldl_cons]
      by_cases h : best.1 < f x
      · right
        rw [improve_of_lt h]
        rcases ih (f x, x) with heq | ⟨hvalue, hlt⟩
        · rw [heq]
          exact ⟨rfl, h⟩
        · exact ⟨hvalue, h.trans hlt⟩
      · rw [improve_of_le (not_lt.mp h)]
        exact ih best

end RunningMax
