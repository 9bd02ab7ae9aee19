import Mate.Angles

set_option autoImplicit false

/-! # The caches of a vector

`Vector2D` computes its Cartesian and its polar form on demand and keeps them, and every setter
drops what its write makes out of date. What a value denotes is an arrow: a length and a direction
(`Arrow`). Reads and writes follow the arrow, whatever was read in between, as long as the angle is
not set while the norm is not known, and `v *= k` is the last statement
(`CachedVector2D.caches_agree_iff`).
-/

namespace Mate

open Complex

/-! ## The object -/

/-- `Vector2D` with its caches `_vector`, `_norm` and `_angle`. -/
structure CachedVector2D where
  origin : Option ℂ
  vectorCache : Option ℂ
  normCache : Option ℝ
  angleCache : Option ℝ

namespace CachedVector2D

/-- The getter of `vector`. -/
noncomputable def vector (self : CachedVector2D) : Except Error (ℂ × CachedVector2D) :=
  match self.vectorCache, self.normCache, self.angleCache with
  | some z, _, _ => .ok (z, self)
  | none, some norm, some angle =>
      .ok (polar2cartesian norm angle,
        { self with vectorCache := some (polar2cartesian norm angle) })
  | none, _, none =>
      .error (.typeError ("loop of ufunc does not support argument 0 of type NoneType "
        ++ "which has no callable deg2rad method"))
  | none, none, some _ =>
      .error (.typeError "unsupported operand type(s) for *: 'NoneType' and 'float'")

/-- The getter of `norm`. -/
noncomputable def norm (self : CachedVector2D) : Except Error (ℝ × CachedVector2D) :=
  match self.normCache, self.vectorCache with
  | some norm, _ => .ok (norm, self)
  | none, some z => .ok (‖z‖, { self with normCache := some ‖z‖ })
  | none, none =>
      .error (.typeError "unsupported operand type(s) for *: 'NoneType' and 'NoneType'")

/-- The getter of `angle`. -/
noncomputable def angle (self : CachedVector2D) : Except Error (ℝ × CachedVector2D) :=
  match self.angleCache, self.vectorCache with
  | some angle, _ => .ok (angle, self)
  | none, some z => .ok (arctan2Deg z, { self with angleCache := some (arctan2Deg z) })
  | none, none => .error (.typeError "'NoneType' object is not subscriptable")

/-- The getter of `endpoint`. -/
noncomputable def endpoint (self : CachedVector2D) : Except Error (ℂ × CachedVector2D) := do
  let (z, self) ← self.vector
  match self.origin with
  | some origin => return (origin + z, self)
  | none => throw (.typeError "unsupported operand type(s) for +: 'NoneType' and 'float'")

/-- The setter of `vector`. -/
def setVector (self : CachedVector2D) (value : ℂ) : CachedVector2D :=
  { self with vectorCache := some value, normCache := none, angleCache := none }

/-- The setter of `endpoint`. -/
def setEndpoint (self : CachedVector2D) (value : ℂ) : Except Error CachedVector2D :=
  match self.origin with
  | some origin => .ok (self.setVector (value - origin))
  | none => .error (.typeError "unsupported operand type(s) for -: 'float' and 'NoneType'")

/-- The setter of `angle`. -/
noncomputable def setAngle (self : CachedVector2D) (value : ℝ) : CachedVector2D :=
  { self with angleCache := some (normalizeAngle value), vectorCache := none }

/-- The setter of `norm`. -/
noncomputable def setNorm (self : CachedVector2D) (value : ℝ) : Except Error CachedVector2D := do
  let (angle, self) ← self.angle
  let self := { self with normCache := some |value|, vectorCache := none }
  return if value < 0 then self.setAngle (angle + 180) else self

/-- `Vector2D(vector=..., norm=..., angle=..., origin=...)`. -/
noncomputable def new (vector : Option ℂ) (norm angle : Option ℝ) (origin : Option ℂ) :
    Except Error CachedVector2D :=
  let self : CachedVector2D := ⟨origin, none, none, none⟩
  match vector, norm, angle with
  | some z, none, none => .ok (self.setVector z)
  | none, some norm, some angle => (self.setAngle angle).setNorm norm
  | _, _, _ => .error (.valueError "")

end CachedVector2D

/-! ## Statements -/

/-- The statements about a variable `v`. -/
inductive Statement
  | readVector
  | readNorm
  | readAngle
  | readEndpoint
  | writeVector (value : ℂ)
  | writeEndpoint (value : ℂ)
  | writeNorm (value : ℝ)
  | writeAngle (value : ℝ)
  | scale (factor : ℝ)

/-- What a statement reads. -/
inductive Reading
  | point (z : ℂ)
  | number (x : ℝ)
  | nothing

namespace Statement

/-- A statement about an object. `v *= k` calls `__imul__`, which returns nothing, so the variable
is `None` afterwards. -/
noncomputable def exec (s : Statement) (self : CachedVector2D) :
    Except Error (Reading × Option CachedVector2D) :=
  match s with
  | .readVector => do let (z, self) ← self.vector; return (.point z, some self)
  | .readNorm => do let (x, self) ← self.norm; return (.number x, some self)
  | .readAngle => do let (x, self) ← self.angle; return (.number x, some self)
  | .readEndpoint => do let (z, self) ← self.endpoint; return (.point z, some self)
  | .writeVector value => return (.nothing, some (self.setVector value))
  | .writeEndpoint value => do let self ← self.setEndpoint value; return (.nothing, some self)
  | .writeNorm value => do let self ← self.setNorm value; return (.nothing, some self)
  | .writeAngle value => return (.nothing, some (self.setAngle value))
  | .scale factor => do
      let (norm, self) ← self.norm
      let _ ← self.setNorm (norm * factor)
      return (.nothing, none)

/-- What a statement raises when the variable is `None`. -/
def noneError : Statement → Error
  | .scale _ => .typeError "unsupported operand type(s) for *=: 'NoneType' and 'float'"
  | .readVector | .writeVector _ => .attributeError "'NoneType' object has no attribute 'vector'"
  | .readNorm | .writeNorm _ => .attributeError "'NoneType' object has no attribute 'norm'"
  | .readAngle | .writeAngle _ => .attributeError "'NoneType' object has no attribute 'angle'"
  | .readEndpoint | .writeEndpoint _ =>
      .attributeError "'NoneType' object has no attribute 'endpoint'"

/-- The statements of a program, one after the other, with what they read. -/
noncomputable def run : List Statement → Option CachedVector2D → Except Error (List Reading)
  | [], _ => .ok []
  | s :: _, none => .error s.noneError
  | s :: rest, some self => do
      let (reading, self) ← s.exec self
      let readings ← run rest self
      return reading :: readings

end Statement

/-! ## What a value denotes -/

/-- A length and a direction; the direction is kept when the length is zero. -/
structure Arrow where
  length : ℝ
  direction : ℂ
  length_nonneg : 0 ≤ length
  norm_direction : ‖direction‖ = 1

namespace Arrow

noncomputable def vector (a : Arrow) : ℂ := a.length * a.direction

/-- The arrow of a plane vector. The one of zero points to the right. -/
noncomputable def ofVector (z : ℂ) : Arrow where
  length := ‖z‖
  direction := polar2cartesian 1 (arctan2Deg z)
  length_nonneg := norm_nonneg z
  norm_direction := by rw [norm_polar2cartesian, abs_one]

/-- The arrow scaled or turned around to a given length. -/
noncomputable def withLength (a : Arrow) (value : ℝ) : Arrow where
  length := |value|
  direction := if value < 0 then -a.direction else a.direction
  length_nonneg := show 0 ≤ |value| from abs_nonneg value
  norm_direction := by
    split
    · rw [norm_neg, a.norm_direction]
    · exact a.norm_direction

/-- The arrow of the same length at an angle. -/
noncomputable def withAngle (a : Arrow) (value : ℝ) : Arrow where
  length := a.length
  direction := polar2cartesian 1 value
  length_nonneg := a.length_nonneg
  norm_direction := by rw [norm_polar2cartesian, abs_one]

/-- The mathematical meaning of a write. -/
noncomputable def apply (a : Arrow) (origin : Option ℂ) : Statement → Arrow
  | .writeVector value => ofVector value
  | .writeEndpoint value => ofVector (value - origin.getD 0)
  | .writeNorm value => a.withLength value
  | .writeAngle value => a.withAngle value
  | .scale factor => a.withLength (a.length * factor)
  | _ => a

/-- A reading is the one of the arrow. -/
def Shows (a : Arrow) (origin : Option ℂ) : Statement → Reading → Prop
  | .readVector, .point z => z = a.vector
  | .readNorm, .number x => x = a.length
  | .readAngle, .number x => polar2cartesian 1 x = a.direction
  | .readEndpoint, .point z => ∃ o, origin = some o ∧ z = o + a.vector
  | .writeVector _, .nothing | .writeEndpoint _, .nothing | .writeNorm _, .nothing
  | .writeAngle _, .nothing | .scale _, .nothing => True
  | _, _ => False

/-- All readings of a program are those of the arrow as the writes change it. -/
def ShowsAll (origin : Option ℂ) : Arrow → List Statement → List Reading → Prop
  | _, [], [] => True
  | a, s :: rest, reading :: readings =>
      a.Shows origin s reading ∧ ShowsAll origin (a.apply origin s) rest readings
  | _, _, _ => False

/-- A non-zero vector is its length in the direction of its angle, and zero is too. -/
@[simp] theorem ofVector_vector (z : ℂ) : (ofVector z).vector = z := by
  show (‖z‖ : ℂ) * polar2cartesian 1 (arctan2Deg z) = z
  rw [← Complex.real_smul, ← polar2cartesian_eq_smul]
  by_cases hz : z = 0
  · rw [hz, norm_zero]
    apply Complex.ext <;> simp [polar2cartesian]
  · rw [polar2cartesian_arctan2Deg _ hz, div_self (norm_ne_zero_iff.mpr hz), one_smul]

theorem norm_vector (a : Arrow) : ‖a.vector‖ = a.length := by
  rw [vector, norm_mul, a.norm_direction, mul_one, Complex.norm_real,
    Real.norm_of_nonneg a.length_nonneg]

end Arrow

/-! ## What is known of the norm -/

/-- Of the norm of a vector: it is in its cache, or it can be computed from the vector, or neither
is there. -/
inductive NormStatus
  | known
  | pending
  | lost
  deriving DecidableEq

/-- Only an angle that is set while the norm is not known loses it. -/
def NormStatus.after : NormStatus → Statement → NormStatus
  | _, .writeVector _ | _, .writeEndpoint _ => .pending
  | _, .writeNorm _ | _, .readNorm | _, .scale _ => .known
  | .pending, .writeAngle _ => .lost
  | status, _ => status

/-- The statement reads the norm or the vector. -/
def Statement.NeedsNorm : Statement → Prop
  | .readVector | .readNorm | .readEndpoint | .scale _ => True
  | _ => False

def Statement.UsesOrigin : Statement → Prop
  | .readEndpoint | .writeEndpoint _ => True
  | _ => False

/-- The programs that use a vector well: no norm or vector is read while the norm is lost, the
origin is used only where it is given, and scaling in place is the last statement. -/
def WellUsed (origin : Option ℂ) : NormStatus → List Statement → Prop
  | _, [] => True
  | status, s :: rest =>
      (status = .lost → ¬ s.NeedsNorm) ∧ (s.UsesOrigin → origin ≠ none)
        ∧ ((∃ factor, s = .scale factor) → rest = []) ∧ WellUsed origin (status.after s) rest

namespace CachedVector2D

/-- What the caches say of the norm. -/
def status (self : CachedVector2D) : NormStatus :=
  match self.normCache, self.vectorCache with
  | some _, _ => .known
  | none, some _ => .pending
  | none, none => .lost

/-- The caches hold the forms of one arrow, and its direction is in one of them. -/
structure Denotes (v : CachedVector2D) (a : Arrow) : Prop where
  vector : ∀ z ∈ v.vectorCache, z = a.vector
  norm : ∀ x ∈ v.normCache, x = a.length
  angle : ∀ x ∈ v.angleCache, polar2cartesian 1 x = a.direction
  direction : v.angleCache = none →
    ∃ z, v.vectorCache = some z ∧ polar2cartesian 1 (arctan2Deg z) = a.direction

variable {v : CachedVector2D} {a : Arrow}

theorem denotes_setVector (v : CachedVector2D) (z : ℂ) :
    (v.setVector z).Denotes (.ofVector z) where
  vector := by
    rintro w ⟨⟩
    exact (Arrow.ofVector_vector z).symm
  norm x hx := by cases hx
  angle x hx := by cases hx
  direction _ := ⟨z, rfl, rfl⟩

theorem Denotes.setAngle (h : v.Denotes a) (value : ℝ) :
    (v.setAngle value).Denotes (a.withAngle value) where
  vector z hz := by cases hz
  norm := h.norm
  angle := by
    rintro x ⟨⟩
    exact polar2cartesian_normalizeAngle 1 value
  direction hnone := by cases hnone

@[simp] theorem setAngle_normCache (v : CachedVector2D) (value : ℝ) :
    (v.setAngle value).normCache = v.normCache := rfl
@[simp] theorem setAngle_vectorCache (v : CachedVector2D) (value : ℝ) :
    (v.setAngle value).vectorCache = none := rfl

/-- The angle can always be read. -/
theorem Denotes.angle_returns (h : v.Denotes a) :
    ∃ x, v.angle = .ok (x, { v with angleCache := some x })
      ∧ polar2cartesian 1 x = a.direction := by
  cases hangle : v.angleCache with
  | some x =>
      refine ⟨x, ?_, h.angle x hangle⟩
      unfold CachedVector2D.angle
      rw [hangle]
      exact congrArg Except.ok (Prod.ext rfl (by rw [← hangle]))
  | none =>
      obtain ⟨z, hz, hdirection⟩ := h.direction hangle
      refine ⟨arctan2Deg z, ?_, hdirection⟩
      unfold CachedVector2D.angle
      rw [hangle, hz]

theorem Denotes.withAngleCache (h : v.Denotes a) {x : ℝ}
    (hx : polar2cartesian 1 x = a.direction) :
    ({ v with angleCache := some x } : CachedVector2D).Denotes a where
  vector := h.vector
  norm := h.norm
  angle := by
    rintro y ⟨⟩
    exact hx
  direction hnone := by cases hnone

/-- The norm can be read unless it is lost. -/
theorem Denotes.norm_returns (h : v.Denotes a) (hstatus : v.status ≠ .lost) :
    v.norm = .ok (a.length, { v with normCache := some a.length }) := by
  cases hnorm : v.normCache with
  | some x =>
      obtain rfl := h.norm x hnorm
      unfold CachedVector2D.norm
      rw [hnorm]
      exact congrArg Except.ok (Prod.ext rfl (by rw [← hnorm]))
  | none =>
      cases hvector : v.vectorCache with
      | some z =>
          have hz := h.vector z hvector
          unfold CachedVector2D.norm
          rw [hnorm, hvector]
          show Except.ok (‖z‖, _) = _
          rw [hz, a.norm_vector]
      | none => exact absurd (by rw [status, hnorm, hvector]) hstatus

theorem Denotes.withNormCache (h : v.Denotes a) :
    ({ v with normCache := some a.length } : CachedVector2D).Denotes a where
  vector := h.vector
  norm := by
    rintro x ⟨⟩
    rfl
  angle := h.angle
  direction := h.direction

/-- So can the vector. -/
theorem Denotes.vector_returns (h : v.Denotes a) (hstatus : v.status ≠ .lost) :
    v.vector = .ok (a.vector, { v with vectorCache := some a.vector }) := by
  cases hvector : v.vectorCache with
  | some z =>
      obtain rfl := h.vector z hvector
      unfold CachedVector2D.vector
      rw [hvector]
      exact congrArg Except.ok (Prod.ext rfl (by rw [← hvector]))
  | none =>
      cases hnorm : v.normCache with
      | none => exact absurd (by rw [status, hnorm, hvector]) hstatus
      | some x =>
          cases hangle : v.angleCache with
          | none =>
              obtain ⟨z, hz, -⟩ := h.direction hangle
              rw [hvector] at hz
              cases hz
          | some y =>
              have hpolar : polar2cartesian x y = a.vector := by
                rw [polar2cartesian_eq_smul, h.angle y hangle, h.norm x hnorm, Complex.real_smul]
                rfl
              unfold CachedVector2D.vector
              rw [hvector, hnorm, hangle]
              show Except.ok (polar2cartesian x y, _) = _
              rw [hpolar]

theorem Denotes.withVectorCache (h : v.Denotes a) :
    ({ v with vectorCache := some a.vector } : CachedVector2D).Denotes a where
  vector := by
    rintro z ⟨⟩
    rfl
  norm := h.norm
  angle := h.angle
  direction hnone := by
    obtain ⟨z, hz, hdirection⟩ := h.direction hnone
    obtain rfl := h.vector z hz
    exact ⟨_, rfl, hdirection⟩

/-- Setting the norm always returns. -/
theorem Denotes.setNorm_returns (h : v.Denotes a) (value : ℝ) :
    ∃ v', v.setNorm value = .ok v' ∧ v'.Denotes (a.withLength value) ∧ v'.origin = v.origin
      ∧ v'.status = .known := by
  obtain ⟨x, hread, hx⟩ := h.angle_returns
  refine ⟨⟨v.origin, none, some |value|, some (if value < 0 then normalizeAngle (x + 180) else x)⟩,
    ?_, ⟨fun z hz => ?_, ?_, ?_, fun hnone => ?_⟩, rfl, rfl⟩
  · unfold CachedVector2D.setNorm
    rw [hread]
    by_cases hneg : value < 0
    · simp only [hneg, if_true]
      rfl
    · simp only [hneg, if_false]
      rfl
  · cases hz
  · rintro y ⟨⟩
    rfl
  · rintro y ⟨⟩
    show polar2cartesian 1 (if value < 0 then _ else _) = if value < 0 then _ else _
    split
    · rw [polar2cartesian_normalizeAngle, polar2cartesian_add_180, hx]
    · exact hx
  · cases hnone

/-- A read of a lost norm raises. -/
theorem norm_raises (h : v.status = .lost) : ∃ err, v.norm = .error err := by
  unfold status at h
  split at h
  · cases h
  · cases h
  · rename_i hnorm hvector
    exact ⟨_, by unfold CachedVector2D.norm; rw [hnorm, hvector]⟩

theorem vector_raises (h : v.status = .lost) : ∃ err, v.vector = .error err := by
  unfold status at h
  split at h
  · cases h
  · cases h
  · rename_i hnorm hvector
    unfold CachedVector2D.vector
    rw [hnorm, hvector]
    cases v.angleCache with
    | none => exact ⟨_, rfl⟩
    | some x => exact ⟨_, rfl⟩

/-! ## One statement -/

/-- The statement returns, reads what the arrow shows, and changes the value as the arrow. -/
def Follows (v : CachedVector2D) (a : Arrow) (s : Statement) : Prop :=
  ∃ reading v', s.exec v = .ok (reading, some v') ∧ a.Shows v.origin s reading
    ∧ v'.Denotes (a.apply v.origin s) ∧ v'.status = v.status.after s ∧ v'.origin = v.origin

theorem Denotes.follows_readVector (h : v.Denotes a) (hknown : v.status ≠ .lost) :
    v.Follows a .readVector := by
  have hread := h.vector_returns hknown
  refine ⟨.point a.vector, _, by rw [Statement.exec, hread]; rfl, rfl, h.withVectorCache, ?_, rfl⟩
  unfold status at hknown ⊢
  cases hnorm : v.normCache with
  | some x => rfl
  | none =>
      cases hvector : v.vectorCache with
      | some z => rfl
      | none =>
          rw [hnorm, hvector] at hknown
          exact absurd rfl hknown

theorem Denotes.follows_readNorm (h : v.Denotes a) (hknown : v.status ≠ .lost) :
    v.Follows a .readNorm :=
  ⟨.number a.length, _, by rw [Statement.exec, h.norm_returns hknown]; rfl, rfl, h.withNormCache,
    by cases v.status <;> rfl, rfl⟩

theorem Denotes.follows_readAngle (h : v.Denotes a) : v.Follows a .readAngle := by
  obtain ⟨x, hread, hx⟩ := h.angle_returns
  refine ⟨.number x, _, by rw [Statement.exec, hread]; rfl, hx, h.withAngleCache hx, ?_, rfl⟩
  have hsame : v.status.after .readAngle = v.status := by cases v.status <;> rfl
  rw [hsame]
  rfl

theorem Denotes.follows_readEndpoint (h : v.Denotes a) (hknown : v.status ≠ .lost)
    (horigin : v.origin ≠ none) : v.Follows a .readEndpoint := by
  obtain ⟨o, ho⟩ := Option.ne_none_iff_exists'.mp horigin
  obtain ⟨reading, v', hexec, -, hdenotes, hstatus, -⟩ := h.follows_readVector hknown
  have hread := h.vector_returns hknown
  refine ⟨.point (o + a.vector), { v with vectorCache := some a.vector }, ?_, ⟨o, ho, rfl⟩,
    h.withVectorCache, ?_, rfl⟩
  · rw [Statement.exec, CachedVector2D.endpoint, hread]
    simp only [bind, Except.bind, ho]
    rfl
  · rw [Statement.exec, hread] at hexec
    obtain rfl : { v with vectorCache := some a.vector } = v' := by
      cases hexec
      rfl
    have hsame : v.status.after .readEndpoint = v.status.after .readVector := by
      cases v.status <;> rfl
    rw [hsame, ← hstatus]

theorem Denotes.follows_writeNorm (h : v.Denotes a) (value : ℝ) :
    v.Follows a (.writeNorm value) := by
  obtain ⟨v', hwrite, hdenotes, horigin, hstatus⟩ := h.setNorm_returns value
  refine ⟨.nothing, v', by rw [Statement.exec, hwrite]; rfl, trivial, hdenotes, ?_, horigin⟩
  rw [hstatus]
  cases v.status <;> rfl

theorem Denotes.follows_writeAngle (h : v.Denotes a) (value : ℝ) :
    v.Follows a (.writeAngle value) := by
  refine ⟨.nothing, _, rfl, trivial, h.setAngle value, ?_, rfl⟩
  unfold status
  cases hnorm : v.normCache with
  | some x => simp [hnorm, NormStatus.after]
  | none => cases v.vectorCache <;> simp [hnorm, NormStatus.after]

theorem follows_writeVector (v : CachedVector2D) (a : Arrow) (value : ℂ) :
    v.Follows a (.writeVector value) :=
  ⟨.nothing, _, rfl, trivial, denotes_setVector v value, by cases v.status <;> rfl, rfl⟩

theorem follows_writeEndpoint (a : Arrow) (value : ℂ) (horigin : v.origin ≠ none) :
    v.Follows a (.writeEndpoint value) := by
  obtain ⟨o, ho⟩ := Option.ne_none_iff_exists'.mp horigin
  refine ⟨.nothing, v.setVector (value - o), ?_, trivial, ?_, by cases v.status <;> rfl, rfl⟩
  · rw [Statement.exec, setEndpoint, ho]
    rfl
  · show (v.setVector (value - o)).Denotes (.ofVector (value - v.origin.getD 0))
    rw [ho]
    exact denotes_setVector v (value - o)

/-- **A statement that uses the vector well** follows the arrow. -/
theorem Denotes.follows (h : v.Denotes a) {s : Statement} (hscale : ∀ factor, s ≠ .scale factor)
    (hnorm : v.status = .lost → ¬ s.NeedsNorm) (horigin : s.UsesOrigin → v.origin ≠ none) :
    v.Follows a s := by
  have hknown : s.NeedsNorm → v.status ≠ .lost := fun hneeds hlost => hnorm hlost hneeds
  cases s with
  | readVector => exact h.follows_readVector (hknown trivial)
  | readNorm => exact h.follows_readNorm (hknown trivial)
  | readAngle => exact h.follows_readAngle
  | readEndpoint => exact h.follows_readEndpoint (hknown trivial) (horigin trivial)
  | writeVector value => exact follows_writeVector v a value
  | writeEndpoint value => exact follows_writeEndpoint a value (horigin trivial)
  | writeNorm value => exact h.follows_writeNorm value
  | writeAngle value => exact h.follows_writeAngle value
  | scale factor => exact absurd rfl (hscale factor)

/-- Scaling in place scales the object and leaves nothing in the variable. -/
theorem Denotes.exec_scale (h : v.Denotes a) (factor : ℝ) (hknown : v.status ≠ .lost) :
    (Statement.scale factor).exec v = .ok (.nothing, none) := by
  obtain ⟨v', hwrite, -⟩ := h.withNormCache.setNorm_returns (a.length * factor)
  rw [Statement.exec, h.norm_returns hknown]
  simp only [bind, Except.bind, hwrite]
  rfl

/-- **A statement that does not** raises. -/
theorem exec_raises {s : Statement}
    (h : (v.status = .lost ∧ s.NeedsNorm) ∨ (s.UsesOrigin ∧ v.origin = none)) :
    ∃ err, s.exec v = .error err := by
  rcases h with ⟨hlost, hneeds⟩ | ⟨huses, hnone⟩
  · obtain ⟨err, herr⟩ := norm_raises hlost
    obtain ⟨err', herr'⟩ := vector_raises hlost
    cases s with
    | readVector => exact ⟨err', by rw [Statement.exec, herr']; rfl⟩
    | readNorm => exact ⟨err, by rw [Statement.exec, herr]; rfl⟩
    | readEndpoint => exact ⟨err', by rw [Statement.exec, endpoint, herr']; rfl⟩
    | scale factor => exact ⟨err, by rw [Statement.exec, herr]; rfl⟩
    | _ => exact absurd hneeds id
  · cases s with
    | readEndpoint =>
        rw [Statement.exec, endpoint]
        cases hread : v.vector with
        | error err => exact ⟨err, rfl⟩
        | ok r =>
            obtain ⟨z, v'⟩ := r
            have horigin : v'.origin = none := by
              unfold CachedVector2D.vector at hread
              split at hread <;> cases hread <;> exact hnone
            exact ⟨_, by simp only [bind, Except.bind, horigin]; rfl⟩
    | writeEndpoint value => exact ⟨_, by rw [Statement.exec, setEndpoint, hnone]; rfl⟩
    | _ => exact absurd huses id

/-! ## Programs -/

/-- A program goes on with what its first statement leaves. -/
theorem run_cons_eq_ok {s : Statement} {rest : List Statement} {readings : List Reading} :
    Statement.run (s :: rest) (some v) = .ok readings ↔ ∃ reading next tail,
      s.exec v = .ok (reading, next) ∧ Statement.run rest next = .ok tail
        ∧ readings = reading :: tail := by
  rw [Statement.run]
  cases hexec : s.exec v with
  | error err => exact ⟨fun h => (nomatch h), fun ⟨_, _, _, h, _⟩ => (nomatch h)⟩
  | ok r =>
      obtain ⟨reading, next⟩ := r
      cases hrest : Statement.run rest next with
      | error err =>
          simp only [bind, Except.bind, hrest]
          refine ⟨fun h => (nomatch h), ?_⟩
          rintro ⟨reading', next', tail, ⟨⟩, htail, -⟩
          rw [hrest] at htail
          cases htail
      | ok tail =>
          simp only [bind, Except.bind, hrest]
          constructor
          · rintro ⟨⟩
            exact ⟨reading, next, tail, rfl, hrest, rfl⟩
          · rintro ⟨reading', next', tail', ⟨⟩, htail, rfl⟩
            rw [hrest] at htail
            cases htail
            rfl

/-- **The readings of a program** are those of the arrow just when it uses the vector well. -/
theorem Denotes.run_iff (h : v.Denotes a) (program : List Statement) :
    (∃ readings, Statement.run program (some v) = .ok readings
      ∧ a.ShowsAll v.origin program readings) ↔ WellUsed v.origin v.status program := by
  induction program generalizing v a with
  | nil => exact ⟨fun _ => trivial, fun _ => ⟨[], rfl, trivial⟩⟩
  | cons s rest ih =>
      constructor
      · rintro ⟨readings, hrun, hshows⟩
        obtain ⟨reading, next, tail, hexec, hrest, rfl⟩ := run_cons_eq_ok.mp hrun
        have hfine : ¬ ((v.status = .lost ∧ s.NeedsNorm) ∨ (s.UsesOrigin ∧ v.origin = none)) := by
          intro hbad
          obtain ⟨err, herr⟩ := exec_raises hbad
          rw [herr] at hexec
          cases hexec
        have hnorm : v.status = .lost → ¬ s.NeedsNorm :=
          fun hlost hneeds => hfine (.inl ⟨hlost, hneeds⟩)
        have horigin : s.UsesOrigin → v.origin ≠ none :=
          fun huses hnone => hfine (.inr ⟨huses, hnone⟩)
        by_cases hscale : ∃ factor, s = .scale factor
        · obtain ⟨factor, rfl⟩ := hscale
          rw [h.exec_scale factor (fun hlost => hnorm hlost trivial)] at hexec
          cases hexec
          -- the variable is empty, so nothing may follow
          cases rest with
          | nil => exact ⟨hnorm, horigin, fun _ => rfl, trivial⟩
          | cons s' rest => cases hrest
        · obtain ⟨reading', v', hexec', -, hdenotes, hstatus, horigin'⟩ :=
            h.follows (fun factor heq => hscale ⟨factor, heq⟩) hnorm horigin
          rw [hexec'] at hexec
          cases hexec
          refine ⟨hnorm, horigin, fun hfactor => absurd hfactor hscale, ?_⟩
          rw [← horigin', ← hstatus]
          refine (ih hdenotes).mp ⟨tail, hrest, ?_⟩
          rw [horigin']
          exact hshows.2
      · rintro ⟨hnorm, horigin, hlast, hrest⟩
        by_cases hscale : ∃ factor, s = .scale factor
        · obtain rfl := hlast hscale
          obtain ⟨factor, rfl⟩ := hscale
          have hexec := h.exec_scale factor (fun hlost => hnorm hlost trivial)
          exact ⟨[.nothing], run_cons_eq_ok.mpr ⟨_, _, [], hexec, rfl, rfl⟩, trivial, trivial⟩
        · obtain ⟨reading, v', hexec, hshows, hdenotes, hstatus, horigin'⟩ :=
            h.follows (fun factor heq => hscale ⟨factor, heq⟩) hnorm horigin
          rw [← horigin', ← hstatus] at hrest
          obtain ⟨tail, htail, hshowsAll⟩ := (ih hdenotes).mpr hrest
          rw [horigin'] at hshowsAll
          exact ⟨reading :: tail, run_cons_eq_ok.mpr ⟨_, _, tail, hexec, htail, rfl⟩, hshows,
            hshowsAll⟩

end CachedVector2D

/-! ## Vectors from their constructor -/

namespace Arrow

/-- The arrow of the arguments of the constructor. -/
noncomputable def ofArguments (vector : Option ℂ) (norm angle : Option ℝ) : Arrow :=
  match vector with
  | some z => ofVector z
  | none => ((ofVector 0).withAngle (angle.getD 0)).withLength (norm.getD 0)

end Arrow

/-- What is known of the norm of a new vector. -/
def NormStatus.ofArguments (vector : Option ℂ) : NormStatus :=
  if vector.isSome then .pending else .known

namespace CachedVector2D

theorem new_spec {vector : Option ℂ} {norm angle : Option ℝ} {origin : Option ℂ}
    {v : CachedVector2D} (h : new vector norm angle origin = .ok v) :
    v.Denotes (.ofArguments vector norm angle) ∧ v.origin = origin
      ∧ v.status = .ofArguments vector := by
  unfold new at h
  split at h
  · cases h
    exact ⟨denotes_setVector _ _, rfl, rfl⟩
  · rename_i length phi
    -- the angle is set before there is a norm
    have hblank : ((⟨origin, none, none, none⟩ : CachedVector2D).setAngle phi).Denotes
        ((Arrow.ofVector 0).withAngle phi) := by
      refine ⟨fun z hz => ?_, fun x hx => ?_, ?_, fun hnone => ?_⟩
      · cases hz
      · cases hx
      · rintro x ⟨⟩
        exact polar2cartesian_normalizeAngle 1 phi
      · cases hnone
    obtain ⟨v', hwrite, hdenotes, horigin, hstatus⟩ := hblank.setNorm_returns length
    obtain rfl : v = v' := Except.ok.inj (h.symm.trans hwrite)
    exact ⟨hdenotes, horigin, hstatus⟩
  · cases h

/-- **The caches of a vector.** For a vector from either kind of arguments and any program of reads
and writes: all reads return, and what they return is what the writes make of the vector, just when
the program uses the vector well. -/
theorem caches_agree_iff {vector : Option ℂ} {norm angle : Option ℝ} {origin : Option ℂ}
    {v : CachedVector2D} (h : new vector norm angle origin = .ok v) (program : List Statement) :
    (∃ readings, Statement.run program (some v) = .ok readings
      ∧ (Arrow.ofArguments vector norm angle).ShowsAll origin program readings)
      ↔ WellUsed origin (.ofArguments vector) program := by
  obtain ⟨hdenotes, horigin, hstatus⟩ := new_spec h
  rw [← horigin, ← hstatus]
  exact hdenotes.run_iff program

/-- A unit vector whose norm is read before it is turned. -/
theorem caches_agree_iff_turned :
    ∃ readings, Statement.run [.readNorm, .writeAngle 90, .readVector, .scale 2]
        (some ((⟨some 0, none, none, none⟩ : CachedVector2D).setVector 1)) = .ok readings
      ∧ (Arrow.ofArguments (some 1) none none).ShowsAll (some 0)
        [.readNorm, .writeAngle 90, .readVector, .scale 2] readings := by
  have hnew : new (some 1) none none (some 0)
      = .ok ((⟨some 0, none, none, none⟩ : CachedVector2D).setVector 1) := rfl
  apply (caches_agree_iff hnew [.readNorm, .writeAngle 90, .readVector, .scale 2]).mpr
  simp [WellUsed, NormStatus.ofArguments, NormStatus.after, Statement.UsesOrigin]

/-- An angle that is set before the norm is read loses the norm. -/
theorem caches_disagree :
    ¬ ∃ readings, Statement.run [.writeAngle 0, .readNorm] (some ((⟨some 0, none, none, none⟩ :
        CachedVector2D).setVector 1)) = .ok readings
      ∧ (Arrow.ofArguments (some 1) none none).ShowsAll (some 0) [.writeAngle 0, .readNorm]
        readings := by
  have hnew : new (some 1) none none (some 0)
      = .ok ((⟨some 0, none, none, none⟩ : CachedVector2D).setVector 1) := rfl
  obtain ⟨hdenotes, -, -⟩ := new_spec hnew
  intro hgood
  have hused := (hdenotes.run_iff [.writeAngle 0, .readNorm]).mp hgood
  exact hused.2.2.2.1 rfl trivial

end CachedVector2D

end Mate
