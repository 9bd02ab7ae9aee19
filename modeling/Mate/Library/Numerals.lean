import Mathlib.Algebra.GroupWithZero.Nat
import Mathlib.Data.Nat.Cast.Defs

set_option autoImplicit false

/-! # Numerals

The literals of the code. A real literal `180` rests on `Nat.AtLeastTwo 180`, an index `0 : Fin 4`
on `NeZero 4`. Each of these facts has a name here, so that the definitions that write the same
literal share one proof of it and print alike.
-/

namespace Numerals

/-! ## Literals of a field -/

instance atLeastTwo_2 : Nat.AtLeastTwo 2 := inferInstance
instance atLeastTwo_3 : Nat.AtLeastTwo 3 := inferInstance
instance atLeastTwo_4 : Nat.AtLeastTwo 4 := inferInstance
instance atLeastTwo_5 : Nat.AtLeastTwo 5 := inferInstance
instance atLeastTwo_10 : Nat.AtLeastTwo 10 := inferInstance
instance atLeastTwo_12 : Nat.AtLeastTwo 12 := inferInstance
instance atLeastTwo_16 : Nat.AtLeastTwo 16 := inferInstance
instance atLeastTwo_20 : Nat.AtLeastTwo 20 := inferInstance
instance atLeastTwo_40 : Nat.AtLeastTwo 40 := inferInstance
instance atLeastTwo_60 : Nat.AtLeastTwo 60 := inferInstance
instance atLeastTwo_75 : Nat.AtLeastTwo 75 := inferInstance
instance atLeastTwo_90 : Nat.AtLeastTwo 90 := inferInstance
instance atLeastTwo_95 : Nat.AtLeastTwo 95 := inferInstance
instance atLeastTwo_100 : Nat.AtLeastTwo 100 := inferInstance
instance atLeastTwo_180 : Nat.AtLeastTwo 180 := inferInstance
instance atLeastTwo_360 : Nat.AtLeastTwo 360 := inferInstance
instance atLeastTwo_500 : Nat.AtLeastTwo 500 := inferInstance
instance atLeastTwo_925 : Nat.AtLeastTwo 925 := inferInstance
instance atLeastTwo_1000 : Nat.AtLeastTwo 1000 := inferInstance
instance atLeastTwo_1000000 : Nat.AtLeastTwo 1000000 := inferInstance

/-! ## Literals of an index -/

instance neZero_1 : NeZero 1 := inferInstance
instance neZero_2 : NeZero 2 := inferInstance
instance neZero_4 : NeZero 4 := inferInstance
instance neZero_6 : NeZero 6 := inferInstance
instance neZero_9 : NeZero 9 := inferInstance

end Numerals
