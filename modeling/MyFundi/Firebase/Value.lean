import Mathlib.Algebra.Group.Int.Defs
import Mathlib.Algebra.Group.Nat.Defs
import MyFundi.Foundation.Tree

/-!
# Stored values and the casts that read them

A leaf of the database holds a boolean, a number or a string, and comes back with
the type it was written with. The app reads a value with a conditional cast, which
fails on a value of another type: a string is never cast to a number. A number is
cast to `Int` or `Float` only when the target type represents it exactly.
-/

namespace MyFundi

/-- What a leaf of the database holds. -/
inductive Scalar where
  | bool (value : Bool)
  | int (value : Int)
  | double (value : Dyadic)
  | string (value : String)
  deriving DecidableEq

/-- Whether a number is a value of the 32-bit floating-point format: at most 24
significant bits, none below `2 ^ -149`, and a magnitude below `2 ^ 128`. -/
def isSingle : Dyadic → Bool
  | .zero => true
  | .ofOdd mantissa exponent _ =>
      mantissa.natAbs < 2 ^ 24 && exponent ≤ 149 &&
        (mantissa.natAbs.log2 : Int) + 1 - exponent ≤ 128

/-- A finite value of the app's `Float` fields. -/
abbrev SwiftFloat := { value : Dyadic // isSingle value = true }

instance : Zero SwiftFloat := ⟨⟨.zero, rfl⟩⟩

/-- An integer in the range of the 64-bit `Int`; arithmetic that leaves it traps. -/
def checkedInt (value : Int) : Option Int :=
  if -2 ^ 63 ≤ value ∧ value < 2 ^ 63 then some value else none

/-- An integer in range is left as it is. -/
theorem checkedInt_eq_some {value result : Int} (checked : checkedInt value = some result) :
    result = value := by
  unfold checkedInt at checked
  split at checked
  · exact (Option.some.inj checked).symm
  · cases checked

namespace Scalar

/-- `as? String` -/
def asString : Scalar → Option String
  | .string value => some value
  | _ => none

/-- `as? Int` -/
def asInt : Scalar → Option Int
  | .bool value => some (if value then 1 else 0)
  | .int value => checkedInt value
  | .double .zero => some 0
  | .double (.ofOdd mantissa exponent _) =>
      if exponent ≤ 0 then checkedInt (mantissa * 2 ^ exponent.natAbs) else none
  | .string _ => none

/-- `as? Float` -/
def asFloat : Scalar → Option SwiftFloat
  | .bool value => some (if value then ⟨.ofInt 1, by decide⟩ else 0)
  | .int value => exactly (.ofInt value)
  | .double value => exactly value
  | .string _ => none
where
  exactly (value : Dyadic) : Option SwiftFloat :=
    if single : isSingle value = true then some ⟨value, single⟩ else none

end Scalar

end MyFundi
