import Matchmaker.Json.Value
import Matchmaker.Scalar

/-!
# Quantities

A number as a payload gives it: a whole number of any size, a double, or a flag that counts as one
or zero. It keeps its form, so that a message and an answer show what was given.

* `Quantity.ofValue?`: the quantity that a JSON value is;
* `Quantity.text`: what messages show of it, where it can be written out;
* `Quantity.within`: it lies between `-bound` and `bound`, which no `nan` does;
* `Quantity.isNegative`, `Quantity.isPositive`: it lies below or above zero, which no `nan` does;
* `Quantity.toScalar`: the number that it is.
-/

namespace Matchmaker

/-- A number as it was given. -/
inductive Quantity where
  | flag (b : Bool)
  | whole (n : Int)
  | real (x : Float)
  deriving Repr, Inhabited

namespace Quantity

open Json (Value)

/-- The quantity that a JSON value is. -/
def ofValue? : Value → Option Quantity
  | .bool b => some (flag b)
  | .int n => some (whole n)
  | .real x => some (real x)
  | _ => none

/-- The JSON value of a quantity. -/
def toValue : Quantity → Value
  | flag b => .bool b
  | whole n => .int n
  | real x => .real x

/-- The number that a quantity is. -/
def toScalar {α : Type} [Scalar α] : Quantity → α
  | flag b => Scalar.ofInt (if b then 1 else 0)
  | whole n => Scalar.ofInt n
  | real x => Scalar.ofDouble x

/-- A quantity as messages show it. -/
def text (q : Quantity) : Except Fault String :=
  q.toValue.spelling

/-- The whole number that a quantity is, flags apart. -/
def whole? : Quantity → Option Int
  | flag _ => none
  | whole n => some n
  | real x => (Decimal.Binary.ofFloat x).whole?

/-- A quantity from `-bound` to `bound`. -/
def within (bound : Nat) : Quantity → Bool
  | flag _ => 1 ≤ bound
  | whole n => -(bound : Int) ≤ n && n ≤ bound
  | real x => -(Float.ofNat bound) ≤ x && x ≤ Float.ofNat bound

/-- A quantity below zero. -/
def isNegative : Quantity → Bool
  | flag _ => false
  | whole n => n < 0
  | real x => x < 0.0

/-- A quantity above zero. -/
def isPositive : Quantity → Bool
  | flag b => b
  | whole n => 0 < n
  | real x => 0.0 < x

/-- A quantity equal to zero. -/
def isZero : Quantity → Bool
  | flag b => !b
  | whole n => n == 0
  | real x => x == 0.0

@[simp] theorem ofValue?_toValue (q : Quantity) : ofValue? q.toValue = some q := by
  cases q <;> rfl

end Quantity

end Matchmaker
