import Matchmaker.Fault

/-!
# Scalars

Scores, distances and shares are computed in a number type that the definitions leave open:
`Scalar α` gathers the operations they use. The program runs on doubles, and on numbers that keep
whole ones exact where they are given as such; the laws of an ordered field are had by reading the
same definitions over the rationals or the reals.

* `Scalar`: the four operations, the order, whole numbers, doubles and decimal literals;
* `Scalar.settled`: a number that was computed without a fault;
* `Scalar.least`, `Scalar.greatest`: the smaller and the greater of two, the first when the order
  decides nothing.
-/

namespace Matchmaker

/-- The numbers that scores are computed in. -/
class Scalar (α : Type) extends Add α, Sub α, Mul α, Div α, Neg α, OfScientific α, LT α, LE α where
  /-- The number that a whole number is. -/
  ofInt : Int → α
  /-- The number that a double is, if it is one. -/
  ofDouble : Float → α
  /-- Why a number could not be computed, if so. -/
  fault? : α → Option Fault := fun _ => none
  /-- The strict order can be decided. -/
  decLt : DecidableLT α
  /-- The order can be decided. -/
  decLe : DecidableLE α

attribute [reducible, instance] Scalar.decLt Scalar.decLe

namespace Scalar

variable {α : Type} [Scalar α]

/-- A number that was computed, or why it was not. -/
def settled (x : α) : Except Fault α :=
  match fault? x with
  | some why => .error why
  | none => .ok x

/-- A number that is neither below nor above zero. -/
def isZero (x : α) : Bool :=
  decide (x ≤ 0.0) && decide (0.0 ≤ x)

/-- The smaller of two numbers, `x` unless `y` lies below it. -/
def least (x y : α) : α :=
  if y < x then y else x

/-- The greater of two numbers, `x` unless `y` lies above it. -/
def greatest (x y : α) : α :=
  if x < y then y else x

/-- The sum of numbers, from the left. -/
def sum (xs : List α) : α :=
  xs.foldl (· + ·) 0.0

end Scalar

instance : Scalar Float where
  ofInt := Float.ofInt
  ofDouble x := x
  decLt := inferInstance
  decLe := inferInstance

end Matchmaker
