import Matchmaker.Decimal.Quotient
import Matchmaker.Geo
import Matchmaker.Quantity
import Matchmaker.Seed.Draw

/-!
# Numbers of both kinds

Numbers that are whole stay exact as long as they meet whole numbers only. Where one meets a double,
or is divided, the result is a double, and a whole number beyond all doubles makes the computation
fail. Whole numbers and doubles are compared by their exact values.

* `Number`: a whole number, a double or a failed computation;
* `Number.ofValue`: the number that a JSON value is;
* `Number.double`: the double that stands for a number;
* `Number.order?`: how two numbers compare, if they do.
-/

namespace Matchmaker

/-- A number as a computation has it. -/
inductive Number where
  | whole (n : Int)
  | real (x : Float)
  /-- There is no number, for this reason. -/
  | failed (why : Fault)
  deriving Repr, Inhabited

namespace Number

/-- A double that whole numbers were rounded to, where they are not too large for it. -/
def bounded (x : Float) : Except Fault Float :=
  if x.isInf then .error .unstorable else .ok x

/-- The double that stands for a number. -/
def double : Number → Except Fault Float
  | whole n => bounded (Decimal.nearestWhole n)
  | real x => .ok x
  | failed why => .error why

/-- The number that the outcome of a computation in doubles is. -/
def ofOutcome : Except Fault Float → Number
  | .ok x => real x
  | .error why => failed why

/-! ## Operations -/

/-- A function of doubles. -/
def map (f : Float → Float) (x : Number) : Number :=
  ofOutcome do return f (← x.double)

/-- A function of two doubles. The first number that has none tells why there is no result. -/
def map₂ (f : Float → Float → Float) (x y : Number) : Number :=
  ofOutcome do
    let x ← x.double
    let y ← y.double
    return f x y

/-- The quotient of whole numbers, rounded once. -/
def quotient (m n : Int) : Number :=
  if n = 0 then failed .outsideDomain else ofOutcome (bounded (Decimal.nearestQuotient m n))

/-- The sum of two numbers. -/
def add : Number → Number → Number
  | whole m, whole n => whole (m + n)
  | x, y => map₂ (· + ·) x y

/-- The difference of two numbers. -/
def sub : Number → Number → Number
  | whole m, whole n => whole (m - n)
  | x, y => map₂ (· - ·) x y

/-- The product of two numbers. -/
def mul : Number → Number → Number
  | whole m, whole n => whole (m * n)
  | x, y => map₂ (· * ·) x y

/-- The quotient of two numbers. -/
def div : Number → Number → Number
  | whole m, whole n => quotient m n
  | x, y => map₂ (· / ·) x y

/-- A number with the other sign. -/
def neg : Number → Number
  | whole n => whole (-n)
  | x => map (- ·) x

/-! ## Order -/

/-- How a double compares with a whole number; a `nan` does not. -/
def orderWhole? (x : Float) (n : Int) : Option Ordering :=
  match Decimal.Binary.ofFloat x with
  | .nan => none
  | .infinite negative => some (if negative then .lt else .gt)
  | b => b.toRat?.map fun q => if q < (n : Rat) then .lt else if (n : Rat) < q then .gt else .eq

/-- How two doubles compare; a `nan` does not. -/
def orderReal? (x y : Float) : Option Ordering :=
  if x < y then some .lt else if y < x then some .gt else if x == y then some .eq else none

/-- How two numbers compare; what is no number does not. -/
def order? : Number → Number → Option Ordering
  | whole m, whole n => some (compare m n)
  | real x, whole n => orderWhole? x n
  | whole n, real x => (orderWhole? x n).map Ordering.swap
  | real x, real y => orderReal? x y
  | failed _, _ | _, failed _ => none

instance : LT Number := ⟨fun x y => x.order? y = some .lt⟩

instance : LE Number := ⟨fun x y => x.order? y = some .lt ∨ x.order? y = some .eq⟩

instance : Scalar Number where
  add := add
  sub := sub
  mul := mul
  div := div
  neg := neg
  ofScientific m s e := real (OfScientific.ofScientific m s e)
  ofInt := whole
  ofDouble := real
  fault?
    | failed why => some why
    | _ => none
  decLt x y := inferInstanceAs (Decidable (x.order? y = some .lt))
  decLe x y := inferInstanceAs (Decidable (x.order? y = some .lt ∨ x.order? y = some .eq))

instance : Trig Number where
  sqrt := map Float.sqrt
  sin := map Float.sin
  cos := map Float.cos
  asin := map Float.asin
  atan2 := map₂ Float.atan2
  pi := real Trig.pi
  isInfinite
    | real x => x.isInf
    | _ => false

instance : Sampling Number where
  truncate
    | whole n => .ok n
    | real x => wholePart x
    | failed why => .error why
  toDouble x := x.double.toOption.getD (0.0 / 0.0)

/-- The number that a JSON value is. -/
def ofValue (v : Json.Value) : Number :=
  match Quantity.ofValue? v with
  | some q => q.toScalar
  | none => failed .wrongType

end Number

end Matchmaker
