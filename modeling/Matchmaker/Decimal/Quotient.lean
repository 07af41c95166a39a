import Matchmaker.Decimal.Places

/-!
# The double nearest to a quotient

A quotient of whole numbers is rounded once, to the nearest double; a half goes to the even
neighbour.

* `Decimal.exponentOf`: the power of two just below a quotient;
* `Decimal.nearestQuotient`: the double nearest to it, an infinity where it is too large for any;
* `Decimal.nearestWhole`: the double nearest to a whole number.
-/

namespace Matchmaker.Decimal

/-- The greatest `e` for which `2 ^ e` does not exceed `n / d`, both above zero. -/
def exponentOf (n d : Nat) : Int :=
  let e : Int := (Nat.log2 n : Int) - Nat.log2 d
  if n * twoTo (-e).toNat < d * twoTo e.toNat then e - 1 else e

/-- The exponent of the last binary place of the doubles near `n / d`. -/
def lastPlace (n d : Nat) : Int :=
  max (exponentOf n d - 52) (-1074)

/-- The count of units of `2 ^ place` nearest to `n / d`. -/
def unitsOf (n d : Nat) (place : Int) : Nat :=
  roundDiv (n * twoTo (-place).toNat) (d * twoTo place.toNat)

/-- The bits of an infinity. -/
def infinityBits : Nat := 0x7FF0000000000000

/-- The bits of the double with the given count of units of `2 ^ place`. Where the count has all the
digits of a double, its first one adds to the exponent. -/
def bitsOf (units : Nat) (place : Int) : Nat :=
  min ((place + 1074).toNat * Binary.leastNormal + units) infinityBits

/-- The double nearest to `n / d`, for `d` above zero. -/
def nearestRatio (n d : Nat) : Float :=
  if n = 0 then 0.0
  else Float.ofBits (UInt64.ofNat (bitsOf (unitsOf n d (lastPlace n d)) (lastPlace n d)))

/-- The double nearest to `m / n`, for `n` other than zero. -/
def nearestQuotient (m n : Int) : Float :=
  let size := nearestRatio m.natAbs n.natAbs
  if decide (m < 0) != decide (n < 0) then -size else size

/-- The double nearest to a whole number. -/
def nearestWhole (n : Int) : Float :=
  nearestQuotient n 1

end Matchmaker.Decimal
