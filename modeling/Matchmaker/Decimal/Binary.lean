import Matchmaker.Decimal.Digits

/-!
# Doubles as exact numbers

`Binary.ofFloat` takes a double apart into sign, whole mantissa and power of two, so that all
further work on it is exact arithmetic on whole numbers.

* `Binary.whole?`: the whole number that a double is, if it is one;
* `Binary.truncate?`: its whole part, toward zero;
* `Binary.toRat?`: its exact value.
-/

namespace Matchmaker.Decimal

/-- What a double stands for. -/
inductive Binary where
  /-- Not a number. -/
  | nan
  /-- An infinity. -/
  | infinite (negative : Bool)
  /-- The number `± mantissa · 2 ^ exponent`. -/
  | finite (negative : Bool) (mantissa : Nat) (exponent : Int)
  deriving DecidableEq, Repr

namespace Binary

/-- The least mantissa of a double that is not subnormal, the 52nd power of two. -/
def leastNormal : Nat := 0x10000000000000

/-- The meaning of the 64 bits of a double. -/
def ofBits (bits : Nat) : Binary :=
  let negative := bits / 0x8000000000000000 % 2 == 1
  let biased : Nat := bits / leastNormal % 0x800
  let fraction : Nat := bits % leastNormal
  if biased == 0x7FF then (if fraction == 0 then infinite negative else nan)
  else if biased == 0 then finite negative fraction (-1074)
  else finite negative (leastNormal + fraction) ((biased : Int) - 1075)

/-- The meaning of a double. -/
def ofFloat (x : Float) : Binary :=
  ofBits x.toBits.toNat

/-- A whole number with a sign before it. -/
def signed (negative : Bool) (n : Nat) : Int :=
  if negative then -n else n

/-- The whole number that this is. -/
def whole? : Binary → Option Int
  | finite negative m (.ofNat e) => some (signed negative (m * twoTo e))
  | finite negative m (.negSucc e) =>
    if m % twoTo (e + 1) == 0 then some (signed negative (m / twoTo (e + 1))) else none
  | _ => none

/-- The whole part, toward zero. -/
def truncate? : Binary → Option Int
  | finite negative m (.ofNat e) => some (signed negative (m * twoTo e))
  | finite negative m (.negSucc e) => some (signed negative (m / twoTo (e + 1)))
  | _ => none

/-- The exact value. -/
def toRat? : Binary → Option Rat
  | finite negative m (.ofNat e) => some (signed negative (m * twoTo e) : Rat)
  | finite negative m (.negSucc e) => some (mkRat (signed negative m) (twoTo (e + 1)))
  | _ => none

end Binary

end Matchmaker.Decimal
