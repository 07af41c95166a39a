import Matchmaker.Decimal.Binary

/-!
# Numbers with a fixed count of decimal places

The exact value of a double, rounded to a number of decimal places; a half goes to the even
neighbour.

* `Decimal.roundDiv`: a quotient of whole numbers, rounded;
* `Decimal.fixed`: a double written with the given number of places;
* `Decimal.toPlaces`: the double nearest to the rounded value.
-/

namespace Matchmaker.Decimal

/-- The whole number nearest to `n / d`, the even one of two. -/
def roundDiv (n d : Nat) : Nat :=
  let q := n / d
  let twice := 2 * (n % d)
  if twice < d || (twice == d && q % 2 == 0) then q else q + 1

/-- The count of units of `10 ^ -places` nearest to `mantissa · 2 ^ exponent`. -/
def units (places mantissa : Nat) (exponent : Int) : Nat :=
  roundDiv (mantissa * twoTo exponent.toNat * tenTo places) (twoTo (-exponent).toNat)

/-- A number of units of `10 ^ -places`, written with that many places. -/
def unitsText (places n : Nat) : List Char :=
  let fraction := Nat.toDigits 10 (n % tenTo places)
  Nat.toDigits 10 (n / tenTo places) ++
    '.' :: (List.replicate (places - fraction.length) '0' ++ fraction)

/-- A double with the given number of places; what rounds to zero has no sign. -/
def fixed (places : Nat) (x : Float) : String :=
  match Binary.ofFloat x with
  | .nan => "nan"
  | .infinite negative => if negative then "-inf" else "inf"
  | .finite negative m e =>
    let n := units places m e
    String.ofList ((if negative && n != 0 then ['-'] else []) ++ unitsText places n)

/-- The double nearest to the value of `x` rounded to the given number of places. -/
def toPlaces (places : Nat) (x : Float) : Float :=
  match Binary.ofFloat x with
  | .finite negative m e =>
    let rounded := Float.ofScientific (units places m e) true places
    if negative then -rounded else rounded
  | _ => x

/-- Rounding is off by at most half a unit. -/
theorem roundDiv_near (n d : Nat) (hd : 0 < d) :
    2 * (roundDiv n d * d) ≤ 2 * n + d ∧ 2 * n ≤ 2 * (roundDiv n d * d) + d := by
  have h := Nat.div_add_mod n d
  have hr := Nat.mod_lt n hd
  have hc : n / d * d = d * (n / d) := Nat.mul_comm _ _
  unfold roundDiv
  simp only [Bool.or_eq_true, decide_eq_true_eq, Bool.and_eq_true, beq_iff_eq]
  split
  · rename_i hs
    omega
  · rename_i hs
    rw [Nat.add_mul, Nat.one_mul]
    omega

end Matchmaker.Decimal
