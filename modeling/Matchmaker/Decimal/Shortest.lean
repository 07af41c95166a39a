import Matchmaker.Decimal.Binary

/-!
# The shortest decimal form of a double

A double is written with the fewest significant digits that read back as the same double, and of
these with the digits nearest to it.

* `Decimal.Grid`: a multiple of a power of ten;
* `Decimal.shortest`: the chosen multiple, found by trying one digit, then two, up to seventeen;
* `Decimal.text`: its spelling, positional from `1e-4` up to below `1e16` and with an exponent of
  two or more digits elsewhere.
-/

namespace Matchmaker.Decimal

/-- The number `digits · 10 ^ exponent`. -/
structure Grid where
  digits : Nat
  exponent : Int
  deriving DecidableEq, Repr

/-- Positive numbers `lower < value < upper` over one denominator; the two bounds belong to the
interval when `closed`. -/
structure Interval where
  lower : Nat
  value : Nat
  upper : Nat
  denominator : Nat
  closed : Bool

/-- The numbers that read back as `mantissa · 2 ^ exponent`, which lie between the midpoints to its
two neighbours. Below a power of two the neighbour is twice as near. -/
def Interval.of (mantissa : Nat) (exponent : Int) : Interval :=
  let up := twoTo exponent.toNat
  let below := if mantissa == Binary.leastNormal && exponent > -1074 then 1 else 2
  { lower := (4 * mantissa - below) * up
    value := 4 * mantissa * up
    upper := (4 * mantissa + 2) * up
    denominator := 4 * twoTo (-exponent).toNat
    closed := mantissa % 2 == 0 }

/-- The multiples of `10 ^ exponent`, as an interval measured in units of that power. -/
def Interval.scale (i : Interval) (exponent : Int) : Interval :=
  let up := tenTo (-exponent).toNat
  { lower := i.lower * up
    value := i.value * up
    upper := i.upper * up
    denominator := i.denominator * tenTo exponent.toNat
    closed := i.closed }

/-- The whole number `n` lies in the interval. -/
def Interval.holds (i : Interval) (n : Nat) : Bool :=
  let x := n * i.denominator
  if i.closed then i.lower ≤ x && x ≤ i.upper else i.lower < x && x < i.upper

/-- The whole number in the interval that is nearest to its value, an even one on a tie. -/
def Interval.nearest? (i : Interval) : Option Nat :=
  let below := i.value / i.denominator
  let above := below + 1
  match i.holds below, i.holds above with
  | true, true =>
    let left := i.value - below * i.denominator
    let right := above * i.denominator - i.value
    some (if left < right || (left == right && below % 2 == 0) then below else above)
  | true, false => some below
  | false, true => some above
  | false, false => none

/-- The number of decimal digits of `n`; none for zero. -/
def digitCount : Nat → Nat
  | 0 => 0
  | n + 1 => digitCount ((n + 1) / 10) + 1
  decreasing_by omega

/-- The power of ten of the leading digit of a positive number. -/
def Interval.magnitude (i : Interval) : Int :=
  let whole := i.value / i.denominator
  if whole > 0 then (digitCount whole : Int) - 1
  else (digitCount (i.value * tenTo 400 / i.denominator) : Int) - 401

/-- The first grid with a point in the interval, `left` grids being still untried. -/
def Interval.search (i : Interval) (top : Int) : (left : Nat) → Grid
  | 0 => ⟨0, 0⟩
  | left + 1 =>
    let exponent := top - (16 - left)
    match (i.scale exponent).nearest? with
    | some n => ⟨n, exponent⟩
    | none => i.search top left

/-- The shortest multiple of a power of ten that reads back as `mantissa · 2 ^ exponent`. -/
def shortest (mantissa : Nat) (exponent : Int) : Grid :=
  if mantissa == 0 then ⟨0, 0⟩
  else
    let i := Interval.of mantissa exponent
    i.search i.magnitude 17

/-- The digits without the zeros at their end, and their number. -/
def dropZeros (digits : List Char) : List Char :=
  (digits.reverse.dropWhile (· == '0')).reverse

/-- The exponent of a number in exponent form: a sign and at least two digits. -/
def exponentText (e : Int) : List Char :=
  let digits := Nat.toDigits 10 e.natAbs
  (if e < 0 then '-' else '+') :: (if digits.length < 2 then '0' :: digits else digits)

/-- The spelling of a positive number. -/
def Grid.text (g : Grid) : List Char :=
  let all := Nat.toDigits 10 g.digits
  let point : Int := all.length + g.exponent
  let digits := dropZeros all
  let n : Int := digits.length
  if point ≤ -4 || point > 16 then
    let tail := digits.drop 1
    digits.take 1 ++ (if tail.isEmpty then [] else '.' :: tail) ++ 'e' :: exponentText (point - 1)
  else if point ≤ 0 then
    '0' :: '.' :: List.replicate (-point).toNat '0' ++ digits
  else if n ≤ point then
    digits ++ List.replicate (point - n).toNat '0' ++ ['.', '0']
  else
    digits.take point.toNat ++ '.' :: digits.drop point.toNat

/-- The spelling of a double. -/
def Binary.text : Binary → List Char
  | .nan => ['n', 'a', 'n']
  | .infinite negative => (if negative then ['-'] else []) ++ ['i', 'n', 'f']
  | .finite negative m e =>
    (if negative then ['-'] else []) ++
      (if m == 0 then ['0', '.', '0'] else (shortest m e).text)

/-- The spelling of a double, by the fewest digits that read back as it. -/
def text (x : Float) : String :=
  String.ofList (Binary.ofFloat x).text

end Matchmaker.Decimal
