import Matchmaker.Fault

/-!
# Whole numbers in text

A whole number is read from text and written to it only up to a greatest number of digits, its sign
not counted. What is longer can be reckoned with but not be shown.

* `Decimal.maxDigits`: the greatest number of digits;
* `Decimal.isLong`, `Decimal.written`: whether a number has more, and its text where it has not.
-/

namespace Matchmaker.Decimal

/-- The greatest number of digits of a whole number in text. -/
def maxDigits : Nat := 4300

/-- A whole number with more digits than are read or written. -/
def isLong (n : Int) : Bool :=
  maxDigits < (toString n.natAbs).length

/-- The text of a whole number. -/
def written (n : Int) : Except Fault String :=
  if isLong n then .error .tooLong else .ok (toString n)

end Matchmaker.Decimal
