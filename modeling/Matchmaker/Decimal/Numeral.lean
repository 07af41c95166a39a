import Matchmaker.Decimal.Digits
import Matchmaker.Decimal.Written
import Matchmaker.Text.Blank

/-!
# Numerals

How numbers are read from text, in two manners.

* **Argument numerals**, in command arguments and in the identity header: `integer?` and `real?`
  take digits of every script and single underscores between two digits.
* **Form numerals**, in settings, paths and request bodies: `formInteger` also takes a fraction of
  zeros and more zeros in front, and `formReal?` takes the digits `0` to `9`.

White space around a numeral is ignored in both, except around fractional form numerals that hold
underscores.
-/

namespace Matchmaker.Decimal

/-! ## Parts of a numeral -/

/-- Splits off a sign; `true` stands for a minus. -/
def splitSign : List Char → Bool × List Char
  | '-' :: cs => (true, cs)
  | '+' :: cs => (false, cs)
  | cs => (false, cs)

/-- Splits off a minus. -/
def splitMinus : List Char → Bool × List Char
  | '-' :: cs => (true, cs)
  | cs => (false, cs)

/-- A number with the sign that was split off. -/
def withSign (negative : Bool) (n : Nat) : Int :=
  if negative then -n else n

/-- Removes single underscores between two digits; `none` where an underscore stands elsewhere.
`afterDigit` says what the characters follow. -/
def joinDigits (isDigit : Char → Bool) (afterDigit : Bool) : List Char → Option (List Char)
  | [] => some []
  | '_' :: cs =>
    if afterDigit && (cs.head?.map isDigit).getD false then joinDigits isDigit false cs else none
  | c :: cs => (joinDigits isDigit (isDigit c) cs).map (c :: ·)

/-- The digits of a text that holds nothing else. -/
def allDigits (digit : Char → Option Nat) (cs : List Char) : Option (List Nat) :=
  if cs.isEmpty then none else cs.mapM digit

/-- The rest of a text after a zero and the character `last`, less zeros and underscores: from the
first digit or minus on, or from the character before a point; `none` where anything else comes
first. Of zeros and underscores alone the last one stays. -/
def afterZero (last : Char) : List Char → Option (List Char)
  | [] => some [last]
  | c :: cs =>
    if c == '0' || c == '_' then afterZero c cs
    else if ('1' ≤ c && c ≤ '9') || c == '-' then some (c :: cs)
    else if c == '.' then some (last :: c :: cs)
    else none

/-- A text without leading zeros; `none` where it does not start with a digit. -/
def dropLeadingZeros : List Char → Option (List Char)
  | [] => none
  | c :: cs =>
    if c == '0' then afterZero c cs
    else if '1' ≤ c && c ≤ '9' then some (c :: cs)
    else none

/-- A text without the first point and a fraction of zeros after it. -/
def dropZeroFraction (cs : List Char) : List Char :=
  let fraction := (cs.dropWhile (· != '.')).drop 1
  if !fraction.isEmpty && fraction.all (· == '0') then cs.takeWhile (· != '.') else cs

/-- A text with an underscore twice in a row. -/
def hasDoubleUnderscore : List Char → Bool
  | '_' :: '_' :: _ => true
  | _ :: cs => hasDoubleUnderscore cs
  | [] => false

/-- A text without its underscores, where it has none at its ends and none twice in a row. -/
def dropUnderscores (cs : List Char) : List Char :=
  if cs.head? == some '_' || cs.getLast? == some '_' || hasDoubleUnderscore cs then cs
  else cs.filter (· != '_')

/-! ## Whole numbers -/

/-- An argument numeral of a whole number. -/
def integer? (s : String) : Option Int :=
  let (negative, body) := splitSign (Text.trim Text.isSpace s.toList)
  match joinDigits (fun c => (digit? c).isSome) false body with
  | none => none
  | some digits =>
    if digits.length > maxDigits then none
    else (allDigits digit? digits).map fun ds => withSign negative (value ds)

/-- What is wrong with a form numeral of a whole number. -/
inductive IntegerFault where
  | malformed
  | tooLong
  deriving DecidableEq, Repr

/-- A form numeral cleaned of a plus, leading zeros, a fraction of zeros and underscores. A minus at
its start stays where it is. -/
def cleanInteger? (cs : List Char) : Option (List Char) :=
  let cleaned := fun (ds : List Char) =>
    (dropLeadingZeros ds).map fun t => dropUnderscores (dropZeroFraction t)
  match cs with
  | '+' :: '-' :: _ => none
  | '+' :: rest => cleaned rest
  | '-' :: rest => (cleaned rest).map ('-' :: ·)
  | _ => cleaned cs

/-- A minus, if any, and digits, the first of which is a zero only when it stands alone. What
follows too many digits is not looked at. -/
def cleanedInteger (cs : List Char) : Except IntegerFault Int :=
  let (negative, body) := splitMinus cs
  if body.head? == some '0' && body.length != 1 then .error .malformed
  else if maxDigits < (body.takeWhile fun c => (asciiDigit? c).isSome).length then .error .tooLong
  else match allDigits asciiDigit? body with
    | some ds => .ok (withSign negative (value ds))
    | none => .error .malformed

/-- A form numeral of a whole number. -/
def formInteger (s : String) : Except IntegerFault Int :=
  match cleanInteger? (Text.trim Text.isSpace s.toList) with
  | some cs => cleanedInteger cs
  | none => .error .malformed

/-! ## Fractional numbers -/

/-- Splits a text where the characters stop to be digits. -/
def spanDigits (digit : Char → Option Nat) (cs : List Char) : List Nat × List Char :=
  ((cs.takeWhile fun c => (digit c).isSome).filterMap digit,
    cs.dropWhile fun c => (digit c).isSome)

/-- The exponent at the end of a numeral; none at all is zero. -/
def exponent? (digit : Char → Option Nat) : List Char → Option Int
  | [] => some 0
  | c :: cs =>
    if c == 'e' || c == 'E' then
      let (negative, digits) := splitSign cs
      (allDigits digit digits).map fun ds => withSign negative (value ds)
    else none

/-- The double nearest to `digits · 10 ^ exponent`; beyond the range it is zero or infinite. -/
def nearestDouble (digits : Nat) (exponent : Int) : Float :=
  if digits == 0 then 0.0
  else
    let size : Int := (Nat.toDigits 10 digits).length + exponent
    if size > 400 then 1.0 / 0.0
    else if size < -400 then 0.0
    else match exponent with
      | .ofNat e => Float.ofScientific digits false e
      | .negSucc e => Float.ofScientific digits true (e + 1)

/-- An unsigned number with a point or an exponent, or neither. -/
def unsignedReal? (digit : Char → Option Nat) (cs : List Char) : Option Float :=
  let (whole, rest) := spanDigits digit cs
  let (fraction, rest) := match rest with
    | '.' :: cs => spanDigits digit cs
    | _ => ([], rest)
  if whole.isEmpty && fraction.isEmpty then none
  else (exponent? digit rest).map fun e =>
    nearestDouble (value (whole ++ fraction)) (e - fraction.length)

/-- A number, an infinity or a `nan`, with or without a sign. -/
def signedReal? (digit : Char → Option Nat) (cs : List Char) : Option Float :=
  let (negative, body) := splitSign cs
  let word := String.ofList (body.map Char.toLower)
  let magnitude :=
    if word == "inf" || word == "infinity" then some (1.0 / 0.0)
    else if word == "nan" then some (0.0 / 0.0)
    else unsignedReal? digit body
  magnitude.map fun x => if negative then -x else x

/-- An argument numeral of a fractional number. -/
def real? (s : String) : Option Float :=
  (joinDigits (fun c => (digit? c).isSome) false (Text.trim Text.isSpace s.toList)).bind
    (signedReal? digit?)

/-- A form numeral of a fractional number. Either white space surrounds it or underscores stand
inside. -/
def formReal? (s : String) : Option Float :=
  match signedReal? asciiDigit? (Text.trim Text.isSpace s.toList) with
  | some x => some x
  | none => signedReal? asciiDigit? (dropUnderscores s.toList)

end Matchmaker.Decimal
