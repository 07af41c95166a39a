import Matchmaker.Json.Value
import Matchmaker.Decimal.Numeral
import Matchmaker.Text.Encoding

/-!
# Reading JSON

`Json.read` reads one JSON value from a text. Beside the standard's values it takes `NaN`,
`Infinity` and `-Infinity`. A fault carries the offset, in characters, of the place where reading
stopped: a missing value, name, colon or comma is reported where it should stand, an open text at
its opening quote, a control character and a bad escape where they stand, and what follows the
value where it begins. `Json.readWithin` reads values that are nested no deeper than a bound.

Readers of parts take the rest of the text with its offset and give back what they leave.
-/

namespace Matchmaker.Json

/-- Why a text is no JSON value. -/
inductive Fault where
  /-- The text departs from the grammar here. -/
  | malformed (offset : Nat)
  /-- A whole number has too many digits. -/
  | tooLong
  /-- A list or an object stands inside too many others. -/
  | tooDeep
  deriving DecidableEq, Repr

namespace Reader

open Text (Piece)

/-- What is left to read, and how much stands before it. -/
structure Rest where
  pieces : List Piece
  offset : Nat

/-- The rest without its first `n` characters. -/
def Rest.drop (r : Rest) (n : Nat) : Rest :=
  ⟨r.pieces.drop n, r.offset + n⟩

/-- The character that comes next. -/
def Rest.next? (r : Rest) : Option Char :=
  r.pieces.head?.bind Piece.char?

/-- White space between the parts of a value. -/
def isGap (x : Piece) : Bool :=
  x == .char ' ' || x == .char '\t' || x == .char '\n' || x == .char '\r'

/-- The rest after white space. -/
def Rest.skip (r : Rest) : Rest :=
  let kept := r.pieces.dropWhile isGap
  ⟨kept, r.offset + (r.pieces.length - kept.length)⟩

/-- The number that four hexadecimal digits write. -/
def hex4? (xs : List Piece) : Option Nat :=
  if xs.length < 4 then none
  else ((xs.take 4).mapM fun (x : Piece) => x.char?.bind Text.hexDigit?).map fun ds =>
    ds.foldl (fun n d => 16 * n + d) 0

/-- The character of a one-letter escape. -/
def escape? : Char → Option Char
  | '"' => some '"'
  | '\\' => some '\\'
  | '/' => some '/'
  | 'b' => some '\x08'
  | 'f' => some '\x0c'
  | 'n' => some '\n'
  | 'r' => some '\r'
  | 't' => some '\t'
  | _ => none

open Text.Encoding in
/-- A `\u` escape whose `u` has been read: what it stands for, and the count of characters it takes,
the second half of a pair included. `offset` is where the digits start. -/
def unicodeEscape (offset : Nat) (xs : List Piece) : Except Fault (Piece × Nat) :=
  if xs.length ≤ 4 then .error (.malformed (offset - 1))
  else match hex4? xs with
    | none => .error (.malformed (offset - 1))
    | some n =>
      match isHigh n, xs.drop 4 with
      | true, .char '\\' :: .char 'u' :: more =>
        if more.length ≤ 4 then .ok (ofUnit n, 4)
        else match hex4? more with
          | none => .error (.malformed (offset + 5))
          | some k => if isLow k then .ok (.char (ofPair n k), 10) else .ok (ofUnit n, 4)
      | _, _ => .ok (ofUnit n, 4)

/-- The characters of a text up to its closing quote. `start` is the offset of the opening quote,
`read` what stands before, last first. -/
def string (start : Nat) (fuel : Nat) (read : List Piece) (r : Rest) :
    Except Fault (Phrase × Rest) :=
  match fuel, r.pieces with
  | fuel + 1, .half n :: _ => string start fuel (.half n :: read) (r.drop 1)
  | fuel + 1, .char c :: xs =>
    if c == '"' then .ok (Phrase.ofPieces read.reverse, r.drop 1)
    else if c.toNat < 0x20 then .error (.malformed r.offset)
    else if c == '\\' then
      match xs with
      | [] => .error (.malformed start)
      | .char 'u' :: more =>
        match unicodeEscape (r.offset + 2) more with
        | .error e => .error e
        | .ok (x, taken) => string start fuel (x :: read) (r.drop (2 + taken))
      | x :: _ =>
        match x.char?.bind escape? with
        | some c => string start fuel (.char c :: read) (r.drop 2)
        | none => .error (.malformed r.offset)
    else string start fuel (.char c :: read) (r.drop 1)
  | _, _ => .error (.malformed start)

/-- One of the digits `0` to `9`. -/
def isDigit (x : Piece) : Bool :=
  (x.char?.bind Decimal.asciiDigit?).isSome

/-- The digits `0` to `9` at the start. -/
def digits (xs : List Piece) : List Char :=
  (xs.takeWhile isDigit).filterMap Piece.char?

/-- The number that digits write. -/
def natOf (ds : List Char) : Nat :=
  Decimal.value (ds.filterMap Decimal.asciiDigit?)

/-- The digits of a fraction, after a point that digits follow. -/
def fraction : List Piece → List Char
  | .char '.' :: xs => digits xs
  | _ => []

/-- Splits off the sign of an exponent; `true` stands for a minus. -/
def splitSign : List Piece → Bool × List Piece
  | .char '-' :: xs => (true, xs)
  | .char '+' :: xs => (false, xs)
  | xs => (false, xs)

/-- The exponent at the start, and the count of characters it takes; none takes none. -/
def exponent : List Piece → Option (Int × Nat)
  | x :: xs =>
    if x == .char 'e' || x == .char 'E' then
      let (negative, body) := splitSign xs
      let ds := digits body
      if ds.isEmpty then none
      else some (Decimal.withSign negative (natOf ds), 1 + (xs.length - body.length) + ds.length)
    else none
  | [] => none

/-- The number that a whole part, the digits of a fraction and an exponent make. -/
def numberOf (negative : Bool) (whole fraction : List Char) (power : Option Int) :
    Except Fault Value :=
  if fraction.isEmpty && power.isNone then
    if whole.length > Decimal.maxDigits then .error .tooLong
    else .ok (.int (Decimal.withSign negative (natOf whole)))
  else
    let magnitude := Decimal.nearestDouble (natOf (whole ++ fraction))
      (power.getD 0 - fraction.length)
    .ok (.real (if negative then -magnitude else magnitude))

/-- A number; `none` where none starts. -/
def number? (r : Rest) : Option (Except Fault (Value × Rest)) :=
  let negative := r.next? == some '-'
  let body := if negative then r.pieces.drop 1 else r.pieces
  let whole := if body.head? == some (.char '0') then ['0'] else digits body
  if whole.isEmpty then none
  else
    let signLength := if negative then 1 else 0
    let afterWhole := body.drop whole.length
    let fractionDigits := fraction afterWhole
    let fractionLength := if fractionDigits.isEmpty then 0 else fractionDigits.length + 1
    let power := exponent (afterWhole.drop fractionLength)
    let total := signLength + whole.length + fractionLength + (power.map Prod.snd).getD 0
    some ((numberOf negative whole fractionDigits (power.map Prod.fst)).map (·, r.drop total))

/-- The words that stand for a value. -/
def words : List (String × Value) :=
  [("null", .null), ("true", .bool true), ("false", .bool false), ("NaN", .real (0.0 / 0.0)),
    ("Infinity", .real (1.0 / 0.0)), ("-Infinity", .real (-1.0 / 0.0))]

/-- A word that stands for a value. -/
def word? (r : Rest) : Option (Value × Rest) :=
  words.findSome? fun (w, v) =>
    if (w.toList.map Piece.char).isPrefixOf r.pieces then some (v, r.drop w.length) else none

mutual

/-- A value that is nested no deeper than `deepest`. -/
def value (fuel deepest : Nat) (r : Rest) : Except Fault (Value × Rest) :=
  match fuel with
  | 0 => .error (.malformed r.offset)
  | fuel + 1 =>
    match r.next?, deepest with
    | some '"', _ =>
      match string r.offset r.pieces.length [] (r.drop 1) with
      | .ok (s, rest) => .ok (.str s, rest)
      | .error e => .error e
    | some '[', deepest + 1 =>
      let r := (r.drop 1).skip
      if r.next? == some ']' then .ok (.arr [], r.drop 1) else elements fuel deepest [] r
    | some '\x7b', deepest + 1 =>
      let r := (r.drop 1).skip
      if r.next? == some '\x7d' then .ok (.obj [], r.drop 1) else members fuel deepest [] r
    | some '[', 0 | some '\x7b', 0 => .error .tooDeep
    | _, _ =>
      match word? r with
      | some done => .ok done
      | none => (number? r).getD (.error (.malformed r.offset))

/-- The items of a list, with its closing bracket. -/
def elements (fuel deepest : Nat) (read : List Value) (r : Rest) : Except Fault (Value × Rest) :=
  match fuel with
  | 0 => .error (.malformed r.offset)
  | fuel + 1 =>
    match value fuel deepest r with
    | .error e => .error e
    | .ok (v, rest) =>
      let rest := rest.skip
      match rest.next? with
      | some ']' => .ok (.arr (v :: read).reverse, rest.drop 1)
      | some ',' => elements fuel deepest (v :: read) (rest.drop 1).skip
      | _ => .error (.malformed rest.offset)

/-- The members of an object, with its closing brace. -/
def members (fuel deepest : Nat) (read : Members) (r : Rest) : Except Fault (Value × Rest) :=
  match fuel with
  | 0 => .error (.malformed r.offset)
  | fuel + 1 =>
    if r.next? != some '"' then .error (.malformed r.offset)
    else match string r.offset r.pieces.length [] (r.drop 1) with
      | .error e => .error e
      | .ok (name, rest) =>
        let rest := rest.skip
        if rest.next? != some ':' then .error (.malformed rest.offset)
        else match value fuel deepest (rest.drop 1).skip with
          | .error e => .error e
          | .ok (v, rest) =>
            let rest := rest.skip
            let read := Members.put name v read
            match rest.next? with
            | some '\x7d' => .ok (.obj read, rest.drop 1)
            | some ',' => members fuel deepest read (rest.drop 1).skip
            | _ => .error (.malformed rest.offset)

end

end Reader

/-- Reads a text that holds one JSON value, nested no deeper than `deepest`, and white space around
it. -/
def readWithin (deepest : Nat) (xs : List Text.Piece) : Except Fault Value :=
  let start := (Reader.Rest.mk xs 0).skip
  match Reader.value (2 * xs.length + 2) deepest start with
  | .error e => .error e
  | .ok (v, rest) =>
    let rest := rest.skip
    if rest.pieces.isEmpty then .ok v else .error (.malformed rest.offset)

/-- Reads a text that holds one JSON value and white space around it. No text nests deeper than it
is long. -/
def read (s : String) : Except Fault Value :=
  readWithin s.length (s.toList.map .char)

end Matchmaker.Json
