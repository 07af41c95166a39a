import Matchmaker.Json.Value

/-!
# Writing JSON

`Value.render` writes a JSON value on one line, members in their order. What JSON cannot hold as it
stands, a quote, a backslash, a control character or half of a surrogate pair, is escaped; a `nan`
and the infinities are the words `NaN`, `Infinity` and `-Infinity`, which `Json.read` takes.
-/

namespace Matchmaker.Json

/-- A character inside a JSON text. -/
def escaped (c : Char) : List Char :=
  if c == '"' || c == '\\' then ['\\', c]
  else if c.toNat < 0x20 then '\\' :: 'u' :: Text.hexDigits 4 c.toNat
  else [c]

/-- A part of a text inside a JSON text. -/
def escapedPiece : Text.Piece → List Char
  | .char c => escaped c
  | x => '\\' :: 'u' :: Text.hexDigits 4 x.code

/-- A JSON text. -/
def renderText (s : Phrase) : String :=
  String.ofList ('"' :: s.pieces.flatMap escapedPiece ++ ['"'])

/-- A double in JSON. -/
def renderReal (x : Float) : String :=
  match Decimal.Binary.ofFloat x with
  | .nan => "NaN"
  | .infinite negative => if negative then "-Infinity" else "Infinity"
  | .finite _ _ _ => Decimal.text x

namespace Value

mutual

/-- A value as JSON. -/
def render : Value → String
  | null => "null"
  | bool true => "true"
  | bool false => "false"
  | int n => toString n
  | real x => renderReal x
  | str s => renderText s
  | arr items => "[" ++ ",".intercalate (renders items) ++ "]"
  | obj members => "\x7b" ++ ",".intercalate (memberRenders members) ++ "\x7d"

/-- The items of a list as JSON. -/
def renders : List Value → List String
  | [] => []
  | v :: vs => render v :: renders vs

/-- The members of an object as JSON. -/
def memberRenders : List (Phrase × Value) → List String
  | [] => []
  | (key, v) :: rest => (renderText key ++ ":" ++ render v) :: memberRenders rest

end

end Value

end Matchmaker.Json
