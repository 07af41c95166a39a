import Matchmaker.Text.Phrase
import Matchmaker.Text.Printable

/-!
# Quoted text

A text between quotes, as messages show it: single quotes unless the text holds one and no double
quote, a backslash before the quote in use and before a backslash, letters for tab, line feed and
carriage return, and hexadecimal escapes of two, four or eight digits for all else that has no
printed form, halves of surrogate pairs among it.
-/

namespace Matchmaker

namespace Text

/-- The last `width` hexadecimal digits of `n`, in lower case. -/
def hexDigits : (width : Nat) → (n : Nat) → List Char
  | 0, _ => []
  | width + 1, n => hexDigits width (n / 16) ++ [Nat.digitChar (n % 16)]

/-- The value of a hexadecimal digit. -/
def hexDigit? (c : Char) : Option Nat :=
  if '0' ≤ c && c ≤ '9' then some (c.toNat - 48)
  else if 'a' ≤ c && c ≤ 'f' then some (c.toNat - 87)
  else if 'A' ≤ c && c ≤ 'F' then some (c.toNat - 55)
  else none

/-- A character inside quotes of the given kind. -/
def quotedChar (quote c : Char) : List Char :=
  if c == quote || c == '\\' then ['\\', c]
  else if c == '\t' then ['\\', 't']
  else if c == '\n' then ['\\', 'n']
  else if c == '\r' then ['\\', 'r']
  else if isPrintable c then [c]
  else if c.toNat < 0x100 then '\\' :: 'x' :: hexDigits 2 c.toNat
  else if c.toNat < 0x10000 then '\\' :: 'u' :: hexDigits 4 c.toNat
  else '\\' :: 'U' :: hexDigits 8 c.toNat

/-- The quote that a text is shown in. -/
def quoteFor (cs : List Char) : Char :=
  if cs.contains '\'' && !cs.contains '"' then '"' else '\''

/-- A text as messages show it, between quotes. -/
def quoted (s : String) : String :=
  let quote := quoteFor s.toList
  String.ofList (quote :: s.toList.flatMap (quotedChar quote) ++ [quote])

/-- A part of a text inside quotes of the given kind. -/
def quotedPiece (quote : Char) (x : Piece) : List Char :=
  match x with
  | .char c => quotedChar quote c
  | .half _ => '\\' :: 'u' :: hexDigits 4 x.code

end Text

/-- A text as messages show it, between quotes. -/
def Phrase.quoted : Phrase → String
  | plain s => Text.quoted s
  | halved t =>
    let quote := Text.quoteFor (t.pieces.filterMap Text.Piece.char?)
    String.ofList (quote :: t.pieces.flatMap (Text.quotedPiece quote) ++ [quote])

end Matchmaker
