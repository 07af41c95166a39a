import Matchmaker.Text.Quoted
import Matchmaker.Text.Utf8

/-!
# Percent escapes

Characters of a URL that have no place where they stand are written by their bytes, each as a
percent sign and two hexadecimal digits.

* `Percent.decode`: a text with its escapes read;
* `Percent.encode`: a text with an escape for each character that is not plain.
-/

namespace Matchmaker.Text.Percent

/-- The bytes of a text, percent escapes decoded; a percent sign without two digits stands for
itself. -/
def decodeBytes : List Char → List Nat
  | '%' :: a :: b :: cs =>
    match hexDigit? a, hexDigit? b with
    | some m, some n => (16 * m + n) :: decodeBytes cs
    | _, _ => 0x25 :: decodeBytes (a :: b :: cs)
  | c :: cs => Utf8.encodeChar c ++ decodeBytes cs
  | [] => []

/-- A text with its escapes read. -/
def decode (cs : List Char) : List Char :=
  Utf8.decode (decodeBytes cs)

/-- The characters that need no escape anywhere. -/
def isUnreserved (c : Char) : Bool :=
  ('a' ≤ c && c ≤ 'z') || ('A' ≤ c && c ≤ 'Z') || ('0' ≤ c && c ≤ '9') || "_.-~".toList.contains c

/-- A byte as an escape. -/
def escapeByte (b : Nat) : List Char :=
  '%' :: (hexDigits 2 b).map Char.toUpper

/-- A text with an escape for each character that is not plain. -/
def encode (isPlain : Char → Bool) (cs : List Char) : List Char :=
  cs.flatMap fun c => if isPlain c then [c] else (Utf8.encodeChar c).flatMap escapeByte

end Matchmaker.Text.Percent
