/-!
# UTF-8

Bytes as text. A byte that cannot stand where it does ends the character before it; what is no
character is shown as U+FFFD, once for each longest start of a character and for each byte that
starts none.

* `Utf8.decode`: the text of bytes;
* `Utf8.encode`: the bytes of a text.
-/

namespace Matchmaker.Text.Utf8

/-- A character whose first bytes have been read: their bits, the number of bytes to come, and the
bounds of the next one. -/
structure Partial where
  bits : Nat
  left : Nat
  low : Nat
  high : Nat

/-- The character that stands for what is none. -/
def replacement : Char := '\uFFFD'

/-- What a byte starts: a character of its own, a longer one, or none. -/
def lead (b : Nat) : List Char × Option Partial :=
  if b < 0x80 then ([Char.ofNat b], none)
  else if 0xC2 ≤ b && b ≤ 0xDF then ([], some ⟨b - 0xC0, 1, 0x80, 0xBF⟩)
  else if b == 0xE0 then ([], some ⟨0, 2, 0xA0, 0xBF⟩)
  else if b == 0xED then ([], some ⟨0xD, 2, 0x80, 0x9F⟩)
  else if 0xE1 ≤ b && b ≤ 0xEF then ([], some ⟨b - 0xE0, 2, 0x80, 0xBF⟩)
  else if b == 0xF0 then ([], some ⟨0, 3, 0x90, 0xBF⟩)
  else if 0xF1 ≤ b && b ≤ 0xF3 then ([], some ⟨b - 0xF0, 3, 0x80, 0xBF⟩)
  else if b == 0xF4 then ([], some ⟨4, 3, 0x80, 0x8F⟩)
  else ([replacement], none)

/-- What a byte adds after those that have been read. -/
def next (p : Option Partial) (b : Nat) : List Char × Option Partial :=
  match p with
  | none => lead b
  | some p =>
    if p.low ≤ b && b ≤ p.high then
      let bits := p.bits * 64 + (b - 0x80)
      if p.left == 1 then ([Char.ofNat bits], none)
      else ([], some ⟨bits, p.left - 1, 0x80, 0xBF⟩)
    else
      let (cs, q) := lead b
      (replacement :: cs, q)

/-- The characters of bytes after those that have been read. -/
def decodeFrom (p : Option Partial) : List Nat → List Char
  | [] => if p.isSome then [replacement] else []
  | b :: bs =>
    let (cs, q) := next p b
    cs ++ decodeFrom q bs

/-- The characters of bytes. -/
def decode (bytes : List Nat) : List Char :=
  decodeFrom none bytes

/-- The bytes of a character. -/
def encodeChar (c : Char) : List Nat :=
  (String.singleton c).toUTF8.toList.map UInt8.toNat

/-- The bytes of characters. -/
def encode (cs : List Char) : List Nat :=
  cs.flatMap encodeChar

end Matchmaker.Text.Utf8
