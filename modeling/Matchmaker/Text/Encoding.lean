import Matchmaker.Text.Phrase
import Matchmaker.Text.Utf8

/-!
# Encodings

Bytes whose encoding is not stated. JSON starts with an ASCII character, so that the zeros among the
first bytes tell the width of its units and the order of their bytes. Half of a surrogate pair among
the units stands for itself.

* `Encoding.detect`: the encoding that the first bytes tell;
* `Encoding.decode?`: the parts of a text in bytes, when they make whole ones;
* `Encoding.decodeDetected?`: the two together, less a byte order mark.
-/

namespace Matchmaker.Text

/-- How characters are written as bytes. -/
inductive Encoding where
  | utf8
  /-- Units of two bytes, the high one first or last. -/
  | utf16 (highFirst : Bool)
  /-- Units of four bytes, the highest first or last. -/
  | utf32 (highFirst : Bool)
  deriving DecidableEq, Repr

namespace Encoding

/-- The encoding that the first bytes tell. -/
def detect : List Nat → Encoding
  | [a, b] => if a == 0 then utf16 true else if b == 0 then utf16 false else utf8
  | a :: b :: c :: d :: _ =>
    if a == 0 then (if b == 0 then utf32 true else utf16 true)
    else if b == 0 then (if c == 0 && d == 0 then utf32 false else utf16 false)
    else utf8
  | _ => utf8

/-- Bytes in groups of two. -/
def pairs? : List Nat → Option (List (Nat × Nat))
  | [] => some []
  | [_] => none
  | a :: b :: bs => (pairs? bs).map ((a, b) :: ·)

/-- The number of two digits, the high one first or last. -/
def joined (base : Nat) (highFirst : Bool) (p : Nat × Nat) : Nat :=
  if highFirst then p.1 * base + p.2 else p.2 * base + p.1

/-- The two-byte units of bytes. -/
def units16? (highFirst : Bool) (bytes : List Nat) : Option (List Nat) :=
  (pairs? bytes).map fun ps => ps.map (joined 0x100 highFirst)

/-- The four-byte units of bytes. -/
def units32? (highFirst : Bool) (bytes : List Nat) : Option (List Nat) :=
  ((units16? highFirst bytes).bind pairs?).map fun ps => ps.map (joined 0x10000 highFirst)

/-- A unit is the first half of a surrogate pair. -/
def isHigh (n : Nat) : Bool := 0xD800 ≤ n && n < 0xDC00

/-- A unit is the second half of a surrogate pair. -/
def isLow (n : Nat) : Bool := 0xDC00 ≤ n && n < 0xE000

/-- The character of a surrogate pair. -/
def ofPair (high low : Nat) : Char :=
  Char.ofNat (0x10000 + (high - 0xD800) * 0x400 + (low - 0xDC00))

/-- What a unit stands for that is not part of a pair. -/
def ofUnit (n : Nat) : Piece :=
  if isHigh n || isLow n then .half (Fin.ofNat 0x800 (n - 0xD800)) else .char (Char.ofNat n)

/-- What two-byte units stand for. -/
def ofUnits16 : List Nat → List Piece
  | m :: n :: ns =>
    if isHigh m && isLow n then .char (ofPair m n) :: ofUnits16 ns
    else ofUnit m :: ofUnits16 (n :: ns)
  | [n] => [ofUnit n]
  | [] => []

/-- What four-byte units stand for, when all stand for something. -/
def ofUnits32? (ns : List Nat) : Option (List Piece) :=
  if ns.all (· < 0x110000) then some (ns.map ofUnit) else none

/-- The parts of a text in bytes, when they make whole ones. -/
def decode? (bytes : List Nat) : Encoding → Option (List Piece)
  | utf8 => some ((Utf8.decode bytes).map .char)
  | utf16 highFirst => (units16? highFirst bytes).map ofUnits16
  | utf32 highFirst => (units32? highFirst bytes).bind ofUnits32?

/-- The parts of a text in bytes in the encoding that the first of them tell, less a byte order mark
in UTF-8. -/
def decodeDetected? (bytes : List Nat) : Option (List Piece) :=
  let xs := (detect bytes).decode? bytes
  if bytes.take 3 == [0xEF, 0xBB, 0xBF] then xs.map (List.drop 1) else xs

end Encoding

end Matchmaker.Text
