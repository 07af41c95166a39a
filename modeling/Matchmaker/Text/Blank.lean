/-!
# Blank characters

The characters that count as white space at the ends of a text, and trimming.

* `Text.isBlank`: what `Text.strip` removes, the four information separators U+001C to U+001F
  included;
* `Text.isSpace`: Unicode's `White_Space`, which leaves those four out and surrounds numerals;
* `Text.trim`: a list without its leading and trailing items of a class.
-/

namespace Matchmaker.Text

/-- The characters that `strip` removes. -/
def isBlank (c : Char) : Bool :=
  let n := c.toNat
  (9 ≤ n && n ≤ 13) || (28 ≤ n && n ≤ 32) || n == 0x85 || n == 0xA0 || n == 0x1680 ||
    (0x2000 ≤ n && n ≤ 0x200A) || n == 0x2028 || n == 0x2029 || n == 0x202F || n == 0x205F ||
    n == 0x3000

/-- Unicode's property `White_Space`. -/
def isSpace (c : Char) : Bool :=
  isBlank c && !(28 ≤ c.toNat && c.toNat ≤ 31)

/-- The items left after those of class `p` are taken off both ends. -/
def trim {α : Type} (p : α → Bool) (xs : List α) : List α :=
  ((xs.dropWhile p).reverse.dropWhile p).reverse

/-- A text without the blanks at its ends. -/
def strip (s : String) : String :=
  String.ofList (trim isBlank s.toList)

@[simp] theorem toList_strip (s : String) : (strip s).toList = trim isBlank s.toList := by
  simp [strip]

end Matchmaker.Text
