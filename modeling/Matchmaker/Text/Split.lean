/-!
# Cutting texts

* `Text.splitOn`: the parts of a text between separators;
* `Text.lines`: the lines of a text, at every character that ends one.
-/

namespace Matchmaker.Text

/-- The parts of a text between separators. -/
def splitOn (c : Char) : List Char → List (List Char)
  | [] => [[]]
  | d :: ds =>
    if d == c then [] :: splitOn c ds
    else match splitOn c ds with
      | part :: parts => (d :: part) :: parts
      | [] => [[d]]

/-- A character that ends a line: a line or form feed, a carriage return, the separators U+001C to
U+001E, and Unicode's next line, line separator and paragraph separator. -/
def endsLine (c : Char) : Bool :=
  let n := c.toNat
  (10 ≤ n && n ≤ 13) || (28 ≤ n && n ≤ 30) || n == 0x85 || n == 0x2028 || n == 0x2029

/-- The lines of a text whose last line has been begun with `line`, its characters in reverse. A
carriage return and a line feed end one line together. -/
def linesFrom (line : List Char) : List Char → List (List Char)
  | [] => if line.isEmpty then [] else [line.reverse]
  | '\r' :: '\n' :: cs => line.reverse :: linesFrom [] cs
  | c :: cs => if endsLine c then line.reverse :: linesFrom [] cs else linesFrom (c :: line) cs

/-- The lines of a text, without the characters that end them. -/
def lines (s : String) : List String :=
  (linesFrom [] s.toList).map String.ofList

theorem splitOn_ne_nil (c : Char) (cs : List Char) : splitOn c cs ≠ [] := by
  cases cs with
  | nil => simp [splitOn]
  | cons d ds =>
    rw [splitOn]
    split
    · simp
    · split <;> simp

/-- The separators are what stands between the parts. -/
theorem intercalate_splitOn (c : Char) (cs : List Char) :
    [c].intercalate (splitOn c cs) = cs := by
  induction cs with
  | nil => simp [splitOn]
  | cons d ds ih =>
    obtain ⟨part, parts, hs⟩ := List.exists_cons_of_ne_nil (splitOn_ne_nil c ds)
    rw [hs] at ih
    by_cases hd : d = c
    · simp [splitOn, hd, hs, List.intercalate_cons_cons, ih]
    · cases parts with
      | nil => simp_all [splitOn]
      | cons next rest => simp_all [splitOn, List.intercalate_cons_cons]

end Matchmaker.Text
