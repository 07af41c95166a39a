import Matchmaker.Text.CaseTable

/-!
# Lower case

Full lower-casing of a text. Every character has a lower-case form of its own except two: `İ`
becomes `i` and a combining dot, and a capital sigma becomes the final `ς` after a cased character
and before none, case-ignorable characters between them left out of account, and `σ` elsewhere.

* `Text.lower`: the text in lower case.
-/

namespace Matchmaker.Text

/-- A character with letter case that no neighbour looks past. -/
def isCased (c : Char) : Bool :=
  CaseTable.covers c.toNat CaseTable.cased

/-- A character that its neighbours look past. -/
def isCaseIgnorable (c : Char) : Bool :=
  CaseTable.covers c.toNat CaseTable.ignorable

/-- The lower-case form of a character, wherever it stands. -/
def lowerChar (c : Char) : List Char :=
  if c.toNat < 0x80 then [c.toLower]
  else if c.toNat == 0x130 then ['i', '\u0307']
  else match CaseTable.find? c.toNat CaseTable.lower with
    | some n => [Char.ofNat n]
    | none => [c]

/-- The first character that is not case-ignorable is cased. -/
def startsCased (cs : List Char) : Bool :=
  match cs.dropWhile isCaseIgnorable with
  | [] => false
  | c :: _ => isCased c

/-- Lower case for characters that stand after a cased one, or not. -/
def lowerFrom (afterCased : Bool) : List Char → List Char
  | [] => []
  | c :: cs =>
    let rest := lowerFrom (if isCaseIgnorable c then afterCased else isCased c) cs
    if c == 'Σ' then (if afterCased && !startsCased cs then 'ς' else 'σ') :: rest
    else lowerChar c ++ rest

/-- A text in lower case. -/
def lower (s : String) : String :=
  String.ofList (lowerFrom false s.toList)

@[simp] theorem toList_lower (s : String) : (lower s).toList = lowerFrom false s.toList := by
  simp [lower]

end Matchmaker.Text
