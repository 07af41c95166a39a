import Matchmaker.Decimal.Shortest
import Matchmaker.Decimal.Written
import Matchmaker.Text.Quoted

/-!
# JSON values

A JSON value tells whole numbers of any size from doubles. Its texts and the names in it may hold
halves of surrogate pairs, which escapes leave there. An object keeps its members in the order in
which their names first came.

* `Value.member?`, `Members.put`: look-up and update by name;
* `Value.strict`: a value without infinities;
* `Value.isEncodable`: an encoding can write the value;
* `Value.text`: a value as messages show it, where its whole numbers can be written out. A text
  stands for itself at the top and between quotes inside a list or an object.
-/

namespace Matchmaker.Json

/-- A JSON value. -/
inductive Value where
  | null
  | bool (b : Bool)
  | int (n : Int)
  | real (x : Float)
  | str (s : Phrase)
  | arr (items : List Value)
  | obj (members : List (Phrase × Value))
  deriving Repr, Inhabited

/-- The members of an object. -/
abbrev Members := List (Phrase × Value)

namespace Members

/-- The value under a name. -/
def find? (name : String) : Members → Option Value
  | [] => none
  | (key, v) :: rest => if key.is name then some v else find? name rest

/-- Sets the value under a name, at the place of the name's first member. -/
def put (name : Phrase) (v : Value) : Members → Members
  | [] => [(name, v)]
  | (key, w) :: rest => if key = name then (key, v) :: rest else (key, w) :: put name v rest

@[simp] theorem find?_nil (name : String) : find? name [] = none := rfl

end Members

namespace Value

/-- The member of an object under a name; other values have none. -/
def member? (name : String) : Value → Option Value
  | obj members => Members.find? name members
  | _ => none

/-- The member under a name, a null counting as none. -/
def given? (name : String) (v : Value) : Option Value :=
  match v.member? name with
  | some null => none
  | other => other

/-- The value of an optional text. -/
def ofText? : Option String → Value
  | some s => str s
  | none => null

/-- The value of an optional double. -/
def ofReal? : Option Float → Value
  | some x => real x
  | none => null

/-- A list of texts. -/
def ofTexts (ss : List Phrase) : Value :=
  arr (ss.map str)

/-- A list of texts without halves of surrogate pairs. -/
def ofStrings (ss : List String) : Value :=
  ofTexts (ss.map Phrase.plain)

/-- The text that a value is. -/
def text? : Value → Option Phrase
  | str s => some s
  | _ => none

theorem text?_eq_some_iff {v : Value} {s : Phrase} : v.text? = some s ↔ v = str s := by
  cases v <;> simp [text?]

/-- A missing value, or a list of texts. -/
def isTexts? : Option Value → Bool
  | none | some null => true
  | some (arr items) => items.all fun v => v.text?.isSome
  | _ => false

/-! ## Strict JSON -/

mutual

/-- A value as strict JSON has it, nulls in the place of infinities and what is no number. -/
def strict : Value → Value
  | real x => if x.isFinite then real x else null
  | arr items => arr (stricts items)
  | obj members => obj (memberStricts members)
  | v => v

/-- The items of a list as strict JSON has them. -/
def stricts : List Value → List Value
  | [] => []
  | v :: vs => strict v :: stricts vs

/-- The members of an object as strict JSON has them. -/
def memberStricts : List (Phrase × Value) → List (Phrase × Value)
  | [] => []
  | (key, v) :: rest => (key, strict v) :: memberStricts rest

end

/-! ## Encodings -/

mutual

/-- No text and no name in a value holds half of a surrogate pair. -/
def isEncodable : Value → Bool
  | str s => s.encoded.isSome
  | arr items => areEncodable items
  | obj members => memberAreEncodable members
  | _ => true

/-- The items of a list can all be encoded. -/
def areEncodable : List Value → Bool
  | [] => true
  | v :: vs => isEncodable v && areEncodable vs

/-- The members of an object can all be encoded. -/
def memberAreEncodable : List (Phrase × Value) → Bool
  | [] => true
  | (key, v) :: rest => key.encoded.isSome && isEncodable v && memberAreEncodable rest

end

/-! ## Spelling in messages -/

mutual

/-- A value inside a list or an object of a message. -/
def spelling : Value → Except Fault String
  | null => .ok "None"
  | bool true => .ok "True"
  | bool false => .ok "False"
  | int n => Decimal.written n
  | real x => .ok (Decimal.text x)
  | str s => .ok s.quoted
  | arr items => (spellings items).map fun ts => "[" ++ ", ".intercalate ts ++ "]"
  | obj members => (memberSpellings members).map fun ts => "\x7b" ++ ", ".intercalate ts ++ "\x7d"

/-- The items of a list of a message. -/
def spellings : List Value → Except Fault (List String)
  | [] => .ok []
  | v :: vs => do
    let t ← spelling v
    let ts ← spellings vs
    return t :: ts

/-- The members of an object of a message. -/
def memberSpellings : List (Phrase × Value) → Except Fault (List String)
  | [] => .ok []
  | (key, v) :: rest => do
    let t ← spelling v
    let ts ← memberSpellings rest
    return (key.quoted ++ ": " ++ t) :: ts

end

/-- A value as a message shows it. -/
def text : Value → Except Fault Phrase
  | str s => .ok s
  | v => v.spelling.map Phrase.plain

end Value

end Matchmaker.Json
