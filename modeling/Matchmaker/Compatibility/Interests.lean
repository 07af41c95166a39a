import Matchmaker.Tally
import Matchmaker.Taxonomy
import Matchmaker.Text.Blank
import Matchmaker.Text.Lower
import Matchmaker.Json.Value

/-!
# Shared interests

Two lists of interests are compared as sets of items in lower case without blanks at their ends. An
item in both counts 3, every pair of different items with a group in common counts 1, and 5 are
added when more than half of all items are in both.

* `Interests.normalise`: the set of items of a list;
* `Interests.score`: the points for two lists;
* `Interests.ofColumn`: the items that a profile stores.
-/

namespace Matchmaker

/-- The items of a list without repetitions, each at its first place. -/
def distinct {α : Type} [BEq α] : List α → List α
  | [] => []
  | x :: xs => x :: (distinct xs).filter (fun y => !(y == x))

theorem mem_distinct {α : Type} [BEq α] [LawfulBEq α] {y : α} {xs : List α} :
    y ∈ distinct xs ↔ y ∈ xs := by
  induction xs with
  | nil => simp [distinct]
  | cons x xs ih =>
    by_cases h : y = x
    · simp [distinct, h]
    · simp [distinct, ih, h]

theorem nodup_distinct {α : Type} [BEq α] [LawfulBEq α] (xs : List α) : (distinct xs).Nodup := by
  induction xs with
  | nil => simp [distinct]
  | cons x xs ih =>
    rw [distinct, List.nodup_cons]
    exact ⟨by simp, ih.filter _⟩

namespace Interests

/-- Points for an item in both lists. -/
def exactPoints : Nat := 3

/-- Points for two different items with a group in common. -/
def relatedPoints : Nat := 1

/-- Points for lists that agree in more than half of their items. -/
def overlapPoints : Nat := 5

/-- An item as it is compared. -/
def normal (item : String) : String :=
  Text.lower (Text.strip item)

/-- The items of a list as they are compared, each once and blank ones left out. -/
def normalise (items : List String) : List String :=
  distinct ((items.map normal).filter (· ≠ ""))

/-- Different items with a group in common. -/
def related (x y : String) : Bool :=
  x != y && Taxonomy.interests.share x y

/-- The points for two sets of items. -/
def scoreSets (mine theirs : List String) : Nat :=
  if mine.isEmpty || theirs.isEmpty then 0
  else
    let exact := mine.filter theirs.contains
    let pairs := tally (fun x => theirs.countP (related x)) mine
    let union := mine.length + theirs.length - exact.length
    exactPoints * exact.length + relatedPoints * pairs +
      if 2 * exact.length > union then overlapPoints else 0

/-- The points for two lists of interests. -/
def score (mine theirs : List String) : Nat :=
  scoreSets (normalise mine) (normalise theirs)

/-- An item of a list as it is compared: what is no text is taken by its spelling, and a half of a
surrogate pair by characters that stand for nothing else. -/
def ofItem (v : Json.Value) : Option String :=
  v.text.toOption.map Phrase.standIn

/-- The items of a stored value: those of a list, the characters of a text, or the names in an
object. Other values have none. -/
def ofValue : Json.Value → List String
  | .arr items => items.filterMap ofItem
  | .str s => s.pieces.map fun x => (Phrase.ofPieces [x]).standIn
  | .obj members => members.map fun m => m.1.standIn
  | _ => []

/-- The items of a column. -/
def ofColumn (column : Option Json.Value) : List String :=
  (column.map ofValue).getD []

/-- A column whose items can be listed. A number other than zero and a flag that is set have none,
and do not stand for an empty list either; a list has items as far as their spellings can be
written out. -/
def isListed : Option Json.Value → Bool
  | some (.arr items) => items.all fun v => (ofItem v).isSome
  | some (.bool b) => !b
  | some (.int n) => n == 0
  | some (.real x) => x == 0.0
  | _ => true

end Interests

end Matchmaker
