import Matchmaker.Compatibility.Scorecard

/-!
# Rankings

Of scored candidates those under 25 percent are dropped, the others are ordered by descending score
and ascending id, and the first ten are kept. What is ranked may be anything that has an id and a
scorecard.
-/

namespace Matchmaker.Ranking

variable {α κ : Type} [Scalar α]

/-- The least percentage that is kept. -/
def threshold : α := 25.0

/-- The greatest number of results. -/
def limit : Nat := 10

/-- Something with an id and a scorecard. -/
structure Entry (α κ : Type) where
  user : Int
  card : Scorecard α
  item : κ
  deriving Repr

/-- The order of results: the greater score first, of equal scores the smaller id. -/
def precedes (x y : Entry α κ) : Bool :=
  if y.card.score < x.card.score then true
  else if x.card.score < y.card.score then false
  else x.user ≤ y.user

/-- The entries that reach the threshold. -/
def eligible (entries : List (Entry α κ)) : List (Entry α κ) :=
  entries.filter fun e => decide (threshold ≤ e.card.percentage)

/-- The entries that reach the threshold, in order. -/
def ordered (entries : List (Entry α κ)) : List (Entry α κ) :=
  (eligible entries).mergeSort precedes

/-- The best entries, in order. -/
def rank (entries : List (Entry α κ)) : List (Entry α κ) :=
  (ordered entries).take limit

end Matchmaker.Ranking
