/-!
# Tallies

The sum of a count over the items of a list.
-/

namespace Matchmaker

/-- The sum of `f x` over the items `x` of a list. -/
def tally {α : Type} (f : α → Nat) : List α → Nat
  | [] => 0
  | x :: xs => f x + tally f xs

end Matchmaker
