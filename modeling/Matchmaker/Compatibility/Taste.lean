import Matchmaker.Compatibility.Collaboration

/-!
# Taste

Favourites in food and in music earn 10 when they are the same, 6 when they differ and belong to a
family in common, and nothing otherwise or where one is missing or blank.
-/

namespace Matchmaker.Taste

/-- Points for the same favourite. -/
def samePoints : Nat := 10

/-- Points for favourites of one family. -/
def familyPoints : Nat := 6

/-- The points for two favourites, by a table of families. -/
def score (families : Taxonomy) (a b : Option String) : Nat :=
  let x := comparable a
  let y := comparable b
  if x.isEmpty || y.isEmpty then 0
  else if x == y then samePoints
  else if families.share x y then familyPoints
  else 0

/-- The points for two favourite foods. -/
def food : Option String → Option String → Nat :=
  score Taxonomy.cuisines

/-- The points for two favourite kinds of music. -/
def music : Option String → Option String → Nat :=
  score Taxonomy.genres

theorem score_comm (families : Taxonomy) (a b : Option String) :
    score families a b = score families b a := by
  simp only [score, Bool.or_comm (comparable a).isEmpty,
    Taxonomy.share_comm families (comparable a), Bool.beq_comm (a := comparable a)]

end Matchmaker.Taste
