import Matchmaker.Tally
import Matchmaker.Taxonomy
import Matchmaker.Text.Blank
import Matchmaker.Text.Lower

/-!
# Collaboration

Two descriptions of wished-for collaborations earn 15 for each keyword that occurs in both, 10 for
each offer of one that the other asks for, in both directions, and 5 for each category that both
belong to. Where a description is missing or blank nothing is earned.
-/

namespace Matchmaker

/-- A text as it is compared: in lower case, without blanks at its ends, a missing one being
empty. -/
def comparable (text : Option String) : String :=
  Text.lower (Text.strip (text.getD ""))

namespace Collaboration

/-- Points for a keyword in both texts. -/
def keywordPoints : Nat := 15

/-- Points for an offer in one text and a request in the other. -/
def complementPoints : Nat := 10

/-- Points for a category in common. -/
def categoryPoints : Nat := 5

/-- The keywords that occur in both texts. -/
def keywords (a b : String) : Nat :=
  sharedKeywords.countP fun k => Text.occurs k a && Text.occurs k b

/-- The requests in `b` that an offer in `a` answers. -/
def offers (a b : String) : Nat :=
  tally (fun g => if Text.occurs g.name a then g.keywords.countP (Text.occurs · b) else 0)
    Taxonomy.complements

/-- The points for two texts as they are compared. -/
def scoreTexts (a b : String) : Nat :=
  if a.isEmpty || b.isEmpty then 0
  else
    keywordPoints * keywords a b + complementPoints * (offers a b + offers b a) +
      categoryPoints * Taxonomy.collaborations.common a b

/-- The points for two descriptions. -/
def score (a b : Option String) : Nat :=
  scoreTexts (comparable a) (comparable b)

theorem scoreTexts_comm (a b : String) : scoreTexts a b = scoreTexts b a := by
  have h : keywords a b = keywords b a := by simp [keywords, Bool.and_comm]
  simp only [scoreTexts, h, Bool.or_comm a.isEmpty, Nat.add_comm (offers a b),
    Taxonomy.common_comm _ a b]

end Collaboration

end Matchmaker
