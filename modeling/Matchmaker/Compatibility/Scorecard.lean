import Matchmaker.Compatibility.Interests
import Matchmaker.Compatibility.Proximity
import Matchmaker.Compatibility.Taste
import Matchmaker.Profile.Basic
import Matchmaker.Weights

/-!
# Scorecards

How well a candidate fits a member: a contribution for each dimension, weighted by the member, their
sum, and the share of the sum in the total of the weights, in percent and at most 100.
-/

namespace Matchmaker

/-- The scores of a candidate. -/
structure Scorecard (α : Type) where
  breakdown : PerDimension α
  score : α
  percentage : α
  deriving Repr

namespace Scorecard

variable {α : Type} [Scalar α]

/-- Points of the dimension divided by what makes one weight's worth of them. -/
def contribution (points weight : Nat) (worth : α) : α :=
  Scalar.ofInt (points * weight : Nat) / worth

/-- The contributions of a candidate at a distance, given a member, their radius and weights. -/
def contributions (w : Weights) (radius : α) (member candidate : Profile) (distance : Option α) :
    PerDimension α where
  analogPassions := contribution (Interests.score (Interests.ofColumn member.analogPassions)
    (Interests.ofColumn candidate.analogPassions)) w.analogPassions 3.0
  digitalDelights := contribution (Interests.score (Interests.ofColumn member.digitalDelights)
    (Interests.ofColumn candidate.digitalDelights)) w.digitalDelights 3.0
  collaboration := contribution (Collaboration.score member.collaboration candidate.collaboration)
    w.collaboration 15.0
  food := contribution (Taste.food member.food candidate.food) w.food 10.0
  music := contribution (Taste.music member.music candidate.music) w.music 10.0
  location := Proximity.score distance radius (Scalar.ofInt w.location)

/-- A profile that can be scored: its interests can be listed. -/
def admits (p : Profile) : Bool :=
  Interests.isListed p.analogPassions && Interests.isListed p.digitalDelights

/-- A score in percent of the total of the weights, at most 100. -/
def percent (score : α) (w : Weights) : α :=
  if w.total = 0 then 0.0
  else Scalar.least (score / Scalar.ofInt w.total * 100.0) 100.0

/-- The scorecard of a candidate at a distance. -/
def of (w : Weights) (member candidate : Profile) (distance : Option α) : Scorecard α :=
  let breakdown := contributions w member.radius.toScalar member candidate distance
  let score := Scalar.sum breakdown.toList
  ⟨breakdown, score, percent score w⟩

/-- The scorecard of a candidate where both profiles can be scored and the score can be computed. -/
def attempt (w : Weights) (member candidate : Profile) (distance : Option α) :
    Except Fault (Scorecard α) := do
  unless admits member && admits candidate do throw .wrongType
  let card := of w member candidate distance
  let _ ← Scalar.settled card.score
  return card

end Scorecard

end Matchmaker
