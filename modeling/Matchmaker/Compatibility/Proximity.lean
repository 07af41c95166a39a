import Matchmaker.Scalar

/-!
# Proximity

What nearness contributes to a score, already weighted. A search without a radius gives half the
weight at any distance. Otherwise the share of the radius that is left counts squared, raised by up
to three tenths for those who live very near, and an unknown distance counts nothing.
-/

namespace Matchmaker.Proximity

variable {α : Type} [Scalar α]

/-- Distances up to which nearness is raised, and by how much. -/
def uplifts : List (α × α) :=
  [(2.0, 1.3), (5.0, 1.2), (10.0, 1.1)]

/-- The factor for the first of the steps that covers the distance. -/
def upliftBy (distance : α) : List (α × α) → α
  | [] => 1.0
  | (limit, factor) :: rest => if distance ≤ limit then factor else upliftBy distance rest

/-- The factor by which nearness is raised at a distance. -/
def uplift (distance : α) : α :=
  upliftBy distance uplifts

/-- The share of the radius that a distance leaves, from 0 to 1. -/
def share (distance radius : α) : α :=
  Scalar.least (Scalar.greatest (1.0 - distance / radius) 0.0) 1.0

/-- What nearness contributes, given the distance, the search radius and the weight. -/
def score (distance : Option α) (radius weight : α) : α :=
  if Scalar.isZero weight then 0.0
  else if radius ≤ 0.0 then 0.5 * weight
  else match distance with
    | none => 0.0
    | some d => share d radius * share d radius * uplift d * weight

end Matchmaker.Proximity
