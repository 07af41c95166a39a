import Matchmaker.Compatibility.Ranking
import Matchmaker.Store.Basic

/-!
# Candidates and recommendations

The candidates of a member are the complete profiles of others with whom no connection row exists
and whom the member has not dismissed. A member with a radius gets those within it, and none while
their own place is unknown. Recommendations are the ranked candidates.

Distances come from a `Geometry`, so that the rules can be read over any number type;
`Geometry.sphere` is the one the program runs on, in doubles. A geometry filters by a box first,
which must enclose the circle.

* `Store.candidates`: a member's candidates, by id;
* `Store.compared`: the candidates with their scores;
* `Store.recommend`: the ranked candidates.
-/

namespace Matchmaker

/-- How distances are measured. -/
structure Geometry (α : Type) where
  /-- The distance of two places in kilometres. -/
  distance : Point Quantity → Point Quantity → Except Failure α
  /-- A coarse test for the places within a radius. -/
  near : Point Quantity → α → Except Failure (Point Quantity → Bool)

/-- What a distance may exceed a radius by, to make up for rounding. -/
def slack {α : Type} [Scalar α] : α := 0.000001

namespace Geometry

/-- A place in the numbers of a geometry. -/
def place {α : Type} [Scalar α] (p : Point Quantity) : Point α :=
  ⟨p.lat.toScalar, p.lon.toScalar⟩

/-- Great-circle distances. -/
def sphere (α : Type) [Trig α] : Geometry α where
  distance p q := orBroken (Geo.distance (place p) (place q))
  near p radius := do
    let box ← orBroken (Geo.box (place p) radius)
    return fun q => box.holds (place q)

variable {α : Type}

/-- The distance of two members, if both places are known. -/
def between (g : Geometry α) (p q : Profile) : Except Failure (Option α) :=
  match p.place?, q.place? with
  | some x, some y => (g.distance x y).map some
  | _, _ => .ok none

end Geometry

/-- A member who may be recommended. -/
structure Candidate (α : Type) where
  profile : Profile
  distance : Option α
  deriving Repr

namespace Store

variable {α : Type} [Scalar α]

/-- `p` may be recommended to `me`, its distance apart. -/
def isOpenTo (s : Store) (me : Int) (p : Profile) : Bool :=
  p.complete && p.user != me && (s.pairRows me p.user).isEmpty && !s.hasDismissed me p.user

/-- The profiles that may be recommended to `me`, by member. -/
def openProfiles (s : Store) (me : Int) : List Profile :=
  s.profilesByUser.filter (s.isOpenTo me)

/-- Profiles with their distances, in the same order. -/
def measured (g : Geometry α) (me : Profile) : List Profile → Except Failure (List (Candidate α))
  | [] => .ok []
  | p :: ps => do
    let distance ← g.between me p
    let rest ← measured g me ps
    return ⟨p, distance⟩ :: rest

/-- How far a search with a radius reaches. -/
def reach (radius : Quantity) : α :=
  radius.toScalar + slack

/-- A known distance that does not exceed the reach of a search. -/
def isWithin (reach : α) (c : Candidate α) : Bool :=
  match c.distance with
  | none => false
  | some d => !decide (reach < d)

/-- The candidates of a member, by id. -/
def candidates (g : Geometry α) (s : Store) (me : Profile) :
    Except Failure (List (Candidate α)) := do
  if !me.complete then refuse .completeToMatch
  let pool := s.openProfiles me.user
  if me.radius.isPositive then
    match me.place? with
    | none => return []
    | some place =>
      let near ← g.near place (reach me.radius)
      let close := pool.filter fun p => (p.place?.map near).getD false
      return (← measured g me close).filter (isWithin (reach me.radius))
  measured g me pool

/-- The complete profile of a member who asks for recommendations. -/
def seeker (s : Store) (user : Int) : Except Failure Profile :=
  match s.profile? user with
  | some p => if p.complete then .ok p else refuse .completeToMatch
  | none => refuse .completeToMatch

/-- A candidate with its scorecard. -/
def scored (w : Weights) (me : Profile) (c : Candidate α) : Ranking.Entry α (Candidate α) :=
  ⟨c.profile.user, Scorecard.of w me c.profile c.distance, c⟩

/-- All with whom a member is compared, with their scores, by id; nobody where nothing counts. -/
def compared (g : Geometry α) (s : Store) (user : Int) :
    Except Failure (List (Ranking.Entry α (Candidate α))) := do
  let me ← s.seeker user
  let w ← Weights.resolve me.preferences
  if w.total = 0 then return []
  let pool ← s.candidates g me
  unless pool.all fun c => Scorecard.admits me && Scorecard.admits c.profile do
    broken .wrongType
  return pool.map (scored w me)

/-- The recommendations for a member, best first. -/
def recommend (g : Geometry α) (s : Store) (user : Int) :
    Except Failure (List (Ranking.Entry α (Candidate α))) :=
  (s.compared g user).map Ranking.rank

/-- The ids of the recommended members, best first. -/
def recommendedIds (g : Geometry α) (s : Store) (user : Int) : Except Failure (List Int) :=
  (s.recommend g user).map fun entries => entries.map Ranking.Entry.user

end Store

end Matchmaker
