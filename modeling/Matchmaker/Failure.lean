import Matchmaker.Connection.Basic
import Matchmaker.Dimension
import Matchmaker.Fault

/-!
# Failures

A call that does not succeed either is **refused**, for a cause that its caller can act on, or ends
in a **fault** that the program did not foresee.

* `Refusal`: the causes of refusal, with `Refusal.kind` and `Refusal.message`;
* `Kind.code` and `Kind.status`: how a kind of refusal is reported over HTTP;
* `Failure`: the one or the other.
-/

namespace Matchmaker

/-- The free texts of a profile. -/
inductive TextFacet where
  | aboutMe
  | city
  | collaboration
  | food
  | music
  deriving DecidableEq, Repr

namespace TextFacet

/-- All free texts. -/
def all : List TextFacet := [aboutMe, city, collaboration, food, music]

/-- The name of a text in payloads. -/
def name : TextFacet → String
  | aboutMe => "about_me"
  | city => "location_city"
  | collaboration => "collaboration_interests"
  | food => "favorite_food"
  | music => "favorite_music"

/-- A text that is limited to 100 characters. -/
def isShort : TextFacet → Bool
  | city | food | music => true
  | aboutMe | collaboration => false

end TextFacet

/-- The lists of a profile. -/
inductive ListFacet where
  | analogPassions
  | digitalDelights
  deriving DecidableEq, Repr

/-- All lists. -/
def ListFacet.all : List ListFacet := [.analogPassions, .digitalDelights]

/-- The name of a list in payloads. -/
def ListFacet.name : ListFacet → String
  | analogPassions => "analog_passions"
  | digitalDelights => "digital_delights"

/-- Why preferences state no weights. -/
inductive WeightFault where
  /-- They are no object. -/
  | notObject
  /-- A weight is no whole number. -/
  | notWhole (d : Dimension)
  /-- A weight lies outside 0 to 10. -/
  | outOfRange (d : Dimension) (shown : String)
  deriving DecidableEq, Repr

/-- The wording of a fault. -/
def WeightFault.message : WeightFault → String
  | notObject => "match_preferences must be an object"
  | notWhole d => "weight for " ++ d.name ++ " must be an integer"
  | outOfRange d shown => "weight for " ++ d.name ++ " must be between 0 and 10, got " ++ shown

/-- What is wrong with a profile payload. A number is told as it is shown. -/
inductive FacetFault where
  | noDisplayName
  | longDisplayName
  | longText (f : TextFacet)
  | notTexts (f : ListFacet)
  | manyItems (f : ListFacet)
  /-- One coordinate without the other. -/
  | halfPlace
  | latitude (shown : String)
  | longitude (shown : String)
  | radius (shown : String)
  | weights (fault : WeightFault)
  deriving DecidableEq, Repr

namespace FacetFault

/-- The wording of a fault. -/
def message : FacetFault → String
  | noDisplayName => "display_name is required"
  | longDisplayName => "display_name must be at most 100 characters"
  | longText f => f.name ++ " must be at most 100 characters"
  | notTexts f => f.name ++ " must be a list of strings"
  | manyItems f => f.name ++ " accepts at most 50 items"
  | halfPlace => "location_lat and location_lon must be given together"
  | latitude shown => "location_lat must be within [-90, 90], got " ++ shown
  | longitude shown => "location_lon must be within [-180, 180], got " ++ shown
  | radius shown => "max_radius_km must be 0 or positive, got " ++ shown
  | weights fault => fault.message

end FacetFault

/-- The kinds of refusal. -/
inductive Kind where
  | incompleteProfile
  | conflict
  | alreadyConnected
  | notFound
  | transient
  | invalid
  deriving DecidableEq, Repr

namespace Kind

/-- The code of a kind in answers. -/
def code : Kind → String
  | incompleteProfile => "incomplete_profile"
  | conflict => "invalid_state"
  | alreadyConnected => "already_connected"
  | notFound => "not_found"
  | transient => "transient"
  | invalid => "invalid"

/-- The HTTP status of a kind. -/
def status : Kind → Nat
  | incompleteProfile => 403
  | conflict => 409
  | alreadyConnected => 409
  | notFound => 404
  | transient => 503
  | invalid => 400

end Kind

/-- Why a call is refused. -/
inductive Refusal where
  /-- A connection of a member with themselves. -/
  | sameUser
  /-- A dismissal of oneself. -/
  | ownDismissal
  /-- The caller needs a complete profile to connect. -/
  | completeToConnect
  /-- The caller needs a complete profile to get recommendations. -/
  | completeToMatch
  | noUser (user : Int)
  | noProfile (user : Int)
  | noRequest
  | noConnection (peer : Int)
  | alreadyConnected (peer : Int)
  | alreadyAccepted
  | cannotRequest (status : Status)
  | requestClosed (status : Status)
  | cannotDisconnect (status : Status)
  /-- Another writer changed the pair between reading and writing. -/
  | changedConcurrently
  | pairBusy
  | databaseBusy
  /-- A payload is not valid. -/
  | payload (fault : FacetFault)
  deriving DecidableEq, Repr

namespace Refusal

/-- The kind of a refusal. -/
def kind : Refusal → Kind
  | sameUser | ownDismissal | payload _ => .invalid
  | completeToConnect | completeToMatch => .incompleteProfile
  | noUser _ | noProfile _ | noRequest | noConnection _ => .notFound
  | alreadyConnected _ | alreadyAccepted => .alreadyConnected
  | cannotRequest _ | requestClosed _ | cannotDisconnect _ | changedConcurrently => .conflict
  | pairBusy | databaseBusy => .transient

/-- The wording of a refusal. -/
def message : Refusal → String
  | sameUser => "a connection needs two different users"
  | ownDismissal => "cannot dismiss yourself"
  | completeToConnect => "complete your profile before connecting"
  | completeToMatch => "complete your profile to get recommendations"
  | noUser user => "user " ++ toString user ++ " not found"
  | noProfile user => "profile for user " ++ toString user ++ " not found"
  | noRequest => "no pending request between these users"
  | noConnection peer => "no connection with user " ++ toString peer
  | alreadyConnected peer => "already connected with user " ++ toString peer
  | alreadyAccepted => "request was already accepted"
  | cannotRequest s => "cannot request connection while status is " ++ s.name
  | requestClosed s => "request is no longer pending (" ++ s.name ++ ")"
  | cannotDisconnect s => "cannot disconnect while status is " ++ s.name
  | changedConcurrently => "connection changed concurrently"
  | pairBusy => "pair is busy, retry the request"
  | databaseBusy => "database is busy, retry the request"
  | payload fault => fault.message

end Refusal

/-- Why a call does not succeed. -/
inductive Failure where
  | refused (why : Refusal)
  | fault (what : Fault)
  deriving DecidableEq, Repr

/-- A refusal as the outcome of a call. -/
def refuse {β : Type} (why : Refusal) : Except Failure β :=
  .error (.refused why)

/-- A fault as the outcome of a call. -/
def broken {β : Type} (what : Fault) : Except Failure β :=
  .error (.fault what)

/-- What is found or ends in a fault, as the outcome of a call. -/
def orBroken {β : Type} : Except Fault β → Except Failure β
  | .ok x => .ok x
  | .error what => broken what

end Matchmaker
