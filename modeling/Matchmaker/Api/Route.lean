import Matchmaker.Api.Path
import Matchmaker.Api.Response
import Matchmaker.Api.Submission
import Matchmaker.Connection.Transition

/-!
# Routes

What can be asked for, and under which method and path. A path is fixed or holds the id of another
member; the routes are tried in order, and the first that fits method and path is taken.

* `Action`: what a caller can ask for;
* `routes`: the table of routes;
* `Route.fits`: the path of a route, of whatever method;
* `find`: the route for a request, or why there is none.
-/

namespace Matchmaker.Api

/-- What a caller can ask for. -/
inductive Action where
  | recommendations
  | detailedRecommendations
  | dismiss (other : Int)
  | connections
  | incoming
  | outgoing
  | relationship (other : Int)
  | transition (t : Transition) (other : Int)
  | ownProfile
  | saveProfile (payload : Json.Value)
  | profile (other : Int)
  deriving Repr

/-- What a probe looks at. -/
inductive Probe where
  /-- The program runs. -/
  | live
  /-- The program runs and reaches its database. -/
  | deep
  deriving DecidableEq, Repr

/-- What is found under a method and a path. -/
inductive Goal where
  /-- A probe, which takes no caller. -/
  | probe (p : Probe)
  | plain (action : Action)
  /-- An action on the member whose id follows the path, under this name, before more of it. -/
  | about (name : String) (after : List String) (action : Int → Action)
  /-- An action that takes a body. -/
  | submit (action : Json.Value → Action)

/-- A method, a path and what is found there. -/
structure Route where
  method : String
  path : List String
  goal : Goal

/-- The routes of the service's own state. -/
def probeRoutes : List Route :=
  [⟨"GET", ["health"], .probe .live⟩, ⟨"GET", ["health", "deep"], .probe .deep⟩]

/-- The routes of recommendations. -/
def recommendationRoutes : List Route :=
  let base := ["api", "v1", "recommendations"]
  [⟨"GET", base, .plain .recommendations⟩,
    ⟨"GET", base ++ ["detailed"], .plain .detailedRecommendations⟩,
    ⟨"POST", base, .about "target_id" ["dismiss"] .dismiss⟩]

/-- The routes of connections. -/
def connectionRoutes : List Route :=
  let base := ["api", "v1", "connections"]
  [⟨"GET", base, .plain .connections⟩,
    ⟨"GET", base ++ ["requests"], .plain .incoming⟩,
    ⟨"GET", base ++ ["outgoing"], .plain .outgoing⟩,
    ⟨"GET", base, .about "other_id" [] .relationship⟩,
    ⟨"POST", base, .about "target_id" ["request"] (.transition .request)⟩,
    ⟨"POST", base, .about "requester_id" ["accept"] (.transition .accept)⟩,
    ⟨"POST", base, .about "requester_id" ["decline"] (.transition .decline)⟩,
    ⟨"POST", base, .about "target_id" ["cancel"] (.transition .cancel)⟩,
    ⟨"DELETE", base, .about "peer_id" [] (.transition .disconnect)⟩]

/-- The routes of profiles. -/
def profileRoutes : List Route :=
  let base := ["api", "v1", "profiles"]
  [⟨"GET", base ++ ["me"], .plain .ownProfile⟩,
    ⟨"PUT", base ++ ["me"], .submit .saveProfile⟩,
    ⟨"GET", base, .about "other_id" [] .profile⟩]

/-- All routes, in the order in which they are tried. -/
def routes : List Route :=
  probeRoutes ++ recommendationRoutes ++ connectionRoutes ++ profileRoutes

/-- The given segments are those of a path; one line end may follow the last. -/
def sameSegments : List String → List String → Bool
  | [], [] => true
  | [x], [y] => y == x || y == x ++ "\n"
  | x :: xs, y :: ys => y == x && sameSegments xs ys
  | _, _ => false

namespace Route

/-- The text in the place of the id, where the segments fit the path. -/
def idText? (path after segments : List String) : Option String :=
  if segments.take path.length == path then
    match segments.drop path.length with
    | x :: rest => if !x.isEmpty && sameSegments after rest then some x else none
    | [] => none
  else none

/-- The segments fit the path of a route. -/
def fits (r : Route) (segments : List String) : Bool :=
  match r.goal with
  | .about _ after _ => (idText? r.path after segments).isSome
  | _ => sameSegments r.path segments

end Route

/-- The problem where no route fits a target: it ends in a slash that it should not have, or it
leads nowhere. -/
def nowhere (host : String) (t : Target) : Problem :=
  match t.withoutSlash? with
  | some u => if routes.any (·.fits u.segments) then .moved (host ++ u.toText) else .unknownPath
  | none => .unknownPath

/-- The route for a method and a target. -/
def find (host method : String) (t : Target) : Except Problem Route :=
  let fitting := routes.filter (·.fits t.segments)
  match fitting.find? (·.method == method), fitting with
  | some r, _ => .ok r
  | none, r :: _ => .error (.wrongMethod r.method)
  | none, [] => .error (nowhere host t)

end Matchmaker.Api
