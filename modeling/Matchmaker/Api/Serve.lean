import Matchmaker.Api.Route
import Matchmaker.Api.Url
import Matchmaker.Database.Session
import Matchmaker.Decimal.Places
import Matchmaker.Json.Reader
import Matchmaker.Text.Encoding

/-!
# Serving requests

A request is answered in steps, and the first that fails decides the response: the route is found, a
body that the route takes is read, the caller is identified, the id in the path and the members of
the body are checked, and what is asked for is carried out. That is work of one transaction, which
is committed or rolled back. The transaction of a transition is its own and ends with it; any other
ends before the response is handed on or after that, as the service is set up.

When the response is handed on, the URL of the request is written to a log. A host that cannot be
read makes that fail: whatever the response was, the client gets one that tells of a fault, and a
transaction that has not ended is rolled back.

* `Action.work`: an action by a caller;
* `taskOf`: what a request asks for, or the problem;
* `Task.transaction`: the transaction of what is asked for;
* `serve`: the response to a request or the problem, and the store after it;
* `respond`: what the client gets, and the store after it.
-/

namespace Matchmaker.Api

open Json (Value)

/-- A request. -/
structure Request where
  method : String
  /-- The scheme and the name of the host that is asked. -/
  host : String
  target : String
  /-- The text of the header that names the caller. -/
  identity : Option String
  body : String
  deriving Repr

/-- What the service is set up with. -/
structure Service where
  geometry : Geometry Float
  /-- The header that names the caller. -/
  header : String
  /-- The transaction of a request ends before its response is handed on. -/
  endsFirst : Bool

/-! ## Probes -/

/-- What a probe reports. -/
def Probe.report (c : Conditions) : Probe → Response
  | live => Response.json 200 [("status", .str "healthy")]
  | deep =>
    match c.openRead with
    | .ok _ => Response.json 200 [("status", .str "healthy"), ("database", .str "connected")]
    | .error _ => Response.json 200 [("status", .str "degraded"), ("database", .str "error")]

/-! ## Actions -/

/-- A list of ids under a name. -/
def idsResponse (name : String) (ids : List Int) : Response :=
  Response.json 200 [(name, .arr (ids.map .int))]

/-- A recommendation with rounded numbers. -/
def entryValue (e : Ranking.Entry Float (Candidate Float)) : Value :=
  .obj [("user_id", .int e.user), ("score", .real (Decimal.toPlaces 4 e.card.score)),
    ("score_percentage", .real (Decimal.toPlaces 2 e.card.percentage)),
    ("distance_km", Value.ofReal? (e.item.distance.map (Decimal.toPlaces 3)))]

/-- A profile that others can be shown: its lists hold texts, where there are any. -/
def isPublishable (p : Profile) : Bool :=
  Value.isTexts? p.analogPassions && Value.isTexts? p.digitalDelights

/-- A profile that its owner can be shown: its lists hold texts, its radius is a whole number and
its preferences are an object, where there are any. -/
def isPresentable (p : Profile) : Bool :=
  isPublishable p &&
  (match p.maxRadius with
    | some (.real _) => false
    | _ => true) &&
  match p.preferences with
  | none | some .null | some (.obj _) => true
  | _ => false

/-- A response with a value, where an encoding can write it. -/
def valueResponse (v : Value) : Except Failure Response :=
  if v.isEncodable then .ok ⟨200, .json v, []⟩ else broken .unwritable

/-- A profile as its owner gets it. -/
def ownProfileResponse (p : Profile) : Except Failure Response :=
  if isPresentable p then valueResponse p.toValue.strict else broken .wrongType

/-- A profile as others get it. -/
def publicProfileResponse (p : Profile) : Except Failure Response :=
  if isPublishable p then valueResponse p.toPublicValue else broken .wrongType

/-- What a transition is answered with; a disconnection has no content. -/
def transitionResponse (t : Transition) (o : Transition.Outcome) : Response :=
  match t with
  | .disconnect => Response.empty 204
  | _ => Response.json 200 [("state", .str o.result.name), ("connection_id", .int o.connection)]

/-- An action by a caller. -/
def Action.work (v : Service) (c : Conditions) (now : Instant) (user : Int) :
    Action → Transaction Failure Store Response
  | recommendations => do
    let es ← .reading (Session.recommend v.geometry c user)
    return idsResponse "recommendations" (es.map Ranking.Entry.user)
  | detailedRecommendations => do
    let es ← .reading (Session.recommend v.geometry c user)
    return Response.json 200 [("recommendations", .arr (es.map entryValue))]
  | dismiss other => do
    let created ← Session.dismissWork c user other
    return Response.json 201 [("dismissed", .bool true), ("created", .bool created)]
  | connections => do
    let ids ← .reading (Session.list c Store.connectionsOf user)
    return idsResponse "connections" ids
  | incoming => do
    let ids ← .reading (Session.list c Store.incoming user)
    return idsResponse "requests" ids
  | outgoing => do
    let ids ← .reading (Session.list c Store.outgoing user)
    return idsResponse "requests" ids
  | relationship other => do
    let r ← .reading (Session.relationship c user other)
    return Response.json 200 [("user_id", .int other), ("state", .str r.name)]
  | transition t other => do
    let o ← Session.transitionWork c now t user other
    return transitionResponse t o
  | ownProfile => do
    let p ← .reading (Session.getProfile c user false)
    .reading fun _ => ownProfileResponse p
  | saveProfile payload => do
    let p ← Session.upsertWork c user payload
    .reading fun _ => ownProfileResponse p
  | profile other => do
    let p ← .reading (Session.profileSeenBy v.geometry c user other)
    .reading fun _ => publicProfileResponse p

/-! ## Requests -/

/-- The deepest nesting of lists and objects in a body. -/
def deepest : Nat := 970

/-- The value in a body, if there is one. -/
def readBody (body : String) : Except Problem (Option Value) :=
  if body.isEmpty then .ok none
  else match Text.Encoding.decodeDetected? (Text.Utf8.encode body.toList) with
    | none => .error .unreadable
    | some xs =>
      match Json.readWithin deepest xs with
      | .ok v => .ok (some v)
      | .error (.malformed offset) => .error (.invalid ⟨[toString offset], .notJson⟩)
      | .error .tooLong | .error .tooDeep => .error .unreadable

/-- The body of a request, where its route takes one. -/
def bodyFor (goal : Goal) (body : String) : Except Problem (Option Value) :=
  match goal with
  | .submit _ => readBody body
  | _ => .ok none

/-- The id in a path. -/
def idIn (name text : String) : Except Problem Int :=
  match wholeOf text with
  | .ok n => .ok n
  | .error c => .error (.invalid ⟨["path", name], c⟩)

/-- The payload of a body. -/
def payloadOf (body : Option Value) : Except Problem Value :=
  match body with
  | none => .error (.invalid ⟨[], .required⟩)
  | some v =>
    match Submission.check v with
    | .ok payload => .ok payload
    | .error i => .error (.invalid i)

/-- The caller of a request. -/
def Service.callerOf (v : Service) (identity : Option String) : Except Problem Int :=
  match caller identity with
  | .ok user => .ok user
  | .error fault => .error (.unidentified v.header fault)

/-- What a request asks for. -/
inductive Task where
  | probe (p : Probe)
  /-- An action by a caller. -/
  | act (user : Int) (action : Action)

/-- What a request asks for, or the problem. -/
def taskOf (v : Service) (r : Request) : Except Problem Task := do
  let target := Target.ofText r.target
  let route ← find r.host r.method target
  let body ← bodyFor route.goal r.body
  match route.goal with
  | .probe p => return .probe p
  | .plain action =>
    let user ← v.callerOf r.identity
    return .act user action
  | .about name after action =>
    let user ← v.callerOf r.identity
    let other ← idIn name ((Route.idText? route.path after target.segments).getD "")
    return .act user (action other)
  | .submit action =>
    let user ← v.callerOf r.identity
    let payload ← payloadOf body
    return .act user (action payload)

/-- The work that a task takes. -/
def Task.work (v : Service) (c : Conditions) (now : Instant) :
    Task → Transaction Failure Store Response
  | probe p => return p.report c
  | act user action => action.work v c now user

/-- The transaction of a task has ended when its response is handed on. -/
def Task.endsFirst (v : Service) : Task → Bool
  | act _ (.transition _ _) => true
  | _ => v.endsFirst

/-- The transaction of a task. Unless it has ended by then, it fails with a response that cannot be
handed on. -/
def Task.transaction (v : Service) (c : Conditions) (now : Instant) (r : Request) (task : Task) :
    Transaction Failure Store Response := do
  let response ← task.work v c now
  .reading fun _ =>
    if task.endsFirst v || Url.isReadable r.host then .ok response else broken .outsideDomain

/-- The response to a request or the problem, and the store after it. -/
def serve (v : Service) (c : Conditions) (now : Instant) (r : Request) (s : Store) :
    Except Problem Response × Store :=
  match taskOf v r with
  | .error p => (.error p, s)
  | .ok task =>
    let (response, s') := (task.transaction v c now r).commit s
    (response.mapError .failed, s')

/-- The response to a request, whose URL is then logged. -/
def logged (r : Request) (answer : Except Problem Response) : Response :=
  if Url.isReadable r.host then
    match answer with
    | .ok response => response
    | .error p => p.response
  else faultResponse

/-- What the client gets, and the store after it; a `HEAD` is answered without content. -/
def respond (v : Service) (c : Conditions) (now : Instant) (r : Request) (s : Store) :
    Response × Store :=
  let (answer, s') := serve v c now r s
  let response := logged r answer
  (if r.method == "HEAD" then response.withoutContent else response, s')

end Matchmaker.Api
