import Matchmaker.Store.Basic

/-!
# Transitions

The life of a connection. A request waits until it is accepted, declined by the member asked or
cancelled by the one who asked; an accepted connection can be disconnected, and that is final. A
request to a member who already asked is an acceptance.

A transition reads the two profiles, the deciding row of the pair and the ledger (`Store.read`),
decides (`Transition.decide`) and writes at most one row (`Store.write`). `Transition.work` does all
three, step by step, and `Transition.run` is how that ends.
-/

namespace Matchmaker

/-- What a member can do about a connection with another. -/
inductive Transition where
  | request
  | accept
  | decline
  | cancel
  | disconnect
  deriving DecidableEq, Repr

namespace Transition

/-- The name of a transition. -/
def name : Transition → String
  | request => "request"
  | accept => "accept"
  | decline => "decline"
  | cancel => "cancel"
  | disconnect => "disconnect"

/-- All transitions. -/
def all : List Transition :=
  [request, accept, decline, cancel, disconnect]

/-- The transition of a name. -/
def ofName? (s : String) : Option Transition :=
  all.find? (·.name == s)

/-- The state that a transition reports. -/
inductive Result where
  | pending
  | accepted
  | declined
  | cancelled
  | disconnected
  deriving DecidableEq, Repr

/-- The name of a result in answers. -/
def Result.name : Result → String
  | pending => "pending"
  | accepted => "accepted"
  | declined => "declined"
  | cancelled => "cancelled"
  | disconnected => "disconnected"

/-- What a transition reads of the store. -/
structure Reading where
  callerComplete : Bool
  otherComplete : Bool
  row : Option Connection
  dismissed : Bool
  deriving DecidableEq, Repr

/-- The one change that a transition makes. -/
inductive Write where
  /-- A new pending row. -/
  | insert (requester target : Int)
  /-- Another status in the row with this id. -/
  | mark (id : Int) (status : Status)
  /-- No row with this id any more. -/
  | delete (id : Int)
  deriving DecidableEq, Repr

/-- The pending row that `requester` asked with. -/
def pendingFrom (requester : Int) : Option Connection → Except Refusal Connection
  | none => .error .noRequest
  | some c =>
    match c.status with
    | .pending => if c.requester = requester then .ok c else .error .noRequest
    | .accepted => .error .alreadyAccepted
    | s => .error (.requestClosed s)

/-- What follows when `a` asks `b` for a connection. -/
def decideRequest (a b : Int) (r : Reading) : Except Refusal (Result × Write) :=
  if !r.callerComplete then .error .completeToConnect
  else if !r.otherComplete then .error (.noUser b)
  else match r.row with
    | none => if r.dismissed then .error (.noUser b) else .ok (.pending, .insert a b)
    | some c =>
      match c.status with
      | .pending =>
        if c.requester = b then .ok (.accepted, .mark c.id .accepted)
        else .error (.cannotRequest .pending)
      | .accepted => .error (.alreadyConnected b)
      | s => .error (.cannotRequest s)

/-- What follows when `a` ends the connection with `b`. -/
def decideDisconnect (b : Int) (r : Reading) : Except Refusal (Result × Write) :=
  match r.row with
  | none => .error (.noConnection b)
  | some c =>
    match c.status with
    | .accepted => .ok (.disconnected, .mark c.id .disconnected)
    | s => .error (.cannotDisconnect s)

/-- What follows from a transition by `a` on the pair with `b`. -/
def decide (t : Transition) (a b : Int) (r : Reading) : Except Refusal (Result × Write) :=
  match t with
  | request => decideRequest a b r
  | accept => (pendingFrom b r.row).map fun c => (.accepted, .mark c.id .accepted)
  | decline => (pendingFrom b r.row).map fun c => (.declined, .delete c.id)
  | cancel => (pendingFrom a r.row).map fun c => (.cancelled, .delete c.id)
  | disconnect => decideDisconnect b r

/-- What a successful transition reports. -/
structure Outcome where
  result : Result
  connection : Int
  deriving DecidableEq, Repr

end Transition

namespace Store

open Transition (Reading Write)

/-- What a transition by `a` on the pair with `b` reads. -/
def read (s : Store) (a b : Int) : Reading :=
  { callerComplete := s.isComplete a, otherComplete := s.isComplete b,
    row := s.deciding? a b, dismissed := s.hasDismissed a b }

/-- The id of the row that a change concerns. -/
def written (s : Store) : Write → Int
  | .insert _ _ => s.nextConnection
  | .mark id _ => id
  | .delete id => id

/-- The store after a change. -/
def write (now : Instant) (w : Write) (s : Store) : Store :=
  match w with
  | .insert requester target =>
    { s with connections := s.connections ++
        [⟨s.nextConnection, requester, target, .pending, now, now⟩] }
  | .mark id status =>
    { s with connections := s.connections.map fun c =>
        if c.id == id then { c with status, updated := now } else c }
  | .delete id => { s with connections := s.connections.filter fun c => !(c.id == id) }

end Store

namespace Transition

/-- What a transition by `a` on the pair with `b` reports and changes. -/
def planned (t : Transition) (a b : Int) (s : Store) : Except Failure (Result × Write) :=
  if a = b then refuse .sameUser
  else match t.decide a b (s.read a b) with
    | .error why => refuse why
    | .ok plan => .ok plan

/-- A transition by `a` on the pair with `b`. -/
def work (now : Instant) (t : Transition) (a b : Int) : Transaction Failure Store Outcome := do
  let (result, w) ← .reading (t.planned a b)
  let connection ← .reading fun s => .ok (s.written w)
  .writing fun s => .ok (s.write now w)
  return ⟨result, connection⟩

/-- What a transition by `a` on the pair with `b` reports, with the store. -/
def run (now : Instant) (t : Transition) (a b : Int) (s : Store) :
    Except Failure (Outcome × Store) :=
  (t.work now a b).outcome s

theorem run_eq (now : Instant) (t : Transition) (a b : Int) (s : Store) : t.run now a b s =
    if a = b then refuse .sameUser
    else match t.decide a b (s.read a b) with
      | .error why => refuse why
      | .ok (result, w) => .ok (⟨result, s.written w⟩, s.write now w) := by
  simp only [run, work, Transaction.outcome_reading_bind, Transaction.outcome_writing_bind,
    planned]
  split
  · rfl
  · cases t.decide a b (s.read a b) <;> rfl

end Transition

end Matchmaker
