import Matchmaker.Connection.Transition
import Matchmaker.Database.DriverError
import Matchmaker.Seed.Run
import Matchmaker.Visibility

/-!
# Calls against a database

The rules of the store as they are called against a database that may fail: another writer may hold
its lock, the lock of a pair may not be had, and an id may be too large for its columns. What is
checked without the database comes first, then the lock of the pair, then the start of the
transaction, then the look-ups in their order. What writes is work of a transaction; how it ends,
with the store, has the name without `Work`.
-/

namespace Matchmaker

/-- The state of the database as calls meet it. -/
structure Conditions where
  /-- Every transaction fails at its start with this error. -/
  outage : Option DriverError
  /-- The lock of a pair fails with this error. -/
  pairFault : Option DriverError
  deriving DecidableEq, Repr

namespace Conditions

/-- Nothing fails. -/
def fair : Conditions := ⟨none, none⟩

/-- Starts the transaction of a request. -/
def openRequest (c : Conditions) : Except Failure Unit :=
  match c.outage with
  | some e => .error e.inRequest
  | none => .ok ()

/-- Starts the transaction of a transition. -/
def openTransition (c : Conditions) : Except Failure Unit :=
  match c.pairFault, c.outage with
  | some e, _ | none, some e => .error e.inTransition
  | none, none => .ok ()

/-- Starts a transaction whose errors nothing handles. -/
def openRead (c : Conditions) : Except Failure Unit :=
  match c.outage with
  | some e => broken e.asFault
  | none => .ok ()

end Conditions

/-- Looks an id up, which fails when no column can hold it. -/
def lookUp (id : Int) : Except Failure Unit :=
  if isStorable id then .ok () else broken .unstorable

namespace Session

/-- The look-ups of a transition; a request stops at a caller without a complete profile. -/
def lookUpPair (t : Transition) (a b : Int) (s : Store) : Except Failure Unit := do
  lookUp a
  match t with
  | .request => if s.isComplete a then lookUp b
  | _ => lookUp b

/-- What comes before a transition by `a` on the pair with `b`. -/
def checkPair (c : Conditions) (t : Transition) (a b : Int) (s : Store) : Except Failure Unit := do
  if a = b then refuse .sameUser
  c.openTransition
  lookUpPair t a b s

/-- A transition by `a` on the pair with `b`. -/
def transitionWork (c : Conditions) (now : Instant) (t : Transition) (a b : Int) :
    Transaction Failure Store Transition.Outcome := do
  .reading (checkPair c t a b)
  t.work now a b

/-- How a transition by `a` on the pair with `b` ends. -/
def transition (c : Conditions) (now : Instant) (t : Transition) (a b : Int) (s : Store) :
    Except Failure (Transition.Outcome × Store) :=
  (transitionWork c now t a b).outcome s

theorem transition_eq (c : Conditions) (now : Instant) (t : Transition) (a b : Int) (s : Store) :
    transition c now t a b s = checkPair c t a b s >>= fun _ => t.run now a b s :=
  Transaction.outcome_reading_bind _ _ s

/-- How `a` sees the pair with `b`. -/
def relationship (c : Conditions) (a b : Int) (s : Store) : Except Failure Relationship := do
  c.openRead
  lookUp a
  lookUp b
  return s.relationship a b

/-- A list that is asked for a member. -/
def list (c : Conditions) (ofMember : Store → Int → List Int) (a : Int) (s : Store) :
    Except Failure (List Int) := do
  c.openRead
  lookUp a
  return ofMember s a

/-- What comes before a dismissal of `b` for `a`. -/
def checkDismissal (c : Conditions) (a b : Int) (s : Store) : Except Failure Unit := do
  if a = b then refuse .ownDismissal
  c.openRequest
  lookUp b
  if s.isComplete b then lookUp a

/-- Dismisses `b` for `a`. -/
def dismissWork (c : Conditions) (a b : Int) : Transaction Failure Store Bool := do
  .reading (checkDismissal c a b)
  Store.dismissWork a b

/-- How a dismissal of `b` for `a` ends. -/
def dismiss (c : Conditions) (a b : Int) (s : Store) : Except Failure (Bool × Store) :=
  (dismissWork c a b).outcome s

/-- Whether `a` has dismissed `b`. -/
def isDismissed (c : Conditions) (a b : Int) (s : Store) : Except Failure Bool := do
  c.openRequest
  lookUp a
  lookUp b
  return s.hasDismissed a b

/-- What comes before a member's profile is saved. -/
def checkPayload (c : Conditions) (user : Int) (payload : Json.Value) : Except Failure Unit := do
  let _ ← Facets.validate payload
  c.openRequest
  lookUp user

/-- Saves a member's profile. -/
def upsertWork (c : Conditions) (user : Int) (payload : Json.Value) :
    Transaction Failure Store Profile := do
  .reading fun _ => checkPayload c user payload
  Store.upsertWork user payload

/-- How saving a member's profile ends. -/
def upsert (c : Conditions) (user : Int) (payload : Json.Value) (s : Store) :
    Except Failure (Profile × Store) :=
  (upsertWork c user payload).outcome s

theorem upsert_eq (c : Conditions) (user : Int) (payload : Json.Value) (s : Store) :
    upsert c user payload s = checkPayload c user payload >>= fun _ => s.upsert user payload :=
  Transaction.outcome_reading_bind _ _ s

/-- A member's profile. -/
def getProfile (c : Conditions) (user : Int) (complete : Bool) (s : Store) :
    Except Failure Profile := do
  c.openRequest
  lookUp user
  s.getProfile user complete

/-- The profile of `other` as `user` gets it. -/
def profileSeenBy {α : Type} [Scalar α] (g : Geometry α) (c : Conditions) (user other : Int)
    (s : Store) : Except Failure Profile := do
  c.openRequest
  lookUp user
  lookUp other
  s.profileSeenBy g user other

/-- The candidates of a member. -/
def candidates {α : Type} [Scalar α] (g : Geometry α) (c : Conditions) (user : Int) (s : Store) :
    Except Failure (List (Candidate α)) := do
  c.openRequest
  lookUp user
  s.candidates g (← s.seeker user)

/-- The recommendations for a member. -/
def recommend {α : Type} [Scalar α] (g : Geometry α) (c : Conditions) (user : Int) (s : Store) :
    Except Failure (List (Ranking.Entry α (Candidate α))) := do
  c.openRequest
  lookUp user
  s.recommend g user

/-- Seeds the store by a plan; `none` stands for a run that is cut off. -/
def seed {α : Type} [Sampling α] (c : Conditions) (now : Instant) (plan : Seed.Plan α) (s : Store) :
    Option (Except Failure (Seed.Counts × Store)) :=
  match c.openRead with
  | .error e => some (.error e)
  | .ok _ => Seed.run Seed.ample now plan s

end Session

end Matchmaker
