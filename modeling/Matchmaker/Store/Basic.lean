import Matchmaker.Database.Transaction
import Matchmaker.Failure
import Matchmaker.Profile.Facets

/-!
# The store

The four tables of the service and what is looked up in them. Connections and dismissals may name
members that do not exist.

* `Store.profile?`, `Store.isComplete`, `Store.deciding?`, `Store.hasDismissed`: look-ups;
* `Store.addUser`, `Store.addProfile`, `Store.addConnection`, `Store.addDismissal`: new rows, when
  they break no constraint;
* `Store.load`: a store with given rows;
* `Store.upsertWork`, `Store.dismissWork`: a profile is saved and a member dismissed, step by step,
  with `Store.upsert` and `Store.dismiss` for how that ends.
-/

namespace Matchmaker

/-- A row of the users table. -/
structure User where
  id : Int
  email : String
  deriving DecidableEq, Repr, Inhabited

/-- The short form of a user in listings. -/
def User.summary (u : User) : String :=
  "<User " ++ Text.quoted u.email ++ " id=" ++ toString u.id ++ ">"

/-- A row of the dismissal ledger: `user` never wants to see `dismissed` again. -/
structure Dismissal where
  user : Int
  dismissed : Int
  deriving DecidableEq, Repr, Inhabited

/-- The short form of a dismissal in listings. -/
def Dismissal.summary (d : Dismissal) : String :=
  "<DismissedRecommendation " ++ toString d.user ++ " x " ++ toString d.dismissed ++ ">"

/-- The tables. -/
structure Store where
  users : List User
  profiles : List Profile
  connections : List Connection
  dismissals : List Dismissal
  deriving Repr, Inhabited

namespace Store

/-- The store without rows. -/
def empty : Store := ⟨[], [], [], []⟩

/-! ## Look-ups -/

/-- The user with an id. -/
def user? (s : Store) (id : Int) : Option User :=
  s.users.find? (·.id == id)

/-- The profile of a member. -/
def profile? (s : Store) (user : Int) : Option Profile :=
  s.profiles.find? (·.user == user)

/-- The member has a complete profile. -/
def isComplete (s : Store) (user : Int) : Bool :=
  ((s.profile? user).map Profile.complete).getD false

/-- The rows between two members. -/
def pairRows (s : Store) (a b : Int) : List Connection :=
  s.connections.filter (·.joins a b)

/-- The row that decides the state of a pair. -/
def deciding? (s : Store) (a b : Int) : Option Connection :=
  latest? (s.pairRows a b)

/-- `a` has dismissed `b`. -/
def hasDismissed (s : Store) (a b : Int) : Bool :=
  s.dismissals.contains ⟨a, b⟩

/-- The id after the greatest of the given ones, 1 after none. -/
def nextId : List Int → Int
  | [] => 1
  | n :: ns => ns.foldl max n + 1

/-- The id of the next connection. -/
def nextConnection (s : Store) : Int :=
  nextId (s.connections.map Connection.id)

/-! ## New rows -/

/-- A profile that its table admits. -/
def admitsProfile (p : Profile) : Bool :=
  !p.displayName.isEmpty && (p.lat.map (Quantity.within 90)).getD true &&
    (p.lon.map (Quantity.within 180)).getD true &&
    !p.radius.isNegative

/-- The store with a new user. -/
def addUser (u : User) (s : Store) : Except Failure Store :=
  if u.email.isEmpty || s.users.any (fun v => v.id == u.id || v.email == u.email) then
    broken .constraint
  else .ok { s with users := s.users ++ [u] }

/-- The store with a new profile. -/
def addProfile (p : Profile) (s : Store) : Except Failure Store :=
  if !admitsProfile p || s.profiles.any (·.user == p.user) then broken .constraint
  else .ok { s with profiles := s.profiles ++ [p] }

/-- The store with a new connection row. -/
def addConnection (c : Connection) (s : Store) : Except Failure Store :=
  if c.requester == c.target || s.connections.any fun d =>
      d.id == c.id || (d.requester == c.requester && d.target == c.target) then
    broken .constraint
  else .ok { s with connections := s.connections ++ [c] }

/-- The store with a new dismissal. -/
def addDismissal (d : Dismissal) (s : Store) : Except Failure Store :=
  if d.user == d.dismissed || s.dismissals.contains d then broken .constraint
  else .ok { s with dismissals := s.dismissals ++ [d] }

/-- Adds rows one after the other. -/
def addAll {β : Type} (add : β → Store → Except Failure Store) :
    List β → Store → Except Failure Store
  | [], s => .ok s
  | x :: xs, s =>
    match add x s with
    | .ok s => addAll add xs s
    | .error e => .error e

/-- Adds a row whose ids its columns can hold, those of 64 bits. -/
def storing {β : Type} (ids : β → List Int) (add : β → Store → Except Failure Store) (x : β)
    (s : Store) : Except Failure Store :=
  if (ids x).all isStorable then add x s else broken .unstorable

/-- The store with a new profile as its table keeps it. -/
def addStored (p : Profile) (s : Store) : Except Failure Store := do
  addProfile (← p.stored) s

/-- A connection between members, before it has an id; without times it is of now. -/
structure Link where
  requester : Int
  target : Int
  status : Status
  created : Option Instant
  updated : Option Instant
  deriving Repr

/-- The store with a connection under the next id. -/
def addLink (now : Instant) (l : Link) (s : Store) : Except Failure Store :=
  s.addConnection
    { id := s.nextConnection, requester := l.requester, target := l.target, status := l.status,
      created := l.created.getD now, updated := l.updated.getD now }

/-- The store with the given rows. -/
def load (now : Instant) (users : List User) (profiles : List Profile) (links : List Link)
    (dismissals : List Dismissal) : Except Failure Store := do
  let s ← addAll (storing (fun u => [u.id]) addUser) users empty
  let s ← addAll (storing (fun p => [p.user]) addStored) profiles s
  let s ← addAll (storing (fun l => [l.requester, l.target]) (addLink now)) links s
  addAll (storing (fun d => [d.user, d.dismissed]) addDismissal) dismissals s

/-! ## Profiles -/

/-- The store with a profile in place of the member's old one, or a new one. -/
def putProfile (p : Profile) (s : Store) : Store :=
  if s.profiles.any (·.user == p.user) then
    { s with profiles := s.profiles.map fun q => if q.user == p.user then p else q }
  else { s with profiles := s.profiles ++ [p] }

/-- A member's profile, a complete one where that is asked for. -/
def getProfile (s : Store) (user : Int) (complete : Bool) : Except Failure Profile :=
  match s.profile? user with
  | some p => if complete && !p.complete then refuse (.noProfile user) else .ok p
  | none => refuse (.noProfile user)

/-- The profile that a payload makes for a member. -/
def profileOf (user : Int) (payload : Json.Value) (s : Store) : Except Failure Profile := do
  let facets ← Facets.validate payload
  if (s.user? user).isNone then refuse (.noUser user)
  Profile.ofFacets user facets

/-- Saves a member's profile from a payload and makes it complete. -/
def upsertWork (user : Int) (payload : Json.Value) : Transaction Failure Store Profile := do
  let profile ← .reading (profileOf user payload)
  .writing fun s => .ok (s.putProfile profile)
  return profile

/-- A member's profile once it is saved, with the store. -/
def upsert (user : Int) (payload : Json.Value) (s : Store) : Except Failure (Profile × Store) :=
  (upsertWork user payload).outcome s

theorem upsert_eq (user : Int) (payload : Json.Value) (s : Store) : s.upsert user payload = do
    let facets ← Facets.validate payload
    if (s.user? user).isNone then refuse (.noUser user)
    let profile ← Profile.ofFacets user facets
    return (profile, s.putProfile profile) := by
  simp only [upsert, upsertWork, Transaction.outcome_reading_bind,
    Transaction.outcome_writing_bind, profileOf]
  cases Facets.validate payload with
  | error e => rfl
  | ok f => cases s.user? user <;> rfl

/-! ## Dismissals -/

/-- `b` can be dismissed by `a`: they are another member with a complete profile. -/
def checkDismissal (a b : Int) (s : Store) : Except Failure Unit :=
  if a = b then refuse .ownDismissal
  else if !s.isComplete b then refuse (.noUser b)
  else .ok ()

/-- Dismisses `b` for `a` for good; tells whether that is new. -/
def dismissWork (a b : Int) : Transaction Failure Store Bool := do
  .reading (checkDismissal a b)
  let old ← .reading fun s => .ok (s.hasDismissed a b)
  if old then return false else do
    .writing fun s => .ok { s with dismissals := s.dismissals ++ [⟨a, b⟩] }
    return true

/-- Whether a dismissal is new, with the store. -/
def dismiss (a b : Int) (s : Store) : Except Failure (Bool × Store) :=
  (dismissWork a b).outcome s

theorem dismiss_eq (a b : Int) (s : Store) : s.dismiss a b =
    if a = b then refuse .ownDismissal
    else if !s.isComplete b then refuse (.noUser b)
    else if s.hasDismissed a b then .ok (false, s)
    else .ok (true, { s with dismissals := s.dismissals ++ [⟨a, b⟩] }) := by
  simp only [dismiss, dismissWork, Transaction.outcome_reading_bind, checkDismissal]
  split
  · rfl
  · split
    · rfl
    · cases s.hasDismissed a b <;> rfl

/-! ## Tables in order -/

/-- The users by id. -/
def usersById (s : Store) : List User :=
  s.users.mergeSort fun u v => u.id ≤ v.id

/-- The profiles by member. -/
def profilesByUser (s : Store) : List Profile :=
  s.profiles.mergeSort fun p q => p.user ≤ q.user

/-- The connections by id. -/
def connectionsById (s : Store) : List Connection :=
  s.connections.mergeSort fun c d => c.id ≤ d.id

/-- The dismissals by their two members. -/
def dismissalsByPair (s : Store) : List Dismissal :=
  s.dismissals.mergeSort fun d e =>
    d.user < e.user || (d.user == e.user && d.dismissed ≤ e.dismissed)

/-- The short forms of all rows, table by table. -/
def summaries (s : Store) : Except Fault (List String) := do
  let profiles ← s.profilesByUser.mapM Profile.summary
  return s.usersById.map User.summary ++ profiles ++ s.connectionsById.map Connection.summary ++
    s.dismissalsByPair.map Dismissal.summary

end Store

end Matchmaker
