import Matchmaker.Database.Transaction
import Matchmaker.Seed.Graph
import Matchmaker.Seed.Member

/-!
# Seeding a store

Fixtures for development: new users with complete profiles, connections and dismissals between them.
The first two users are always connected with each other, the drawn connections are between the
others. The tables are emptied, if that is asked for, and filled one after the other in one
transaction, so that a row that breaks a constraint undoes all of it.

* `Plan`: what is asked for;
* `populate`, `work`: the steps of the transaction;
* `run`: the store with the fixtures and how many there are; `none` stands for a run that its fuel
  cuts off.
-/

namespace Matchmaker.Seed

/-- What is asked for. -/
structure Plan (α : Type) where
  /-- The number of users. -/
  count : Int
  seed : Int
  /-- The store is emptied first. -/
  truncate : Bool
  rates : Rates α
  /-- The share of members with a dismissal. -/
  dismissRate : α
  deriving Repr

/-- How many rows of each table are new. -/
structure Counts where
  users : Nat
  profiles : Nat
  connections : Nat
  dismissals : Nat
  deriving DecidableEq, Repr

/-- A number with at least five digits. -/
def fiveDigits (n : Nat) : String :=
  let digits := Nat.toDigits 10 n
  String.ofList (List.replicate (5 - digits.length) '0' ++ digits)

/-- The address of the user at a position among those of one seed. -/
def email (seed : Int) (i : Nat) : String :=
  "user" ++ fiveDigits i ++ "." ++ toString seed ++ "@example.com"

/-- New users, with ids from `first` on. -/
def newUsers (seed first : Int) (n : Nat) : List User :=
  (List.range n).map fun (i : Nat) => ⟨first + i, email seed i⟩

/-- The connection of the first two users. -/
def firstLink : List Int → List Store.Link
  | a :: b :: _ => [⟨a, b, .accepted, none, none⟩]
  | _ => []

/-! ## Runs -/

/-- Why a run stops. -/
inductive Stop where
  | failed (why : Failure)
  /-- The fuel of the draws is spent. -/
  | cutOff

/-- A step of a run that is not cut off. -/
def settle {β : Type} (outcome : Except Failure β) : Except Stop β :=
  outcome.mapError .failed

/-- A step of a run that may be cut off. -/
def limited {β : Type} : Option (Except Failure β) → Except Stop β
  | some outcome => settle outcome
  | none => .error .cutOff

/-- The outcome of a run, unless it is cut off. -/
def ended {β : Type} : Except Stop β → Option (Except Failure β)
  | .ok b => some (.ok b)
  | .error (.failed why) => some (.error why)
  | .error .cutOff => none

variable {α : Type} [Sampling α] {σ : Type} [Source σ]

/-- No rows can be added to no users. -/
def Plan.check (plan : Plan α) : Except Failure Unit :=
  if plan.count ≤ 0 then broken .constraint else .ok ()

/-- Adds the fixtures of a plan, drawn from a stream. -/
def populate (fuel : Nat) (now : Instant) (plan : Plan α) (draws : σ) :
    Transaction Stop Store Counts := do
  .reading fun _ => settle plan.check
  let first ← .reading fun s => return Store.nextId (s.users.map User.id)
  let users := newUsers plan.seed first plan.count.toNat
  let ids := users.map User.id
  .writing fun s => settle (Store.addAll Store.addUser users s)
  let profiles := (profiles α ids).run draws
  .writing fun s => settle (Store.addAll Store.addProfile profiles.1 s)
  let drawn ← .reading fun _ => limited (connections fuel plan.rates (ids.drop 2) profiles.2)
  let links := firstLink ids ++ drawn.1
  .writing fun s => settle (Store.addAll (Store.addLink now) links s)
  let rate ← .reading fun _ => settle (orBroken (Scalar.settled plan.dismissRate))
  let dismissals := ((dismissals rate ids).run drawn.2).1
  .writing fun s => settle (Store.addAll Store.addDismissal dismissals s)
  return ⟨users.length, profiles.1.length, links.length, dismissals.length⟩

/-- Empties the tables, if that is asked for. -/
def Plan.prepare (plan : Plan α) : Transaction Stop Store Unit :=
  .writing fun s => .ok (if plan.truncate then Store.empty else s)

/-- Empties the tables, if that is asked for, and adds the fixtures. -/
def work (fuel : Nat) (now : Instant) (plan : Plan α) (draws : σ) :
    Transaction Stop Store Counts := do
  plan.prepare
  populate fuel now plan draws

/-- Seeds a store by a plan. -/
def run (fuel : Nat) (now : Instant) (plan : Plan α) (s : Store) :
    Option (Except Failure (Counts × Store)) :=
  ended ((work fuel now plan (Generator.ofSeed plan.seed)).outcome s)

/-- The fuel that runs are given, far more than they take. -/
def ample : Nat := 0x1000000000000000

/-- What is printed about a run. -/
def report (truncated : Bool) (c : Counts) : List String :=
  (if truncated then ["  Truncated users, profiles, connections, dismissed_recommendations."]
    else []) ++
    ["  Inserted " ++ toString c.users ++ " users",
      "  Inserted " ++ toString c.profiles ++ " profiles",
      "  Inserted " ++ toString c.connections ++ " connections",
      "  Inserted " ++ toString c.dismissals ++ " dismissed_recommendations",
      "Done seeding fixtures."]

end Matchmaker.Seed
