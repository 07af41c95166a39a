import Matchmaker.Command.Report
import Matchmaker.Database.Session

/-!
# The command that seeds a store

* `Seeding.planOf`: the plan that arguments ask for;
* `Seeding.run`: the command.
-/

namespace Matchmaker.Command.Seeding

/-! ## Options -/

/-- The number of users. -/
def count : Flag := ⟨["--count"], .one, .whole⟩

/-- The seed of all draws. -/
def seed : Flag := ⟨["--seed"], .one, .whole⟩

/-- The store is emptied first. -/
def truncate : Flag := ⟨["--truncate"], .none, .text⟩

/-- The share of accepted connections. -/
def connectRate : Flag := ⟨["--connect-rate"], .one, .real⟩

/-- The share of pending connections. -/
def pendingRate : Flag := ⟨["--pending-rate"], .one, .real⟩

/-- The share of disconnected connections. -/
def disconnectedRate : Flag := ⟨["--disconnected-rate"], .one, .real⟩

/-- The share of members with a dismissal. -/
def dismissRate : Flag := ⟨["--dismiss-rate"], .one, .real⟩

/-- How the command explains itself. -/
def help : List String :=
  ["usage: seed_fixtures.py [-h] [--count COUNT] [--seed SEED] [--truncate]",
    "                        [--connect-rate CONNECT_RATE]",
    "                        [--pending-rate PENDING_RATE]",
    "                        [--disconnected-rate DISCONNECTED_RATE]",
    "                        [--dismiss-rate DISMISS_RATE]",
    "",
    "Tandem fixture seeder",
    "",
    "options:",
    "  -h, --help            show this help message and exit",
    "  --count COUNT         Number of users to create",
    "  --seed SEED           RNG seed (deterministic)",
    "  --truncate            Empty the tables before seeding",
    "  --connect-rate CONNECT_RATE",
    "                        Share of accepted connections (0..1)",
    "  --pending-rate PENDING_RATE",
    "                        Share of pending connections (0..1)",
    "  --disconnected-rate DISCONNECTED_RATE",
    "                        Share of disconnected connections (0..1)",
    "  --dismiss-rate DISMISS_RATE",
    "                        Share of users with a dismissal (0..1)"]

/-- What the command understands. -/
def grammar : Grammar where
  program := "seed_fixtures.py"
  help := help
  flags := [count, seed, truncate, connectRate, pendingRate, disconnectedRate, dismissRate]
  required := []

/-! ## Rates -/

/-- A share of a whole, from 0 to 1. -/
def isShare : Quantity → Bool
  | .flag _ => true
  | .whole n => 0 ≤ n && n ≤ 1
  | .real x => 0.0 ≤ x && x ≤ 1.0

/-- The message for what is no share, which is shown. -/
def shareMessage (name shown : String) : String :=
  name ++ " must be in range 0..1, got " ++ shown

/-- The number given with an option, or its default. -/
def realOf (u : Understood) (f : Flag) (default : Float) : Float :=
  match u.find? f with
  | some [.real x] => x
  | _ => default

/-- The rate given with an option, or its default. -/
def rateOf (u : Understood) (f : Flag) (default : Float) : Except UsageFault Float :=
  let x := realOf u f default
  if isShare (.real x) then .ok x else .error (.other (shareMessage f.label (Decimal.text x)))

/-- The whole number given with an option, or its default. -/
def wholeOf (u : Understood) (f : Flag) (default : Int) : Int :=
  match u.find? f with
  | some [.whole n] => n
  | _ => default

/-- The number of users that is asked for, which is not zero. -/
def countOf (u : Understood) : Except UsageFault Int :=
  let n := wholeOf u count 300
  if n < 1 then .error (.other "--count must be at least 1") else .ok n

/-! ## The command -/

/-- The plan that arguments ask for. -/
def planOf (u : Understood) : Except UsageFault (Seed.Plan Float) := do
  let users ← countOf u
  let accepted ← rateOf u connectRate 0.60
  let pending ← rateOf u pendingRate 0.10
  let disconnected ← rateOf u disconnectedRate 0.05
  let dismissed ← rateOf u dismissRate 0.20
  return { count := users, seed := wholeOf u seed 42, truncate := (u.find? truncate).isSome,
           rates := ⟨accepted, pending, disconnected⟩, dismissRate := dismissed }

/-- The report on a run, which should have added as many users as were asked for. -/
def reportOf (plan : Seed.Plan Float) (counts : Seed.Counts) : Report :=
  let printed := Seed.report plan.truncate counts
  if (counts.users : Int) = plan.count then Report.done printed
  else Report.failed (printed ++ ["FAIL: expected " ++ toString plan.count ++ " users, inserted " ++
    toString counts.users])

/-- Seeds a store as arguments say; `none` stands for a run that is cut off. -/
def run (c : Conditions) (now : Instant) (arguments : List String) (s : Store) :
    Option (Except Failure (Report × Store)) :=
  match grammar.read arguments with
  | .error fault => some (.ok (Report.misused grammar.program fault, s))
  | .ok u =>
    if u.help then some (.ok (Report.done grammar.help, s))
    else match planOf u with
      | .error fault => some (.ok (Report.misused grammar.program fault, s))
      | .ok plan =>
        (Session.seed c now plan s).map fun outcome => outcome.map fun (counts, s) =>
          (reportOf plan counts, s)

end Matchmaker.Command.Seeding
