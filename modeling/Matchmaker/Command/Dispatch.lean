import Matchmaker.Command.Race
import Matchmaker.Command.Seeding

/-!
# Commands

The commands of the program and their names.
-/

namespace Matchmaker.Command

/-- What can be run. -/
inductive Task where
  | seeding
  | race
  deriving DecidableEq, Repr

namespace Task

/-- The name of a task. -/
def name : Task → String
  | seeding => "seed_fixtures"
  | race => "race_check"

/-- The task of a name. -/
def ofName? (s : String) : Option Task :=
  [seeding, race].find? (·.name == s)

/-- Runs a task with arguments on a store; `none` stands for a run that is cut off. -/
def run (v : Api.Service) (c : Conditions) (now : Instant) (arguments : List String) (s : Store) :
    Task → Option (Except Failure (Report × Store))
  | seeding => Seeding.run c now arguments s
  | race => some (Race.run v c now arguments s)

end Task

end Matchmaker.Command
