import Matchmaker.Command.Dispatch

/-!
# The command line

The first argument names a task, the others are those of the task. A task starts from an empty
store, which ends with it.
-/

namespace Matchmaker

/-- The service that the tasks run against. -/
def defaultService : Api.Service :=
  ⟨Geometry.sphere Float, "X-User-Id", true⟩

/-- What a failure is called when it ends the program. -/
def Failure.text : Failure → String
  | .refused why => why.message
  | .fault .outsideDomain => "a number is out of range"
  | .fault .wrongType => "a value has the wrong type"
  | .fault .notText => "a value is no text"
  | .fault .constraint => "a row breaks a constraint"
  | .fault .unstorable => "a number is too large"
  | .fault .tooLong => "a number has too many digits"
  | .fault .unwritable => "a text cannot be encoded"
  | .fault .unusable => "a URL is not valid"
  | .fault .database => "the database failed"

/-- The report of a task. -/
def reportOf (task : Command.Task) (now : Instant) (arguments : List String) : Command.Report :=
  match task.run defaultService Conditions.fair now arguments Store.empty with
  | none => ⟨1, [], "the run was cut off"⟩
  | some (.error e) => ⟨1, [], e.text⟩
  | some (.ok (report, _)) => report

/-- The report on a command line. -/
def reportOn (now : Instant) : List String → Command.Report
  | [] => ⟨2, [], "a task is required: seed_fixtures or race_check"⟩
  | name :: arguments =>
    match Command.Task.ofName? name with
    | some task => reportOf task now arguments
    | none => ⟨2, [], "unknown task: " ++ name⟩

end Matchmaker

/-- Runs the task that the command line names. -/
def main (arguments : List String) : IO UInt32 := do
  let now ← IO.monoMsNow
  let report := Matchmaker.reportOn (now * 1000) arguments
  report.lines.forM IO.println
  unless report.complaint.isEmpty do IO.eprintln report.complaint
  return report.exit.toUInt32
