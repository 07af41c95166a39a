import Matchmaker.Command.Arguments
import Matchmaker.Text.Split

/-!
# Reports

What a command leaves behind it: an exit code, the lines it printed and the last line of what it
complained of. A text that is printed ends in a line feed and may hold more ends of lines.
-/

namespace Matchmaker.Command

/-- What a command leaves behind it. -/
structure Report where
  exit : Nat
  lines : List String
  complaint : String
  deriving DecidableEq, Repr

namespace Report

/-- The lines of what is printed. -/
def shown (printed : List String) : List String :=
  printed.flatMap fun s => Text.lines (s ++ "\n")

/-- A command that did what it was asked for. -/
def done (printed : List String) : Report :=
  ⟨0, shown printed, ""⟩

/-- A command that found that not all is well. -/
def failed (printed : List String) : Report :=
  ⟨1, shown printed, ""⟩

/-- A command that does not understand its arguments. -/
def misused (program : String) (fault : UsageFault) : Report :=
  ⟨2, [], ((shown [program ++ ": error: " ++ fault.message]).getLast?).getD ""⟩

end Report

end Matchmaker.Command
