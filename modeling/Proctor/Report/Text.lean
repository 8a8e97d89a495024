import Proctor.Case.Outcome
import Proctor.Program.Options

/-!
# The text of a report

A case is announced by its name in a column, followed by its command lines in a verbose
report. Then come, for a case that was run, its captured output in a verbose report, its
failed checks, and at last its status.
-/
namespace Proctor

/-- What became of a case. -/
inductive Status where
  | passed
  | failed
  | skipped
  /-- The case was not run to its end. -/
  | exception (cause : String)
  deriving DecidableEq, Repr

/-- Whether a status makes the whole run fail. -/
def Status.isFailure : Status → Bool
  | .failed => true
  | .exception _ => true
  | _ => false

/-- The line that tells a status. -/
def Status.line : Status → String
  | .passed => "pass\n"
  | .failed => "fail\n"
  | .skipped => "skipped\n"
  | .exception cause => "exception while running test: " ++ cause ++ "\n"

namespace Report

/-- The command lines of a case. -/
def commands (c : TestCase) : String :=
  "=== '" ++ c.name ++ "' ===\n" ++
    String.join (c.processes.map fun p => "  " ++ p.name ++ ": " ++ p.command.text ++ "\n")

/-- The announcement of a case. -/
def announcement (verbose : Bool) (width : Nat) (c : TestCase) : String :=
  ">> " ++ Text.padRight width c.name ++ if verbose then commands c else ""

/-- The captured output of a process. -/
def output (r : ProcessResult) : String :=
  String.join (Stream.all.map fun stream =>
    "|| " ++ r.name ++ " " ++ stream.name ++ ": >>> " ++
      Utf8.decodeString (r.output stream) ++ " <<<\n\n")

/-- A failed check. -/
def diagnostic (failure : CheckFailure) : String := "\n !!! " ++ failure.message ++ "\n"

/-- What is told of an outcome before its status. -/
def details (verbose : Bool) (o : Outcome) : String :=
  (if verbose then String.join (o.results.map output) else "") ++
    String.join (o.failures.map diagnostic)

end Report
end Proctor
