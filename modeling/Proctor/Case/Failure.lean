import Proctor.Process.Exit
import Proctor.Process.Stream
import Proctor.Time.Duration

/-!
# Failed checks

The ways in which a case can fall short of its expectations, and their wording.
-/
namespace Proctor

/-- A failed check of a case or of one of its processes. -/
inductive CheckFailure where
  /-- The process could not be started. -/
  | launch (process command reason : String)
  /-- A captured stream does not satisfy its pattern. -/
  | mismatch (process : String) (stream : Stream) (pattern actual : String)
  /-- The process did not end with the expected code. -/
  | exitCode (process : String) (expected : Int) (actual : Exit)
  /-- The case outlived its deadline. -/
  | deadline (limit : Duration)
  deriving DecidableEq

/-- The diagnostic that a report prints. -/
def CheckFailure.message : CheckFailure → String
  | .launch process command reason =>
    process ++ ": failed to launch '" ++ command ++ "': " ++ reason
  | .mismatch process stream pattern actual =>
    let subject := process ++ " " ++ stream.name
    "actual " ++ subject ++ " does not match expected pattern\n actual " ++ subject ++
      ":\n  >>>\n" ++ actual ++ "\n  <<<\n  Expected regex: '" ++ pattern ++ "'"
  | .exitCode process expected actual =>
    "actual rc " ++ actual.text ++ " does not match expected " ++ toString expected ++
      " for " ++ process
  | .deadline limit =>
    "case did not complete within " ++ limit.text ++ ", surviving processes were terminated"

end Proctor
