import Proctor.Number.Shortest
import Proctor.Pattern.Basic
import Proctor.Process.Stream

/-!
# Defects of a catalog

The ways in which a catalog can fail its checks, and their wording.
-/
namespace Proctor

/-- What is wrong with a catalog. -/
inductive Defect where
  | noCases
  | duplicateCase (case' : String)
  | emptyOrder (case' : String)
  | unknownProcess (case' process : String)
  | duplicateLaunch (case' process : String)
  | notLaunched (case' process : String)
  | emptyCommand (case' process : String)
  | invalidTimeout (case' process : String) (seconds : Binary64)
  | invalidDelay (case' process : String) (seconds : Binary64)
  | invalidPattern (case' process : String) (stream : Stream) (fault : PatternFault)
  deriving DecidableEq, Repr

namespace Defect

/-- A text between single quotes. -/
def quoted (text : String) : String := "'" ++ text ++ "'"

/-- The wording of a defect. -/
def message : Defect → String
  | .noCases => "catalog must contain at least one [[case]] entry"
  | .duplicateCase c => "case name " ++ quoted c ++ " is declared more than once"
  | .emptyOrder c => "case " ++ quoted c ++ " has an empty \x60exec\x60 order"
  | .unknownProcess c p => "case " ++ quoted c ++ " launches undeclared process " ++ quoted p
  | .duplicateLaunch c p =>
    "case " ++ quoted c ++ " launches process " ++ quoted p ++ " more than once"
  | .notLaunched c p =>
    "case " ++ quoted c ++ " declares process " ++ quoted p ++ " but never launches it"
  | .emptyCommand c p => "process " ++ quoted (c ++ "/" ++ p) ++ " has an empty command"
  | .invalidTimeout c p x =>
    "process " ++ quoted (c ++ "/" ++ p) ++ " has invalid timeout " ++ x.text ++
      " (seconds, must be > 0)"
  | .invalidDelay c p x =>
    "process " ++ quoted (c ++ "/" ++ p) ++ " has invalid injection delay " ++ x.text ++
      " (seconds, must be >= 0)"
  | .invalidPattern c p stream _ =>
    "process " ++ quoted (c ++ "/" ++ p) ++ " has an invalid " ++ stream.name ++ " pattern"

end Defect
end Proctor
