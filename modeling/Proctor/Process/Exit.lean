/-!
# Exits

How a process ended, as far as it could be observed, and the wait status it is read
from: an exit code in bits 8 to 15 when the low seven bits are zero, a signal number in
the low seven bits when they are neither zero nor all ones.
-/
namespace Proctor

/-- How a process ended. -/
inductive Exit where
  | exited (code : Int)
  | signaled (signal : Int)
  | unknown
  deriving DecidableEq, Repr, Inhabited

/-- The status that the operating system reports for a process that changed state. -/
structure WaitStatus where
  raw : Int
  deriving DecidableEq, Repr, Inhabited

namespace WaitStatus

/-- The low seven bits. -/
def low (s : WaitStatus) : Int := s.raw % 128

/-- Bits 8 to 15. -/
def code (s : WaitStatus) : Int := s.raw / 256 % 256

/-- The status of a process that exited with a code. -/
def ofCode (code : Nat) : WaitStatus := ⟨(code % 256 : Nat) * 256⟩

/-- The status of a process that a signal ended. -/
def ofSignal (number : Nat) : WaitStatus := ⟨number⟩

end WaitStatus

namespace Exit

/-- The exit that a wait status describes. -/
def ofStatus (s : WaitStatus) : Exit :=
  if s.low = 0 then .exited s.code
  else if s.low = 127 then .unknown
  else .signaled s.low

/-- The exit code, for a normal exit. -/
def code? : Exit → Option Int
  | .exited code => some code
  | _ => none

/-- The text of an exit in diagnostics. -/
def text : Exit → String
  | .exited code => toString code
  | .signaled signal => "signal " ++ toString signal
  | .unknown => "unknown"

/-- An expected code of zero accepts every exit; any other accepts a normal exit with
that very code alone. -/
def satisfies (expected : Int) (exit : Exit) : Bool :=
  expected = 0 || exit.code? = some expected

end Exit
end Proctor
