import Proctor.Process.Exit
import Proctor.Process.Signal
import Proctor.Process.Stream
import Proctor.Time.Instant

/-!
# Process results

The frozen record of one process of a case: what it wrote, how it ended, and what became
of the signal scheduled for it.
-/
namespace Proctor

/-- What became of a scheduled signal. It is skipped when the process had already exited
as its delay elapsed. -/
inductive InjectionReport where
  | delivered (kind : SignalKind)
  | skipped (kind : SignalKind)
  | failed (kind : SignalKind) (reason : String)
  deriving DecidableEq, Repr

/-- The kind of signal a report is about. -/
def InjectionReport.kind : InjectionReport → SignalKind
  | .delivered kind => kind
  | .skipped kind => kind
  | .failed kind _ => kind

/-- The frozen record of one process. -/
structure ProcessResult where
  name : String
  pid : Option Nat
  launchedAt : Instant
  stdout : List UInt8
  stderr : List UInt8
  exit : Exit
  launchError : Option String
  injection : Option InjectionReport
  deriving DecidableEq, Repr, Inhabited

/-- The captured bytes of a stream. -/
def ProcessResult.output (r : ProcessResult) : Stream → List UInt8
  | .stdout => r.stdout
  | .stderr => r.stderr

end Proctor
