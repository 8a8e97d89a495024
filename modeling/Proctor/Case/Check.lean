import Proctor.Case.Outcome
import Proctor.Catalog.Basic

/-!
# Checking a result

A process that never started fails with that alone. Any other is checked on its two
streams and its exit, each on its own.
-/
namespace Proctor.ProcessSpec

/-- The failed check of a stream, if it fails. -/
def streamFailure? (spec : ProcessSpec) (result : ProcessResult) (stream : Stream) :
    Option CheckFailure :=
  let pattern := spec.expected stream
  let output := result.output stream
  if pattern.accepts output then none
  else some (.mismatch spec.name stream pattern.source (Utf8.decodeString output))

/-- The failed check of the exit, if it fails. -/
def exitFailure? (spec : ProcessSpec) (result : ProcessResult) : Option CheckFailure :=
  if result.exit.satisfies spec.exitCode then none
  else some (.exitCode spec.name spec.exitCode result.exit)

/-- The failed checks of a result. -/
def failures (spec : ProcessSpec) (result : ProcessResult) : List CheckFailure :=
  match result.launchError with
  | some reason => [.launch spec.name spec.command.text reason]
  | none =>
    Stream.all.filterMap (spec.streamFailure? result) ++ (spec.exitFailure? result).toList

/-- The verdict on a result. -/
def verdict (spec : ProcessSpec) (result : ProcessResult) : Verdict :=
  ⟨spec.name, spec.failures result⟩

end Proctor.ProcessSpec
