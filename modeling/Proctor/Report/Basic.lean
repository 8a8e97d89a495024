import Proctor.Case.Run
import Proctor.Report.Text
import Proctor.Report.Writer

/-!
# Reports

A report goes through a catalog case by case. A case that the filter does not select is
skipped; any other is run, and whatever its run ends with becomes its status, so that the
next case is run in any case. Only a write that fails ends a report before its last case.
How a case is run is a parameter.
-/
namespace Proctor

/-- A report in the making. -/
structure Report where
  writer : Writer := {}
  /-- The width of the column of names. -/
  width : Nat := 0
  /-- The statuses of all cases so far, over all passes through a catalog. -/
  statuses : List (String × Status) := []

namespace CaseEnd

/-- The status of a case that ended so. An outcome is reported only from a phase that can
be reported. -/
def status : CaseEnd → Status
  | .outcome o =>
    match o.phase.advance .reported with
    | .ok _ => if o.passed then .passed else .failed
    | .error illegal => .exception ("panicked: " ++ illegal.message)
  | .fault f => .exception f.message
  | .panic text => .exception ("panicked: " ++ text)
  | .stalled => .exception "the case did not come to an end"

/-- What is told of a case that ended so, before its status. -/
def details (verbose : Bool) : CaseEnd → String
  | .outcome o => Report.details verbose o
  | _ => ""

end CaseEnd

namespace Report

/-- Writes into a report. -/
def write (r : Report) (text : String) : Except WriteFault Unit × Report :=
  let (written, writer) := r.writer.write text
  (written, { r with writer })

/-- The number of cases so far that failed or raised an exception. -/
def failed (r : Report) : Nat := r.statuses.countP (·.2.isFailure)

/-- The width of the column of names for a catalog. -/
def columnWidth (catalog : Catalog) : Nat := catalog.longestName + 4

variable {τ : Type}

/-- A computation on a report that can be ended by a write. -/
abbrev Writing (τ α : Type) := ExceptT WriteFault (StateT Report (StateM τ)) α

/-- Writes into the report. -/
def put (text : String) : Writing τ Unit := ExceptT.mk fun r => pure (r.write text)

variable (settings : Settings) (runner : TestCase → StateM τ CaseEnd)

/-- Reports one case. -/
def runCase (c : TestCase) : Writing τ Status := do
  put (announcement settings.verbose (← getThe Report).width c)
  if !settings.selects c.name then
    put Status.skipped.line
    return .skipped
  let ending ← ExceptT.lift (StateT.lift (runner c))
  put (ending.details settings.verbose)
  put ending.status.line
  return ending.status

/-- Reports some cases one by one, without recording their statuses. -/
def runCases : List TestCase → Writing τ (List Status)
  | [] => return []
  | c :: rest => do
    let status ← runCase settings runner c
    return status :: (← runCases rest)

/-- Reports some cases one by one, and records the status of each. -/
def recordCases : List TestCase → Writing τ Unit
  | [] => return ()
  | c :: rest => do
    let status ← runCase settings runner c
    modifyThe Report fun r => { r with statuses := r.statuses ++ [(c.name, status)] }
    recordCases rest

/-- Reports a catalog. The answer is the exit code of the whole run so far: one if any case
failed or raised an exception, and zero otherwise. -/
def runAll (catalog : Catalog) : Writing τ Nat := do
  modifyThe Report fun r => { r with width := columnWidth catalog }
  recordCases settings runner catalog.cases
  return if 0 < (← getThe Report).failed then 1 else 0

end Report
end Proctor
