import Proctor.Case.Failure
import Proctor.Case.Phase
import Proctor.Process.Result

/-!
# Outcomes of a case

Everything a run of a case produced. A case passes when no check of it failed, neither
one of the whole case nor one of a process.
-/
namespace Proctor

/-- The failed checks of one process. -/
structure Verdict where
  name : String
  failures : List CheckFailure
  deriving DecidableEq

/-- A process passes when none of its checks failed. -/
def Verdict.passed (v : Verdict) : Bool := v.failures.isEmpty

/-- Everything a run of a case produced; results are in launch order. -/
structure Outcome where
  name : String
  phase : Phase
  deadline : Duration
  results : List ProcessResult
  verdicts : List Verdict
  caseFailures : List CheckFailure
  deriving DecidableEq

namespace Outcome

def timedOut (o : Outcome) : Bool := o.phase = .timedOut

def passed (o : Outcome) : Bool := o.caseFailures.isEmpty && o.verdicts.all Verdict.passed

/-- The first result of that name. -/
def result? (o : Outcome) (name : String) : Option ProcessResult :=
  o.results.find? (·.name = name)

/-- The first verdict of that name. -/
def verdict? (o : Outcome) (name : String) : Option Verdict :=
  o.verdicts.find? (·.name = name)

/-- All failed checks, those of the whole case first. -/
def failures (o : Outcome) : List CheckFailure :=
  o.caseFailures ++ o.verdicts.flatMap Verdict.failures

end Outcome
end Proctor
