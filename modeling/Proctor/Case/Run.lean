import Proctor.Case.Check
import Proctor.Case.Watchdog
import Proctor.Process.Termination

/-!
# Running a case

A case launches its processes one after the other with a pause before each, arms a watchdog
for the deadline of the case, and supervises all processes until the last has exited or the
watchdog has fired. In the second case the processes that still run are terminated. Then
every process is frozen into a result and checked.

A run ends with an outcome, or with a fault of the harness, or with an overflow of the
clock; then everything that still runs is killed.
-/
namespace Proctor

/-- How a case is paced. -/
structure Pace where
  /-- The pause before each launch. -/
  stagger : Duration
  /-- How long a process gets to terminate, and again to be gone after it was killed. -/
  grace : Duration
  /-- How often a wait may be woken before it is given up. -/
  patience : Nat := 1000000
  deriving DecidableEq

/-- How a run of a case ends. -/
inductive CaseEnd where
  | outcome (outcome : Outcome)
  | fault (fault : Fault)
  | panic (message : String)
  /-- A wait was given up. -/
  | stalled
  deriving DecidableEq

namespace TestCase
variable {σ : Type} (host : Host σ)

/-- Why the launch of the processes of a case did not come to its end. -/
inductive Setback where
  | fault (fault : Fault)
  | stalled
  deriving DecidableEq

/-- How a case ends after a setback. -/
def Setback.ending : Setback → CaseEnd
  | .fault f => .fault f
  | .stalled => .stalled

/-- Launches processes, with a pause before each, up to the first setback. -/
def launchAll (pace : Pace) : List ProcessSpec → Run σ (List Subject × Option Setback)
  | [] => return ([], none)
  | spec :: rest => do
    if !(← Run.pause host pace.stagger pace.patience) then return ([], some .stalled)
    match ← Subject.launch host spec with
    | .error fault => return ([], some (.fault fault))
    | .ok s =>
      let (subjects, setback) ← launchAll pace rest
      return (s :: subjects, setback)

/-- How waiting for the processes of a case ends. -/
inductive Ending where
  | completed
  | timedOut
  | overflow
  | stalled
  deriving DecidableEq

/-- What the supervision of all processes has come to. -/
def ending? (supervised : List (Supervision × Subject)) : Option Ending :=
  if supervised.any (·.1 = .overflow) then some .overflow
  else if supervised.all (·.1 = .over) then some .completed
  else none

/-- The next instant at which something is due. -/
def nextDue (watchdog : Watchdog) (supervised : List (Supervision × Subject)) : Instant :=
  supervised.foldl (fun due s =>
    match s.1 with
    | .untilSignal other => due.earlier other
    | _ => due) watchdog.due

/-- Waits until all processes have exited or the watchdog has fired. Chance decides which is
looked at first. -/
def await (watchdog : Watchdog) :
    Nat → List (Supervision × Subject) → Run σ (Ending × List Subject)
  | 0, supervised => return (.stalled, supervised.map (·.2))
  | patience + 1, supervised => do
    let watchdogFirst ← Run.ask host.coin
    if watchdogFirst && watchdog.fired then return (.timedOut, supervised.map (·.2))
    let supervised ← Subject.superviseAll host supervised
    match ending? supervised with
    | some ending => return (ending, supervised.map (·.2))
    | none =>
      if watchdog.fired then return (.timedOut, supervised.map (·.2))
      Run.rest host (some (nextDue watchdog supervised))
      await (watchdog.run (← Run.now host)) patience supervised

/-- The results of some subjects, up to the first fault. -/
def finishAll : List Subject → Run σ (Except Fault (List ProcessResult))
  | [] => return .ok []
  | s :: rest => do
    match ← s.finish host with
    | .error fault => return .error fault
    | .ok result => return (← finishAll rest).map (result :: ·)

/-- The outcome of a case from the results of its processes. -/
def conclude (c : TestCase) (phase : Phase) (results : List ProcessResult) : Outcome where
  name := c.name
  phase := phase
  deadline := c.deadline
  results := results
  verdicts := List.zipWith ProcessSpec.verdict c.processes results
  caseFailures := if phase = .timedOut && !c.allowTimeout then [.deadline c.deadline] else []

/-- Freezes all subjects and checks their results. -/
def judge (c : TestCase) (phase : Phase) (subjects : List Subject) : Run σ CaseEnd := do
  Run.note (.phase phase)
  match ← finishAll host subjects with
  | .error fault => return .fault fault
  | .ok results => return .outcome (c.conclude phase results)

/-- Terminates the processes that still run after the watchdog has fired. -/
def overrun (c : TestCase) (pace : Pace) (subjects : List Subject) :
    Run σ (CaseEnd × List Subject) := do
  Run.note .expired
  let (ended, subjects) ← Subject.terminateAll host pace.grace pace.patience subjects
  if ended then return (← c.judge host .timedOut subjects, subjects)
  else return (.stalled, subjects)

/-- Supervises subjects until the case has completed or timed out. -/
def watch (c : TestCase) (pace : Pace) (subjects : List Subject) :
    Run σ (CaseEnd × List Subject) := do
  match Watchdog.arm (← Run.now host) c.deadline with
  | none => return (.panic Instant.overflowMessage, subjects)
  | some watchdog =>
    Run.note (.phase .awaiting)
    let (ending, subjects) ← await host watchdog pace.patience (subjects.map (.fresh, ·))
    match ending with
    | .completed => return (← c.judge host .completed subjects, subjects)
    | .timedOut => c.overrun host pace subjects
    | .overflow => return (.panic Instant.overflowMessage, subjects)
    | .stalled => return (.stalled, subjects)

/-- Runs a case up to its end, with the subjects as they stand then. -/
def execute (c : TestCase) (pace : Pace) : Run σ (CaseEnd × List Subject) := do
  Run.note (.phase .pending)
  Run.note (.phase .launching)
  match ← launchAll host pace c.processes with
  | (subjects, none) => c.watch host pace subjects
  | (subjects, some setback) => return (setback.ending, subjects)

/-- Runs a case. However that ends, everything that still runs is killed. -/
def run (c : TestCase) (pace : Pace) : Run σ CaseEnd := do
  let (ending, subjects) ← c.execute host pace
  Subject.discardAll host subjects
  return ending

end TestCase
end Proctor
