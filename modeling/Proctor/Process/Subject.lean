import Proctor.Host.Journal
import Proctor.Process.Result

/-!
# Processes under test

A subject is one launched process of a case, from its launch until its result is frozen. A
process that could not be started is a subject too: it has no child, and its launch error
stands in its result. The exit of a child is collected once, and then remembered.
-/
namespace Proctor

/-- A child that was started, and its wait status once that has been collected. -/
structure Child where
  pid : Pid
  status : Option WaitStatus := none
  /-- Whether it is killed when it is let go of before its exit was collected. -/
  guarded : Bool := true
  deriving DecidableEq

namespace Subject

/-- Where a subject stands. -/
inductive State where
  | running
  /-- It was asked to terminate. -/
  | stopping
  /-- It has exited or was killed. -/
  | stopped
  /-- It could not be started, or waiting for it failed. -/
  | failed
  deriving DecidableEq, Repr

/-- The name of a state. -/
def State.name : State → String
  | .running => "Running"
  | .stopping => "Stopping"
  | .stopped => "Stopped"
  | .failed => "Failed"

end Subject

/-- A process of a case. -/
structure Subject where
  name : String
  injection : Option Injection
  child : Option Child
  state : Subject.State
  /-- Read from the clock just before the launch. -/
  started : Instant
  stdout : Sink
  stderr : Sink
  exit : Option Exit
  launchError : Option Fault
  report : Option InjectionReport
  deriving DecidableEq

namespace Subject

/-- The number of the process, if it was started. -/
def pid (s : Subject) : Option Pid := s.child.map (·.pid)

/-- Whether the process is still to be waited for. -/
def isRunning (s : Subject) : Bool := s.state = .running || s.state = .stopping

/-- The subject of a child that was started. -/
def ofChild (spec : ProcessSpec) (started : Instant) (stdout stderr : Sink) (pid : Pid) :
    Subject where
  name := spec.name
  injection := spec.injection
  child := some { pid }
  state := .running
  started := started
  stdout := stdout
  stderr := stderr
  exit := none
  launchError := none
  report := none

/-- The subject of a process that could not be started. -/
def ofFault (spec : ProcessSpec) (started : Instant) (stdout stderr : Sink) (fault : Fault) :
    Subject where
  name := spec.name
  injection := spec.injection
  child := none
  state := .failed
  started := started
  stdout := stdout
  stderr := stderr
  exit := some .unknown
  launchError := some fault
  report := none

variable {σ : Type} (host : Host σ)

/-- Starts a process. Its two capture files are made first, and then a handle of each for
the child; what goes wrong with them is a fault of the harness and not of the process. -/
def launch (spec : ProcessSpec) : Run σ (Except Fault Subject) := ExceptT.run do
  let stdout ← Run.ask host.openSink
  let stderr ← Run.ask host.openSink
  Run.ask (host.shareSink stdout)
  Run.ask (host.shareSink stderr)
  let started ← ExceptT.lift (Run.now host)
  ExceptT.lift (Run.note (.attempted spec.name))
  let spawned ← ExceptT.lift
    (Run.ask (host.spawn ⟨spec.command, spec.environment, stdout, stderr⟩))
  match spawned with
  | .ok pid =>
    ExceptT.lift (Run.note (.spawned spec.name pid))
    return ofChild spec started stdout stderr pid
  | .error fault => return ofFault spec started stdout stderr fault

/-- The exit of a child, if it can be had now: what was collected before, or else what the
host knows. -/
def Child.exit? (c : Child) : Run σ (Option (Except String WaitStatus) × Child) := do
  match c.status with
  | some status => return (some (.ok status), c)
  | none =>
    match ← Run.ask (host.collect c.pid) with
    | .pending => return (none, c)
    | .ended status =>
      Run.note (.collected c.pid status)
      return (some (.ok status), { c with status := some status })
    | .failed reason =>
      Run.note (.uncollected c.pid reason)
      return (some (.error reason), c)

/-- Records how waiting for the exit ended. -/
def record (s : Subject) : Except String WaitStatus → Subject
  | .ok status => { s with exit := some (.ofStatus status), state := .stopped }
  | .error _ => { s with exit := some .unknown, state := .failed }

/-- Records the exit of a child if it can be had now. -/
def tryRecord (s : Subject) (c : Child) : Run σ (Bool × Subject) := do
  let (exit, child) ← Child.exit? host c
  let s := { s with child := some child }
  match exit with
  | none => return (false, s)
  | some outcome => return (true, s.record outcome)

/-- Sends an injected signal to the process alone. -/
def deliver (s : Subject) (kind : SignalKind) : Run σ InjectionReport := do
  match s.pid, s.isRunning with
  | some pid, true =>
    match ← Run.send host (.process pid) kind.signal with
    | .accepted => return .delivered kind
    | .gone => return .skipped kind
    | .refused reason => return .failed kind reason
  | _, _ => return .skipped kind

/-- What is known of a subject by now, with what it wrote. -/
def frozen (s : Subject) (stdout stderr : List UInt8) : ProcessResult where
  name := s.name
  pid := s.pid
  launchedAt := s.started
  stdout := stdout
  stderr := stderr
  exit := s.exit.getD .unknown
  launchError := s.launchError.map (·.message)
  injection := s.report

/-- Freezes what is known by now into a result. -/
def finish (s : Subject) : Run σ (Except Fault ProcessResult) := ExceptT.run do
  let stdout ← Run.ask (host.drain s.stdout)
  let stderr ← Run.ask (host.drain s.stderr)
  return s.frozen stdout stderr

end Subject
end Proctor
