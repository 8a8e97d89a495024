import Proctor.Machine.Signals
import Proctor.Shell.Session

/-!
# Jobs

The processes that a shell starts and waits for. Whatever process ends while it waits for
another is remembered with its status. A signal that ends a process it waits for is named
on the standard error stream, unless it is one that a user sends or that a reader causes.
-/
namespace Proctor.Shell

open Machine (SignalNumber.interrupt SignalNumber.pipe)

/-- How often a shell waits at a stretch. -/
def mostWaits : Nat := 10000000

/-- Names the signal that has ended a process. -/
def announce (status : WaitStatus) : Act Unit :=
  match Exit.ofStatus status with
  | .signaled signal =>
    let number := signal.toNat
    if number = SignalNumber.interrupt || number = SignalNumber.pipe then pure ()
    else do
      let _ ← Act.ask (.write 2 (SignalName.describe number ++ ['\n']))
  | _ => pure ()

/-- The process whose end is remembered, or none. -/
def Session.ended? (s : Session) (pid : Nat) : Option WaitStatus := (s.jobs.lookup pid).join

/-- Remembers a process that was started. -/
def startJob (pid : Nat) : Act Unit :=
  modify fun s => { s with jobs := s.jobs ++ [(pid, none)] }

/-- Remembers that a process has ended. -/
def endJob (pid : Nat) (status : WaitStatus) : Act Unit :=
  modify fun s => { s with jobs := s.jobs.map fun job =>
    if job.1 = pid then (pid, some status) else job }

/-- Forgets processes. -/
def forgetJobs (pids : List Nat) : Act Unit :=
  modify fun s => { s with jobs := s.jobs.filter (!pids.contains ·.1) }

/-- Waits until processes have ended, and tells whether they have. A signal that is caught
can come first if that is allowed. -/
def awaitJobs (interruptible aloud : Bool) (pids : List Nat) : Nat → Act Bool
  | 0 => return true
  | n + 1 => do
    let s ← get
    if pids.all fun pid => (s.ended? pid).isSome then return true
    match ← Act.ask (.wait none interruptible) with
    | .ended pid status =>
      endJob pid status
      if aloud && pids.contains pid then announce status
      awaitJobs interruptible aloud pids n
    | .noChild => return true
    | .interrupted => return false

/-- Waits in the foreground, and sets the status to that of the last process. -/
def awaitForeground (pids : List Nat) : Act Unit := do
  let _ ← awaitJobs false true pids mostWaits
  let s ← get
  let status := (pids.getLast?.bind s.ended?).map statusOf
  forgetJobs pids
  Act.setStatus (status.getD 127)

/-- What a new process of the shell does first: it forgets the actions for signals, and the
processes of its parent. -/
def enterChild : Act Unit := do
  for (signal, action) in (← get).traps do
    if signal ≠ 0 && !action.isEmpty then Act.ask (.dispose signal .default)
  modify fun s => { s with
    traps := s.traps.filter (·.2.isEmpty), jobs := [], before := none, loops := 0 }

end Proctor.Shell
