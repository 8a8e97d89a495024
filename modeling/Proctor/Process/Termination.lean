import Proctor.Process.Supervision

/-!
# Termination

A running subject is asked to terminate, together with its process group, and killed if it
has not exited when the grace period is over. A subject that is discarded while it runs is
killed at once, so that it leaves nothing behind.
-/
namespace Proctor

/-- How waiting for the exit of a child ended. -/
inductive Waited where
  | exited (outcome : Except String WaitStatus)
  | timedOut
  /-- The wait was given up after too many wake-ups. -/
  | stalled

namespace Subject
variable {σ : Type} (host : Host σ)

/-- Waits for the exit of a child, until an instant at the latest. -/
def waitChild (limit : Instant) : Nat → Child → Run σ (Waited × Child)
  | 0, c => return (.stalled, c)
  | patience + 1, c => do
    let (exit, c) ← Child.exit? host c
    match exit with
    | some outcome => return (.exited outcome, c)
    | none =>
      if limit.reached (← Run.now host) then return (.timedOut, c)
      Run.rest host (some limit)
      waitChild limit patience c

/-- Sends a signal to the group that the process leads or, failing that, to the process. -/
def signalGroup (pid : Pid) (signal : Signal) : Run σ Unit := do
  match ← Run.send host (.group pid) signal with
  | .accepted => return ()
  | _ => let _ ← Run.send host (.process pid) signal

/-- Kills a child, unless its exit was collected. If that succeeds it is not killed once more
when it is let go of. -/
def Child.kill (c : Child) : Run σ Child := do
  match c.status with
  | some _ => return c
  | none =>
    match ← Run.send host (.process c.pid) .kill with
    | .accepted => return { c with guarded := false }
    | _ => return c

/-- A subject that was killed, whatever became of its child. -/
def killed (s : Subject) (child : Option Child) : Subject :=
  { s with child, exit := some .unknown, state := .stopped }

/-- Kills the group and the child, and waits for the child for the grace period at most. The
exit is recorded as unknown. The answer is `false` if the wait stalled. -/
def kill (s : Subject) (grace : Duration) (patience : Nat) : Run σ (Bool × Subject) := do
  match s.child with
  | none => return (true, s.killed none)
  | some c =>
    signalGroup host c.pid .kill
    let c ← Child.kill host c
    let limit := (← Run.now host).deadline grace
    let (waited, c) ← waitChild host limit patience c
    match waited with
    | .exited _ => return (true, s.killed c)
    | .timedOut =>
      Run.note (.survived c.pid)
      return (true, s.killed c)
    | .stalled => return (false, { s with child := some c })

/-- Asks a running subject to terminate, and kills it if it has not exited after the grace
period. The answer is `false` if a wait stalled. -/
def terminate (s : Subject) (grace : Duration) (patience : Nat) : Run σ (Bool × Subject) := do
  match s.child, s.isRunning with
  | some c, true =>
    let s := { s with state := .stopping }
    signalGroup host c.pid .terminate
    let limit := (← Run.now host).deadline grace
    let (waited, c) ← waitChild host limit patience c
    let s := { s with child := some c }
    match waited with
    | .exited outcome => return (true, s.record outcome)
    | .timedOut => s.kill host grace patience
    | .stalled => return (false, s)
  | _, _ => return (true, s)

/-- Terminates the running ones of some subjects, one after the other. -/
def terminateAll (grace : Duration) (patience : Nat) :
    List Subject → Run σ (Bool × List Subject)
  | [] => return (true, [])
  | s :: rest => do
    let (ended, s) ← s.terminate host grace patience
    if ended then
      let (ended, rest) ← terminateAll grace patience rest
      return (ended, s :: rest)
    else return (false, s :: rest)

/-- Lets go of a child. If its exit has not been collected it is killed, unless that was done
before, and left to the system. -/
def Child.release (c : Child) : Run σ Unit := do
  match c.status with
  | some _ => return ()
  | none =>
    if c.guarded then
      let _ ← Run.send host (.process c.pid) .kill
    Run.ask fun w => ((), host.abandon c.pid w)

/-- Lets go of a subject. If it is running its group is killed first. -/
def discard (s : Subject) : Run σ Unit := do
  match s.child with
  | none => return ()
  | some c =>
    if s.isRunning then
      let _ ← Run.send host (.group c.pid) .kill
    Child.release host c

/-- Lets go of some subjects, one after the other. -/
def discardAll : List Subject → Run σ Unit
  | [] => return ()
  | s :: rest => do
    s.discard host
    discardAll rest

end Subject
end Proctor
