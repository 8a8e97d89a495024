import Proctor.Process.Subject

/-!
# Supervision

Supervising a subject is waiting for its exit and sending its scheduled signal on the way,
some time after its launch. It goes on in steps, since it can be given up between any two
of them. If both the exit and the time of the signal have come, chance decides which is
seen first.
-/
namespace Proctor

/-- How far the supervision of a subject has come. -/
inductive Supervision where
  | fresh
  /-- Waiting for the exit or for the time of the signal. -/
  | untilSignal (due : Instant)
  | untilExit
  | over
  /-- The time of the signal is none that the clock can hold. -/
  | overflow
  deriving DecidableEq

namespace Subject
variable {σ : Type} (host : Host σ)

/-- Waits for the exit, without a signal to send any more. -/
def superviseExit (s : Subject) : Run σ (Supervision × Subject) := do
  match s.child, s.exit with
  | some c, none =>
    let (ended, s) ← s.tryRecord host c
    return (if ended then .over else .untilExit, s)
  | _, _ => return (.over, s)

/-- Sends the scheduled signal, and goes on to wait for the exit. -/
def inject (s : Subject) (kind : SignalKind) : Run σ (Supervision × Subject) := do
  let report ← s.deliver host kind
  superviseExit host { s with report := some report }

/-- Waits for the exit or for the time of the signal. -/
def superviseSignal (s : Subject) (c : Child) (kind : SignalKind) (due : Instant) :
    Run σ (Supervision × Subject) := do
  let exitFirst ← Run.ask host.coin
  if !exitFirst && due.reached (← Run.now host) then s.inject host kind
  else
    let (ended, s) ← s.tryRecord host c
    if ended then return (.over, { s with report := some (.skipped kind) })
    else if due.reached (← Run.now host) then s.inject host kind
    else return (.untilSignal due, s)

/-- Goes on with supervision as far as it can without waiting. -/
def supervise (s : Subject) : Supervision → Run σ (Supervision × Subject)
  | .fresh =>
    match s.injection with
    | none => s.superviseExit host
    | some injection =>
      match s.started.add? injection.delay, s.child with
      | none, _ => return (.overflow, s)
      | some _, none => return (.over, s)
      | some due, some c => s.superviseSignal host c injection.kind due
  | .untilSignal due =>
    match s.injection, s.child with
    | some injection, some c => s.superviseSignal host c injection.kind due
    | _, _ => return (.over, s)
  | .untilExit => s.superviseExit host
  | .over => return (.over, s)
  | .overflow => return (.overflow, s)

/-- How a wait with a limit ends. -/
inductive Limited where
  | over
  /-- The limit came first. -/
  | givenUp
  | overflow
  /-- There were too many wake-ups. -/
  | stalled
  deriving DecidableEq, Repr

/-- Goes on with supervision until it is over, or until an instant at the latest. -/
def superviseUntil (limit : Instant) : Nat → Supervision → Subject → Run σ (Limited × Subject)
  | 0, _, s => return (.stalled, s)
  | patience + 1, stage, s => do
    let (stage, s) ← s.supervise host stage
    match stage with
    | .over => return (.over, s)
    | .overflow => return (.overflow, s)
    | .untilSignal due =>
      if limit.reached (← Run.now host) then return (.givenUp, s)
      Run.rest host (some (limit.earlier due))
      superviseUntil limit patience stage s
    | _ =>
      if limit.reached (← Run.now host) then return (.givenUp, s)
      Run.rest host (some limit)
      superviseUntil limit patience stage s

/-- Goes on with supervision for a span of time at most. -/
def superviseWithin (s : Subject) (stage : Supervision) (span : Duration) (patience : Nat) :
    Run σ (Limited × Subject) := do
  let limit := (← Run.now host).deadline span
  superviseUntil host limit patience stage s

/-- Goes on with the supervision of some subjects, one after the other, up to the first that
overflows. -/
def superviseAll : List (Supervision × Subject) → Run σ (List (Supervision × Subject))
  | [] => return []
  | (stage, s) :: rest => do
    let next ← s.supervise host stage
    if next.1 = .overflow then return next :: rest
    else return next :: (← superviseAll rest)

end Subject
end Proctor
