import Proctor.Time.Instant

/-!
# Watchdogs

A watchdog is a timer set to the deadline of a case. When the timer runs and its instant
has been reached, the watchdog has fired, and it stays so. A timer that was aborted before
it ran does nothing more.

A bench holds the watchdogs that were armed one after the other: arming a new one or letting
go of the current one aborts the timer of the old one. Timers run only while the holder of
the bench waits.
-/
namespace Proctor

/-- A timer for a deadline, and whether it has gone off. -/
structure Watchdog where
  due : Instant
  fired : Bool := false
  aborted : Bool := false
  deriving DecidableEq, Repr

namespace Watchdog

/-- A watchdog that fires some time from now, if the clock can hold that instant. -/
def arm (now : Instant) (span : Duration) : Option Watchdog :=
  (now.add? span).map (⟨·, false, false⟩)

/-- Lets the timer run at an instant. -/
def run (w : Watchdog) (now : Instant) : Watchdog :=
  if !w.aborted && w.due.reached now then { w with fired := true } else w

/-- Aborts the timer. -/
def abort (w : Watchdog) : Watchdog := { w with aborted := true }

@[simp] theorem run_aborted (w : Watchdog) (now : Instant) : w.abort.run now = w.abort := by
  simp [run, abort]

/-- Watchdogs armed one after the other. -/
structure Bench where
  now : Instant
  current : Option Watchdog := none
  /-- The ones that were replaced or let go of, the newest first. -/
  retired : List Watchdog := []

namespace Bench

/-- Aborts the current watchdog and puts it away. -/
def release (b : Bench) : Bench :=
  { b with current := none, retired := (b.current.map abort).toList ++ b.retired }

/-- Arms a watchdog in place of the current one. There is none if the clock cannot hold its
instant. -/
def arm (b : Bench) (span : Duration) : Option Bench :=
  (Watchdog.arm b.now span).map fun w => { b.release with current := some w }

/-- Lets time pass and every timer run once at its end. -/
def advance (b : Bench) (instant : Instant) : Bench where
  now := instant
  current := b.current.map (·.run instant)
  retired := b.retired.map (·.run instant)

/-- Waits for a span. At its very end the holder goes on before any timer runs. -/
def sleep (b : Bench) (span : Duration) : Bench :=
  let wake := b.now.deadline span
  let ticks := wake.tick
  let last : Instant := ⟨(ticks - 1) * Instant.perMillisecond⟩
  { b.advance (if b.now ≤ last then last else b.now) with
    now := ⟨ticks * Instant.perMillisecond⟩ }

/-- Waits for the current watchdog to fire, for a span at most: whether it did, if there is
one. -/
def expired (b : Bench) (span : Duration) : Option Bool × Bench :=
  match b.current with
  | none => (none, b)
  | some w =>
    if w.fired then (some true, b)
    else
      let due : Instant := ⟨w.due.tick * Instant.perMillisecond⟩
      if w.due.tick < (b.now.deadline span).tick then
        (some true, b.advance (if b.now ≤ due then due else b.now))
      else (some false, b.sleep span)

/-- Lets go of the current watchdog: whether it had fired, if there was one. -/
def disarm (b : Bench) : Option Bool × Bench := (b.current.map (·.fired), b.release)

end Bench
end Watchdog
end Proctor
