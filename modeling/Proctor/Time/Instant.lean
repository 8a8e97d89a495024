import Proctor.Time.Duration

/-!
# Instants

An instant is a reading of the monotonic clock, in nanoseconds. The clock holds fewer
than `2 ^ 63` seconds; an instant beyond that does not exist, and asking for one is an
overflow.
-/
namespace Proctor

/-- A reading of the monotonic clock. -/
structure Instant where
  nanoseconds : Nat
  deriving DecidableEq, Repr, Inhabited

namespace Instant

/-- The first number of nanoseconds that the clock cannot hold. -/
abbrev limit : Nat := 0x8000000000000000 * Duration.perSecond

instance : LE Instant := ⟨fun a b => a.nanoseconds ≤ b.nanoseconds⟩

instance (a b : Instant) : Decidable (a ≤ b) :=
  inferInstanceAs (Decidable (a.nanoseconds ≤ b.nanoseconds))

/-- The instant a duration later, if the clock can hold it. -/
def add? (t : Instant) (d : Duration) : Option Instant :=
  if t.nanoseconds + d.nanoseconds < limit then some ⟨t.nanoseconds + d.nanoseconds⟩ else none

/-- The instant a duration later, whether or not the clock can hold it. -/
def after (t : Instant) (d : Duration) : Instant := ⟨t.nanoseconds + d.nanoseconds⟩

/-- The earlier of two instants. -/
def earlier (a b : Instant) : Instant := if a ≤ b then a else b

/-- Nanoseconds in a millisecond. -/
abbrev perMillisecond : Nat := 1000000

/-- The first whole millisecond after an instant: a timer that is set to an instant goes off
then. -/
def tick (t : Instant) : Nat := t.nanoseconds / perMillisecond + 1

/-- Whether a timer that is set to an instant has gone off. -/
def reached (limit now : Instant) : Bool :=
  limit.tick * perMillisecond ≤ now.nanoseconds

/-- How long a timer waits that is set to an instant that the clock cannot hold: thirty
years. -/
def distant : Duration := ⟨86400 * 365 * 30 * Duration.perSecond, by decide⟩

/-- When a span that starts now is over. -/
def deadline (now : Instant) (span : Duration) : Instant :=
  (now.add? span).getD (now.after distant)

/-- The message of an overflow. -/
def overflowMessage : String := "overflow when adding duration to instant"

/-- A timer never goes off before its instant. -/
theorem le_of_reached {limit now : Instant} (h : limit.reached now) : limit ≤ now := by
  have h : (limit.nanoseconds / 1000000 + 1) * 1000000 ≤ now.nanoseconds :=
    of_decide_eq_true h
  show limit.nanoseconds ≤ now.nanoseconds
  omega

@[simp] theorem add?_eq_none_iff (t : Instant) (d : Duration) :
    t.add? d = none ↔ limit ≤ t.nanoseconds + d.nanoseconds := by
  simp [add?]

/-- A sum that the clock can hold is the instant that much later. -/
theorem eq_after_of_add? {t u : Instant} {d : Duration} (h : t.add? d = some u) :
    u = t.after d := by
  simp only [add?] at h
  split at h
  · exact (Option.some.inj h).symm
  · cases h

end Instant
end Proctor
