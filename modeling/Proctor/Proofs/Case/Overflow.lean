import Proctor.Proofs.Case.Containment
import Proctor.Proofs.Case.Escalation

/-!
# When the clock overflows

A case asks the clock for two kinds of instants that it may not be able to hold: its deadline, when
the watchdog is armed, and the times of its signals, when supervision begins. The times of all
signals are asked for in the first round of the wait, also for processes that could not be started.
A case panics for no other reason, and everything that still runs is killed then.
-/
namespace Proctor

namespace Subject
variable {σ : Type} (host : Host σ) {s : Subject} {w w' : World σ} {r : Supervision × Subject}

section Stages
variable {host}

end Stages

variable {supervised : List (Supervision × Subject)}

end Subject

namespace TestCase
open Subject

variable {σ : Type} (host : Host σ)

section Waits
variable {supervised : List (Supervision × Subject)}

end Waits

variable (c : TestCase) (pace : Pace) {w w' : World σ} {ending : CaseEnd} {subjects : List Subject}

/-- The processes of a case that was begun in some world are all launched, and the clock has been
read for its deadline. -/
def Ready (w : World σ) (subjects : List Subject) (now : Instant) (w' : World σ) : Prop :=
  ∃ w₁, (launchAll host pace c.processes).run
      { w with journal := .phase .launching :: .phase .pending :: w.journal } =
        ((subjects, none), w₁) ∧
    (Run.now host).run w₁ = (now, w')

section
variable {host c pace} {now : Instant}

theorem Ready.launching (h : Ready host c pace w subjects now w') :
    ∃ launched, Launching host c.processes launched subjects none := by
  obtain ⟨w₁, hlaunch, -⟩ := h
  obtain ⟨launched, -, -, hlaunching⟩ := launchAll_ensures host
    { w with journal := .phase .launching :: .phase .pending :: w.journal } pace c.processes
  rw [hlaunch] at hlaunching
  exact ⟨launched, hlaunching⟩

/-- The rest of a case whose processes were launched. -/
theorem Ready.execute_eq (h : Ready host c pace w subjects now w') :
    (c.execute host pace).run w =
      match Watchdog.arm now c.deadline with
      | none => ((.panic Instant.overflowMessage, subjects), w')
      | some watchdog =>
        (c.carryOn host pace watchdog pace.patience (subjects.map (.fresh, ·))).run
          { w' with journal := .phase .awaiting :: w'.journal } := by
  obtain ⟨w₁, hlaunch, hnow⟩ := h
  rw [execute_launched host c pace hlaunch, watch_eq, StateT.run_bind, hnow]
  change StateT.run (match Watchdog.arm now c.deadline with
    | none => _
    | some watchdog => _) w' = _
  cases Watchdog.arm now c.deadline <;> rfl

end

end TestCase
end Proctor
