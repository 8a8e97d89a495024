import Proctor.Process.Termination
import Proctor.Proofs.Host.Ensures
import Proctor.Proofs.Host.Path

/-!
# Conduct towards a process

What is done to one process of a case, step by step, each step with the entry that it leaves.
While it is supervised its signal is sent at most once, and its exit is collected or lost. While
it is terminated its group is asked to end and killed, and its exit may still be collected or
lost. When it is let go of it is killed.

Every step is taken on behalf of a child that was started and whose exit was not collected
before; that is all a step has to know of the past.
-/
namespace Proctor

/-- The process that a signal is addressed to, alone or as the leader of its group. -/
def Recipient.pid : Recipient → Pid
  | .process pid => pid
  | .group leader => leader

namespace Entry

/-- Whether an entry is about the launch of a process. -/
def launches : Entry → Bool
  | .attempted _ => true
  | .spawned .. => true
  | _ => false

/-- Whether an entry is about a signal. -/
def signals : Entry → Bool
  | .sent .. => true
  | _ => false

/-- The process that an entry about a signal or an exit is about. -/
def about? : Entry → Option Pid
  | .sent recipient .. => some recipient.pid
  | .collected pid _ => some pid
  | .uncollected pid _ => some pid
  | .survived pid => some pid
  | _ => none

end Entry

/-- The report on an injected signal. -/
def Delivery.report (kind : SignalKind) : Delivery → InjectionReport
  | .accepted => .delivered kind
  | .gone => .skipped kind
  | .refused reason => .failed kind reason

namespace Subject

/-- A subject whose child was started and is still to be waited for. -/
structure Awaits (s : Subject) (c : Child) : Prop where
  child : s.child = some c
  uncollected : c.status = none
  running : s.isRunning = true
  unended : s.exit = none

/-- A subject whose exit was seen while it was supervised. A signal that was not sent by then is
skipped. -/
def ended (s : Subject) (c : Child) (outcome : Except String WaitStatus) : Subject :=
  { ({ s with child := some c } : Subject).record outcome with
    report := s.report.or (s.injection.map (.skipped ·.kind)) }

/-- The steps of supervision. -/
inductive Supervises : Subject → Entry → Subject → Prop
  /-- The scheduled signal is sent to the process alone, once, and not before its time. -/
  | inject {s : Subject} {c : Child} {i : Injection} {t : Instant} {d : Delivery}
      (h : s.Awaits c) (planned : s.injection = some i) (unreported : s.report = none)
      (due : s.started.after i.delay ≤ t) :
      Supervises s (.sent (.process c.pid) i.kind.signal t d)
        { s with report := some (d.report i.kind) }
  | collect {s : Subject} {c : Child} {status : WaitStatus} (h : s.Awaits c) :
      Supervises s (.collected c.pid status)
        (s.ended { c with status := some status } (.ok status))
  | lose {s : Subject} {c : Child} {reason : String} (h : s.Awaits c) :
      Supervises s (.uncollected c.pid reason) (s.ended c (.error reason))

/-- The steps of termination. -/
inductive Terminates : Subject → Entry → Subject → Prop
  | ask {s : Subject} {c : Child} {t : Instant} {d : Delivery} (h : s.Awaits c) :
      Terminates s (.sent (.group c.pid) .terminate t d) { s with state := .stopping }
  /-- The group could not be asked. -/
  | askAlone {s : Subject} {c : Child} {t : Instant} {d : Delivery} (h : s.Awaits c) :
      Terminates s (.sent (.process c.pid) .terminate t d) s
  | collect {s : Subject} {c : Child} {status : WaitStatus} (h : s.Awaits c) :
      Terminates s (.collected c.pid status)
        (({ s with child := some { c with status := some status } } : Subject).record (.ok status))
  | lose {s : Subject} {c : Child} {reason : String} (h : s.Awaits c) :
      Terminates s (.uncollected c.pid reason)
        (({ s with child := some c } : Subject).record (.error reason))
  | killGroup {s : Subject} {c : Child} {t : Instant} {d : Delivery} (h : s.Awaits c) :
      Terminates s (.sent (.group c.pid) .kill t d) s
  | killAlone {s : Subject} {c : Child} {t : Instant} {d : Delivery} (h : s.Awaits c)
      (guarded : Bool) :
      Terminates s (.sent (.process c.pid) .kill t d)
        { s with child := some { c with guarded } }
  /-- The exit of a child that was killed is collected, and not recorded. -/
  | reap {s : Subject} {c : Child} {status : WaitStatus} (h : s.Awaits c) :
      Terminates s (.collected c.pid status) (s.killed (some { c with status := some status }))
  | loseKilled {s : Subject} {c : Child} {reason : String} (h : s.Awaits c) :
      Terminates s (.uncollected c.pid reason) (s.killed (some c))
  | survive {s : Subject} {c : Child} (h : s.Awaits c) :
      Terminates s (.survived c.pid) (s.killed (some c))

/-- The steps of letting go, which leave a subject as it is. -/
inductive Discards (s : Subject) : Entry → Subject → Prop
  | killGroup {c : Child} {t : Instant} {d : Delivery} (h : s.child = some c)
      (uncollected : c.status = none) (running : s.isRunning = true) :
      Discards s (.sent (.group c.pid) .kill t d) s
  | killAlone {c : Child} {t : Instant} {d : Delivery} (h : s.child = some c)
      (uncollected : c.status = none) (guarded : c.guarded = true) :
      Discards s (.sent (.process c.pid) .kill t d) s

variable {s s' : Subject} {e : Entry}

theorem Supervises.not_launches (h : s.Supervises e s') : e.launches = false := by
  cases h <;> rfl

theorem Terminates.not_launches (h : s.Terminates e s') : e.launches = false := by
  cases h <;> rfl

theorem Discards.not_launches (h : s.Discards e s') : e.launches = false := by
  cases h <;> rfl

/-- Supervision of a process is about that process alone. -/
theorem Supervises.about_eq (h : s.Supervises e s') : e.about? = s.pid ∧ s'.pid = s.pid := by
  cases h with
  | inject h _ _ _ => exact ⟨by simp [Entry.about?, Recipient.pid, pid, h.child], rfl⟩
  | collect h | lose h => simp [Entry.about?, ended, record, pid, h.child]

/-- So is termination. -/
theorem Terminates.about_eq (h : s.Terminates e s') : e.about? = s.pid ∧ s'.pid = s.pid := by
  cases h with
  | ask h | askAlone h | killGroup h =>
    exact ⟨by simp [Entry.about?, Recipient.pid, pid, h.child], rfl⟩
  | killAlone h _ => simp [Entry.about?, Recipient.pid, pid, h.child]
  | collect h | lose h => simp [Entry.about?, record, pid, h.child]
  | reap h | loseKilled h | survive h => simp [Entry.about?, killed, pid, h.child]

/-- Steps that are about one process each are about the processes of their system, and leave it
these processes. -/
theorem path_about {step : Subject → Entry → Subject → Prop}
    (hstep : ∀ {s e s'}, step s e s' → e.about? = s.pid ∧ s'.pid = s.pid)
    {subjects subjects' : List Subject} {entries : List Entry}
    (h : Path (OneOf step) subjects entries subjects') :
    subjects'.map pid = subjects.map pid ∧ ∀ e ∈ entries, e.about? ∈ subjects.map pid := by
  induction h with
  | refl => exact ⟨rfl, by simp⟩
  | snoc _ hs ih =>
    obtain ⟨before, after, hs⟩ := hs
    obtain ⟨habout, hpid⟩ := hstep hs
    rw [List.forall_mem_cons, ← ih.1, habout]
    refine ⟨by simp [hpid], by simp, ?_⟩
    rw [ih.1]
    exact ih.2

end Subject
end Proctor
