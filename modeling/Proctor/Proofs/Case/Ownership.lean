import Proctor.Proofs.Case.Course

/-!
# Signals go to processes that are owned

The number of a process belongs to it until its exit is collected; after that the host may give
it to another process. The journal tells which numbers a run owns: those of the processes that
were started and whose exit was not collected yet. They are exactly the numbers that the
subjects of the run hold, and so a signal, which is only ever sent to a child whose exit was not
collected, meets the process that it is meant for.
-/
namespace Proctor

/-- The numbers of the processes that were started and whose exit was not collected. -/
def outstanding : List Entry → List Pid
  | [] => []
  | .spawned _ pid :: earlier => pid :: outstanding earlier
  | .collected pid _ :: earlier => (outstanding earlier).erase pid
  | _ :: earlier => outstanding earlier

namespace Subject

/-- The number of a child whose exit was not collected. -/
def held (s : Subject) : Option Pid :=
  s.child.bind fun c => if c.status = none then some c.pid else none

theorem held_eq {s : Subject} {c : Child} (h : s.child = some c) (hc : c.status = none) :
    s.held = some c.pid := by
  simp [held, h, hc]

/-- What a step does with the number that a subject holds: signals are sent to it, it is waited for,
and it is given back when the exit is collected. -/
inductive Holds : Subject → Entry → Subject → Prop
  | signal {s s' : Subject} {r : Recipient} {signal : Signal} {t : Instant} {d : Delivery}
      (h : s.held = some r.pid) (h' : s'.held = s.held) : Holds s (.sent r signal t d) s'
  | collect {s s' : Subject} {pid : Pid} {status : WaitStatus}
      (h : s.held = some pid) (h' : s'.held = none) : Holds s (.collected pid status) s'
  | lose {s s' : Subject} {pid : Pid} {reason : String}
      (h : s.held = some pid) (h' : s'.held = s.held) : Holds s (.uncollected pid reason) s'
  | survive {s s' : Subject} {pid : Pid}
      (h : s.held = some pid) (h' : s'.held = s.held) : Holds s (.survived pid) s'

variable {s s' : Subject} {e : Entry}

theorem Supervises.holds (h : s.Supervises e s') : s.Holds e s' := by
  cases h with
  | inject h _ _ _ => exact .signal (held_eq h.child h.uncollected) rfl
  | collect h => exact .collect (held_eq h.child h.uncollected) rfl
  | lose h =>
    have hheld := held_eq h.child h.uncollected
    exact .lose hheld (Eq.trans (held_eq rfl h.uncollected) hheld.symm)

theorem Terminates.holds (h : s.Terminates e s') : s.Holds e s' := by
  cases h with
  | ask h | askAlone h | killGroup h => exact .signal (held_eq h.child h.uncollected) rfl
  | killAlone h guarded =>
    have hheld := held_eq h.child h.uncollected
    exact .signal hheld (Eq.trans (held_eq rfl h.uncollected) hheld.symm)
  | collect h | reap h => exact .collect (held_eq h.child h.uncollected) rfl
  | lose h | loseKilled h =>
    have hheld := held_eq h.child h.uncollected
    exact .lose hheld (Eq.trans (held_eq rfl h.uncollected) hheld.symm)
  | survive h =>
    have hheld := held_eq h.child h.uncollected
    exact .survive hheld (Eq.trans (held_eq rfl h.uncollected) hheld.symm)

theorem Discards.holds (h : s.Discards e s') : s.Holds e s' := by
  cases h with
  | killGroup hc hs _ | killAlone hc hs _ => exact .signal (held_eq hc hs) rfl

/-- A step is about the number that its subject holds. -/
theorem Holds.about (h : s.Holds e s') : e.about? = s.held := by
  cases h with
  | signal h _ | collect h _ | lose h _ | survive h _ => exact h.symm

end Subject

/-- A run whose subjects hold the numbers that it owns, and that sent signals to no other numbers
than those that it owned, nor waited for others. -/
structure Owned (journal : List Entry) (subjects : List Subject) : Prop where
  held : (outstanding journal).Perm (subjects.filterMap Subject.held)
  about : ∀ later e earlier pid, journal = later ++ e :: earlier → e.about? = some pid →
    pid ∈ outstanding earlier

namespace Owned
variable {journal later : List Entry} {subjects subjects' : List Subject} {e : Entry}

/-- An entry about a number that is owned. -/
theorem about_cons (h : Owned journal subjects)
    (he : ∀ pid, e.about? = some pid → pid ∈ outstanding journal) :
    ∀ later e' earlier pid, e :: journal = later ++ e' :: earlier → e'.about? = some pid →
      pid ∈ outstanding earlier := by
  intro later e' earlier pid hsplit hpid
  cases later with
  | nil =>
    obtain ⟨rfl, rfl⟩ := List.cons.inj hsplit
    exact he pid hpid
  | cons _ later => exact h.about later e' earlier pid (List.cons.inj hsplit).2 hpid

/-- An entry that is about no process changes nothing. -/
theorem skip (h : Owned journal subjects) (hout : outstanding (e :: journal) = outstanding journal)
    (he : e.about? = none) : Owned (e :: journal) subjects := by
  refine ⟨hout ▸ h.held, h.about_cons fun pid hpid => ?_⟩
  rw [he] at hpid
  cases hpid

theorem step (h : Owned journal subjects) (hs : OneOf Subject.Holds subjects e subjects') :
    Owned (e :: journal) subjects' := by
  obtain @⟨before, after, s, s', e, hs⟩ := hs
  have habout : ∀ pid, e.about? = some pid → pid ∈ outstanding journal := by
    intro pid hpid
    rw [h.held.mem_iff, List.mem_filterMap]
    exact ⟨s, by simp, hs.about.symm.trans hpid⟩
  have hsame (h' : s'.held = s.held) : (before ++ s' :: after).filterMap Subject.held =
      (before ++ s :: after).filterMap Subject.held := by
    simp [List.filterMap_cons, h']
  refine ⟨?_, h.about_cons habout⟩
  cases hs with
  | signal _ h' | lose _ h' | survive _ h' => exact hsame h' ▸ h.held
  | @collect _ pid status hheld h' =>
    have hperm := h.held
    rw [List.filterMap_append, List.filterMap_cons, hheld] at hperm
    rw [List.filterMap_append, List.filterMap_cons, h']
    have herase := (hperm.trans List.perm_middle).erase pid
    rwa [List.erase_cons_head] at herase

theorem path (h : Owned journal subjects) (hs : Path (OneOf Subject.Holds) subjects later subjects') :
    Owned (later ++ journal) subjects' :=
  hs.preserves (fun h hs => h.step hs) h

end Owned

namespace TestCase
open Subject

variable {σ : Type} {host : Host σ} {c : TestCase} {specs : List ProcessSpec}
  {launched entries : List Entry} {subjects : List Subject} {setback : Option Setback}

theorem Launching.outstanding_perm (h : Launching host specs launched subjects setback)
    (earlier : List Entry) :
    (outstanding (launched ++ earlier)).Perm (subjects.filterMap held ++ outstanding earlier) := by
  induction h generalizing earlier with
  | done | stalled | fault _ => exact .refl _
  | launched h _ ih =>
    rw [List.append_assoc]
    refine (ih _).trans ?_
    cases h with
    | started instant stdout stderr pid => exact List.perm_middle
    | unstarted instant stdout stderr fault => exact .refl _

/-- While processes are launched no signal is sent, and none is waited for. -/
theorem Launching.owned (h : Launching host specs launched subjects setback) :
    Owned (launched ++ [.phase .launching, .phase .pending]) subjects := by
  refine ⟨by simpa [outstanding] using h.outstanding_perm [.phase .launching, .phase .pending], ?_⟩
  intro later e earlier pid hsplit hpid
  have hmem : e ∈ launched ++ [.phase .launching, .phase .pending] := by
    rw [hsplit]
    simp
  obtain hmem | hmem := List.mem_append.mp hmem
  · have hlaunches := h.launches _ hmem
    cases e <;> simp_all [Entry.launches, Entry.about?]
  · obtain rfl | rfl : e = .phase .launching ∨ e = .phase .pending := by simpa using hmem
    all_goals cases hpid

theorem Awaited.owned (h : Awaited host c entries subjects) : Owned entries subjects := by
  obtain ⟨hlaunch, hpath⟩ := h
  exact (hlaunch.owned.skip rfl rfl).path (hpath.imp (·.holds))

theorem Course.owned {ending : CaseEnd} (h : Course host c entries ending subjects) :
    Owned entries subjects := by
  cases h with
  | cut h | unarmed h => exact h.owned
  | broken h _ => exact h.owned
  | completed h _ _ => exact h.owned.skip rfl rfl
  | timedOut h hpath _ _ =>
    exact ((h.owned.skip rfl rfl).path (hpath.imp (·.holds))).skip rfl rfl
  | stuck h hpath => exact (h.owned.skip rfl rfl).path (hpath.imp (·.holds))

end TestCase
end Proctor
