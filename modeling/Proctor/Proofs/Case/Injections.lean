import Proctor.Proofs.Case.Containment
import Proctor.Proofs.Case.Delivery
import Proctor.Proofs.Case.Ownership
import Mathlib.Data.List.Nodup
import Mathlib.Data.List.TakeWhile

/-!
# Injected signals

As long as its watchdog has not fired, a case sends no signals but the injected ones. Each of
them can be charged to a process of its own: the signal is the one that the catalog plans for
that process, it goes to the process alone, and it is not sent before its time.

A case that has completed lets go of its processes, and a child whose exit was not collected is
killed then. That the exit of every child was collected rests on the system, which keeps a child
until its exit has been collected and so has no reason to refuse a wait for it. The same rule makes
sure that the number of such a child belongs to no other process.
-/
namespace Proctor

namespace Subject

/-- A signal that is planned for a process: to it alone, and not before its time. -/
def Injects (s : Subject) (e : Entry) : Prop :=
  ∃ pid i t d, s.pid = some pid ∧ s.injection = some i ∧ s.started.after i.delay ≤ t ∧
    e = .sent (.process pid) i.kind.signal t d

variable {s s' : Subject} {e e' : Entry}

theorem Injects.of_birth (h : s.Injects e) (hbirth : s'.birth = s.birth) : s'.Injects e := by
  simp only [birth, Prod.mk.injEq] at hbirth
  obtain ⟨-, hi, hp, hs, -⟩ := hbirth
  unfold Injects
  rwa [hi, hp, hs]

theorem Supervises.report_isSome (h : s.Supervises e s') (hr : s.report.isSome) :
    s'.report.isSome := by
  cases h with
  | inject _ _ _ _ => rfl
  | collect _ | lose _ =>
    obtain ⟨report, hr⟩ := Option.isSome_iff_exists.mp hr
    simp [ended, hr]

/-- The only signal of supervision is the planned one, and only if none was sent before. -/
theorem Supervises.injects (h : s.Supervises e s') (he : e.signals = true) :
    s.Injects e ∧ s.report = none ∧ s'.report.isSome := by
  cases h with
  | @inject c i t d h hi hr hdue =>
    exact ⟨⟨c.pid, i, t, d, by simp [pid, h.child], hi, hdue, rfl⟩, hr, rfl⟩
  | collect _ | lose _ => cases he

end Subject

/-- The signals in a journal, charged to the subjects at some places. -/
structure Charged (journal : List Entry) (subjects : List Subject) (places : List Nat) : Prop where
  /-- No subject is charged with two signals. -/
  nodup : places.Nodup
  injects : List.Forall₂ (fun e place => ∃ s, subjects[place]? = some s ∧ s.Injects e)
    (journal.filter Entry.signals) places
  reported : ∀ place ∈ places, ∃ s, subjects[place]? = some s ∧ s.report.isSome

namespace Charged
variable {journal later : List Entry} {subjects subjects' : List Subject} {places : List Nat}
  {e : Entry}

theorem skip (h : Charged journal subjects places) (he : e.signals = false) :
    Charged (e :: journal) subjects places := by
  refine ⟨h.nodup, ?_, h.reported⟩
  rw [List.filter_cons_of_neg (by simp [he])]
  exact h.injects

theorem step (h : Charged journal subjects places) (hs : OneOf Subject.Supervises subjects e subjects') :
    ∃ places', Charged (e :: journal) subjects' places' := by
  have hinjects : List.Forall₂ (fun e place => ∃ s, subjects'[place]? = some s ∧ s.Injects e)
      (journal.filter Entry.signals) places :=
    h.injects.imp fun _ _ hs' => hs.at_place (fun hs h => h.of_birth hs.birth_eq) hs'
  have hreported : ∀ place ∈ places, ∃ s, subjects'[place]? = some s ∧ s.report.isSome :=
    fun place hplace => hs.at_place (fun hs h => hs.report_isSome h) (h.reported place hplace)
  cases he : e.signals with
  | false => exact ⟨places, Charged.skip ⟨h.nodup, hinjects, hreported⟩ he⟩
  | true =>
    obtain @⟨before, after, s, s', e, hs⟩ := hs
    obtain ⟨hi, hnone, hsome⟩ := hs.injects he
    refine ⟨before.length :: places, ?_, ?_, ?_⟩
    · -- a subject that was charged has a report, and this one had none
      refine List.nodup_cons.mpr ⟨fun hmem => ?_, h.nodup⟩
      obtain ⟨x, hx, hr⟩ := h.reported _ hmem
      obtain rfl : s = x := by simpa using hx
      rw [hnone] at hr
      cases hr
    · rw [List.filter_cons_of_pos he]
      exact .cons ⟨s', by simp, hi.of_birth hs.birth_eq⟩ hinjects
    · rw [List.forall_mem_cons]
      exact ⟨⟨s', by simp, hsome⟩, hreported⟩

theorem path (h : Charged journal subjects places)
    (hs : Path (OneOf Subject.Supervises) subjects later subjects') :
    ∃ places', Charged (later ++ journal) subjects' places' :=
  hs.preserves (I := fun journal subjects => ∃ places, Charged journal subjects places)
    (fun ⟨_, h⟩ hs => h.step hs) ⟨places, h⟩

end Charged

/-- The entries of a run up to the expiry of its watchdog, the first one first. -/
def untilExpiry (journal : List Entry) : List Entry := journal.reverse.takeWhile (· ≠ .expired)

section Expiry
variable {later earlier : List Entry}

theorem untilExpiry_eq (h : .expired ∉ earlier) : untilExpiry earlier = earlier.reverse := by
  rw [untilExpiry, List.takeWhile_eq_self_iff]
  intro e he
  rw [List.mem_reverse] at he
  simpa using fun heq : e = .expired => h (heq ▸ he)

theorem untilExpiry_append (h : .expired ∉ earlier) :
    untilExpiry (later ++ .expired :: earlier) = earlier.reverse := by
  rw [untilExpiry, List.reverse_append, List.reverse_cons, List.append_assoc,
    List.takeWhile_append_of_pos]
  · simp
  · intro e he
    rw [List.mem_reverse] at he
    simpa using fun heq : e = .expired => h (heq ▸ he)

end Expiry

namespace Subject
variable {s s' : Subject} {e : Entry} {journal : List Entry}

/-- A child that is not waited for any more, though its exit was not collected, was lost. -/
def Traced (journal : List Entry) (s : Subject) : Prop :=
  ∀ c, s.child = some c → c.status = none →
    s.isRunning = true ∨ ∃ reason, .uncollected c.pid reason ∈ journal

theorem Traced.cons (h : s.Traced journal) : s.Traced (e :: journal) := fun c hc hs =>
  (h c hc hs).imp id fun ⟨reason, hr⟩ => ⟨reason, List.mem_cons_of_mem _ hr⟩

theorem Supervises.traced (h : s.Supervises e s') (_ : s.Traced journal) :
    s'.Traced (e :: journal) := by
  intro c hc hs
  cases h with
  | inject h _ _ _ => exact .inl h.running
  | collect h =>
    obtain rfl := Option.some.inj hc
    cases hs
  | lose h =>
    obtain rfl := Option.some.inj hc
    exact .inr ⟨_, List.mem_cons_self⟩

end Subject

namespace TestCase
open Subject

/-- A signal that the catalog plans for the process at some place: to it alone, and not before
its time. -/
def Injected (c : TestCase) (subjects : List Subject) (e : Entry) (place : Nat) : Prop :=
  ∃ spec i s pid t d, c.processes[place]? = some spec ∧ spec.injection = some i ∧
    subjects[place]? = some s ∧ s.pid = some pid ∧ s.started.after i.delay ≤ t ∧
    e = .sent (.process pid) i.kind.signal t d

variable {σ : Type} {host : Host σ} {c : TestCase} {specs : List ProcessSpec}
  {launched entries : List Entry} {subjects subjects' : List Subject} {setback : Option Setback}

theorem Begun.injected (h : Begun host c setback entries subjects) {e : Entry} {place : Nat}
    (he : ∃ s, subjects[place]? = some s ∧ s.Injects e) : c.Injected subjects e place := by
  obtain ⟨hlaunch, -, hbirth⟩ := h
  obtain ⟨s, hs, pid, i, t, d, hpid, hi, ht, rfl⟩ := he
  have hplace := congrArg (·[place]?) hbirth
  simp only [List.getElem?_map, hs, Option.map_some] at hplace
  obtain ⟨s₀, hs₀, hsame⟩ := Option.map_eq_some_iff.mp hplace.symm
  obtain ⟨spec, hspec, hinjection⟩ := hlaunch.injection_eq hs₀
  simp only [birth, Prod.mk.injEq] at hsame
  exact ⟨spec, i, s, pid, t, d, hspec, by rw [← hinjection, hsame.2.1, hi], hs, hpid, ht, rfl⟩

theorem Launching.traced (h : Launching host specs launched subjects setback)
    (journal : List Entry) : ∀ s ∈ subjects, s.Traced journal := by
  induction h with
  | done | stalled | fault _ => simp
  | launched h _ ih =>
    rw [List.forall_mem_cons]
    refine ⟨fun c hc _ => ?_, ih⟩
    cases h with
    | started instant stdout stderr pid => exact .inl rfl
    | unstarted instant stdout stderr fault => cases hc

theorem Launching.charged (h : Launching host specs launched subjects setback) :
    Charged (launched ++ [.phase .launching, .phase .pending]) subjects [] := by
  refine ⟨List.nodup_nil, ?_, by simp⟩
  have hnone : (launched ++ [Entry.phase .launching, .phase .pending]).filter Entry.signals = [] := by
    rw [List.filter_eq_nil_iff]
    intro e he hsignals
    obtain he | he := List.mem_append.mp he
    · have := h.launches e he
      cases e <;> simp_all [Entry.launches, Entry.signals]
    · simp only [List.mem_cons, List.not_mem_nil, or_false] at he
      obtain rfl | rfl := he <;> cases hsignals
  rw [hnone]
  exact .nil

/-- While a case is awaited every signal is charged to a process of its own. -/
theorem Awaited.charged (h : Awaited host c entries subjects) :
    ∃ places, Charged entries subjects places := by
  obtain ⟨hlaunch, hpath⟩ := h
  exact (hlaunch.charged.skip rfl).path hpath

theorem Launching.not_expired (h : Launching host specs launched subjects setback) :
    .expired ∉ launched ++ [.phase .launching, .phase .pending] := by
  intro hmem
  obtain he | he := List.mem_append.mp hmem
  · have := h.launches _ he
    cases this
  · simp at he

theorem Awaited.not_expired (h : Awaited host c entries subjects) : .expired ∉ entries := by
  obtain ⟨hlaunch, hpath⟩ := h
  intro hmem
  obtain he | he := List.mem_append.mp hmem
  · refine hpath.forall_entry (P := (· ≠ .expired)) ?_ _ he rfl
    rintro _ _ _ (_ | _ | _) <;> nofun
  · obtain he | he := List.mem_cons.mp he
    · cases he
    · exact hlaunch.not_expired he

/-- A child that is not waited for any more while its case is awaited was collected or lost. -/
theorem Awaited.traced (h : Awaited host c entries subjects) :
    ∀ s ∈ subjects, s.Traced entries := by
  obtain ⟨hlaunch, hpath⟩ := h
  exact hpath.forall_mem (fun h => h.cons) (fun h hs => hs.traced h) (hlaunch.traced _)

/-- Up to the expiry of the watchdog every signal is charged to a process of its own. -/
theorem Course.injected {ending : CaseEnd} (h : Course host c entries ending subjects) :
    ∃ places : List Nat, places.Nodup ∧
      List.Forall₂ (c.Injected subjects) ((untilExpiry entries).filter Entry.signals) places := by
  obtain ⟨setback, hbegun, -⟩ := h.begun
  -- what was charged to the subjects as they were is charged to them as they are
  have hcharged (watched : List Entry) (subjects₀ : List Subject) (places : List Nat)
      (hbirth : subjects₀.map birth = subjects.map birth)
      (h : Charged watched subjects₀ places) :
      ∃ places : List Nat, places.Nodup ∧
        List.Forall₂ (c.Injected subjects) (watched.reverse.filter Entry.signals) places := by
    refine ⟨places.reverse, List.nodup_reverse.mpr h.nodup, ?_⟩
    rw [List.filter_reverse, List.forall₂_reverse_iff]
    refine h.injects.imp fun e place ⟨s, hs, he⟩ => hbegun.injected ?_
    have hplace := congrArg (·[place]?) hbirth
    simp only [List.getElem?_map, hs, Option.map_some] at hplace
    obtain ⟨s', hs', hsame⟩ := Option.map_eq_some_iff.mp hplace.symm
    exact ⟨s', hs', he.of_birth hsame⟩
  cases h with
  | cut h | unarmed h =>
    rw [untilExpiry_eq h.not_expired]
    exact hcharged _ _ _ rfl h.charged
  | broken h _ =>
    rw [untilExpiry_eq h.not_expired]
    obtain ⟨places, hplaces⟩ := h.charged
    exact hcharged _ _ _ rfl hplaces
  | completed h _ _ =>
    have hnot : Entry.expired ∉ Entry.phase .completed :: _ :=
      List.not_mem_cons_of_ne_of_not_mem (by simp) h.not_expired
    rw [untilExpiry_eq hnot]
    obtain ⟨places, hplaces⟩ := h.charged
    exact hcharged _ _ _ rfl (hplaces.skip rfl)
  | timedOut h hpath _ _ =>
    rw [← List.cons_append, untilExpiry_append h.not_expired]
    obtain ⟨places, hplaces⟩ := h.charged
    exact hcharged _ _ _ (hpath.map_eq (·.birth_eq)).symm hplaces
  | stuck h hpath =>
    rw [untilExpiry_append h.not_expired]
    obtain ⟨places, hplaces⟩ := h.charged
    exact hcharged _ _ _ (hpath.map_eq (·.birth_eq)).symm hplaces

/-- A case that has completed lets go of idle subjects, whose children were collected or lost. -/
theorem Course.traced {o : Outcome} (h : Course host c entries (.outcome o) subjects)
    (hphase : o.phase = .completed) : ∀ s ∈ subjects, s.Traced entries := by
  obtain ⟨-, phase, hjudged, ⟨-, earlier, rfl, hawaited⟩ | rfl⟩ := h.concluded
  · exact fun s hs => (hawaited.traced s hs).cons
  · rw [hjudged.phase_eq] at hphase
    cases hphase

/-- What is sent as a completed case is let go of are kills of processes that were lost. -/
theorem Course.dropped {o : Outcome} {dropped : List Entry}
    (h : Course host c entries (.outcome o) subjects) (hphase : o.phase = .completed)
    (hidle : ∀ s ∈ subjects, s.Idle)
    (hdropped : Path (OneOf Discards) subjects dropped subjects) :
    ∀ e ∈ dropped, ∃ pid t d reason, e = .sent (.process pid) .kill t d ∧
      .uncollected pid reason ∈ entries := by
  intro e he
  obtain ⟨s, hs, hstep⟩ := (hdropped.exists_part fun h => by cases h <;> rfl).2 e he
  cases hstep with
  | killGroup _ _ hr =>
    have := (hidle s hs).idle
    rw [hr] at this
    cases this
  | @killAlone child t d hc hn _ =>
    obtain hr | ⟨reason, hlost⟩ := h.traced hphase s hs child hc hn
    · rw [(hidle s hs).idle] at hr
      cases hr
    · exact ⟨child.pid, t, d, reason, rfl, hlost⟩

end TestCase
end Proctor
