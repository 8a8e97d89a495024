import Proctor.Case.Run
import Proctor.Proofs.Process.Likeness
import Proctor.Report.Basic

/-!
# Cases that run alike

In worlds in which the host answers alike a case comes to the same end, whatever stands in their
journals: its results differ in nothing but the numbers of the processes and the instants of their
launch, and its verdicts are the same. Each part of a run is related to itself, and the whole run is
put together from them.
-/
namespace Proctor
open Run (Both OrFault)

/-- The spans that a run of a case adds to readings of the clock. -/
inductive TestCase.Spans (pace : Pace) (c : TestCase) : Duration → Prop where
  | stagger : Spans pace c pace.stagger
  | grace : Spans pace c pace.grace
  | deadline : Spans pace c c.deadline
  | delay {spec : ProcessSpec} {injection : Injection} (hspec : spec ∈ c.processes)
    (hinjection : spec.injection = some injection) : Spans pace c injection.delay

namespace Likeness
variable {σ : Type} {host : Host σ} {spans : Duration → Prop} (like : Likeness host spans)

/-- Watchdogs that are set to the same instant. -/
structure Watchdogs (w w' : Watchdog) : Prop where
  due : like.limits w.due w'.due
  fired_eq : w.fired = w'.fired
  aborted_eq : w.aborted = w'.aborted

/-- Outcomes that tell the same. -/
structure Outcomes (o o' : Outcome) : Prop where
  name_eq : o.name = o'.name
  phase_eq : o.phase = o'.phase
  deadline_eq : o.deadline = o'.deadline
  results : List.Forall₂ like.Results o.results o'.results
  verdicts_eq : o.verdicts = o'.verdicts
  caseFailures_eq : o.caseFailures = o'.caseFailures

/-- Ends of a case that are the same. -/
inductive Ends : CaseEnd → CaseEnd → Prop where
  | outcome {o o' : Outcome} (h : like.Outcomes o o') : Ends (.outcome o) (.outcome o')
  | fault (f : Fault) : Ends (.fault f) (.fault f)
  | panic (message : String) : Ends (.panic message) (.panic message)
  | stalled : Ends .stalled .stalled

variable {like}

/-- A check of a result asks neither for the number of the process nor for its launch. -/
theorem Results.verdict_eq {r r' : ProcessResult} (h : like.Results r r') (spec : ProcessSpec) :
    spec.verdict r = spec.verdict r' := by
  obtain ⟨name, pid, launchedAt, stdout, stderr, exit, launchError, injection⟩ := r
  obtain ⟨name', pid', launchedAt', stdout', stderr', exit', launchError', injection'⟩ := r'
  obtain ⟨rfl, -, -, rfl, rfl, rfl, rfl, rfl⟩ := h
  rfl

theorem verdicts_eq {results results' : List ProcessResult}
    (h : List.Forall₂ like.Results results results') (specs : List ProcessSpec) :
    List.zipWith ProcessSpec.verdict specs results =
      List.zipWith ProcessSpec.verdict specs results' := by
  induction h generalizing specs with
  | nil => rfl
  | cons hresult _ ih =>
    cases specs with
    | nil => rfl
    | cons spec specs => rw [List.zipWith_cons_cons, List.zipWith_cons_cons, hresult.verdict_eq, ih]

theorem Ends.status_eq {ending ending' : CaseEnd} (h : like.Ends ending ending') :
    ending.status = ending'.status := by
  cases h with
  | @outcome o o' h =>
    rw [CaseEnd.status, CaseEnd.status, Outcome.passed, Outcome.passed, h.phase_eq, h.verdicts_eq,
      h.caseFailures_eq]
  | fault | panic | stalled => rfl

theorem Watchdogs.run {w w' : Watchdog} (h : like.Watchdogs w w') {now now' : Instant}
    (hnow : like.readings now now') : like.Watchdogs (w.run now) (w'.run now') := by
  unfold Watchdog.run
  rw [h.aborted_eq, like.reached_eq h.due hnow]
  cases !w'.aborted && w'.due.reached now' with
  | true => exact ⟨h.due, rfl, rfl⟩
  | false => exact h

variable (like)

theorem arm {span : Duration} (hspan : spans span) {now now' : Instant}
    (hnow : like.readings now now') :
    Option.Rel like.Watchdogs (Watchdog.arm now span) (Watchdog.arm now' span) := by
  unfold Watchdog.arm
  have hdue := like.add? hspan hnow
  generalize now.add? span = due at hdue ⊢
  generalize now'.add? span = due' at hdue ⊢
  cases hdue with
  | none => exact .none
  | some hdue => exact .some ⟨hdue, rfl, rfl⟩

/-- Subjects with their supervisions. -/
abbrev Staged : Supervision × Subject → Supervision × Subject → Prop :=
  Both like.Stages like.Subjects

variable {like} {staged staged' : List (Supervision × Subject)} {subjects subjects' : List Subject}

theorem Stages.overflow_iff {stage stage' : Supervision} (h : like.Stages stage stage') :
    stage = .overflow ↔ stage' = .overflow := by
  cases h <;> simp

theorem Stages.over_iff {stage stage' : Supervision} (h : like.Stages stage stage') :
    stage = .over ↔ stage' = .over := by
  cases h <;> simp

theorem subjects_of_staged (h : List.Forall₂ like.Staged staged staged') :
    List.Forall₂ like.Subjects (staged.map (·.2)) (staged'.map (·.2)) := by
  induction h with
  | nil => exact .nil
  | cons hs _ ih => exact .cons hs.2 ih

theorem staged_of_subjects (h : List.Forall₂ like.Subjects subjects subjects') :
    List.Forall₂ like.Staged (subjects.map (.fresh, ·)) (subjects'.map (.fresh, ·)) := by
  induction h with
  | nil => exact .nil
  | cons hs _ ih => exact .cons ⟨.fresh, hs⟩ ih

open TestCase

theorem ending?_eq (h : List.Forall₂ like.Staged staged staged') :
    ending? staged = ending? staged' := by
  have hsame : staged.any (·.1 = .overflow) = staged'.any (·.1 = .overflow) ∧
      staged.all (·.1 = .over) = staged'.all (·.1 = .over) := by
    induction h with
    | nil => exact ⟨rfl, rfl⟩
    | cons hs _ ih =>
      rw [List.any_cons, List.any_cons, List.all_cons, List.all_cons, ih.1, ih.2,
        decide_eq_decide.mpr hs.1.overflow_iff, decide_eq_decide.mpr hs.1.over_iff]
      exact ⟨rfl, rfl⟩
  rw [ending?, ending?, hsame.1, hsame.2]

theorem nextDue_like (h : List.Forall₂ like.Staged staged staged') {w w' : Watchdog}
    (hw : like.Watchdogs w w') : like.limits (nextDue w staged) (nextDue w' staged') := by
  unfold nextDue
  have hdue := hw.due
  generalize w.due = due at hdue ⊢
  generalize w'.due = due' at hdue ⊢
  induction h generalizing due due' with
  | nil => exact hdue
  | @cons a b _ _ hs _ ih =>
    obtain ⟨stage, s⟩ := a
    obtain ⟨stage', s'⟩ := b
    refine ih _ _ ?_
    cases hs.1 with
    | untilSignal hother => exact like.earlier hdue hother
    | fresh | untilExit | «over» | overflow => exact hdue

variable (like) {w w' : Watchdog} {c : TestCase} {pace : Pace}

theorem await_agree (hw : like.Watchdogs w w') (h : List.Forall₂ like.Staged staged staged')
    (patience : Nat) : like.Agree (Both Eq (List.Forall₂ like.Subjects))
      (await host w patience staged) (await host w' patience staged') := by
  induction patience generalizing w w' staged staged' with
  | zero => exact .of_pure ⟨rfl, subjects_of_staged h⟩
  | succ patience ih =>
    refine (Agree.ask like.coin).seq ?_
    rintro watchdogFirst _ rfl
    rw [hw.fired_eq]
    cases watchdogFirst && w'.fired with
    | true => exact .of_pure ⟨rfl, subjects_of_staged h⟩
    | false =>
      refine (like.superviseAll_agree h).seq fun next next' hnext => ?_
      rw [ending?_eq hnext]
      cases ending? next' with
      | some ending => exact .of_pure ⟨rfl, subjects_of_staged hnext⟩
      | none =>
        cases w'.fired with
        | true => exact .of_pure ⟨rfl, subjects_of_staged hnext⟩
        | false =>
          refine (like.rest_agree (nextDue_like hnext hw)).seq fun _ _ _ => ?_
          refine like.now_agree.seq fun now now' hnow => ?_
          exact ih (hw.run hnow) hnext

theorem finishAll_agree (h : List.Forall₂ like.Subjects subjects subjects') :
    like.Agree (OrFault (List.Forall₂ like.Results)) (finishAll host subjects)
      (finishAll host subjects') := by
  induction h with
  | nil => exact .of_pure .nil
  | cons hs _ ih =>
    refine (like.finish_agree hs).seq fun _ _ h => ?_
    obtain ⟨fault, rfl, rfl⟩ | ⟨result, result', rfl, rfl, hresult⟩ := h.cases
    · exact .of_pure rfl
    · refine ih.seq fun _ _ h => ?_
      obtain ⟨fault, rfl, rfl⟩ | ⟨results, results', rfl, rfl, hresults⟩ := h.cases
      · exact .of_pure rfl
      · exact .of_pure (.cons hresult hresults)

theorem judge_agree (phase : Phase) (h : List.Forall₂ like.Subjects subjects subjects') :
    like.Agree like.Ends (c.judge host phase subjects) (c.judge host phase subjects') := by
  refine .note_seq ((like.finishAll_agree h).seq fun _ _ h => ?_)
  obtain ⟨fault, rfl, rfl⟩ | ⟨results, results', rfl, rfl, hresults⟩ := h.cases
  · exact .of_pure (.fault fault)
  · exact .of_pure (.outcome ⟨rfl, rfl, rfl, hresults, verdicts_eq hresults _, rfl⟩)

/-- An end of a case, and the subjects as they stand then. -/
abbrev EndsWith : CaseEnd × List Subject → CaseEnd × List Subject → Prop :=
  Both like.Ends (List.Forall₂ like.Subjects)

theorem overrun_agree (hgrace : spans pace.grace)
    (h : List.Forall₂ like.Subjects subjects subjects') :
    like.Agree like.EndsWith (c.overrun host pace subjects) (c.overrun host pace subjects') := by
  refine .note_seq ((like.terminateAll_agree hgrace pace.patience h).seq ?_)
  rintro ⟨ended, subjects₁⟩ ⟨_, subjects₁'⟩ ⟨rfl, h₁⟩
  cases ended with
  | true => exact (like.judge_agree .timedOut h₁).seq fun _ _ hends => .of_pure ⟨hends, h₁⟩
  | false => exact .of_pure ⟨.stalled, h₁⟩

theorem watch_agree (hspans : ∀ span, c.Spans pace span → spans span)
    (h : List.Forall₂ like.Subjects subjects subjects') :
    like.Agree like.EndsWith (c.watch host pace subjects) (c.watch host pace subjects') := by
  refine like.now_agree.seq fun now now' hnow => ?_
  have hwatchdog := like.arm (hspans _ .deadline) hnow
  generalize Watchdog.arm now c.deadline = watchdog at hwatchdog ⊢
  generalize Watchdog.arm now' c.deadline = watchdog' at hwatchdog ⊢
  cases hwatchdog with
  | none => exact .of_pure ⟨.panic _, h⟩
  | some hwatchdog =>
    refine .note_seq ((like.await_agree hwatchdog (staged_of_subjects h) pace.patience).seq ?_)
    rintro ⟨ending, subjects₁⟩ ⟨_, subjects₁'⟩ ⟨rfl, h₁⟩
    cases ending with
    | completed => exact (like.judge_agree .completed h₁).seq fun _ _ hends => .of_pure ⟨hends, h₁⟩
    | timedOut => exact like.overrun_agree (hspans _ .grace) h₁
    | overflow => exact .of_pure ⟨.panic _, h₁⟩
    | stalled => exact .of_pure ⟨.stalled, h₁⟩

theorem launchAll_agree (hstagger : spans pace.stagger) {specs : List ProcessSpec}
    (hdelays : ∀ spec ∈ specs, ∀ injection, spec.injection = some injection →
      spans injection.delay) :
    like.Agree (Both (List.Forall₂ like.Subjects) Eq) (launchAll host pace specs)
      (launchAll host pace specs) := by
  induction specs with
  | nil => exact .of_pure ⟨.nil, rfl⟩
  | cons spec rest ih =>
    refine (like.pause_agree hstagger pace.patience).seq ?_
    rintro passed _ rfl
    cases passed with
    | false => exact .of_pure ⟨.nil, rfl⟩
    | true =>
      refine (like.launch_agree (hdelays spec List.mem_cons_self)).seq fun _ _ h => ?_
      obtain ⟨fault, rfl, rfl⟩ | ⟨s, s', rfl, rfl, hs⟩ := h.cases
      · exact .of_pure ⟨.nil, rfl⟩
      · refine (ih fun spec hspec => hdelays spec (List.mem_cons_of_mem _ hspec)).seq ?_
        rintro ⟨subjects, setback⟩ ⟨subjects', _⟩ ⟨h, rfl⟩
        exact .of_pure ⟨.cons hs h, rfl⟩

theorem execute_agree (hspans : ∀ span, c.Spans pace span → spans span) :
    like.Agree like.EndsWith (c.execute host pace) (c.execute host pace) := by
  have hlaunch := like.launchAll_agree (hspans _ .stagger)
    fun _ hspec _ hinjection => hspans _ (.delay hspec hinjection)
  refine .note_seq (.note_seq (hlaunch.seq ?_))
  rintro ⟨subjects, setback⟩ ⟨subjects', _⟩ ⟨h, rfl⟩
  cases setback with
  | none => exact like.watch_agree hspans h
  | some setback =>
    cases setback with
    | fault fault => exact .of_pure ⟨.fault fault, h⟩
    | stalled => exact .of_pure ⟨.stalled, h⟩

/-- A case comes to the same end in worlds in which the host answers alike. -/
theorem run_agree (hspans : ∀ span, c.Spans pace span → spans span) :
    like.Agree like.Ends (c.run host pace) (c.run host pace) := by
  refine (like.execute_agree hspans).seq ?_
  rintro ⟨ending, subjects⟩ ⟨ending', subjects'⟩ ⟨hends, h⟩
  exact (like.discardAll_agree h).seq fun _ _ _ => .of_pure hends

/-! A run of a case in a world does not depend on the journal that it finds there. -/

section Refl

theorem Results.eq_of_refl {r r' : ProcessResult} (h : (refl host).Results r r') : r = r' := by
  obtain ⟨name, pid, launchedAt, stdout, stderr, exit, launchError, injection⟩ := r
  obtain ⟨name', pid', launchedAt', stdout', stderr', exit', launchError', injection'⟩ := r'
  obtain ⟨rfl, hpid, hlaunchedAt, rfl, rfl, rfl, rfl, rfl⟩ := h
  cases hlaunchedAt
  cases hpid with
  | none => rfl
  | some hpid => cases hpid; rfl

theorem Ends.eq_of_refl {ending ending' : CaseEnd} (h : (refl host).Ends ending ending') :
    ending = ending' := by
  cases h with
  | @outcome o o' h =>
    obtain ⟨name, phase, deadline, results, verdicts, caseFailures⟩ := o
    obtain ⟨name', phase', deadline', results', verdicts', caseFailures'⟩ := o'
    obtain ⟨rfl, rfl, rfl, hresults, rfl, rfl⟩ := h
    have hresults : List.Forall₂ Eq results results' :=
      hresults.imp fun _ _ => Results.eq_of_refl
    rw [List.forall₂_eq_eq_eq] at hresults
    cases hresults
    rfl
  | fault | panic | stalled => rfl

end Refl

end Likeness

namespace TestCase
variable {σ : Type} (host : Host σ) (w : World σ) (c : TestCase) (pace : Pace)

/-- A run of a case does not depend on the journal that it finds. -/
theorem run_journal (journal : List Entry) :
    ((c.run host pace).run { w with journal }).1 = ((c.run host pace).run w).1 ∧
      ((c.run host pace).run { w with journal }).2.host = ((c.run host pace).run w).2.host ∧
      ((c.run host pace).run { w with journal }).2.latest = ((c.run host pace).run w).2.latest := by
  have hagree : (Likeness.refl host).Agree (Likeness.refl host).Ends (c.run host pace)
      (c.run host pace) := (Likeness.refl host).run_agree fun _ _ => trivial
  obtain ⟨hends, hhost, hlatest⟩ := hagree { w with journal } w ⟨rfl, rfl⟩
  exact ⟨hends.eq_of_refl, hhost, hlatest⟩

end TestCase
end Proctor
