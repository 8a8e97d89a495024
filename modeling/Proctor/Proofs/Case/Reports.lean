import Proctor.Proofs.Case.Escalation
import Proctor.Proofs.Case.Ownership
import Proctor.Proofs.Case.Verdict
import Proctor.Proofs.Host.Alike

/-!
# Reports on injected signals

A report is about the signal that was planned for a process that was started. When the exit of such
a process has been recorded there is a report, so there is none only if the case has timed out and
the process was then asked to terminate. Nothing that is done in a case depends on the reports: with
other reports it goes on in the same way, to the same verdicts.
-/
namespace Proctor

theorem Delivery.report_kind (d : Delivery) (kind : SignalKind) : (d.report kind).kind = kind := by
  cases d <;> rfl

namespace Subject

/-- What there is of reports while a subject is supervised. -/
structure Reporting (s : Subject) : Prop where
  attributed : ∀ report, s.report = some report → ∃ i, s.injection = some i ∧ s.pid ≠ none ∧
    report.kind = i.kind
  complete : ∀ i, s.injection = some i → s.pid ≠ none → s.exit.isSome = true →
    s.report.isSome = true

variable {s s' : Subject} {e : Entry} {c : Child}

/-- A started subject with a signal of its own and no report has not ended. -/
theorem Reporting.unended (h : s.Reporting) {i : Injection} (hi : s.injection = some i)
    (hpid : s.pid ≠ none) (hnone : s.report = none) : s.exit = none := by
  by_contra hexit
  have hreport := h.complete i hi hpid (Option.isSome_iff_ne_none.mpr hexit)
  rw [hnone] at hreport
  cases hreport

/-- There is a report when an exit was seen during supervision. -/
theorem Reporting.ended (h : s.Reporting) (c : Child) (outcome : Except String WaitStatus) :
    (s.ended c outcome).Reporting := by
  have hinjection : (s.ended c outcome).injection = s.injection := by cases outcome <;> rfl
  have hreport : (s.ended c outcome).report = s.report.or (s.injection.map (.skipped ·.kind)) := rfl
  have hpid : (s.ended c outcome).pid ≠ none := by cases outcome <;> nofun
  refine ⟨fun report hr => ?_, fun i hi _ _ => ?_⟩
  · rw [hreport, Option.or_eq_some_iff] at hr
    rw [hinjection]
    obtain hr | ⟨-, hr⟩ := hr
    · obtain ⟨i, hi, -, hkind⟩ := h.attributed report hr
      exact ⟨i, hi, hpid, hkind⟩
    · obtain ⟨i, hi, rfl⟩ := Option.map_eq_some_iff.mp hr
      exact ⟨i, hi, hpid, rfl⟩
  · rw [hinjection] at hi
    rw [hreport, hi]
    simp

theorem Supervises.reporting (h : s.Reporting) (hs : s.Supervises e s') : s'.Reporting := by
  cases hs with
  | @inject c i t d ha planned _ _ =>
    refine ⟨?_, fun _ _ _ _ => rfl⟩
    rintro _ ⟨⟩
    refine ⟨i, planned, ?_, d.report_kind i.kind⟩
    change s.pid ≠ none
    simp [pid, ha.child]
  | collect _ | lose _ => exact h.ended _ _

/-- Termination does not change any report. -/
theorem Terminates.report_eq (h : s.Terminates e s') : s'.report = s.report := by
  cases h <;> rfl

end Subject

namespace TestCase
open Subject

variable {σ : Type} {host : Host σ} {c : TestCase} {entries : List Entry} {subjects : List Subject}

theorem Launching.reporting {specs : List ProcessSpec} {launched : List Entry}
    {setback : Option Setback} (h : Launching host specs launched subjects setback) :
    ∀ s ∈ subjects, s.Reporting := by
  induction h with
  | done | stalled | fault _ => simp
  | launched h _ ih =>
    rw [List.forall_mem_cons]
    refine ⟨?_, ih⟩
    cases h with
    | started instant stdout stderr pid => exact ⟨nofun, fun _ _ _ hexit => by cases hexit⟩
    | unstarted instant stdout stderr fault => exact ⟨nofun, fun _ _ hpid _ => absurd rfl hpid⟩

theorem Awaited.reporting (h : Awaited host c entries subjects) : ∀ s ∈ subjects, s.Reporting := by
  obtain ⟨hlaunch, hpath⟩ := h
  -- the property does not read the journal, so the journal it starts from is given by hand
  exact @Path.forall_mem _ _ (fun _ s => s.Reporting) (fun h => h) (fun h hs => hs.reporting h)
    _ _ _ [] hpath hlaunch.reporting

end TestCase

section Alike

/-- Two subjects that differ in their reports at most. -/
def Subject.Alike (s s' : Subject) : Prop := ∃ report, s' = { s with report }

/-- Two results that differ in their reports at most. -/
def ProcessResult.Alike (r r' : ProcessResult) : Prop := ∃ injection, r' = { r with injection }

/-- Two ends of a case that are judged in the same way, if they are judged. -/
def CaseEnd.Alike : CaseEnd → CaseEnd → Prop
  | .outcome o, .outcome o' => o.phase = o'.phase ∧ o.verdicts = o'.verdicts ∧
      o.caseFailures = o'.caseFailures ∧ List.Forall₂ ProcessResult.Alike o.results o'.results
  | ending, ending' => ending = ending'

/-- The same with each of two subjects that differ in their reports at most. -/
def Alongside {α : Type} (x x' : α × Subject) : Prop := x.1 = x'.1 ∧ x.2.Alike x'.2

namespace Subject
variable {σ : Type} (host : Host σ) {s s' : Subject}

theorem tryRecord_alike (h : s.Alike s') (c : Child) :
    Run.Alike Alongside (s.tryRecord host c) (s'.tryRecord host c) := by
  obtain ⟨report, rfl⟩ := h
  refine .same_seq (Child.exit? host c) ?_
  rintro ⟨_ | outcome, child⟩
  · exact .of_pure ⟨rfl, report, rfl⟩
  · exact .of_pure ⟨rfl, report, by cases outcome <;> rfl⟩

theorem superviseExit_alike (h : s.Alike s') :
    Run.Alike Alongside (s.superviseExit host) (s'.superviseExit host) := by
  have hover : Run.Alike (σ := σ) Alongside (pure (.over, s)) (pure (Supervision.over, s')) :=
    .of_pure ⟨rfl, h⟩
  have hsame : s'.child = s.child ∧ s'.exit = s.exit := by
    obtain ⟨report, rfl⟩ := h
    exact ⟨rfl, rfl⟩
  unfold superviseExit
  rw [hsame.1, hsame.2]
  split
  · refine (tryRecord_alike host h _).seq ?_
    rintro ⟨ended, s₁⟩ ⟨_, s₁'⟩ ⟨rfl, h₁⟩
    exact .of_pure ⟨rfl, h₁⟩
  · exact hover

theorem inject_alike (h : s.Alike s') (kind : SignalKind) :
    Run.Alike Alongside (s.inject host kind) (s'.inject host kind) := by
  obtain ⟨report, rfl⟩ := h
  exact .same_seq (s.deliver host kind) fun delivered => superviseExit_alike host ⟨some delivered, rfl⟩

theorem superviseSignal_alike (h : s.Alike s') (c : Child) (kind : SignalKind) (due : Instant) :
    Run.Alike Alongside (s.superviseSignal host c kind due)
      (s'.superviseSignal host c kind due) := by
  refine .same_seq (Run.ask host.coin) fun exitFirst => ?_
  refine .same_seq (Run.now host) fun now => ?_
  split
  · exact inject_alike host h kind
  · refine (tryRecord_alike host h c).seq ?_
    rintro ⟨ended, s₁⟩ ⟨_, s₁'⟩ ⟨rfl, h₁⟩
    cases ended with
    | true =>
      obtain ⟨report, rfl⟩ := h₁
      exact .of_pure ⟨rfl, some (.skipped kind), rfl⟩
    | false =>
      refine .same_seq (Run.now host) fun now' => ?_
      split
      · exact inject_alike host h₁ kind
      · exact .of_pure ⟨rfl, h₁⟩

/-- One call of `supervise` does not depend on the report. -/
theorem supervise_alike (h : s.Alike s') (stage : Supervision) :
    Run.Alike Alongside (s.supervise host stage) (s'.supervise host stage) := by
  have hend (stage : Supervision) :
      Run.Alike (σ := σ) Alongside (pure (stage, s)) (pure (stage, s')) :=
    .of_pure ⟨rfl, h⟩
  have hsame : s'.injection = s.injection ∧ s'.started = s.started ∧ s'.child = s.child := by
    obtain ⟨report, rfl⟩ := h
    exact ⟨rfl, rfl, rfl⟩
  cases stage with
  | fresh =>
    simp only [supervise, hsame]
    split
    · exact superviseExit_alike host h
    · split
      · exact hend .overflow
      · exact hend .over
      · exact superviseSignal_alike host h _ _ _
  | untilSignal due =>
    simp only [supervise, hsame]
    split
    · exact superviseSignal_alike host h _ _ _
    · exact hend .over
  | untilExit => exact superviseExit_alike host h
  | «over» => exact hend .over
  | overflow => exact hend .overflow

theorem superviseAll_alike {supervised supervised' : List (Supervision × Subject)}
    (h : List.Forall₂ Alongside supervised supervised') :
    Run.Alike (List.Forall₂ Alongside) (superviseAll host supervised)
      (superviseAll host supervised') := by
  induction h with
  | nil => exact .of_pure .nil
  | @cons x x' rest rest' hfirst hrest ih =>
    obtain ⟨stage, s⟩ := x
    obtain ⟨_, s'⟩ := x'
    obtain ⟨rfl, hs⟩ := hfirst
    refine (supervise_alike host hs stage).seq ?_
    rintro ⟨next, s₁⟩ ⟨_, s₁'⟩ ⟨rfl, h₁⟩
    dsimp only
    split
    · exact .of_pure (.cons ⟨rfl, h₁⟩ hrest)
    · refine ih.seq ?_
      intro others others' hothers
      exact .of_pure (.cons ⟨rfl, h₁⟩ hothers)

variable (grace : Duration) (patience : Nat)

theorem kill_alike (h : s.Alike s') :
    Run.Alike Alongside (s.kill host grace patience) (s'.kill host grace patience) := by
  obtain ⟨report, rfl⟩ := h
  unfold kill
  dsimp only
  split
  · exact .of_pure ⟨rfl, report, rfl⟩
  · refine .same_seq _ fun _ => .same_seq _ fun child => .same_seq _ fun now => .same_seq _ ?_
    rintro ⟨_ | _ | _, child'⟩
    · exact .of_pure ⟨rfl, report, rfl⟩
    · exact .same_seq _ fun _ => .of_pure ⟨rfl, report, rfl⟩
    · exact .of_pure ⟨rfl, report, rfl⟩

theorem terminate_alike (h : s.Alike s') :
    Run.Alike Alongside (s.terminate host grace patience) (s'.terminate host grace patience) := by
  obtain ⟨report, rfl⟩ := h
  have hrunning : ({ s with report } : Subject).isRunning = s.isRunning := rfl
  unfold terminate
  rw [hrunning]
  dsimp only
  split
  · refine .same_seq _ fun _ => .same_seq _ fun now => .same_seq _ ?_
    rintro ⟨outcome | _ | _, child⟩
    · exact .of_pure ⟨rfl, report, by cases outcome <;> rfl⟩
    · exact kill_alike host grace patience ⟨report, rfl⟩
    · exact .of_pure ⟨rfl, report, rfl⟩
  · exact .of_pure ⟨rfl, report, rfl⟩

theorem terminateAll_alike {subjects subjects' : List Subject}
    (h : List.Forall₂ Subject.Alike subjects subjects') :
    Run.Alike (fun r r' => r.1 = r'.1 ∧ List.Forall₂ Subject.Alike r.2 r'.2)
      (terminateAll host grace patience subjects) (terminateAll host grace patience subjects') := by
  induction h with
  | nil => exact .of_pure ⟨rfl, .nil⟩
  | cons hfirst hrest ih =>
    refine (terminate_alike host grace patience hfirst).seq ?_
    rintro ⟨ended, s₁⟩ ⟨_, s₁'⟩ ⟨rfl, h₁⟩
    dsimp only
    split
    · refine ih.seq ?_
      rintro ⟨ended', rest⟩ ⟨_, rest'⟩ ⟨rfl, hothers⟩
      exact .of_pure ⟨rfl, .cons h₁ hothers⟩
    · exact .of_pure ⟨rfl, .cons h₁ hrest⟩

theorem finish_alike (h : s.Alike s') :
    Run.Alike (Run.OrFault ProcessResult.Alike) (s.finish host) (s'.finish host) := by
  obtain ⟨report, rfl⟩ := h
  unfold finish
  simp only [ExceptT.run_bind]
  refine .same_seq _ ?_
  rintro (fault | stdout)
  · exact .of_pure rfl
  · refine .same_seq _ ?_
    rintro (fault | stderr)
    · exact .of_pure rfl
    · exact .of_pure ⟨report, rfl⟩

end Subject

namespace TestCase
open Subject

variable {σ : Type} (host : Host σ)

theorem finishAll_alike {subjects subjects' : List Subject}
    (h : List.Forall₂ Subject.Alike subjects subjects') :
    Run.Alike (Run.OrFault (List.Forall₂ ProcessResult.Alike)) (finishAll host subjects)
      (finishAll host subjects') := by
  induction h with
  | nil => exact .of_pure .nil
  | cons hfirst _ ih =>
    refine (finish_alike host hfirst).seq fun _ _ h => ?_
    obtain ⟨fault, rfl, rfl⟩ | ⟨result, result', rfl, rfl, hresult⟩ := h.cases
    · exact .of_pure rfl
    · refine ih.seq fun _ _ h => ?_
      obtain ⟨fault, rfl, rfl⟩ | ⟨results, results', rfl, rfl, hresults⟩ := h.cases
      · exact .of_pure rfl
      · exact .of_pure (.cons hresult hresults)

variable (c : TestCase)

/-- Verdicts do not depend on reports. -/
theorem verdicts_alike (specs : List ProcessSpec) {results results' : List ProcessResult}
    (h : List.Forall₂ ProcessResult.Alike results results') :
    List.zipWith ProcessSpec.verdict specs results =
      List.zipWith ProcessSpec.verdict specs results' := by
  induction h generalizing specs with
  | nil => rfl
  | cons hfirst _ ih =>
    obtain ⟨injection, rfl⟩ := hfirst
    cases specs with
    | nil => rfl
    | cons spec specs =>
      rw [List.zipWith_cons_cons, List.zipWith_cons_cons, ih]
      rfl

theorem conclude_alike (phase : Phase) {results results' : List ProcessResult}
    (h : List.Forall₂ ProcessResult.Alike results results') :
    CaseEnd.Alike (.outcome (c.conclude phase results)) (.outcome (c.conclude phase results')) :=
  ⟨rfl, verdicts_alike c.processes h, rfl, h⟩

variable {c}

theorem judge_alike (phase : Phase) {subjects subjects' : List Subject}
    (h : List.Forall₂ Subject.Alike subjects subjects') :
    Run.Alike CaseEnd.Alike (c.judge host phase subjects) (c.judge host phase subjects') := by
  refine .same_seq _ fun _ => (finishAll_alike host h).seq fun _ _ h => ?_
  obtain ⟨fault, rfl, rfl⟩ | ⟨results, results', rfl, rfl, hresults⟩ := h.cases
  · exact .of_pure rfl
  · exact .of_pure (c.conclude_alike phase hresults)

theorem overrun_alike (pace : Pace) {subjects subjects' : List Subject}
    (h : List.Forall₂ Subject.Alike subjects subjects') :
    Run.Alike (fun r r' => r.1.Alike r'.1) (c.overrun host pace subjects)
      (c.overrun host pace subjects') := by
  refine .same_seq _ fun _ => (terminateAll_alike host pace.grace pace.patience h).seq ?_
  rintro ⟨ended, terminated⟩ ⟨_, terminated'⟩ ⟨rfl, hterminated⟩
  dsimp only
  split
  · exact (judge_alike host .timedOut hterminated).seq fun _ _ hjudged => .of_pure hjudged
  · exact .of_pure rfl

section Waits
variable {supervised supervised' : List (Supervision × Subject)}
  (h : List.Forall₂ Alongside supervised supervised')
include h

theorem stages_eq : supervised.map (·.1) = supervised'.map (·.1) := by
  induction h with
  | nil => rfl
  | cons hfirst _ ih => rw [List.map_cons, List.map_cons, hfirst.1, ih]

theorem subjects_alike :
    List.Forall₂ Subject.Alike (supervised.map (·.2)) (supervised'.map (·.2)) := by
  rw [List.forall₂_map_left_iff, List.forall₂_map_right_iff]
  exact h.imp fun _ _ hx => hx.2

/-- How a round ends, and when the next one is due, does not depend on the subjects but on how far
their supervision has come. -/
theorem ending?_alike : ending? supervised = ending? supervised' := by
  have hstages (supervised : List (Supervision × Subject)) : ending? supervised =
      if (supervised.map (·.1)).any (· = .overflow) then some .overflow
      else if (supervised.map (·.1)).all (· = .over) then some .completed else none := by
    simp only [ending?, List.any_map, List.all_map, Function.comp_def]
  rw [hstages, hstages, stages_eq h]

theorem nextDue_alike (watchdog : Watchdog) :
    nextDue watchdog supervised = nextDue watchdog supervised' := by
  unfold nextDue
  generalize watchdog.due = due
  induction h generalizing due with
  | nil => rfl
  | cons hfirst _ ih =>
    rw [List.foldl_cons, List.foldl_cons, hfirst.1]
    exact ih _

end Waits

theorem await_alike (watchdog : Watchdog) (patience : Nat)
    {supervised supervised' : List (Supervision × Subject)}
    (h : List.Forall₂ Alongside supervised supervised') :
    Run.Alike (fun r r' => r.1 = r'.1 ∧ List.Forall₂ Subject.Alike r.2 r'.2)
      (await host watchdog patience supervised) (await host watchdog patience supervised') := by
  induction patience generalizing watchdog supervised supervised' with
  | zero => exact .of_pure ⟨rfl, subjects_alike h⟩
  | succ patience ih =>
    refine .same_seq _ fun watchdogFirst => ?_
    split
    · exact .of_pure ⟨rfl, subjects_alike h⟩
    · refine (superviseAll_alike host h).seq ?_
      intro looked looked' hlooked
      rw [← ending?_alike hlooked, ← nextDue_alike hlooked]
      split
      · exact .of_pure ⟨rfl, subjects_alike hlooked⟩
      · split
        · exact .of_pure ⟨rfl, subjects_alike hlooked⟩
        · exact .same_seq _ fun _ => .same_seq _ fun now => ih _ hlooked

/-- With other reports a case goes on in the same way, and is judged in the same way. -/
theorem carryOn_alike (pace : Pace) (watchdog : Watchdog) (patience : Nat)
    {supervised supervised' : List (Supervision × Subject)}
    (h : List.Forall₂ Alongside supervised supervised') :
    Run.Alike (fun r r' => r.1.Alike r'.1) (c.carryOn host pace watchdog patience supervised)
      (c.carryOn host pace watchdog patience supervised') := by
  refine (await_alike host watchdog patience h).seq ?_
  rintro ⟨ending, subjects⟩ ⟨_, subjects'⟩ ⟨rfl, hsubjects⟩
  cases ending with
  | completed =>
    exact (judge_alike host .completed hsubjects).seq fun _ _ hjudged => .of_pure hjudged
  | timedOut => exact overrun_alike host pace hsubjects
  | overflow => exact .of_pure rfl
  | stalled => exact .of_pure rfl

end TestCase
end Alike

/-- What a result tells of the signal that was planned for a process, in a case that was judged in
some phase. -/
structure ProcessSpec.Injected (spec : ProcessSpec) (journal : List Entry) (phase : Phase)
    (result : ProcessResult) : Prop where
  unstarted_iff : result.launchError.isSome = true ↔ result.pid = none
  /-- A report is about the signal that was planned for a process that was started. -/
  attributed : ∀ report, result.injection = some report → ∃ i, spec.injection = some i ∧
    result.pid ≠ none ∧ report.kind = i.kind
  completed : phase = .completed → ∀ i, spec.injection = some i → result.pid ≠ none →
    result.injection ≠ none
  /-- There is no report only if the exit had not been collected when the watchdog was seen to have
  fired. The process was asked to terminate then. -/
  timedOut : phase = .timedOut → ∀ i pid, spec.injection = some i → result.pid = some pid →
    result.injection = none → ∃ later earlier, journal = later ++ .expired :: earlier ∧
      pid ∈ outstanding earlier ∧ SentToGroup .terminate later pid

namespace TestCase
open Subject

variable {σ : Type} (host : Host σ) (c : TestCase) (pace : Pace)

/-- The result of a process of a case that has completed. -/
theorem Awaited.injected {host : Host σ} {c : TestCase} {entries journal : List Entry}
    {subjects : List Subject} {spec : ProcessSpec} {s : Subject}
    (h : Awaited host c entries subjects) (hs : s ∈ subjects) (hidle : s.Idle)
    (hlaunched : s.LaunchedAs spec journal) (stdout stderr : List UInt8) :
    spec.Injected journal .completed (s.frozen stdout stderr) := by
  have hreporting := h.reporting s hs
  refine ⟨by simpa [frozen] using hlaunched.unstarted_iff, ?_, ?_, nofun⟩
  · rw [← hlaunched.injection_eq]
    exact hreporting.attributed
  · intro _ i hi hpid hnone
    rw [← hlaunched.injection_eq] at hi
    have hrecorded := hidle.recorded
    rw [hreporting.unended hi hpid hnone] at hrecorded
    cases hrecorded

/-- A subject of a case that has timed out, as it was when the watchdog had fired: it was born alike
and has the same report. -/
theorem terminated_at {running subjects : List Subject} {terminated : List Entry}
    (hpath : Path (OneOf Terminates) running terminated subjects) {place : Nat} {s : Subject}
    (hs : subjects[place]? = some s) :
    ∃ s₀, running[place]? = some s₀ ∧ s₀.birth = s.birth ∧ s₀.report = s.report := by
  have hview : subjects.map (fun s => (s.birth, s.report)) =
      running.map (fun s => (s.birth, s.report)) :=
    hpath.map_eq fun hs => Prod.ext hs.birth_eq hs.report_eq
  have hplace := congrArg (·[place]?) hview
  simp only [List.getElem?_map, hs, Option.map_some] at hplace
  obtain ⟨s₀, hs₀, hsame⟩ := Option.map_eq_some_iff.mp hplace.symm
  exact ⟨s₀, hs₀, Prod.mk.inj hsame⟩

/-- The result of a process of a case that has timed out, after the processes were terminated that
still ran. -/
theorem Awaited.injected_late {host : Host σ} {c : TestCase} {pace : Pace}
    {entries terminated dropped : List Entry} {running subjects : List Subject} {w₁ w₂ : World σ}
    {place : Nat} {spec : ProcessSpec} {s : Subject} (h : Awaited host c entries running)
    (hterminate : (terminateAll host pace.grace pace.patience running).run w₁ =
      ((true, subjects), w₂)) (hterminated : w₂.journal = terminated ++ w₁.journal)
    (hs : subjects[place]? = some s)
    (hlaunched : s.LaunchedAs spec (dropped ++ .phase .timedOut :: (terminated ++ .expired :: entries)))
    (stdout stderr : List UInt8) :
    spec.Injected (dropped ++ .phase .timedOut :: (terminated ++ .expired :: entries)) .timedOut
      (s.frozen stdout stderr) := by
  obtain ⟨_, -, -, hpath, -⟩ :=
    terminateAll_ensures host w₁ pace.grace pace.patience running h.accounted
  obtain ⟨_, hadded, -, hsends⟩ :=
    terminateAll_sends host pace.grace pace.patience running w₁ h.accounted
  rw [hterminate] at hpath hadded hsends
  obtain rfl := List.append_cancel_right (hterminated.symm.trans hadded)
  obtain ⟨s₀, hs₀, hbirth, hreport⟩ := terminated_at hpath hs
  simp only [birth, Prod.mk.injEq] at hbirth
  obtain ⟨-, hinjection, hpid, -⟩ := hbirth
  have hmem := List.mem_of_getElem? hs₀
  have hreporting := h.reporting s₀ hmem
  refine ⟨by simpa [frozen] using hlaunched.unstarted_iff, ?_, ?_, ?_⟩
  · intro report hr
    obtain ⟨i, hi, hstarted, hkind⟩ := hreporting.attributed report (hreport.trans hr)
    refine ⟨i, ?_, fun hnone => hstarted (hpid.trans hnone), hkind⟩
    rw [← hlaunched.injection_eq, ← hinjection, hi]
  · intro hcompleted
    cases hcompleted
  · intro _ i pid hi hp hnone
    rw [← hlaunched.injection_eq, ← hinjection] at hi
    have hp : s₀.pid = some pid := hpid.trans hp
    have hunended : s₀.exit = none := hreporting.unended hi (by simp [hp]) (hreport.trans hnone)
    obtain ⟨child, ha⟩ := (h.accounted s₀ hmem).awaits_of_unended hunended
    obtain rfl : child.pid = pid := by simpa [Subject.pid, ha.child] using hp
    refine ⟨dropped ++ .phase .timedOut :: terminated, entries, by simp, ?_, ?_⟩
    · rw [h.owned.held.mem_iff, List.mem_filterMap]
      exact ⟨s₀, hmem, held_eq ha.child ha.uncollected⟩
    · rw [sentToGroup_append, sentToGroup_cons rfl]
      exact .inr (((hsends rfl).1 child.pid).mpr ⟨s₀, hmem, child, ha, rfl⟩)

/-- The judgement of a case that is begun in some world does not depend on reports. -/
structure Indifferent (w : World σ) (o : Outcome) : Prop where
  begins : ∃ first, Begins host c pace w first
  /-- From every round of the wait on the case comes to this outcome, and with any other reports than
  those that had been recorded by then it comes to one with the same failed checks, in the same
  world. -/
  rounds : ∀ first round, Begins host c pace w first → first.Visits host round → ∃ patience,
    ((c.carryOn host pace round.watchdog patience round.supervised).run round.world).1.1 =
        .outcome o ∧
      ∀ supervised, List.Forall₂ Alongside round.supervised supervised →
        ((c.carryOn host pace round.watchdog patience supervised).run round.world).2 =
            ((c.carryOn host pace round.watchdog patience round.supervised).run round.world).2 ∧
          ∃ o', ((c.carryOn host pace round.watchdog patience supervised).run round.world).1.1 =
              .outcome o' ∧
            o'.phase = o.phase ∧ o'.verdicts = o.verdicts ∧ o'.caseFailures = o.caseFailures
  results : ∀ results, List.Forall₂ ProcessResult.Alike o.results results →
    (c.conclude o.phase results).verdicts = o.verdicts ∧
      (c.conclude o.phase results).caseFailures = o.caseFailures

variable {host c pace} {w w' : World σ} {o : Outcome} {subjects : List Subject}

theorem execute_indifferent (h : (c.execute host pace).run w = ((.outcome o, subjects), w'))
    (houtcome : o = c.conclude o.phase o.results) : Indifferent host c pace w o := by
  obtain ⟨first, _, _, _, hbegins, -⟩ := execute_outcome host c pace h
  refine ⟨⟨first, hbegins⟩, fun first round hbegins hvisits => ?_, fun results hresults => ?_⟩
  · have hstalled : ((await host first.watchdog pace.patience first.supervised).run
        first.world).1.1 ≠ .stalled := by
      intro hstalled
      rw [hbegins.execute_eq, carryOn, StateT.run_bind] at h
      generalize (await host first.watchdog pace.patience first.supervised).run first.world = r
        at h hstalled
      obtain ⟨⟨ending, awaited⟩, w₁⟩ := r
      obtain rfl : ending = .stalled := hstalled
      cases h
    obtain ⟨left, hleft⟩ := hvisits.carryOn_eq host c pace hstalled
    rw [hbegins.execute_eq, hleft] at h
    refine ⟨left, congrArg (·.1.1) h, fun supervised hsupervised => ?_⟩
    obtain ⟨hending, hworld⟩ :=
      carryOn_alike (c := c) host pace round.watchdog left hsupervised round.world
    refine ⟨hworld.symm, ?_⟩
    rw [h] at hending
    generalize ((c.carryOn host pace round.watchdog left supervised).run round.world).1.1 = ending
      at hending
    cases ending with
    | outcome o' =>
      obtain ⟨hphase, hverdicts, hfailures, -⟩ := hending
      exact ⟨o', rfl, hphase.symm, hverdicts.symm, hfailures.symm⟩
    | fault _ | panic _ | stalled => cases hending
  · obtain ⟨-, hverdicts, hfailures, -⟩ := c.conclude_alike o.phase hresults
    rw [← houtcome] at hverdicts hfailures
    exact ⟨hverdicts.symm, hfailures.symm⟩

/-- The result of every process of a case with an outcome tells what became of the signal that was
planned for it, unless the process was still running when the watchdog had fired. Whatever is told
does not bear on the judgement of the case. -/
theorem run_reports (host : Host σ) (c : TestCase) (pace : Pace) {added : List Entry}
    (hrun : (c.run host pace).run w = (.outcome o, w'))
    (hjournal : w'.journal = added ++ w.journal) :
    (∀ (place : Nat) (spec : ProcessSpec), c.processes[place]? = some spec → ∃ result,
      o.results[place]? = some result ∧ spec.Injected added o.phase result) ∧
    Indifferent host c pace w o := by
  obtain ⟨_, hadded, -, executed, dropped, subjects, w₂, hexecute, hexecuted, rfl, hcourse, -⟩ :=
    run_ensures host w c pace
  rw [hrun] at hadded hexecute hcourse
  obtain rfl := List.append_cancel_right (hjournal.symm.trans hadded)
  obtain ⟨phase, results, -, ho, -⟩ := hcourse.outcome
  have houtcome : o = c.conclude o.phase o.results := by
    rw [ho]
    rfl
  refine ⟨fun place spec hspec => ?_, execute_indifferent hexecute houtcome⟩
  obtain ⟨s, stdout, stderr, hs, hidle, hlaunched, hresult⟩ := hcourse.at_place hspec
  have hlaunched : s.LaunchedAs spec (dropped ++ executed) :=
    hlaunched.of_birth rfl (List.subset_append_right _ _)
  refine ⟨_, hresult, ?_⟩
  obtain ⟨before, running, hawaited, -, hend⟩ := execute_judged host c pace hexecute
  obtain ⟨hphase, rfl, -⟩ | ⟨hphase, terminated, w₃, w₄, -, hterminate, hterminated, hjudged⟩ := hend
  · rw [hphase]
    exact hawaited.injected (List.mem_of_getElem? hs) hidle hlaunched stdout stderr
  · obtain rfl := List.append_cancel_right (hexecuted.symm.trans hjudged)
    rw [hphase]
    exact hawaited.injected_late hterminate hterminated hs hlaunched stdout stderr

/-- A case of one process, which is to be sent a signal long after the case has timed out. -/
def distantCase : TestCase where
  name := "distant"
  allowTimeout := false
  processes := [{ (default : ProcessSpec) with
    name := "leader", timeout := .ofMilliseconds 5,
    injection := some ⟨.reload, .ofMilliseconds 60000⟩ }]

theorem run_reports_distant : ∃ o w',
    (distantCase.run packHost earlyPace).run { host := {} } = (.outcome o, w') ∧
    w'.journal = w'.journal ++ [] ∧ o.phase = .timedOut ∧
    o.results.map (fun result => (result.pid, result.injection)) = [(some 1, none)] ∧
    (∀ (place : Nat) (spec : ProcessSpec), distantCase.processes[place]? = some spec → ∃ result,
      o.results[place]? = some result ∧ spec.Injected w'.journal o.phase result) ∧
    Indifferent packHost distantCase earlyPace { host := {} } o := by
  obtain ⟨⟨ending, w'⟩, hrun⟩ : ∃ r, (distantCase.run packHost earlyPace).run { host := {} } = r :=
    ⟨_, rfl⟩
  have hall : ending.outcome?.map (fun o =>
      (o.phase, o.results.map fun result => (result.pid, result.injection))) =
        some (.timedOut, [(some 1, none)]) := by
    rw [show ending = ((distantCase.run packHost earlyPace).run { host := {} }).1 by rw [hrun]]
    decide +kernel
  obtain ⟨o, ho, hresults⟩ := Option.map_eq_some_iff.mp hall
  obtain ⟨hphase, hresults⟩ := Prod.mk.inj hresults
  obtain rfl := CaseEnd.outcome?_eq_some.mp ho
  have hjournal : w'.journal = w'.journal ++ [] := (List.append_nil _).symm
  obtain ⟨hreports, hindifferent⟩ := run_reports packHost distantCase earlyPace hrun hjournal
  exact ⟨o, w', hrun, hjournal, hphase, hresults, hreports, hindifferent⟩

end TestCase
end Proctor
