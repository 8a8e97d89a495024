import Proctor.Proofs.Report.Cut
import Proctor.Proofs.Report.Panics
import Proctor.Proofs.Report.Statuses
import Proctor.Proofs.Report.Wording

/-!
# What a report tells of a failed case

Whether a case has passed and why it has not are computed one beside the other. They agree: a case
fails exactly when something is told of it, and what is told of a process depends on the checks of
that process alone, each of which is told of when it fails. A report of a case is written as one
text, in which the failed checks stand before the status.
-/
namespace Proctor

namespace ProcessSpec

/-- What is told of a stream that does not satisfy its pattern. -/
def mismatch (spec : ProcessSpec) (result : ProcessResult) (stream : Stream) : CheckFailure :=
  .mismatch spec.name stream (spec.expected stream).source
    (Utf8.decodeString (result.output stream))

/-- What is told of a process that did not end as expected. -/
def misexit (spec : ProcessSpec) (result : ProcessResult) : CheckFailure :=
  .exitCode spec.name spec.exitCode result.exit

/-- What is told of a process. If it was never started, this is all; otherwise each of three checks
is told of in its place, when it fails. -/
structure Diagnosed (spec : ProcessSpec) (result : ProcessResult) (failures : List CheckFailure) :
    Prop where
  unstarted : result.pid = none → ∃ reason, result.launchError = some reason ∧
    failures = [.launch spec.name spec.command.text reason]
  ordered : result.pid.isSome = true → failures.Sublist
    [spec.mismatch result .stdout, spec.mismatch result .stderr, spec.misexit result]
  stream : result.pid.isSome = true → ∀ stream, spec.mismatch result stream ∈ failures ↔
    (spec.expected stream).accepts (result.output stream) = false
  exit : result.pid.isSome = true → (spec.misexit result ∈ failures ↔
    ¬ (spec.exitCode = 0 ∨ result.exit = .exited spec.exitCode))

variable {spec : ProcessSpec} {result : ProcessResult}

/-- The three checks of a process that was started, each on its own. -/
theorem failures_eq (h : result.launchError = none) :
    spec.failures result = (spec.streamFailure? result .stdout).toList ++
      ((spec.streamFailure? result .stderr).toList ++ (spec.exitFailure? result).toList) := by
  simp only [failures, h, Stream.all]
  cases hout : spec.streamFailure? result .stdout <;>
    cases herr : spec.streamFailure? result .stderr <;> simp [hout, herr]

theorem streamFailure?_eq (stream : Stream) : spec.streamFailure? result stream =
    if (spec.expected stream).accepts (result.output stream) then none
    else some (spec.mismatch result stream) := rfl

theorem exitFailure?_eq : spec.exitFailure? result =
    if result.exit.satisfies spec.exitCode then none else some (spec.misexit result) := rfl

theorem diagnosed_failures (h : result.launchError.isSome = true ↔ result.pid = none) :
    spec.Diagnosed result (spec.failures result) := by
  cases hlaunch : result.launchError with
  | some reason =>
    have hpid : result.pid = none := h.mp (by simp [hlaunch])
    refine ⟨fun _ => ⟨reason, hlaunch, ?_⟩, ?_, ?_, ?_⟩
    · simp only [failures, hlaunch]
    all_goals simp [hpid]
  | none =>
    have hpid : result.pid ≠ none := mt h.mpr (by simp [hlaunch])
    have hif (b : Bool) (failure : CheckFailure) :
        (if b then none else some failure : Option CheckFailure).toList.Sublist [failure] := by
      cases b <;> simp
    rw [failures_eq hlaunch, streamFailure?_eq, streamFailure?_eq, exitFailure?_eq]
    refine ⟨fun hnone => absurd hnone hpid, fun _ => ?_, fun _ stream => ?_, fun _ => ?_⟩
    · exact (hif _ _).append ((hif _ _).append (hif _ _))
    · cases stream <;> simp [mismatch, misexit]
    · rw [← Exit.satisfies_iff]
      simp [mismatch, misexit]

end ProcessSpec

/-- The verdict on an outcome and the list of its failed checks agree. -/
theorem Outcome.passed_iff (o : Outcome) : o.passed = true ↔ o.failures = [] := by
  simp [passed, failures, Verdict.passed]

namespace TestCase

/-- What is told of a case: first of its deadline, if it has timed out and may not, and then of its
processes in the order of their launch. -/
structure Diagnosed (c : TestCase) (o : Outcome) : Prop where
  passed_iff : o.passed = true ↔ o.failures = []
  parts : ∃ parts : List (List CheckFailure),
    o.failures = (if o.phase = .timedOut ∧ c.allowTimeout = false then [.deadline c.deadline]
      else []) ++ parts.flatten ∧
    o.results.length = c.processes.length ∧ parts.length = c.processes.length ∧
    ∀ (place : Nat) (spec : ProcessSpec), c.processes[place]? = some spec →
      ∃ (result : ProcessResult) (part : List CheckFailure), o.results[place]? = some result ∧
        parts[place]? = some part ∧ result.name = spec.name ∧ spec.Diagnosed result part

variable {σ : Type} {host : Host σ} {c : TestCase} {entries : List Entry} {subjects : List Subject}

/-- In an outcome everything is told of the case that failed, and nothing else. -/
theorem Course.diagnosed {o : Outcome} (h : Course host c entries (.outcome o) subjects) :
    c.Diagnosed o := by
  refine ⟨o.passed_iff, ?_⟩
  have hplaces {place : Nat} {spec : ProcessSpec} (hspec : c.processes[place]? = some spec) :
      ∃ result : ProcessResult, o.results[place]? = some result ∧ result.name = spec.name ∧
        (result.launchError.isSome = true ↔ result.pid = none) := by
    obtain ⟨s, stdout, stderr, -, -, hlaunched, hresult⟩ := h.at_place hspec
    refine ⟨_, hresult, hlaunched.name_eq, ?_⟩
    have hunstarted := hlaunched.unstarted_iff
    simpa [Subject.frozen] using hunstarted
  obtain ⟨phase, results, hphase, rfl, hlength⟩ := h.outcome
  refine ⟨List.zipWith ProcessSpec.failures c.processes results, ?_, hlength, ?_, ?_⟩
  · have hcase : (c.conclude phase results).caseFailures =
        if phase = .timedOut ∧ c.allowTimeout = false then [.deadline c.deadline] else [] := by
      simp [conclude]
    have hverdicts : (c.conclude phase results).verdicts.flatMap Verdict.failures =
        (List.zipWith ProcessSpec.failures c.processes results).flatten := by
      rw [List.flatMap_def, conclude, List.map_zipWith]
      rfl
    rw [Outcome.failures, hcase, hverdicts]
    rfl
  · rw [List.length_zipWith, hlength, Nat.min_self]
  · intro place spec hspec
    obtain ⟨result, hresult, hname, hunstarted⟩ := hplaces hspec
    refine ⟨result, _, hresult, ?_, hname, ProcessSpec.diagnosed_failures hunstarted⟩
    rw [List.getElem?_zipWith, hspec]
    have hresult : results[place]? = some result := hresult
    rw [hresult]

end TestCase

namespace Report
variable {τ : Type}

/-- The text of a report about an outcome: the name of the case, its command lines and its output if
they are asked for, its failed checks one after the other, and at last whether there were none. -/
def told (verbose : Bool) (width : Nat) (c : TestCase) (o : Outcome) : String :=
  heading width c ++ (if verbose then commandBlock c ++ outputBlock o.results else "") ++
    String.join (o.failures.map complaint) ++ (if o.failures = [] then "pass\n" else "fail\n")

/-- A text is kept up to where the room ends. -/
theorem write_kept (r : Report) (text : String) : (r.write text).2.writer.kept =
    r.writer.kept ++ r.writer.room.elim text.toUTF8.toList fun n => text.toUTF8.toList.take n := by
  cases hroom : r.writer.room with
  | none =>
    rw [write_eq hroom]
    rfl
  | some n =>
    rw [write_clip hroom]
    rfl

/-- A report of one case is written like one text, whether or not the writer is limited. -/
theorem runCase_writes {settings : Settings} {runner : TestCase → StateM τ CaseEnd} {c : TestCase}
    {attempt : Option CaseEnd} {t t₁ : τ} (r : Report)
    (hattempt : Attempts settings runner [c] t [attempt] t₁) :
    (((runCase settings runner c).run.run r).run t).1 =
      ((r.write (page settings.verbose r.width c attempt)).1.map fun _ => .ofAttempt attempt,
        (r.write (page settings.verbose r.width c attempt)).2) := by
  cases hroom : r.writer.room with
  | none =>
    rw [write_eq hroom]
    cases hattempt with
    | skipped hc hrest => rw [runCase_skipped settings runner hc hroom]; rfl
    | ran hc hrun hrest => rw [runCase_ran settings runner hc hroom hrun]; rfl
  | some n =>
    rw [runCase_clip settings runner hroom hattempt, write_clip hroom]
    by_cases hfits : (page settings.verbose r.width c attempt).utf8ByteSize ≤ n
    · rw [if_pos hfits, if_pos hfits]
      rfl
    · rw [if_neg hfits, if_neg hfits]
      rfl

variable {σ : Type} (host : Host σ) (pace : Pace) {settings : Settings} {c : TestCase}

/-- A case that ends with an outcome has passed when nothing is told of it, and failed otherwise,
and the report tells everything before it says so. -/
theorem runCase_tells (r : Report) {w w' : World σ} {o : Outcome}
    (hc : settings.selects c.name = true) (hrun : (c.run host pace).run w = (.outcome o, w')) :
    c.Diagnosed o ∧
    (((runCase settings (TestCase.run host · pace) c).run.run r).run w).1 =
      ((r.write (told settings.verbose r.width c o)).1.map fun _ =>
          if o.failures = [] then .passed else .failed,
        (r.write (told settings.verbose r.width c o)).2) ∧
    (r.write (told settings.verbose r.width c o)).2.writer.kept = r.writer.kept ++
      r.writer.room.elim (told settings.verbose r.width c o).toUTF8.toList
        fun n => (told settings.verbose r.width c o).toUTF8.toList.take n := by
  obtain ⟨_, -, -, _, _, _, _, -, -, -, hcourse, -⟩ := TestCase.run_ensures host w c pace
  rw [hrun] at hcourse
  have hstatus : (CaseEnd.outcome o).status = if o.failures = [] then .passed else .failed := by
    rw [hcourse.status_eq]
    simp only [o.passed_iff]
  have hpage : page settings.verbose r.width c (some (.outcome o)) =
      told settings.verbose r.width c o := by
    have hline : (CaseEnd.outcome o).status.line =
        if o.failures = [] then "pass\n" else "fail\n" := by
      rw [hstatus]
      split <;> rfl
    rw [told, ← hline, page, announcement_eq]
    simp only [Option.elim_some, CaseEnd.details, details_eq, Status.ofAttempt, String.append_assoc]
    cases settings.verbose <;> simp [String.append_assoc]
  have hattempt : Attempts settings (TestCase.run host · pace) [c] w [some (.outcome o)] w' :=
    .ran hc hrun (.done w')
  have hwrites := runCase_writes r hattempt
  rw [hpage] at hwrites
  refine ⟨hcourse.diagnosed, hwrites.trans ?_, write_kept r _⟩
  rw [← hstatus]
  rfl

open TestCase (exitingHost earlyPace)

/-- A case of two processes that end with code zero, which is not what is expected of the first. -/
def strictCase : TestCase where
  name := "strict"
  allowTimeout := false
  processes := [
    { (default : ProcessSpec) with name := "first", timeout := .ofMilliseconds 1000, exitCode := 3 },
    { (default : ProcessSpec) with name := "second", timeout := .ofMilliseconds 1000, exitCode := 0 }]

/-- The run of that case. -/
def strictRun : CaseEnd × World (Nat × Nat) :=
  (strictCase.run exitingHost earlyPace).run { host := (0, 0) }

theorem runCase_tells_strict : ∃ o w' report, plainSettings.selects strictCase.name = true ∧
    (strictCase.run exitingHost earlyPace).run { host := (0, 0) } = (.outcome o, w') ∧
    o.failures = [.exitCode "first" 3 (.exited 0)] ∧ strictCase.Diagnosed o ∧
    (((runCase plainSettings (TestCase.run exitingHost · earlyPace) strictCase).run.run {}).run
      { host := (0, 0) }).1 = (.ok .failed, report) ∧
    report.writer.kept =
      ">> strict\n !!! actual rc 0 does not match expected 3 for first\nfail\n".toUTF8.toList := by
  have hselected : plainSettings.selects strictCase.name = true := by decide +kernel
  have hfailures : strictRun.1.outcome?.map (·.failures) =
      some [.exitCode "first" 3 (.exited 0)] := by
    decide +kernel
  obtain ⟨o, hrun, hfailures⟩ := CaseEnd.exists_outcome hfailures
  obtain ⟨hdiagnosed, htold, hkept⟩ := runCase_tells exitingHost earlyPace {} hselected hrun
  have htext : told plainSettings.verbose 0 strictCase o =
      ">> strict\n !!! actual rc 0 does not match expected 3 for first\nfail\n" := by
    have hquiet : plainSettings.verbose = false := rfl
    rw [told, hfailures, hquiet, if_neg Bool.false_ne_true]
    decide +kernel
  have hfailed : (if o.failures = [] then Status.passed else .failed) = .failed := by
    rw [hfailures, if_neg (List.cons_ne_nil _ _)]
  refine ⟨o, strictRun.2, (({} : Report).write (told plainSettings.verbose 0 strictCase o)).2,
    hselected, hrun, hfailures, hdiagnosed, htold.trans ?_, ?_⟩
  · simp only [hfailed]
    rfl
  · refine hkept.trans ?_
    rw [← htext]
    rfl

end Report
end Proctor
