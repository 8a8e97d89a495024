import Proctor.Proofs.Case.Containment

/-!
# When a case passes

A process meets its expectations if it was started, both of its streams satisfy their patterns,
and it ended as expected. A case passes exactly when all of its processes do and, unless it may
time out, it has completed.
-/
namespace Proctor

/-- A result that meets all expectations. An expected code of zero accepts every exit. -/
structure ProcessSpec.Met (spec : ProcessSpec) (result : ProcessResult) : Prop where
  launched : result.launchError = none
  output : ∀ stream, (spec.expected stream).accepts (result.output stream) = true
  exit : spec.exitCode = 0 ∨ result.exit = .exited spec.exitCode

theorem Exit.satisfies_iff (expected : Int) (exit : Exit) :
    exit.satisfies expected = true ↔ expected = 0 ∨ exit = .exited expected := by
  cases exit <;> simp [satisfies, code?]

namespace ProcessSpec
variable {spec : ProcessSpec} {result : ProcessResult}

theorem streamFailure?_eq_none_iff (stream : Stream) :
    spec.streamFailure? result stream = none ↔
      (spec.expected stream).accepts (result.output stream) = true := by
  simp [streamFailure?]

theorem exitFailure?_eq_none_iff :
    spec.exitFailure? result = none ↔ result.exit.satisfies spec.exitCode = true := by
  simp [exitFailure?]

/-- No check fails exactly when the result meets all expectations. -/
theorem failures_eq_nil_iff : spec.failures result = [] ↔ spec.Met result := by
  unfold failures
  split
  · rename_i reason h
    refine iff_of_false (by simp) fun hmet => ?_
    rw [hmet.launched] at h
    cases h
  · rename_i h
    rw [List.append_eq_nil_iff, List.filterMap_eq_nil_iff, Option.toList_eq_nil_iff,
      exitFailure?_eq_none_iff, Exit.satisfies_iff]
    constructor
    · rintro ⟨hstreams, hexit⟩
      refine ⟨h, fun stream => ?_, hexit⟩
      rw [← streamFailure?_eq_none_iff]
      exact hstreams stream (by cases stream <;> simp [Stream.all])
    · rintro ⟨-, houtput, hexit⟩
      exact ⟨fun stream _ => (streamFailure?_eq_none_iff stream).mpr (houtput stream), hexit⟩

theorem verdict_passed_iff : (spec.verdict result).passed = true ↔ spec.Met result := by
  rw [Verdict.passed, List.isEmpty_iff, ← failures_eq_nil_iff]
  rfl

end ProcessSpec

namespace TestCase
variable {c : TestCase}

theorem verdicts_passed_iff {specs : List ProcessSpec} {results : List ProcessResult}
    (h : results.length = specs.length) :
    (List.zipWith ProcessSpec.verdict specs results).all Verdict.passed = true ↔
      List.Forall₂ ProcessSpec.Met specs results := by
  induction specs generalizing results with
  | nil =>
    obtain rfl := List.length_eq_zero_iff.mp h
    simp
  | cons spec specs ih =>
    cases results with
    | nil => cases h
    | cons result results =>
      rw [List.zipWith_cons_cons, List.all_cons, Bool.and_eq_true, ProcessSpec.verdict_passed_iff,
        ih (Nat.succ.inj h), List.forall₂_cons]

/-- An outcome passes exactly when every result meets its expectations and the case has not timed
out, or may. -/
theorem conclude_passed_iff {phase : Phase} {results : List ProcessResult}
    (h : results.length = c.processes.length) :
    (c.conclude phase results).passed = true ↔
      (phase = .timedOut → c.allowTimeout = true) ∧
        List.Forall₂ ProcessSpec.Met c.processes results := by
  rw [Outcome.passed, Bool.and_eq_true]
  refine and_congr ?_ (verdicts_passed_iff h)
  simp only [conclude]
  by_cases hphase : phase = .timedOut <;> simp [hphase]

/-- An ending that meets the expectations of a case: an outcome in time, unless the case may time
out, in which every result meets the expectations of its process. -/
def Met (c : TestCase) (ending : CaseEnd) : Prop :=
  ∃ o, ending = .outcome o ∧ (o.phase = .completed ∨ c.allowTimeout = true) ∧
    List.Forall₂ ProcessSpec.Met c.processes o.results

variable {σ : Type} {host : Host σ} {entries : List Entry} {subjects : List Subject}

/-- An outcome holds a result for every process, and is either one in time or one that is not. -/
theorem Course.outcome {o : Outcome} (h : Course host c entries (.outcome o) subjects) :
    ∃ phase results, (phase = .completed ∨ phase = .timedOut) ∧
      o = c.conclude phase results ∧ results.length = c.processes.length := by
  obtain ⟨setback, hbegun, hsetback⟩ := h.begun
  have hlength : subjects.length = c.processes.length := by
    obtain h | h | ⟨_, _, _, _, h, _⟩ := hbegun.length_or
    · exact h
    all_goals cases hsetback _ h
  obtain ⟨-, phase, hjudged, hphase⟩ := h.concluded
  obtain @⟨results, hresults⟩ := hjudged
  exact ⟨phase, results, hphase.imp (·.1) id, rfl, hresults.length_eq.symm.trans hlength⟩

/-- A process of a case with an outcome has a subject, and its result is what is known of that. -/
theorem Course.at_place {o : Outcome} (h : Course host c entries (.outcome o) subjects) {place : Nat}
    {spec : ProcessSpec} (hspec : c.processes[place]? = some spec) :
    ∃ s stdout stderr, subjects[place]? = some s ∧ s.Idle ∧ s.LaunchedAs spec entries ∧
      o.results[place]? = some (s.frozen stdout stderr) := by
  obtain ⟨_, hbegun, -⟩ := h.begun
  obtain ⟨hidle, phase, hjudged, -⟩ := h.concluded
  obtain ⟨_, results, -, rfl, hlength⟩ := h.outcome
  obtain ⟨hplace, -⟩ := List.getElem?_eq_some_iff.mp hspec
  have hsubjects : subjects.length = c.processes.length := by
    obtain @⟨_, hresults⟩ := hjudged
    exact hresults.length_eq.trans hlength
  obtain ⟨s, hs⟩ : ∃ s, subjects[place]? = some s :=
    ⟨_, List.getElem?_eq_getElem (hsubjects ▸ hplace)⟩
  obtain ⟨spec', hspec', hlaunched⟩ := hbegun.launchedAs hs
  obtain rfl := Option.some.inj (hspec.symm.trans hspec')
  obtain ⟨stdout, stderr, hresult⟩ := hjudged.result hs
  exact ⟨s, stdout, stderr, hs, hidle s (List.mem_of_getElem? hs), hlaunched, hresult⟩

/-- The expectations of a case are met by an outcome exactly when the outcome passes. -/
theorem Course.met_iff {o : Outcome} (h : Course host c entries (.outcome o) subjects) :
    c.Met (.outcome o) ↔ o.passed = true := by
  obtain ⟨phase, results, hphase, rfl, hlength⟩ := h.outcome
  rw [conclude_passed_iff hlength]
  have hintime : phase = .completed ∨ c.allowTimeout = true ↔
      (phase = .timedOut → c.allowTimeout = true) := by
    obtain rfl | rfl := hphase <;> simp
  constructor
  · rintro ⟨_, ⟨⟩, htime, hmet⟩
    exact ⟨hintime.mp htime, hmet⟩
  · rintro ⟨htime, hmet⟩
    exact ⟨_, rfl, hintime.mpr htime, hmet⟩

end TestCase
end Proctor
