import Proctor.Proofs.Case.Verdict
import Proctor.Proofs.Report.Attempts

/-!
# What the statuses of a report say

A status is no failure exactly when its case was skipped or has met its expectations. What the
attempts at some cases leave in the journal is what their runs leave there, one after the other:
a case that was skipped leaves nothing.
-/
namespace Proctor

namespace TestCase
variable {σ : Type} {host : Host σ} {c : TestCase} {entries : List Entry} {subjects : List Subject}

/-- The status of a case that ended with an outcome is that of the outcome. -/
theorem Course.status_eq {o : Outcome} (h : Course host c entries (.outcome o) subjects) :
    (CaseEnd.outcome o).status = if o.passed then .passed else .failed := by
  obtain ⟨-, phase, hjudged, hphase⟩ := h.concluded
  have hadvance : o.phase.advance .reported = .ok .reported := by
    rw [hjudged.phase_eq]
    obtain ⟨rfl, -⟩ | rfl := hphase <;> rfl
  rw [CaseEnd.status, hadvance]

/-- The status of a case is no failure exactly when its end meets the expectations of the case. -/
theorem Course.isFailure_iff {ending : CaseEnd} (h : Course host c entries ending subjects) :
    ending.status.isFailure = false ↔ c.Met ending := by
  cases ending with
  | outcome o =>
    rw [h.met_iff, h.status_eq]
    cases o.passed <;> simp [Status.isFailure]
  | fault _ | panic _ | stalled =>
    refine iff_of_false (by simp [CaseEnd.status, Status.isFailure]) ?_
    rintro ⟨_, h, _⟩
    cases h

end TestCase

namespace Report
variable {τ : Type} {settings : Settings} {runner : TestCase → StateM τ CaseEnd}
  {cases : List TestCase} {endings : List (Option CaseEnd)} {t t' : τ}

/-- No status is a failure exactly when no attempt ended with one. -/
theorem failed_eq_zero_iff (h : cases.length = endings.length) :
    (statusesOf cases endings).countP (·.2.isFailure) = 0 ↔
      List.Forall₂ (fun _ attempt => (Status.ofAttempt attempt).isFailure = false) cases endings := by
  rw [List.countP_eq_zero]
  induction cases generalizing endings with
  | nil =>
    obtain rfl := List.length_eq_zero_iff.mp h.symm
    simp [statusesOf]
  | cons c rest ih =>
    cases endings with
    | nil => cases h
    | cons attempt endings =>
      rw [List.forall₂_cons, ← ih (Nat.succ.inj h)]
      simp [statusesOf]

variable {σ : Type} {host : Host σ} {pace : Pace} {w w' : World σ}

/-- A case is run exactly when it is selected. -/
theorem Attempts.run_iff (h : Attempts settings runner cases t endings t') :
    List.Forall₂ (fun c attempt => attempt.isSome = true ↔ settings.selects c.name = true)
      cases endings := by
  induction h with
  | done => exact .nil
  | skipped hc _ ih => exact .cons (by simp [hc]) ih
  | ran hc _ _ ih => exact .cons (by simp [hc]) ih

/-- Every status of a report is no failure exactly when its case was not selected or has met its
expectations. -/
theorem Attempts.isFailure_iff
    (h : Attempts settings (TestCase.run host · pace) cases w endings w') :
    List.Forall₂ (fun c attempt => (Status.ofAttempt attempt).isFailure = false ↔
      (settings.selects c.name = true → ∃ ending, attempt = some ending ∧ c.Met ending))
      cases endings := by
  induction h with
  | done => exact .nil
  | skipped hc _ ih =>
    refine .cons (iff_of_true rfl fun h => ?_) ih
    rw [hc] at h
    cases h
  | @ran c _ ending _ _ _ _ hc hrun _ ih =>
    refine .cons ?_ ih
    obtain ⟨_, _, hcourse⟩ := TestCase.run_course hrun
    rw [show Status.ofAttempt (some ending) = ending.status from rfl, hcourse.isFailure_iff]
    simp [hc]

/-- No status of a report is a failure exactly when every case that was selected has met its
expectations. -/
theorem Attempts.failed_iff
    (h : Attempts settings (TestCase.run host · pace) cases w endings w') :
    (statusesOf cases endings).countP (·.2.isFailure) = 0 ↔
      List.Forall₂ (fun c attempt => settings.selects c.name = true →
        ∃ ending, attempt = some ending ∧ c.Met ending) cases endings := by
  rw [failed_eq_zero_iff h.length_eq]
  exact ⟨h.isFailure_iff.mp fun _ _ hiff => hiff.mp, h.isFailure_iff.mp fun _ _ hiff => hiff.mpr⟩

/-- The journal of a report holds the entries of one case after the other. No entry is one of a case
that was not selected, and the host was asked for processes of a case that was selected in their
order. -/
theorem Attempts.journal_eq
    (h : Attempts settings (TestCase.run host · pace) cases w endings w') :
    ∃ parts : List (List Entry), w'.journal = parts.reverse.flatten ++ w.journal ∧
      List.Forall₂ (fun c part => if settings.selects c.name
        then attempts part <+: c.processes.map (·.name) else part = []) cases parts := by
  induction h with
  | done => exact ⟨[], rfl, .nil⟩
  | @skipped c _ _ _ _ hc _ ih =>
    obtain ⟨parts, hjournal, hparts⟩ := ih
    exact ⟨[] :: parts, by simpa using hjournal, .cons (by simp [hc]) hparts⟩
  | @ran c _ ending _ w w₁ _ hc hrun _ ih =>
    obtain ⟨parts, hjournal, hparts⟩ := ih
    obtain ⟨_, hpart, -, executed, dropped, _, _, -, -, rfl, hcourse, -, hdropped, -⟩ :=
      TestCase.run_ensures host w c pace
    rw [hrun] at hpart
    change w₁.journal = _ at hpart
    refine ⟨(dropped ++ executed) :: parts, by simp [hjournal, hpart], .cons ?_ hparts⟩
    obtain ⟨_, hbegun, -⟩ := hcourse.begun
    rw [if_pos hc,
      (hbegun.go_on (hdropped.forall_entry (·.not_launches)) rfl).attempts_eq.1]
    exact (List.take_prefix _ _).map _

end Report
end Proctor
