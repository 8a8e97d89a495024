import Proctor.Proofs.Process.Operations

/-!
# Recorded exits

Most operations leave a subject alone once its exit is recorded. Two do not look whether there is
one: killing records an unknown exit whatever was known before, and supervising with a scheduled
signal records what was collected, also after a kill. The exit in a result is the one that was
recorded first when neither of them comes in between, and otherwise there is a host on which it is
another one.
-/
namespace Proctor

namespace Subject

/-- An operation that may record an exit once more. Supervision does so only when there is a signal
to be sent at an instant that the clock can hold. -/
def Operation.reopens (injection : Option Injection) : Operation → Bool
  | .supervise _ _ => injection.any fun i => i.delay.nanoseconds < Instant.limit
  | .kill _ _ => true
  | _ => false

section Keeping
variable {σ : Type} (host : Host σ) {s : Subject}

/-- A wait ends with the step of supervision that is the last one. -/
theorem superviseUntil_of_decided {stage : Supervision} {P : Subject → Prop}
    (h : (s.supervise host stage).Yields fun r => (r.1 = .over ∨ r.1 = .overflow) ∧ P r.2)
    (limit : Instant) (wakes : Nat) :
    (superviseUntil host limit (wakes + 1) stage s).Yields fun r => P r.2 := by
  refine h.seq ?_
  rintro ⟨stage, s'⟩ ⟨hstage, hs'⟩
  dsimp only at hstage
  obtain rfl | rfl := hstage
  · exact .of_pure hs'
  · exact .of_pure hs'

theorem superviseExit_keeps (h : s.exit.isSome = true) :
    (s.superviseExit host).Yields fun r => r.1 = .over ∧ r.2 = s := by
  unfold superviseExit
  split
  · rename_i hnone
    rw [hnone] at h
    cases h
  · exact .of_pure ⟨rfl, rfl⟩

/-- All other operations leave a subject alone once its exit is recorded. -/
theorem perform_keeps {o : Operation} (hs : s.Consistent) (he : s.exit.isSome = true)
    (ho : o.reopens s.injection = false) : (s.perform host o).Yields (· = s) := by
  have hexit := superviseExit_keeps host he
  cases o with
  | supervise limit wakes =>
    have hdecided : (s.supervise host .fresh).Yields fun r =>
        (r.1 = .over ∨ r.1 = .overflow) ∧ r.2 = s := by
      cases hi : s.injection with
      | none =>
        simp only [supervise, hi]
        exact hexit.mono fun r hr => ⟨.inl hr.1, hr.2⟩
      | some i =>
        have hdelay : Instant.limit ≤ i.delay.nanoseconds := by
          simpa [Operation.reopens, hi] using ho
        have hdue : s.started.add? i.delay = none := by
          rw [Instant.add?_eq_none_iff]
          omega
        simp only [supervise, hi, hdue]
        exact .of_pure ⟨.inr rfl, rfl⟩
    exact (superviseUntil_of_decided host (P := (· = s)) hdecided limit wakes).seq
      fun r hr => .of_pure hr
  | wait limit wakes =>
    have hdecided : (s.supervise host .untilExit).Yields fun r =>
        (r.1 = .over ∨ r.1 = .overflow) ∧ r.2 = s :=
      hexit.mono fun r hr => ⟨.inl hr.1, hr.2⟩
    exact (superviseUntil_of_decided host (P := (· = s)) hdecided limit wakes).seq
      fun r hr => .of_pure hr
  | deliver kind => exact .after fun _ => .of_pure rfl
  | terminate grace wakes =>
    have hstopped : s.isRunning = false := by
      cases hrunning : s.isRunning with
      | false => rfl
      | true =>
        rw [hs.mp hrunning] at he
        cases he
    have hidle : (s.terminate host grace (wakes + 1)).Yields fun r => r.2 = s := by
      unfold terminate
      split
      · rename_i hrunning
        rw [hstopped] at hrunning
        cases hrunning
      · exact .of_pure rfl
    exact hidle.seq fun r hr => .of_pure hr
  | kill grace wakes => cases ho
  | finish => exact .after fun _ => .of_pure rfl

theorem performAll_keeps {operations : List Operation} (hs : s.Consistent)
    (he : s.exit.isSome = true) (hall : ∀ o ∈ operations, o.reopens s.injection = false) :
    (performAll host operations s).Yields (· = s) := by
  induction operations with
  | nil => exact .of_pure rfl
  | cons o operations ih =>
    obtain ⟨ho, hall⟩ := List.forall_mem_cons.mp hall
    refine (perform_keeps host hs he ho).seq ?_
    rintro _ rfl
    exact ih hall

/-- A result has the exit that is recorded by then. -/
theorem finish_exit (s : Subject) : (s.finish host).Yields fun r =>
    ∀ result, r = .ok result → result.exit = s.exit.getD .unknown := by
  unfold finish
  simp only [ExceptT.run_bind]
  refine .after fun stdout => ?_
  cases stdout with
  | error fault => exact .of_pure nofun
  | ok stdout =>
    refine .after fun stderr => ?_
    cases stderr with
    | error fault => exact .of_pure nofun
    | ok stderr =>
      refine .of_pure fun result h => ?_
      cases h
      rfl

end Keeping

/-- Whatever the host does, a result has the exit that was recorded before some operations, when it
is made after them. -/
def Freezes (spec : ProcessSpec) (operations : List Operation) : Prop :=
  ∀ {σ : Type} (host : Host σ) (w w₁ w₂ w₃ w₄ : World σ) (before : List Operation)
    (launched recorded last : Subject) (e : Exit) (result : ProcessResult),
    (launch host spec).run w = (.ok launched, w₁) →
    (performAll host before launched).run w₁ = (recorded, w₂) → recorded.exit = some e →
    (performAll host operations recorded).run w₂ = (last, w₃) →
    (last.finish host).run w₃ = (.ok result, w₄) → result.exit = e

theorem freezes_of_keeps {spec : ProcessSpec} {operations : List Operation}
    (hall : ∀ o ∈ operations, o.reopens spec.injection = false) : Freezes spec operations := by
  intro σ host w w₁ w₂ w₃ w₄ before launched recorded last e result hlaunch hbefore he hlast hresult
  obtain ⟨added, -, -, hlaunched⟩ := launch_ensures host w spec
  rw [hlaunch] at hlaunched
  have hleads : launched.Leads recorded := (performAll_leads host before launched).of_run hbefore
  have hinjection : recorded.injection = spec.injection :=
    hleads.injection_eq.trans hlaunched.launchedAs.injection_eq
  have hkept : last = recorded :=
    (performAll_keeps host (hleads.consistent hlaunched.consistent) (by simp [he])
      (hinjection ▸ hall)).of_run hlast
  have hexit := (finish_exit host last).of_run hresult result rfl
  rw [hexit, hkept, he, Option.getD_some]

section Reopening
variable {σ : Type} (host : Host σ) {s : Subject} {status : WaitStatus}

/-- The exit that an operation records of a child that was collected before. -/
def Operation.records (status : WaitStatus) : Operation → Exit
  | .supervise _ _ => .ofStatus status
  | _ => .unknown

/-- A wait for a child that was collected before is over at once. -/
theorem waitChild_collected {c : Child} (h : c.status = some status) (limit : Instant)
    (patience : Nat) : (waitChild host limit (patience + 1) c).Yields
      fun r => r.1 = .exited (.ok status) := by
  unfold waitChild Child.exit?
  rw [h]
  exact .of_pure rfl

theorem kill_records (h : s.Collected status) (grace : Duration) (wakes : Nat) :
    (s.kill host grace (wakes + 1)).Yields fun r => r.2.exit = some .unknown := by
  obtain ⟨c, hc, hstatus⟩ := h
  have hkill : Child.kill host c = pure c := by
    unfold Child.kill
    rw [hstatus]
  unfold kill
  rw [hc]
  dsimp only
  rw [hkill, pure_bind]
  refine .after fun _ => .after fun now => (waitChild_collected host hstatus _ wakes).seq ?_
  rintro ⟨waited, c'⟩ rfl
  exact .of_pure rfl

/-- When the exit is looked for first, the status that was collected is recorded. -/
theorem supervise_records (hcoin : ∀ state, (host.coin state).1 = true) (h : s.Collected status)
    {i : Injection} (hi : s.injection = some i) {due : Instant}
    (hdue : s.started.add? i.delay = some due) :
    (s.supervise host .fresh).Yields fun r =>
      (r.1 = .over ∨ r.1 = .overflow) ∧ r.2.exit = some (.ofStatus status) := by
  obtain ⟨c, hc, hstatus⟩ := h
  have hfirst : (Run.ask host.coin).Yields (· = true) := fun w => hcoin w.host
  simp only [supervise, hi, hdue, hc]
  unfold superviseSignal
  refine hfirst.seq ?_
  rintro _ rfl
  refine .after fun now => ?_
  simp only [Bool.not_true, Bool.false_and, Bool.false_eq_true, if_false, tryRecord, Child.exit?,
    hstatus, pure_bind]
  exact .of_pure ⟨.inl rfl, rfl⟩

theorem perform_records (hcoin : ∀ state, (host.coin state).1 = true) (h : s.Collected status)
    (hstarted : s.started = ⟨0⟩) {o : Operation} (ho : o.reopens s.injection = true) :
    (s.perform host o).Yields fun s' => s'.exit = some (o.records status) := by
  cases o with
  | supervise limit wakes =>
    obtain ⟨i, hi, hdelay⟩ := (Option.any_eq_true _ _).mp ho
    have hdue : s.started.add? i.delay = some ⟨0 + i.delay.nanoseconds⟩ := by
      rw [hstarted, Instant.add?, if_pos (by simpa using hdelay)]
    have hdecided := supervise_records host hcoin h hi hdue
    exact (superviseUntil_of_decided host (P := fun s' => s'.exit = some (.ofStatus status))
      hdecided limit wakes).seq fun r hr => .of_pure hr
  | kill grace wakes => exact (kill_records host h grace wakes).seq fun r hr => .of_pure hr
  | wait limit wakes => cases ho
  | deliver kind => cases ho
  | terminate grace wakes => cases ho
  | finish => cases ho

/-- After some operations the exit is the one that the last of those recorded that may record one
once more. -/
theorem performAll_records (hcoin : ∀ state, (host.coin state).1 = true) (h : s.Collected status)
    (hs : s.Consistent) (hstarted : s.started = ⟨0⟩) {earlier later : List Operation}
    {o : Operation} (ho : o.reopens s.injection = true)
    (hlater : ∀ o ∈ later, o.reopens s.injection = false) :
    (performAll host (earlier ++ o :: later) s).Yields fun s' =>
      s'.exit = some (o.records status) := by
  rw [performAll_append]
  refine (performAll_leads host earlier s).seq fun s₁ h₁ => ?_
  have hrecords := perform_records host hcoin (h₁.collected h) (h₁.started_eq.trans hstarted)
    (h₁.injection_eq ▸ ho)
  refine (hrecords.and (perform_leads host s₁ o)).seq ?_
  rintro s₂ ⟨hexit, h₂⟩
  have hkeeps := performAll_keeps host (h₂.consistent (h₁.consistent hs)) (by simp [hexit])
    ((h₂.injection_eq.trans h₁.injection_eq) ▸ hlater)
  refine hkeeps.mono ?_
  rintro _ rfl
  exact hexit

end Reopening

/-- A host on which every process can be started and has exited at once, and an exit is seen before
a signal is sent. -/
def promptHost : Host Unit where
  now := fun _ => (⟨0⟩, ())
  openSink := fun _ => (.ok ⟨0⟩, ())
  shareSink := fun _ _ => (.ok (), ())
  drain := fun _ _ => (.ok [], ())
  spawn := fun _ _ => (.ok 1, ())
  collect := fun _ _ => (.ended ⟨0⟩, ())
  send := fun _ _ _ => (.accepted, ())
  abandon := fun _ _ => ()
  coin := fun _ => (true, ())
  rest := fun _ _ => ()

/-- A process that was started on that host at the first instant. -/
def prompt (spec : ProcessSpec) : Subject := ofChild spec ⟨0⟩ ⟨0⟩ ⟨0⟩ 1

/-- An operation that may record an exit once more records another one than some operation before. -/
theorem exists_other_exit {spec : ProcessSpec} {o : Operation}
    (ho : o.reopens spec.injection = true) :
    ∃ first e, (performAll promptHost [first] (prompt spec)).Yields
      (fun s => s.exit = some e ∧ s.Collected ⟨0⟩) ∧ o.records ⟨0⟩ ≠ e := by
  cases o with
  | supervise limit wakes =>
    refine ⟨.kill .zero 0, .unknown, fun _ => ⟨rfl, _, rfl, rfl⟩, ?_⟩
    show Exit.ofStatus ⟨0⟩ ≠ .unknown
    decide
  | kill grace wakes =>
    refine ⟨.wait ⟨0⟩ 0, .exited 0, fun _ => ⟨rfl, _, rfl, rfl⟩, ?_⟩
    show Exit.unknown ≠ .exited 0
    decide
  | wait limit wakes => cases ho
  | deliver kind => cases ho
  | terminate grace wakes => cases ho
  | finish => cases ho

/-- On that host a process is launched, and after any operations there is a result. -/
theorem exists_session (spec : ProcessSpec) (before operations : List Operation) :
    ∃ w w₁ w₂ w₃ w₄ recorded last,
      (launch promptHost spec).run w = (.ok (prompt spec), w₁) ∧
      (performAll promptHost before (prompt spec)).run w₁ = (recorded, w₂) ∧
      (performAll promptHost operations recorded).run w₂ = (last, w₃) ∧
      (last.finish promptHost).run w₃ = (.ok (last.frozen [] []), w₄) :=
  ⟨{ host := () }, _, _, _, _, _, _, rfl, rfl, rfl, rfl⟩

/-- Once its child was collected, the exit of such a process is the one that the last operation
recorded that may record one once more. -/
theorem prompt_records {spec : ProcessSpec} {before earlier later : List Operation} {o : Operation}
    {w₁ w₂ w₃ : World Unit} {recorded last : Subject}
    (hbefore : (performAll promptHost before (prompt spec)).run w₁ = (recorded, w₂))
    (hcollected : recorded.Collected ⟨0⟩)
    (hlast : (performAll promptHost (earlier ++ o :: later) recorded).run w₂ = (last, w₃))
    (ho : o.reopens spec.injection = true)
    (hlater : ∀ o ∈ later, o.reopens spec.injection = false) :
    last.exit = some (o.records ⟨0⟩) := by
  have hleads := (performAll_leads promptHost before (prompt spec)).of_run hbefore
  have hconsistent : (prompt spec).Consistent := by simp [Consistent, isRunning, prompt, ofChild]
  have hinjection : recorded.injection = spec.injection := hleads.injection_eq
  rw [← hinjection] at ho hlater
  exact (performAll_records promptHost (fun _ => rfl) hcollected (hleads.consistent hconsistent)
    hleads.started_eq ho hlater).of_run hlast

/-- Of the items with some property there is a last one. -/
theorem exists_last {α : Type} {p : α → Bool} {l : List α} (h : ∃ a ∈ l, p a = true) :
    ∃ earlier a later, l = earlier ++ a :: later ∧ p a = true ∧ ∀ b ∈ later, p b = false := by
  induction l with
  | nil => simp at h
  | cons a l ih =>
    by_cases hlater : ∃ b ∈ l, p b = true
    · obtain ⟨earlier, b, later, rfl, hb, hrest⟩ := ih hlater
      exact ⟨a :: earlier, b, later, rfl, hb, hrest⟩
    · obtain ⟨b, hb, hpb⟩ := h
      obtain rfl | hb := List.mem_cons.mp hb
      · exact ⟨[], b, l, rfl, hpb, by simpa using hlater⟩
      · exact absurd ⟨b, hb, hpb⟩ hlater

theorem not_freezes {spec : ProcessSpec} {operations : List Operation}
    (h : ∃ o ∈ operations, o.reopens spec.injection = true) : ¬ Freezes spec operations := by
  intro hfreezes
  obtain ⟨earlier, o, later, rfl, ho, hlater⟩ := exists_last h
  obtain ⟨first, e, hfirst, hother⟩ := exists_other_exit ho
  obtain ⟨w, w₁, w₂, w₃, w₄, recorded, last, hlaunch, hbefore, hlast, hresult⟩ :=
    exists_session spec [first] (earlier ++ o :: later)
  obtain ⟨he, hcollected⟩ := hfirst.of_run hbefore
  have hexit := prompt_records hbefore hcollected hlast ho hlater
  have hsame := hfreezes promptHost w w₁ w₂ w₃ w₄ [first] (prompt spec) recorded last e _
    hlaunch hbefore he hlast hresult
  apply hother
  rw [← hsame, frozen, hexit, Option.getD_some]

/-- The exit that was recorded before some operations is in all results after them, whatever the
host does, exactly when none of them kills the subject, and none supervises it with a signal to be
sent at an instant that the clock can hold. -/
theorem freezes_iff (spec : ProcessSpec) (operations : List Operation) :
    Freezes spec operations ↔ ∀ o ∈ operations, o.reopens spec.injection = false := by
  constructor
  · intro hfreezes
    by_contra hall
    push Not at hall
    exact not_freezes (by simpa using hall) hfreezes
  · exact freezes_of_keeps

/-- A process that exited and was waited for has the exit code zero; once it is killed nothing is
known of its exit. -/
theorem killed_after_exit : ∃ w w₁ w₂ w₃ w₄ launched recorded last result,
    (launch promptHost default).run w = (.ok launched, w₁) ∧
    (performAll promptHost [.wait ⟨0⟩ 0] launched).run w₁ = (recorded, w₂) ∧
    recorded.exit = some (.exited 0) ∧
    (performAll promptHost [.kill .zero 0] recorded).run w₂ = (last, w₃) ∧
    (last.finish promptHost).run w₃ = (.ok result, w₄) ∧ result.exit = .unknown := by
  obtain ⟨w, w₁, w₂, w₃, w₄, recorded, last, hlaunch, hbefore, hlast, hresult⟩ :=
    exists_session default [.wait ⟨0⟩ 0] [.kill .zero 0]
  have hwait : (performAll promptHost [.wait ⟨0⟩ 0] (prompt default)).Yields fun s =>
      s.exit = some (.exited 0) ∧ s.Collected ⟨0⟩ := fun _ => ⟨rfl, _, rfl, rfl⟩
  obtain ⟨he, hcollected⟩ := hwait.of_run hbefore
  have hkill : (performAll promptHost ([] ++ Operation.kill .zero 0 :: []) recorded).run w₂ =
      (last, w₃) := hlast
  have hexit := prompt_records hbefore hcollected hkill rfl (by simp)
  refine ⟨w, w₁, w₂, w₃, w₄, _, recorded, last, _, hlaunch, hbefore, he, hlast, hresult, ?_⟩
  rw [frozen, hexit, Option.getD_some]
  rfl

end Subject
end Proctor
