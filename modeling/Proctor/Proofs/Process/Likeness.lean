import Proctor.Process.Termination
import Proctor.Proofs.Host.Likeness

/-!
# Processes that run alike

In states in which a host answers alike, a process is launched, looked at, sent its signal,
terminated and let go of alike. Of its subject nothing differs but the numbers and the instants.
-/
namespace Proctor
open Run (Both OrFault)

namespace Likeness
variable {σ : Type} {host : Host σ} {spans : Duration → Prop} (like : Likeness host spans)

/-- Children of which the same is known. -/
structure Children (c c' : Child) : Prop where
  pid : like.pids c.pid c'.pid
  status_eq : c.status = c'.status
  guarded_eq : c.guarded = c'.guarded

/-- Subjects of which the same is known. The delay of a scheduled signal is one of the spans. -/
structure Subjects (s s' : Subject) : Prop where
  name_eq : s.name = s'.name
  injection_eq : s.injection = s'.injection
  delay : ∀ injection, s.injection = some injection → spans injection.delay
  child : Option.Rel like.Children s.child s'.child
  state_eq : s.state = s'.state
  started : like.readings s.started s'.started
  stdout : like.sinks s.stdout s'.stdout
  stderr : like.sinks s.stderr s'.stderr
  exit_eq : s.exit = s'.exit
  launchError_eq : s.launchError = s'.launchError
  report_eq : s.report = s'.report

/-- Supervisions that have come equally far. -/
inductive Stages : Supervision → Supervision → Prop where
  | fresh : Stages .fresh .fresh
  | untilSignal {due due' : Instant} (h : like.limits due due') :
    Stages (.untilSignal due) (.untilSignal due')
  | untilExit : Stages .untilExit .untilExit
  | «over» : Stages .over .over
  | overflow : Stages .overflow .overflow

/-- Results that tell the same. -/
structure Results (r r' : ProcessResult) : Prop where
  name_eq : r.name = r'.name
  pid : Option.Rel like.pids r.pid r'.pid
  launchedAt : like.readings r.launchedAt r'.launchedAt
  stdout_eq : r.stdout = r'.stdout
  stderr_eq : r.stderr = r'.stderr
  exit_eq : r.exit = r'.exit
  launchError_eq : r.launchError = r'.launchError
  injection_eq : r.injection = r'.injection

variable {like} {c c' : Child} {s s' : Subject}

theorem Subjects.child_cases (h : like.Subjects s s') : (s.child = none ∧ s'.child = none) ∨
    ∃ c c', s.child = some c ∧ s'.child = some c' ∧ like.Children c c' := by
  have hchild := h.child
  generalize s.child = child at hchild ⊢
  generalize s'.child = child' at hchild ⊢
  cases hchild with
  | none => exact .inl ⟨rfl, rfl⟩
  | some hc => exact .inr ⟨_, _, rfl, rfl, hc⟩

theorem Subjects.pid (h : like.Subjects s s') : Option.Rel like.pids s.pid s'.pid := by
  obtain ⟨hc, hc'⟩ | ⟨c, c', hc, hc', hcc⟩ := h.child_cases
  · simp only [Subject.pid, hc, hc', Option.map_none]
    exact .none
  · simp only [Subject.pid, hc, hc', Option.map_some]
    exact .some hcc.pid

theorem Subjects.isRunning_eq (h : like.Subjects s s') : s.isRunning = s'.isRunning := by
  rw [Subject.isRunning, Subject.isRunning, h.state_eq]

theorem Subjects.with_child (h : like.Subjects s s') (hc : like.Children c c') :
    like.Subjects { s with child := some c } { s' with child := some c' } :=
  { h with child := .some hc }

theorem Subjects.with_report (h : like.Subjects s s') (report : InjectionReport) :
    like.Subjects { s with report := some report } { s' with report := some report } :=
  { h with report_eq := rfl }

theorem Subjects.record (h : like.Subjects s s') (outcome : Except String WaitStatus) :
    like.Subjects (s.record outcome) (s'.record outcome) := by
  cases outcome <;> exact { h with exit_eq := rfl, state_eq := rfl }

theorem Subjects.killed (h : like.Subjects s s') {child child' : Option Child}
    (hchild : Option.Rel like.Children child child') :
    like.Subjects (s.killed child) (s'.killed child') :=
  { h with child := hchild, exit_eq := rfl, state_eq := rfl }

theorem Subjects.frozen (h : like.Subjects s s') (stdout stderr : List UInt8) :
    like.Results (s.frozen stdout stderr) (s'.frozen stdout stderr) where
  name_eq := h.name_eq
  pid := h.pid
  launchedAt := h.started
  stdout_eq := rfl
  stderr_eq := rfl
  exit_eq := congrArg (·.getD .unknown) h.exit_eq
  launchError_eq := congrArg (·.map (·.message)) h.launchError_eq
  injection_eq := h.report_eq

open Subject

variable (like)

theorem launch_agree {spec : ProcessSpec}
    (hdelay : ∀ injection, spec.injection = some injection → spans injection.delay) :
    like.Agree (OrFault like.Subjects) (launch host spec) (launch host spec) := by
  refine .except_seq (.ask like.openSink) fun stdout stdout' hstdout => ?_
  refine .except_seq (.ask like.openSink) fun stderr stderr' hstderr => ?_
  refine .except_seq (.ask (like.shareSink hstdout)) fun _ _ _ => ?_
  refine .except_seq (.ask (like.shareSink hstderr)) fun _ _ _ => ?_
  refine .lift_seq like.now_agree fun started started' hstarted => ?_
  refine .lift_seq (R := Eq) (.note_seq (.of_pure rfl)) fun _ _ _ => ?_
  refine .lift_seq (.ask (like.spawn _ _ hstdout hstderr)) fun _ _ h => ?_
  obtain ⟨fault, rfl, rfl⟩ | ⟨pid, pid', rfl, rfl, hspawned⟩ := h.cases
  · exact .of_pure ⟨rfl, rfl, hdelay, .none, rfl, hstarted, hstdout, hstderr, rfl, rfl, rfl⟩
  · refine .lift_seq (R := Eq) (.note_seq (.of_pure rfl)) fun _ _ _ => ?_
    exact .of_pure ⟨rfl, rfl, hdelay, .some ⟨hspawned, rfl, rfl⟩, rfl, hstarted, hstdout, hstderr,
      rfl, rfl, rfl⟩

theorem exit?_agree (h : like.Children c c') :
    like.Agree (Both Eq like.Children) (Child.exit? host c) (Child.exit? host c') := by
  unfold Child.exit?
  rw [← h.status_eq]
  cases c.status with
  | some status => exact .of_pure ⟨rfl, h⟩
  | none =>
    refine (Agree.ask (like.collect h.pid)).seq ?_
    rintro answer _ rfl
    cases answer with
    | pending => exact .of_pure ⟨rfl, h⟩
    | ended status => exact .note_seq (.of_pure ⟨rfl, h.pid, rfl, h.guarded_eq⟩)
    | failed reason => exact .note_seq (.of_pure ⟨rfl, h⟩)

theorem tryRecord_agree (h : like.Subjects s s') (hc : like.Children c c') :
    like.Agree (Both Eq like.Subjects) (s.tryRecord host c) (s'.tryRecord host c') := by
  refine (like.exit?_agree hc).seq ?_
  rintro ⟨exit, child⟩ ⟨_, child'⟩ ⟨rfl, hchild⟩
  cases exit with
  | none => exact .of_pure ⟨rfl, h.with_child hchild⟩
  | some outcome => exact .of_pure ⟨rfl, (h.with_child hchild).record outcome⟩

theorem deliver_agree (h : like.Subjects s s') (kind : SignalKind) :
    like.Agree Eq (s.deliver host kind) (s'.deliver host kind) := by
  unfold deliver
  rw [← h.isRunning_eq]
  have hpid := h.pid
  generalize s.pid = pid at hpid ⊢
  generalize s'.pid = pid' at hpid ⊢
  cases hpid with
  | none => exact .of_pure rfl
  | some hpid =>
    cases s.isRunning with
    | false => exact .of_pure rfl
    | true =>
      refine (like.send_agree (.process hpid) _).seq ?_
      rintro delivery _ rfl
      cases delivery <;> exact .of_pure rfl

theorem superviseExit_agree (h : like.Subjects s s') :
    like.Agree (Both like.Stages like.Subjects) (s.superviseExit host) (s'.superviseExit host) := by
  unfold superviseExit
  rw [← h.exit_eq]
  obtain ⟨hc, hc'⟩ | ⟨c, c', hc, hc', hcc⟩ := h.child_cases
  · rw [hc, hc']
    exact .of_pure ⟨.over, h⟩
  · rw [hc, hc']
    cases s.exit with
    | some exit => exact .of_pure ⟨.over, h⟩
    | none =>
      refine (like.tryRecord_agree h hcc).seq ?_
      rintro ⟨ended, s₁⟩ ⟨_, s₁'⟩ ⟨rfl, h₁⟩
      cases ended with
      | false => exact .of_pure ⟨.untilExit, h₁⟩
      | true => exact .of_pure ⟨.over, h₁⟩

theorem inject_agree (h : like.Subjects s s') (kind : SignalKind) :
    like.Agree (Both like.Stages like.Subjects) (s.inject host kind) (s'.inject host kind) := by
  refine (like.deliver_agree h kind).seq ?_
  rintro report _ rfl
  exact like.superviseExit_agree (h.with_report report)

theorem superviseSignal_agree (h : like.Subjects s s') (hc : like.Children c c')
    (kind : SignalKind) {due due' : Instant} (hdue : like.limits due due') :
    like.Agree (Both like.Stages like.Subjects) (s.superviseSignal host c kind due)
      (s'.superviseSignal host c' kind due') := by
  refine (Agree.ask like.coin).seq ?_
  rintro exitFirst _ rfl
  refine like.now_agree.seq fun now now' hnow => ?_
  rw [like.reached_eq hdue hnow]
  cases !exitFirst && due'.reached now' with
  | true => exact like.inject_agree h kind
  | false =>
    refine (like.tryRecord_agree h hc).seq ?_
    rintro ⟨ended, s₁⟩ ⟨_, s₁'⟩ ⟨rfl, h₁⟩
    cases ended with
    | true => exact .of_pure ⟨.over, h₁.with_report _⟩
    | false =>
      refine like.now_agree.seq fun now now' hnow => ?_
      rw [like.reached_eq hdue hnow]
      cases due'.reached now' with
      | true => exact like.inject_agree h₁ kind
      | false => exact .of_pure ⟨.untilSignal hdue, h₁⟩

theorem supervise_agree (h : like.Subjects s s') {stage stage' : Supervision}
    (hstage : like.Stages stage stage') :
    like.Agree (Both like.Stages like.Subjects) (s.supervise host stage)
      (s'.supervise host stage') := by
  cases hstage with
  | fresh =>
    unfold supervise
    rw [← h.injection_eq]
    cases hinjection : s.injection with
    | none => exact like.superviseExit_agree h
    | some injection =>
      have hdue := like.add? (h.delay injection hinjection) h.started
      simp only
      generalize s.started.add? injection.delay = due at hdue ⊢
      generalize s'.started.add? injection.delay = due' at hdue ⊢
      obtain ⟨hc, hc'⟩ | ⟨c, c', hc, hc', hcc⟩ := h.child_cases
      · rw [hc, hc']
        cases hdue with
        | none => exact .of_pure ⟨.overflow, h⟩
        | some _ => exact .of_pure ⟨.over, h⟩
      · rw [hc, hc']
        cases hdue with
        | none => exact .of_pure ⟨.overflow, h⟩
        | some hdue => exact like.superviseSignal_agree h hcc injection.kind hdue
  | untilSignal hdue =>
    unfold supervise
    rw [← h.injection_eq]
    obtain ⟨hc, hc'⟩ | ⟨c, c', hc, hc', hcc⟩ := h.child_cases
    · rw [hc, hc']
      cases s.injection <;> exact .of_pure ⟨.over, h⟩
    · rw [hc, hc']
      cases s.injection with
      | none => exact .of_pure ⟨.over, h⟩
      | some injection => exact like.superviseSignal_agree h hcc injection.kind hdue
  | untilExit => exact like.superviseExit_agree h
  | «over» => exact .of_pure ⟨.over, h⟩
  | overflow => exact .of_pure ⟨.overflow, h⟩

theorem superviseAll_agree {staged staged' : List (Supervision × Subject)}
    (h : List.Forall₂ (Both like.Stages like.Subjects) staged staged') :
    like.Agree (List.Forall₂ (Both like.Stages like.Subjects)) (superviseAll host staged)
      (superviseAll host staged') := by
  induction h with
  | nil => exact .of_pure .nil
  | cons hnext hrest ih =>
    refine (like.supervise_agree hnext.2 hnext.1).seq ?_
    rintro ⟨stage, s⟩ ⟨stage', s'⟩ ⟨hstage, hs⟩
    have hgoesOn : like.Agree (List.Forall₂ (Both like.Stages like.Subjects))
        (superviseAll host _ >>= fun rest => pure ((stage, s) :: rest))
        (superviseAll host _ >>= fun rest => pure ((stage', s') :: rest)) :=
      ih.seq fun _ _ hrest => .of_pure (.cons ⟨hstage, hs⟩ hrest)
    cases hstage with
    | overflow => exact .of_pure (.cons ⟨.overflow, hs⟩ hrest)
    | fresh | untilSignal | untilExit | «over» => exact hgoesOn

theorem finish_agree (h : like.Subjects s s') :
    like.Agree (OrFault like.Results) (s.finish host) (s'.finish host) := by
  refine .except_seq (.ask (like.drain h.stdout)) ?_
  rintro stdout _ rfl
  refine .except_seq (.ask (like.drain h.stderr)) ?_
  rintro stderr _ rfl
  exact .of_pure (h.frozen stdout stderr)

section Ending
variable {limit limit' : Instant}

theorem waitChild_agree (hlimit : like.limits limit limit') (patience : Nat)
    (h : like.Children c c') : like.Agree (Both Eq like.Children)
      (waitChild host limit patience c) (waitChild host limit' patience c') := by
  induction patience generalizing c c' with
  | zero => exact .of_pure ⟨rfl, h⟩
  | succ patience ih =>
    refine (like.exit?_agree h).seq ?_
    rintro ⟨exit, c₁⟩ ⟨_, c₁'⟩ ⟨rfl, h₁⟩
    cases exit with
    | some outcome => exact .of_pure ⟨rfl, h₁⟩
    | none =>
      refine like.now_agree.seq fun now now' hnow => ?_
      rw [like.reached_eq hlimit hnow]
      cases limit'.reached now' with
      | true => exact .of_pure ⟨rfl, h₁⟩
      | false => exact (like.rest_agree hlimit).seq fun _ _ _ => ih h₁

theorem signalGroup_agree {pid pid' : Pid} (h : like.pids pid pid') (signal : Signal) :
    like.Agree Eq (signalGroup host pid signal) (signalGroup host pid' signal) := by
  refine (like.send_agree (.group h) signal).seq ?_
  rintro delivery _ rfl
  have hprocess : like.Agree Eq (Run.send host (.process pid) signal >>= fun _ => pure ())
      (Run.send host (.process pid') signal >>= fun _ => pure ()) :=
    (like.send_agree (.process h) signal).seq fun _ _ _ => .of_pure rfl
  cases delivery with
  | accepted => exact .of_pure rfl
  | gone | refused => exact hprocess

theorem childKill_agree (h : like.Children c c') :
    like.Agree like.Children (Child.kill host c) (Child.kill host c') := by
  unfold Child.kill
  rw [← h.status_eq]
  cases c.status with
  | some status => exact .of_pure h
  | none =>
    refine (like.send_agree (.process h.pid) .kill).seq ?_
    rintro delivery _ rfl
    cases delivery with
    | accepted => exact .of_pure ⟨h.pid, rfl, rfl⟩
    | gone | refused => exact .of_pure h

variable {grace : Duration} (hgrace : spans grace) (patience : Nat)
include hgrace

theorem kill_agree (h : like.Subjects s s') : like.Agree (Both Eq like.Subjects)
    (s.kill host grace patience) (s'.kill host grace patience) := by
  unfold kill
  obtain ⟨hc, hc'⟩ | ⟨c, c', hc, hc', hcc⟩ := h.child_cases
  · rw [hc, hc']
    exact .of_pure ⟨rfl, h.killed .none⟩
  · rw [hc, hc']
    refine (like.signalGroup_agree hcc.pid .kill).seq fun _ _ _ => ?_
    refine (like.childKill_agree hcc).seq fun c₁ c₁' h₁ => ?_
    refine like.now_agree.seq fun now now' hnow => ?_
    refine (like.waitChild_agree (like.deadline hgrace hnow) patience h₁).seq ?_
    rintro ⟨waited, c₂⟩ ⟨_, c₂'⟩ ⟨rfl, h₂⟩
    cases waited with
    | exited => exact .of_pure ⟨rfl, h.killed (.some h₂)⟩
    | timedOut => exact .note_seq (.of_pure ⟨rfl, h.killed (.some h₂)⟩)
    | stalled => exact .of_pure ⟨rfl, h.with_child h₂⟩

theorem terminate_agree (h : like.Subjects s s') : like.Agree (Both Eq like.Subjects)
    (s.terminate host grace patience) (s'.terminate host grace patience) := by
  unfold terminate
  rw [← h.isRunning_eq]
  obtain ⟨hc, hc'⟩ | ⟨c, c', hc, hc', hcc⟩ := h.child_cases
  · rw [hc, hc']
    exact .of_pure ⟨rfl, h⟩
  · rw [hc, hc']
    cases s.isRunning with
    | false => exact .of_pure ⟨rfl, h⟩
    | true =>
      have hstopping : like.Subjects { s with state := .stopping } { s' with state := .stopping } :=
        { h with state_eq := rfl }
      refine (like.signalGroup_agree hcc.pid .terminate).seq fun _ _ _ => ?_
      refine like.now_agree.seq fun now now' hnow => ?_
      refine (like.waitChild_agree (like.deadline hgrace hnow) patience hcc).seq ?_
      rintro ⟨waited, c₁⟩ ⟨_, c₁'⟩ ⟨rfl, h₁⟩
      have hwaited := hstopping.with_child h₁
      cases waited with
      | exited outcome => exact .of_pure ⟨rfl, hwaited.record outcome⟩
      | timedOut => exact like.kill_agree hgrace patience hwaited
      | stalled => exact .of_pure ⟨rfl, hwaited⟩

theorem terminateAll_agree {subjects subjects' : List Subject}
    (h : List.Forall₂ like.Subjects subjects subjects') :
    like.Agree (Both Eq (List.Forall₂ like.Subjects))
      (terminateAll host grace patience subjects) (terminateAll host grace patience subjects') := by
  induction h with
  | nil => exact .of_pure ⟨rfl, .nil⟩
  | cons hs hrest ih =>
    refine (like.terminate_agree hgrace patience hs).seq ?_
    rintro ⟨ended, s₁⟩ ⟨_, s₁'⟩ ⟨rfl, h₁⟩
    cases ended with
    | false => exact .of_pure ⟨rfl, .cons h₁ hrest⟩
    | true =>
      refine ih.seq ?_
      rintro ⟨ended, rest⟩ ⟨_, rest'⟩ ⟨rfl, hrest⟩
      exact .of_pure ⟨rfl, .cons h₁ hrest⟩

end Ending

theorem release_agree (h : like.Children c c') :
    like.Agree Eq (Child.release host c) (Child.release host c') := by
  have habandon : like.Agree Eq (Run.ask fun w => ((), host.abandon c.pid w))
      (Run.ask fun w => ((), host.abandon c'.pid w)) :=
    .ask fun _ _ hs => ⟨rfl, like.abandon h.pid hs⟩
  unfold Child.release
  rw [← h.status_eq, ← h.guarded_eq]
  cases c.status with
  | some status => exact .of_pure rfl
  | none =>
    cases c.guarded with
    | false => exact habandon
    | true => exact (like.send_agree (.process h.pid) .kill).seq fun _ _ _ => habandon

theorem discard_agree (h : like.Subjects s s') :
    like.Agree Eq (s.discard host) (s'.discard host) := by
  unfold Subject.discard
  rw [← h.isRunning_eq]
  obtain ⟨hc, hc'⟩ | ⟨c, c', hc, hc', hcc⟩ := h.child_cases
  · rw [hc, hc']
    exact .of_pure rfl
  · rw [hc, hc']
    cases s.isRunning with
    | false => exact like.release_agree hcc
    | true => exact (like.send_agree (.group hcc.pid) .kill).seq fun _ _ _ => like.release_agree hcc

theorem discardAll_agree {subjects subjects' : List Subject}
    (h : List.Forall₂ like.Subjects subjects subjects') :
    like.Agree Eq (discardAll host subjects) (discardAll host subjects') := by
  induction h with
  | nil => exact .of_pure rfl
  | cons hs _ ih => exact (like.discard_agree hs).seq fun _ _ _ => ih

end Likeness
end Proctor
