import Proctor.Proofs.Case.Escalation
import Proctor.Proofs.Case.Ownership
import Proctor.Proofs.Case.Verdict

/-!
# What is recorded of an exit

The exit in a result is what was collected of the process: its code or its signal, if it was not
killed before. Nothing is known of the exit of a process that was never started, that was lost, or
that had to be killed. The journal tells which of these it was by the few entries that bear on the
exit of a process, and no step about one process adds an entry that bears on another.
-/
namespace Proctor

/-- Whether no process was started under the number of another one whose exit was still to be
collected. The system hands out numbers in this way. -/
def freshNumbers : List Entry → Bool
  | [] => true
  | .spawned _ pid :: earlier => !(outstanding earlier).contains pid && freshNumbers earlier
  | _ :: earlier => freshNumbers earlier

theorem freshNumbers_of_cons {e : Entry} {earlier : List Entry}
    (h : freshNumbers (e :: earlier) = true) : freshNumbers earlier = true := by
  cases e with
  | spawned name pid => exact (Bool.and_eq_true_iff.mp h).2
  | _ => exact h

theorem freshNumbers_of_append {later earlier : List Entry}
    (h : freshNumbers (later ++ earlier) = true) : freshNumbers earlier = true := by
  induction later with
  | nil => exact h
  | cons e later ih => exact ih (freshNumbers_of_cons h)

/-- A run never owns a number twice. -/
theorem outstanding_nodup {journal : List Entry} (h : freshNumbers journal = true) :
    (outstanding journal).Nodup := by
  induction journal with
  | nil => exact List.nodup_nil
  | cons e earlier ih =>
    have hrest := ih (freshNumbers_of_cons h)
    cases e with
    | spawned name pid =>
      have hnew : (!(outstanding earlier).contains pid) = true := (Bool.and_eq_true_iff.mp h).1
      refine List.nodup_cons.mpr ⟨?_, hrest⟩
      simpa using hnew
    | collected pid status => exact hrest.erase pid
    | _ => exact hrest

/-- Whether an entry bears on what is known of the exit of a process. -/
def Entry.tellsOf (pid : Pid) : Entry → Bool
  | .collected p _ => p = pid
  | .uncollected p _ => p = pid
  | .sent (.group p) signal _ _ => p = pid && signal = .kill
  | _ => false

/-- Everything in a journal that bears on the exit of a process. -/
def tidings (journal : List Entry) (pid : Pid) : List Entry := journal.filter (·.tellsOf pid)

section Tidings
variable {journal : List Entry} {pid : Pid} {status : WaitStatus} {reason : String} {e : Entry}

/-- What bears on an exit is about the process. -/
theorem Entry.tellsOf_eq_false (h : e.about? ≠ some pid) : e.tellsOf pid = false := by
  cases e with
  | sent recipient signal t d =>
    cases recipient with
    | process p => rfl
    | group p => simp_all [tellsOf, about?, Recipient.pid]
  | collected p status | uncollected p reason => simpa [tellsOf, about?] using h
  | _ => rfl

theorem Entry.tellsOf_of_launches (h : e.launches = true) : e.tellsOf pid = false := by
  cases e with
  | attempted _ | spawned _ _ => rfl
  | _ => cases h

theorem tidings_append {later : List Entry} (h : ∀ e ∈ later, e.tellsOf pid = false) :
    tidings (later ++ journal) pid = tidings journal pid := by
  have hnone : later.filter (·.tellsOf pid) = [] := by
    rw [List.filter_eq_nil_iff]
    intro e he
    simp [h e he]
  rw [tidings, List.filter_append, hnone, List.nil_append, tidings]

theorem tidings_collected (h : tidings journal pid = []) (status : WaitStatus) :
    tidings (.collected pid status :: journal) pid = [.collected pid status] := by
  rw [tidings, List.filter_cons_of_pos (by simp [Entry.tellsOf])]
  exact congrArg _ h

theorem tidings_uncollected (h : tidings journal pid = []) (reason : String) :
    tidings (.uncollected pid reason :: journal) pid = [.uncollected pid reason] := by
  rw [tidings, List.filter_cons_of_pos (by simp [Entry.tellsOf])]
  exact congrArg _ h

theorem collected_mem_iff : .collected pid status ∈ journal ↔
    .collected pid status ∈ tidings journal pid := by
  simp [tidings, Entry.tellsOf]

theorem uncollected_mem_iff : .uncollected pid reason ∈ journal ↔
    .uncollected pid reason ∈ tidings journal pid := by
  simp [tidings, Entry.tellsOf]

theorem sentToGroup_kill_iff : SentToGroup .kill journal pid ↔
    ∃ t d, .sent (.group pid) .kill t d ∈ tidings journal pid := by
  simp [SentToGroup, tidings, Entry.tellsOf]

end Tidings

namespace Subject

/-- What the journal tells of a process, beside what is recorded of its exit. -/
inductive Told (journal : List Entry) (s : Subject) : Prop
  | unstarted (child : s.child = none) (exit : s.exit = some .unknown)
  | waiting {c : Child} (h : s.Awaits c) (nothing : tidings journal c.pid = [])
  | collected {c : Child} {status : WaitStatus} (child : s.child = some c)
      (exit : s.exit = some (.ofStatus status))
      (told : tidings journal c.pid = [.collected c.pid status])
  | lost {c : Child} {reason : String} (child : s.child = some c) (exit : s.exit = some .unknown)
      (told : tidings journal c.pid = [.uncollected c.pid reason])
  | killed {c : Child} (child : s.child = some c) (exit : s.exit = some .unknown)
      (sent : SentToGroup .kill journal c.pid)

variable {s s' : Subject} {c : Child} {e : Entry} {journal later : List Entry}

theorem pid_eq (h : s.child = some c) : s.pid = some c.pid := by
  rw [pid, h, Option.map_some]

/-- Entries that do not bear on the exit of a process leave it as it was told. -/
theorem Told.append (h : s.Told journal) (later : List Entry)
    (hlater : ∀ pid, s.pid = some pid → ∀ e ∈ later, e.tellsOf pid = false) :
    s.Told (later ++ journal) := by
  cases h with
  | unstarted hc he => exact .unstarted hc he
  | waiting ha hn => exact .waiting ha ((tidings_append (hlater _ (pid_eq ha.child))).trans hn)
  | collected hc he ht => exact .collected hc he ((tidings_append (hlater _ (pid_eq hc))).trans ht)
  | lost hc he ht => exact .lost hc he ((tidings_append (hlater _ (pid_eq hc))).trans ht)
  | killed hc he hs => exact .killed hc he (sentToGroup_append.mpr (.inr hs))

/-- Nothing was told of a process that is still waited for. -/
theorem Told.nothing (h : s.Told journal) (ha : s.Awaits c) : tidings journal c.pid = [] := by
  have hunended := ha.unended
  cases h with
  | waiting ha' hn => rwa [ha'.unique ha.child]
  | unstarted _ he | collected _ he _ | lost _ he _ | killed _ he _ =>
    rw [hunended] at he
    cases he

/-- A step of supervision about a process keeps what is told of it. -/
theorem Supervises.told (h : s.Told journal) (hs : s.Supervises e s') : s'.Told (e :: journal) := by
  cases hs with
  | @inject c i t d ha _ _ _ =>
    have hnews : tidings (.sent (.process c.pid) i.kind.signal t d :: journal) c.pid =
        tidings journal c.pid := rfl
    exact .waiting (ha.with_report _) (hnews.trans (h.nothing ha))
  | @collect c status ha => exact .collected rfl rfl (tidings_collected (h.nothing ha) status)
  | @lose c reason ha => exact .lost rfl rfl (tidings_uncollected (h.nothing ha) reason)

/-- The numbers of subjects that are all different. -/
def Distinct (subjects : List Subject) : Prop := (subjects.filterMap pid).Nodup

/-- Subjects with the same numbers are as different. -/
theorem Distinct.of_pids {subjects subjects' : List Subject} (h : Distinct subjects)
    (hpids : subjects'.map pid = subjects.map pid) : Distinct subjects' := by
  have hsame (subjects : List Subject) :
      subjects.filterMap pid = (subjects.map pid).filterMap id := by
    rw [List.filterMap_map]
    rfl
  rw [Distinct, hsame, hpids, ← hsame]
  exact h

theorem Distinct.ne {before after : List Subject} {x : Subject} {p : Pid}
    (h : Distinct (before ++ s :: after)) (hs : s.pid = some p) (hx : x ∈ before ++ after) :
    x.pid ≠ some p := by
  intro hsame
  have hperm : ((before ++ s :: after).filterMap pid).Perm ((s :: (before ++ after)).filterMap pid) :=
    List.perm_middle.filterMap pid
  have hnodup := (hperm.nodup_iff).mp h
  rw [List.filterMap_cons_some hs, List.nodup_cons] at hnodup
  exact hnodup.1 (List.mem_filterMap.mpr ⟨x, hx, hsame⟩)

/-- Steps of supervision keep what is told of every process. -/
theorem told_of_supervises {subjects subjects' : List Subject}
    (hdistinct : Distinct subjects) (htold : ∀ s ∈ subjects, s.Told journal)
    (h : Path (OneOf Supervises) subjects later subjects') :
    ∀ s ∈ subjects', s.Told (later ++ journal) := by
  refine (h.preserves (I := fun journal subjects => Distinct subjects ∧ ∀ s ∈ subjects, s.Told journal)
    ?_ ⟨hdistinct, htold⟩).2
  rintro journal _ e _ ⟨hdistinct, htold⟩ hs
  obtain @⟨before, after, s, s', e, hs⟩ := hs
  obtain ⟨habout, hpid⟩ := hs.about_eq
  refine ⟨hdistinct.of_pids (by simp [hpid]), fun x hx => ?_⟩
  have hstay (hx : x ∈ before ++ after) : x.Told (e :: journal) := by
    have hmem : x ∈ before ++ s :: after := by
      simp only [List.mem_append, List.mem_cons] at hx ⊢
      tauto
    refine (htold x hmem).append [e] fun p hp e' he' => ?_
    obtain rfl := List.mem_singleton.mp he'
    refine Entry.tellsOf_eq_false fun hsame => ?_
    rw [habout] at hsame
    exact hdistinct.ne hsame hx hp
  rw [List.mem_append, List.mem_cons] at hx
  obtain hx | rfl | hx := hx
  · exact hstay (List.mem_append_left _ hx)
  · exact hs.told (htold s (by simp))
  · exact hstay (List.mem_append_right _ hx)

variable {σ : Type} (host : Host σ) (grace : Duration) (patience : Nat)

/-- The exit of a process that was killed is not known, whatever is collected of it. -/
theorem kill_exit {w w' : World σ} (h : (s.kill host grace patience).run w = ((true, s'), w')) :
    s'.exit = some .unknown := by
  unfold kill at h
  split at h
  · cases h
    rfl
  · obtain ⟨_, w₁, -, h⟩ := Run.exists_of_run_bind h
    obtain ⟨c', w₂, -, h⟩ := Run.exists_of_run_bind h
    obtain ⟨now, w₃, -, h⟩ := Run.exists_of_run_bind h
    obtain ⟨⟨waited, c''⟩, w₄, -, h⟩ := Run.exists_of_run_bind h
    cases waited with
    | exited _ =>
      cases h
      rfl
    | timedOut =>
      obtain ⟨_, w₅, -, h⟩ := Run.exists_of_run_bind h
      cases h
      rfl
    | stalled => cases h

/-- Asking a process to terminate does not bear on its exit. -/
theorem Signalled.tells_nothing {pid : Pid} {added : List Entry}
    (h : Signalled pid .terminate added) : ∀ e ∈ added, e.tellsOf pid = false := by
  have hother : Signal.terminate ≠ .kill := by decide
  cases h <;> simp [Entry.tellsOf, hother]

/-- Termination keeps what is told of a process. -/
theorem terminate_told (w : World σ) (haccounted : s.Accounted journal) (h : s.Told journal) :
    (s.terminate host grace patience).Ensures w fun added r _ =>
      r.1 = true → r.2.Told (added ++ journal) := by
  cases hrunning : s.isRunning with
  | false =>
    have hnone : s.terminate host grace patience = pure (true, s) := by
      rw [terminate, hrunning]
      cases s.child <;> rfl
    rw [hnone]
    exact .of_pure fun _ => h
  | true =>
    obtain ⟨c, ha⟩ := haccounted.awaits hrunning
    have hnothing := h.nothing ha
    simp only [terminate, ha.child, hrunning]
    refine (signalGroup_ensures host w _ _).seq ?_
    intro signals _ w₁ _ hsignals
    refine (Run.now_ensures host w₁).seq ?_
    rintro _ t w₂ - ⟨rfl, -⟩
    have hasked : tidings (signals ++ journal) c.pid = [] :=
      (tidings_append hsignals.tells_nothing).trans hnothing
    refine (waitChild_ensures host w₂ _ _ ha.uncollected).seq ?_
    rintro _ _ w₃ - (status | reason | _ | _)
    · exact .of_pure fun _ => .collected rfl rfl (tidings_collected hasked status)
    · exact .of_pure fun _ => .lost rfl rfl (tidings_uncollected hasked reason)
    · have ha' : ({ s with child := some c, state := .stopping } : Subject).Awaits c :=
        ⟨rfl, ha.uncollected, rfl, ha.unended⟩
      obtain ⟨_, -, -, hpath, -⟩ := kill_ensures host w₃ grace patience ha'
      refine (kill_sends host grace patience w₃ ha').with_run.mono ?_
      rintro added ⟨ended, s'⟩ w₄ - ⟨⟨hrun, -⟩, hsent⟩ hended
      obtain rfl : ended = true := hended
      rw [hrun] at hpath
      have hpid : s'.pid = some c.pid :=
        (hpath.view_eq fun hs => hs.about_eq.2).trans (pid_eq ha'.child)
      obtain ⟨c', hc', hsame⟩ := Option.map_eq_some_iff.mp hpid
      refine .killed hc' (kill_exit host grace patience hrun) ?_
      simp only [List.append_nil, sentToGroup_append]
      exact .inl (.inl ((hsent .kill c'.pid).mpr ⟨rfl, hsame⟩))
    · exact .of_pure nofun

/-- Termination of some processes keeps what is told of every one of them. -/
theorem terminateAll_told {subjects : List Subject} (w : World σ) (hdistinct : Distinct subjects)
    (haccounted : ∀ s ∈ subjects, s.Accounted journal) (h : ∀ s ∈ subjects, s.Told journal) :
    (terminateAll host grace patience subjects).Ensures w fun added r _ =>
      r.1 = true → ∀ s ∈ r.2, s.Told (added ++ journal) := by
  induction subjects generalizing w journal with
  | nil => exact .of_pure (by simp)
  | cons s rest ih =>
    rw [List.forall_mem_cons] at haccounted h
    have hsplit : Distinct ([] ++ s :: rest) := hdistinct
    have hothers : ∀ x ∈ rest, ∀ p, s.pid = some p → x.pid ≠ some p :=
      fun x hx p hp => hsplit.ne hp hx
    have hrest : Distinct rest := hdistinct.sublist ((List.sublist_cons_self s rest).filterMap pid)
    obtain ⟨_, hjournal, -, hpath, -⟩ := terminate_ensures host w grace patience haccounted.1
    refine (terminate_told host grace patience w haccounted.1 h.1).with_run.seq ?_
    rintro added ⟨ended, s'⟩ w₁ - ⟨⟨hrun, hadded⟩, htold⟩
    cases ended with
    | false => exact .of_pure nofun
    | true =>
      rw [hrun] at hjournal hpath
      obtain rfl := List.append_cancel_right (hadded.symm.trans hjournal)
      have hpid : s'.pid = s.pid := hpath.view_eq fun hs => hs.about_eq.2
      obtain ⟨-, habout⟩ := path_about (·.about_eq) (hpath.oneOf_head [])
      -- what was done to the first process does not bear on the others, and so it is later on
      have hafter : ∀ x ∈ rest, x.Accounted (added ++ journal) ∧ x.Told (added ++ journal) := by
        intro x hx
        refine ⟨(haccounted.2 x hx).append added, (h.2 x hx).append added fun p hp e he => ?_⟩
        refine Entry.tellsOf_eq_false fun hsame => ?_
        have hself : e.about? = s.pid := by simpa using habout e he
        exact hothers x hx p (hself.symm.trans hsame) hp
      obtain ⟨_, hjournal', -, hpath', -⟩ := terminateAll_ensures host w₁ grace patience rest
        fun x hx => (hafter x hx).1
      refine (ih w₁ hrest (fun x hx => (hafter x hx).1) fun x hx => (hafter x hx).2).with_run.seq ?_
      rintro later ⟨ended, rest'⟩ w₂ - ⟨⟨hrun', hlater⟩, htold'⟩
      rw [hrun'] at hjournal' hpath'
      obtain rfl := List.append_cancel_right (hlater.symm.trans hjournal')
      obtain ⟨-, habout'⟩ := path_about (·.about_eq) hpath'
      refine .of_pure fun hended => ?_
      rw [List.nil_append, List.append_assoc, List.forall_mem_cons]
      refine ⟨(htold rfl).append later fun p hp e he => ?_, htold' hended⟩
      refine Entry.tellsOf_eq_false fun hsame => ?_
      have hmem := habout' e he
      rw [hsame, List.mem_map] at hmem
      obtain ⟨x, hx, hxp⟩ := hmem
      exact hothers x hx p (hpid.symm.trans hp) hxp

end Subject

namespace TestCase
open Subject

variable {σ : Type} {host : Host σ} {c : TestCase} {pace : Pace} {specs : List ProcessSpec}
  {launched entries : List Entry} {subjects : List Subject} {setback : Option Setback}

/-- Nothing is told of the exit of a process that was just launched. -/
theorem Launching.told (h : Launching host specs launched subjects setback) {journal : List Entry}
    (hjournal : ∀ e ∈ journal, ∀ pid, e.tellsOf pid = false) :
    ∀ s ∈ subjects, s.Told journal := by
  induction h with
  | done | stalled | fault _ => simp
  | launched h _ ih =>
    rw [List.forall_mem_cons]
    refine ⟨?_, ih⟩
    cases h with
    | started instant stdout stderr pid =>
      refine .waiting (c := { pid }) ⟨rfl, rfl, rfl, rfl⟩ ?_
      rw [tidings, List.filter_eq_nil_iff]
      intro e he
      simp [hjournal e he]
    | unstarted instant stdout stderr fault => exact .unstarted rfl rfl

/-- A process that was just launched holds its number. -/
theorem Launching.held_eq (h : Launching host specs launched subjects setback) :
    ∀ s ∈ subjects, s.held = s.pid := by
  induction h with
  | done | stalled | fault _ => simp
  | launched h _ ih =>
    rw [List.forall_mem_cons]
    exact ⟨by cases h <;> rfl, ih⟩

/-- Processes that are started one after the other get different numbers. -/
theorem Launching.distinct (h : Launching host specs launched subjects setback)
    (hfresh : freshNumbers (launched ++ [.phase .launching, .phase .pending]) = true) :
    Distinct subjects := by
  have hperm := h.outstanding_perm [.phase .launching, .phase .pending]
  rw [List.filterMap_congr h.held_eq] at hperm
  have hnodup := (hperm.nodup_iff).mp (outstanding_nodup hfresh)
  exact (List.nodup_append.mp hnodup).1

theorem Awaited.told (h : Awaited host c entries subjects) (hfresh : freshNumbers entries = true) :
    Distinct subjects ∧ ∀ s ∈ subjects, s.Told entries := by
  obtain @⟨launched, watched, started, _, hlaunch, hpath⟩ := h
  have hdistinct := hlaunch.distinct (freshNumbers_of_cons (freshNumbers_of_append hfresh))
  refine ⟨hdistinct.of_pids (path_about (·.about_eq) hpath).1, ?_⟩
  refine told_of_supervises hdistinct (hlaunch.told ?_) hpath
  intro e he pid
  rw [List.mem_cons, List.mem_append] at he
  obtain rfl | he | he := he
  · rfl
  · exact Entry.tellsOf_of_launches (hlaunch.launches e he)
  · obtain rfl | rfl : e = .phase .launching ∨ e = .phase .pending := by simpa using he
    · rfl
    · rfl

/-- If the system hands out fresh numbers then the journal of a case with an outcome tells of every
process what is recorded of its exit. -/
theorem execute_told {w w' : World σ} {o : Outcome}
    (h : (c.execute host pace).run w = ((.outcome o, subjects), w')) :
    ∃ executed, w'.journal = executed ++ w.journal ∧
      (freshNumbers executed = true → ∀ s ∈ subjects, s.Told executed) := by
  have hphase (phase : Phase) (pid : Pid) : ∀ e ∈ [Entry.phase phase], e.tellsOf pid = false := by
    simp [Entry.tellsOf]
  have hexpired (pid : Pid) : ∀ e ∈ [Entry.expired], e.tellsOf pid = false := by
    simp [Entry.tellsOf]
  obtain ⟨before, running, hawaited, -, hend⟩ := execute_judged host c pace h
  obtain ⟨-, rfl, hjournal⟩ | ⟨-, terminated, w₁, w₂, hexpire, hterminate, hterminated, hjournal⟩ :=
    hend
  · refine ⟨_, hjournal, fun hfresh s hs => ?_⟩
    have htold := (hawaited.told (freshNumbers_of_cons hfresh)).2 s hs
    exact htold.append [_] fun pid _ => hphase _ pid
  · refine ⟨_, hjournal, fun hfresh s hs => ?_⟩
    obtain ⟨hdistinct, htold⟩ := hawaited.told
      (freshNumbers_of_cons (freshNumbers_of_append (freshNumbers_of_cons hfresh)))
    have haccounted : ∀ s ∈ running, s.Accounted (.expired :: before) :=
      fun s hs => (hawaited.accounted s hs).append [.expired]
    have hasked : ∀ s ∈ running, s.Told (.expired :: before) :=
      fun s hs => (htold s hs).append [.expired] fun pid _ => hexpired pid
    obtain ⟨_, hadded, -, hall⟩ :=
      terminateAll_told host pace.grace pace.patience w₁ hdistinct haccounted hasked
    rw [hterminate] at hadded hall
    obtain rfl := List.append_cancel_right (hadded.symm.trans hterminated)
    exact (hall rfl s hs).append [_] fun pid _ => hphase _ pid

end TestCase

/-- A process ended with a status that was collected of it, and it was not killed. -/
def EndedWith (journal : List Entry) (pid : Pid) (status : WaitStatus) : Prop :=
  .collected pid status ∈ journal ∧ ¬ SentToGroup .kill journal pid

namespace Exit
variable {status : WaitStatus}

theorem ofStatus_eq_exited_iff {code : Int} :
    ofStatus status = .exited code ↔ status.low = 0 ∧ status.code = code := by
  unfold ofStatus
  split
  · simp_all
  · split <;> simp_all

theorem ofStatus_eq_signaled_iff {number : Int} :
    ofStatus status = .signaled number ↔ status.low = number ∧ number ≠ 0 ∧ number ≠ 127 := by
  unfold ofStatus
  split
  · simp only [reduceCtorEq, false_iff]
    omega
  · split
    · simp only [reduceCtorEq, false_iff]
      omega
    · simp only [signaled.injEq]
      omega

theorem ofStatus_eq_unknown_iff : ofStatus status = .unknown ↔ status.low = 127 := by
  unfold ofStatus
  split
  · simp only [reduceCtorEq, false_iff]
    omega
  · split <;> simp_all

end Exit

/-- A result whose exit is what was collected of its process, if that process was not killed. -/
structure ProcessResult.Truthful (journal : List Entry) (r : ProcessResult) : Prop where
  exited : ∀ code, r.exit = .exited code ↔ ∃ pid status, r.pid = some pid ∧
    EndedWith journal pid status ∧ status.low = 0 ∧ status.code = code
  signaled : ∀ number, r.exit = .signaled number ↔ ∃ pid status, r.pid = some pid ∧
    EndedWith journal pid status ∧ status.low = number ∧ number ≠ 0 ∧ number ≠ 127
  /-- The process was not started, or it was lost, or killed, or its status says nothing. -/
  unknown : r.exit = .unknown ↔ r.pid = none ∨ ∃ pid, r.pid = some pid ∧
    ((∃ reason, .uncollected pid reason ∈ journal) ∨ SentToGroup .kill journal pid ∨
      ∃ status, EndedWith journal pid status ∧ status.low = 127)

namespace ProcessResult.Truthful
variable {journal : List Entry} {r : ProcessResult} {pid : Pid}

theorem of_status (status : WaitStatus) (hpid : r.pid = some pid) (hexit : r.exit = .ofStatus status)
    (hended : ∀ status', EndedWith journal pid status' ↔ status' = status)
    (hlost : ∀ reason, .uncollected pid reason ∉ journal)
    (hkill : ¬ SentToGroup .kill journal pid) : r.Truthful journal := by
  refine ⟨fun code => ?_, fun number => ?_, ?_⟩
  · rw [hexit, Exit.ofStatus_eq_exited_iff]
    simp [hpid, hended]
  · rw [hexit, Exit.ofStatus_eq_signaled_iff]
    simp [hpid, hended]
  · rw [hexit, Exit.ofStatus_eq_unknown_iff]
    simp [hpid, hended, hlost, hkill]

theorem of_unknown (hpid : r.pid = some pid) (hexit : r.exit = .unknown)
    (hended : ∀ status, ¬ EndedWith journal pid status)
    (hcause : (∃ reason, .uncollected pid reason ∈ journal) ∨ SentToGroup .kill journal pid) :
    r.Truthful journal := by
  refine ⟨fun code => ?_, fun number => ?_, ?_⟩
  · simp [hexit, hpid, hended]
  · simp [hexit, hpid, hended]
  · refine iff_of_true hexit (.inr ⟨pid, hpid, ?_⟩)
    exact hcause.imp id .inl

theorem of_unstarted (hpid : r.pid = none) (hexit : r.exit = .unknown) : r.Truthful journal :=
  ⟨by simp [hexit, hpid], by simp [hexit, hpid], iff_of_true hexit (.inl hpid)⟩

end ProcessResult.Truthful

namespace Subject
variable {journal : List Entry} {s : Subject}

/-- What is told of a process whose exit is recorded makes its result truthful. -/
theorem Told.truthful (h : s.Told journal) (hidle : s.Idle) (stdout stderr : List UInt8) :
    (s.frozen stdout stderr).Truthful journal := by
  cases h with
  | unstarted hc he => exact .of_unstarted (by simp [frozen, pid, hc]) (by simp [frozen, he])
  | waiting ha _ => exact absurd (hidle.idle.symm.trans ha.running) (by decide)
  | @collected c status hc he ht =>
    have hkill : ¬ SentToGroup .kill journal c.pid := by
      rw [sentToGroup_kill_iff, ht]
      simp
    refine .of_status status (pid_eq hc) (by simp [frozen, he]) (fun status' => ?_) (fun reason => ?_) hkill
    · rw [EndedWith, collected_mem_iff, ht]
      simp [hkill]
    · rw [uncollected_mem_iff, ht]
      simp
  | @lost c reason hc he ht =>
    refine .of_unknown (pid_eq hc) (by simp [frozen, he]) (fun status h => ?_) (.inl ⟨reason, ?_⟩)
    · have hcollected := collected_mem_iff.mp h.1
      rw [ht] at hcollected
      simp at hcollected
    · rw [uncollected_mem_iff, ht]
      simp
  | killed hc he hs =>
    exact .of_unknown (pid_eq hc) (by simp [frozen, he]) (fun status h => h.2 hs) (.inr hs)

end Subject

namespace Subject

/-- Letting go of processes that no longer run does not bear on their exits. -/
theorem Discards.tells_nothing {s s' : Subject} {e : Entry} (h : s.Discards e s')
    (hidle : s.isRunning = false) (pid : Pid) : e.tellsOf pid = false := by
  cases h with
  | killGroup _ _ hrunning =>
    rw [hidle] at hrunning
    cases hrunning
  | killAlone _ _ _ => rfl

end Subject

/-- The code in a wait status has eight bits. -/
theorem WaitStatus.code_range (status : WaitStatus) : 0 ≤ status.code ∧ status.code ≤ 255 := by
  simp only [code]
  omega

namespace ProcessSpec

/-- A truthful result of a process of a case, with what the check of its exit makes of it. -/
structure Recorded (spec : ProcessSpec) (journal : List Entry) (result : ProcessResult) : Prop where
  truthful : result.Truthful journal
  unstarted_iff : result.launchError.isSome = true ↔ result.pid = none
  spawned : ∀ pid, result.pid = some pid → .spawned spec.name pid ∈ journal
  /-- An expected code other than zero is met only by a normal exit with that very code. -/
  passes_iff : spec.exitFailure? result = none ↔ spec.exitCode = 0 ∨ ∃ pid status,
    result.pid = some pid ∧ EndedWith journal pid status ∧ status.low = 0 ∧
      status.code = spec.exitCode
  never_passes : spec.exitCode < 0 ∨ 255 < spec.exitCode →
    spec.exitFailure? result ≠ none ∧ (spec.verdict result).passed = false

theorem Recorded.of_truthful {spec : ProcessSpec} {journal : List Entry} {result : ProcessResult}
    (h : result.Truthful journal)
    (hunstarted : result.launchError.isSome = true ↔ result.pid = none)
    (hspawned : ∀ pid, result.pid = some pid → .spawned spec.name pid ∈ journal) :
    spec.Recorded journal result := by
  have hpasses : spec.exitFailure? result = none ↔ spec.exitCode = 0 ∨ ∃ pid status,
      result.pid = some pid ∧ EndedWith journal pid status ∧ status.low = 0 ∧
        status.code = spec.exitCode := by
    rw [exitFailure?_eq_none_iff, Exit.satisfies_iff, h.exited]
  refine ⟨h, hunstarted, hspawned, hpasses, fun hcode => ?_⟩
  have hfails : spec.exitFailure? result ≠ none := by
    intro hnone
    obtain hzero | ⟨pid, status, -, -, -, hsame⟩ := hpasses.mp hnone
    · omega
    · have hrange := status.code_range
      omega
  refine ⟨hfails, Bool.eq_false_iff.mpr fun hpassed => hfails ?_⟩
  have hmet := verdict_passed_iff.mp hpassed
  rw [exitFailure?_eq_none_iff, Exit.satisfies_iff]
  exact hmet.exit

end ProcessSpec

namespace TestCase
open Subject

/-- The result of every process of a case with an outcome records the exit that was collected of
the process, if the process was not killed. This is so whether the process ended before or after
the watchdog had fired. -/
theorem run_records_exits {σ : Type} (host : Host σ) (c : TestCase) (pace : Pace) {w w' : World σ}
    {o : Outcome} {added : List Entry} (hrun : (c.run host pace).run w = (.outcome o, w'))
    (hjournal : w'.journal = added ++ w.journal) (hfresh : freshNumbers added = true) :
    ∀ (place : Nat) (spec : ProcessSpec), c.processes[place]? = some spec → ∃ result,
      o.results[place]? = some result ∧ spec.Recorded added result := by
  obtain ⟨_, hadded, -, executed, dropped, subjects, w₂, hexecute, hexecuted, rfl, hcourse, -,
    hdropped, -⟩ := run_ensures host w c pace
  rw [hrun] at hadded hexecute hcourse
  obtain rfl := List.append_cancel_right (hjournal.symm.trans hadded)
  obtain ⟨_, hexecuted', htold⟩ := execute_told hexecute
  obtain rfl := List.append_cancel_right (hexecuted.symm.trans hexecuted')
  have hquiet (pid : Pid) : ∀ e ∈ dropped, e.tellsOf pid = false := by
    intro e he
    obtain ⟨s, hs, hstep⟩ := (hdropped.exists_part fun h => by cases h <;> rfl).2 e he
    exact hstep.tells_nothing (hcourse.concluded.1 s hs).idle pid
  intro place spec hspec
  obtain ⟨s, stdout, stderr, hs, hidle, hlaunched, hresult⟩ := hcourse.at_place hspec
  have htold := (htold (freshNumbers_of_append hfresh) s (List.mem_of_getElem? hs)).append dropped
    fun pid _ => hquiet pid
  have hlaunched : s.LaunchedAs spec (dropped ++ executed) :=
    hlaunched.of_birth rfl (List.subset_append_right _ _)
  have hunstarted : (s.frozen stdout stderr).launchError.isSome = true ↔
      (s.frozen stdout stderr).pid = none := by
    simpa [frozen] using hlaunched.unstarted_iff
  exact ⟨_, hresult, .of_truthful (htold.truthful hidle stdout stderr) hunstarted hlaunched.spawned⟩

theorem run_records_exits_pack : ∃ o w', (packCase.run packHost earlyPace).run { host := {} } =
      (.outcome o, w') ∧ w'.journal = w'.journal ++ [] ∧ freshNumbers w'.journal = true ∧
    ∀ (place : Nat) (spec : ProcessSpec), packCase.processes[place]? = some spec → ∃ result,
      o.results[place]? = some result ∧ spec.Recorded w'.journal result := by
  obtain ⟨o, hrun, -⟩ := packRun_timedOut
  have hfresh : freshNumbers packRun.2.journal = true := by decide +kernel
  have hjournal : packRun.2.journal = packRun.2.journal ++ [] := (List.append_nil _).symm
  exact ⟨o, packRun.2, hrun, hjournal, hfresh,
    run_records_exits packHost packCase earlyPace hrun hjournal hfresh⟩

end TestCase
end Proctor
