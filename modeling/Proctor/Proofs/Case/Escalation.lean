import Proctor.Proofs.Case.Delivery

/-!
# When a group is killed

A case that has timed out asks the group of every process that still runs to terminate. Then it
waits for the process that leads the group, and for nobody else in it: the group is killed exactly
when its leader has not exited at the end of the grace period. A member that ignores the request is
left behind by a leader that honours it.
-/
namespace Proctor

/-- Whether an entry is about a signal to a whole group. -/
def Entry.toGroup : Entry → Bool
  | .sent (.group _) .. => true
  | _ => false

/-- A signal was sent to the group that a process leads. -/
def SentToGroup (signal : Signal) (journal : List Entry) (pid : Pid) : Prop :=
  ∃ t d, .sent (.group pid) signal t d ∈ journal

section Groups
variable {signal : Signal} {pid : Pid}

@[simp] theorem sentToGroup_append {later earlier : List Entry} :
    SentToGroup signal (later ++ earlier) pid ↔
      SentToGroup signal later pid ∨ SentToGroup signal earlier pid := by
  simp only [SentToGroup, List.mem_append, exists_or]

theorem not_sentToGroup {journal : List Entry} (h : ∀ e ∈ journal, e.toGroup = false) :
    ¬ SentToGroup signal journal pid := by
  rintro ⟨t, d, hmem⟩
  cases h _ hmem

theorem sentToGroup_cons {e : Entry} {earlier : List Entry} (h : e.toGroup = false) :
    SentToGroup signal (e :: earlier) pid ↔ SentToGroup signal earlier pid := by
  have hfirst : ¬ SentToGroup signal [e] pid := not_sentToGroup (by simpa using h)
  rw [← List.singleton_append, sentToGroup_append]
  simp only [hfirst, false_or]

theorem Entry.toGroup_of_launches {e : Entry} (h : e.launches = true) : e.toGroup = false := by
  cases e with
  | sent _ _ _ _ => cases h
  | _ => rfl

end Groups

namespace Subject

theorem Supervises.toGroup_eq {s s' : Subject} {e : Entry} (h : s.Supervises e s') :
    e.toGroup = false := by
  cases h <;> rfl

/-- Only the groups of processes that still run are signalled when a case lets go of them. -/
theorem Discards.toGroup_eq {s s' : Subject} {e : Entry} (h : s.Discards e s')
    (hidle : s.isRunning = false) : e.toGroup = false := by
  cases h with
  | killGroup _ _ hrunning =>
    rw [hidle] at hrunning
    cases hrunning
  | killAlone _ _ _ => rfl

/-- A signal to a group is sent to that group and to no other. -/
theorem Signalled.sentToGroup_iff {pid pid' : Pid} {signal signal' : Signal} {added : List Entry}
    (h : Signalled pid signal added) :
    SentToGroup signal' added pid' ↔ signal' = signal ∧ pid' = pid := by
  cases h <;> simp [SentToGroup, and_comm]

/-- What comes of waiting for a child is no signal. -/
theorem WaitedFor.toGroup_eq {c : Child} {added : List Entry} {r : Waited × Child}
    (h : WaitedFor c added r) : ∀ e ∈ added, e.toGroup = false := by
  cases h <;> simp [Entry.toGroup]

variable {σ : Type} (host : Host σ) (grace : Duration) (patience : Nat)
  {s : Subject} {c : Child}

/-- Whether a child that is asked to terminate in some world, together with its group, has not
exited when its grace period is over. -/
def Child.Outlives (c : Child) (w : World σ) : Prop :=
  let asked := (do signalGroup host c.pid .terminate; Run.now host).run w
  ((waitChild host (asked.1.deadline grace) patience c).run asked.2).1.1 = .timedOut

/-- A child is killed alone. -/
theorem Child.kill_toGroup (c : Child) (w : World σ) :
    (Child.kill host c).Ensures w fun added c' _ =>
      c'.status = c.status ∧ ∀ e ∈ added, e.toGroup = false := by
  unfold Child.kill
  split
  · exact .of_pure ⟨rfl, by simp⟩
  · refine (Run.send_ensures host w _ _).seq ?_
    rintro _ d w₁ - ⟨t, -, rfl⟩
    split <;> exact .of_pure ⟨rfl, by simp [Entry.toGroup]⟩

/-- Killing sends nothing to any group but the signal that kills the group of the child. -/
theorem kill_sends (w : World σ) (h : s.Awaits c) :
    (s.kill host grace patience).Ensures w fun added _ _ => ∀ signal pid,
      SentToGroup signal added pid ↔ signal = .kill ∧ pid = c.pid := by
  simp only [kill, h.child]
  refine (signalGroup_ensures host w _ _).seq ?_
  rintro signals _ w₁ - hsignals
  refine (Child.kill_toGroup host c w₁).seq ?_
  rintro shot c' w₂ - ⟨hstatus, hshot⟩
  refine (Run.now_ensures host w₂).seq ?_
  rintro _ t w₃ - ⟨rfl, -⟩
  have hsent (waited : List Entry) (hwaited : ∀ e ∈ waited, e.toGroup = false) (signal : Signal)
      (pid : Pid) : SentToGroup signal (waited ++ shot ++ signals) pid ↔
        signal = .kill ∧ pid = c.pid := by
    simp only [sentToGroup_append, not_sentToGroup hwaited, not_sentToGroup hshot, false_or,
      hsignals.sentToGroup_iff]
  refine (waitChild_ensures host w₃ _ _ (hstatus.trans h.uncollected)).seq ?_
  rintro waited ⟨r, c''⟩ w₄ - hwaited
  have hquiet := hwaited.toGroup_eq
  cases r with
  | exited _ => exact .of_pure (by simpa using hsent waited hquiet)
  | timedOut =>
    refine .note_seq fun _ _ => .of_pure ?_
    have hlast : ∀ e ∈ .survived c''.pid :: waited, e.toGroup = false :=
      List.forall_mem_cons.mpr ⟨rfl, hquiet⟩
    simpa using hsent _ hlast
  | stalled => exact .of_pure (by simpa using hsent waited hquiet)

/-- The group of a process that still runs is asked to terminate, and is killed if the process
outlives its grace period. -/
theorem Awaits.terminate_sends (w : World σ) (h : s.Awaits c) :
    (s.terminate host grace patience).Ensures w fun added _ _ => ∀ signal pid,
      SentToGroup signal added pid ↔ pid = c.pid ∧
        (signal = .terminate ∨ signal = .kill ∧ Child.Outlives host grace patience c w) := by
  simp only [terminate, h.child, h.running]
  refine (signalGroup_ensures host w _ _).with_run.seq ?_
  rintro signals _ w₁ - ⟨⟨hsignal, -⟩, hsignals⟩
  have h' : ({ s with child := some c, state := .stopping } : Subject).Awaits c :=
    ⟨rfl, h.uncollected, rfl, h.unended⟩
  refine (Run.now_ensures host w₁).with_run.seq ?_
  rintro _ t w₂ - ⟨⟨hnow, -⟩, rfl, -⟩
  refine (waitChild_ensures host w₂ _ _ h.uncollected).with_run.seq ?_
  rintro waited ⟨r, c'⟩ w₃ - ⟨⟨hwait, -⟩, hwaited⟩
  have houtlives : Child.Outlives host grace patience c w ↔ r = .timedOut := by
    have hasked : (do signalGroup host c.pid .terminate; Run.now host).run w = (t, w₂) := by
      rw [StateT.run_bind]
      change (Run.now host).run ((signalGroup host c.pid .terminate).run w).2 = _
      rw [hsignal, hnow]
    rw [Child.Outlives, hasked, hwait]
  have hasked (signal : Signal) (pid : Pid) : SentToGroup signal (waited ++ signals) pid ↔
      signal = .terminate ∧ pid = c.pid := by
    simp only [sentToGroup_append, not_sentToGroup hwaited.toGroup_eq, false_or,
      hsignals.sentToGroup_iff]
  cases r with
  | exited _ | stalled =>
    refine .of_pure fun signal pid => ?_
    simp [hasked, houtlives, and_comm]
  | timedOut =>
    have hc : c' = c := by cases hwaited; rfl
    subst hc
    refine (kill_sends host grace patience w₃ h').mono ?_
    rintro added _ _ - hkill signal pid
    simp only [List.append_nil, List.append_assoc]
    rw [sentToGroup_append, hkill, hasked, houtlives]
    simp only [and_true]
    tauto

/-- Nothing is sent to the group of a process that no longer runs. -/
theorem Accounted.terminate_sends {journal : List Entry} (w : World σ) (h : s.Accounted journal) :
    (s.terminate host grace patience).Ensures w fun added _ _ => ∀ signal pid,
      SentToGroup signal added pid ↔ ∃ c, s.Awaits c ∧ c.pid = pid ∧
        (signal = .terminate ∨ signal = .kill ∧ Child.Outlives host grace patience c w) := by
  cases hrunning : s.isRunning with
  | true =>
    obtain ⟨c, ha⟩ := h.awaits hrunning
    refine (ha.terminate_sends host grace patience w).mono ?_
    rintro added _ _ - hsent signal pid
    rw [hsent]
    constructor
    · rintro ⟨rfl, hsignal⟩
      exact ⟨c, ha, rfl, hsignal⟩
    · rintro ⟨c', ha', rfl, hsignal⟩
      obtain rfl := ha.unique ha'.child
      exact ⟨rfl, hsignal⟩
  | false =>
    have hnone : s.terminate host grace patience = pure (true, s) := by
      rw [terminate, hrunning]
      cases s.child <;> rfl
    rw [hnone]
    refine .of_pure fun signal pid => iff_of_false (by simp [SentToGroup]) ?_
    rintro ⟨c, ha, -⟩
    exact absurd (hrunning.symm.trans ha.running) (by decide)

theorem terminateAll_cons (s : Subject) (rest : List Subject) (w : World σ) :
    (terminateAll host grace patience (s :: rest)).run w =
      let first := (s.terminate host grace patience).run w
      if first.1.1 then
        let others := (terminateAll host grace patience rest).run first.2
        ((others.1.1, first.1.2 :: others.1.2), others.2)
      else ((false, first.1.2 :: rest), first.2) := by
  rw [terminateAll, StateT.run_bind]
  change (if ((s.terminate host grace patience).run w).1.1 then do
      let others ← terminateAll host grace patience rest
      pure (others.1, ((s.terminate host grace patience).run w).1.2 :: others.2)
    else (pure (false, ((s.terminate host grace patience).run w).1.2 :: rest) : Run σ _)).run
      ((s.terminate host grace patience).run w).2 = _
  dsimp only
  split <;> rfl

/-- The world in which the subject at some place is terminated, when those before it were. -/
def terminatedAt (subjects : List Subject) (w : World σ) (place : Nat) : World σ :=
  ((terminateAll host grace patience (subjects.take place)).run w).2

/-- Among some subjects there is one at some place that leads a group, and outlives the grace period
when it is terminated after those before it. -/
def Outlived (subjects : List Subject) (w : World σ) (pid : Pid) : Prop :=
  ∃ place s c, subjects[place]? = some s ∧ s.Awaits c ∧ c.pid = pid ∧
    Child.Outlives host grace patience c (terminatedAt host grace patience subjects w place)

theorem outlived_cons {s : Subject} {rest : List Subject} {w : World σ} {pid : Pid}
    (hended : ((s.terminate host grace patience).run w).1.1 = true) :
    Outlived host grace patience (s :: rest) w pid ↔
      (∃ c, s.Awaits c ∧ c.pid = pid ∧ Child.Outlives host grace patience c w) ∨
        Outlived host grace patience rest ((s.terminate host grace patience).run w).2 pid := by
  have hlater (place : Nat) : terminatedAt host grace patience (s :: rest) w (place + 1) =
      terminatedAt host grace patience rest ((s.terminate host grace patience).run w).2 place := by
    simp only [terminatedAt, List.take_succ_cons, terminateAll_cons, hended, if_true]
  constructor
  · rintro ⟨place, s', c, hs', ha, hpid, houtlives⟩
    cases place with
    | zero =>
      obtain rfl := Option.some.inj hs'
      exact .inl ⟨c, ha, hpid, houtlives⟩
    | succ place =>
      rw [hlater] at houtlives
      exact .inr ⟨place, s', c, hs', ha, hpid, houtlives⟩
  · rintro (⟨c, ha, hpid, houtlives⟩ | ⟨place, s', c, hs', ha, hpid, houtlives⟩)
    · exact ⟨0, s, c, rfl, ha, hpid, houtlives⟩
    · refine ⟨place + 1, s', c, hs', ha, hpid, ?_⟩
      rwa [hlater]

/-- When some subjects are terminated the group of each one that still runs is asked to terminate,
and the groups are killed whose leaders outlive their grace periods. -/
theorem terminateAll_sends (subjects : List Subject) {journal : List Entry} (w : World σ)
    (haccounted : ∀ s ∈ subjects, s.Accounted journal) :
    (terminateAll host grace patience subjects).Ensures w fun added r _ => r.1 = true →
      (∀ pid, SentToGroup .terminate added pid ↔ ∃ s ∈ subjects, ∃ c, s.Awaits c ∧ c.pid = pid) ∧
      ∀ pid, SentToGroup .kill added pid ↔ Outlived host grace patience subjects w pid := by
  induction subjects generalizing w with
  | nil => exact .of_pure fun _ => ⟨by simp [SentToGroup], by simp [SentToGroup, Outlived]⟩
  | cons s rest ih =>
    rw [List.forall_mem_cons] at haccounted
    refine (haccounted.1.terminate_sends host grace patience w).with_run.seq ?_
    rintro first ⟨ended, s'⟩ w₁ - ⟨⟨hrun, -⟩, hfirst⟩
    cases ended with
    | false => exact .of_pure nofun
    | true =>
      refine (ih w₁ haccounted.2).seq ?_
      rintro later ⟨ended, rest'⟩ w₂ - hlater
      refine .of_pure fun hended => ?_
      obtain ⟨hasked, hkilled⟩ := hlater hended
      refine ⟨fun pid => ?_, fun pid => ?_⟩
      · simp only [List.nil_append, sentToGroup_append, hasked, hfirst, List.exists_mem_cons_iff]
        simp [or_comm]
      · rw [outlived_cons host grace patience (by rw [hrun]), hrun]
        have hkill : Signal.kill ≠ .terminate := by decide
        simp only [List.nil_append, sentToGroup_append, hkilled, hfirst, hkill, false_or, true_and]
        exact or_comm

end Subject

namespace TestCase
open Subject

variable {σ : Type} (host : Host σ) (c : TestCase) (pace : Pace)

section Awaits
variable {host c} {entries : List Entry} {subjects : List Subject}

/-- No process escapes while a case waits. -/
theorem Awaited.accounted (h : Awaited host c entries subjects) :
    ∀ s ∈ subjects, s.Accounted entries := by
  obtain ⟨hlaunch, hpath⟩ := h
  refine hpath.forall_mem (fun h => h.append [_]) (fun h hs => hs.accounted h) fun s hs => ?_
  refine (hlaunch.accounted s hs).mono fun e he => ?_
  exact List.mem_cons_of_mem _ (List.mem_append_left _ he)

/-- Nothing is sent to any group while a case waits. -/
theorem Awaited.quiet (h : Awaited host c entries subjects) : ∀ e ∈ entries, e.toGroup = false := by
  obtain ⟨hlaunch, hpath⟩ := h
  have hphase (phase : Phase) : (Entry.phase phase).toGroup = false := rfl
  simp only [List.forall_mem_append, List.forall_mem_cons, hphase, List.not_mem_nil,
    false_implies, implies_true, and_true, true_and]
  exact ⟨hpath.forall_entry (·.toGroup_eq),
    fun e he => Entry.toGroup_of_launches (hlaunch.launches e he)⟩

end Awaits

/-- The course of a case up to the end of its wait. -/
theorem Begins.awaited {w w₁ : World σ} {first : Round σ} {ending : Ending}
    {running : List Subject} (h : Begins host c pace w first)
    (hawait : (await host first.watchdog pace.patience first.supervised).run first.world =
      ((ending, running), w₁)) :
    ∃ before, w₁.journal = before ++ w.journal ∧ Awaited host c before running := by
  obtain ⟨hfits, launched, started, hlaunching, hsupervised, hlaunched⟩ := h.launching
  obtain ⟨watched, hwatched, -, hpath, -⟩ :=
    await_ensures host first.world first.watchdog pace.patience first.supervised hfits
  rw [hawait] at hwatched hpath
  rw [hsupervised, List.map_map, Function.comp_def, List.map_id'] at hpath
  refine ⟨_, ?_, .mk hlaunching hpath⟩
  rw [hwatched, hlaunched]
  simp only [List.append_assoc, List.cons_append, List.nil_append]

/-- A case with an outcome was judged when its wait had completed, or else after the processes that
still ran when the watchdog had fired were terminated. -/
theorem execute_judged {w w' : World σ} {o : Outcome} {subjects : List Subject}
    (h : (c.execute host pace).run w = ((.outcome o, subjects), w')) :
    ∃ before running, Awaited host c before running ∧ Judged c o.phase subjects (.outcome o) ∧
      (o.phase = .completed ∧ running = subjects ∧
          w'.journal = .phase .completed :: before ++ w.journal ∨
        o.phase = .timedOut ∧ ∃ terminated w₁ w₂,
          w₁.journal = .expired :: before ++ w.journal ∧
          (terminateAll host pace.grace pace.patience running).run w₁ = ((true, subjects), w₂) ∧
          w₂.journal = terminated ++ w₁.journal ∧
          w'.journal = .phase .timedOut :: (terminated ++ .expired :: before) ++ w.journal) := by
  obtain ⟨first, ending, running, w₁, hbegins, hawait, hend⟩ := execute_outcome host c pace h
  obtain ⟨before, hwaited, hawaited⟩ := hbegins.awaited host c pace hawait
  -- the judgement adds its phase and nothing else
  have hjudged {phase : Phase} {w₂ : World σ}
      (hjudge : (c.judge host phase subjects).run w₂ = (.outcome o, w')) :
      o.phase = phase ∧ w'.journal = .phase phase :: w₂.journal ∧
        Judged c o.phase subjects (.outcome o) := by
    obtain ⟨_, hjournal, -, rfl, hjudged⟩ := judge_ensures host w₂ c phase subjects
    rw [hjudge] at hjournal hjudged
    have hphase := hjudged.phase_eq
    exact ⟨hphase, hjournal, hphase ▸ hjudged⟩
  refine ⟨before, running, hawaited, ?_⟩
  obtain ⟨-, rfl, hjudge⟩ | ⟨-, w₂, hterminate, hjudge⟩ := hend
  · obtain ⟨hphase, hjournal, hjudged⟩ := hjudged hjudge
    refine ⟨hjudged, .inl ⟨hphase, rfl, ?_⟩⟩
    rw [hjournal, hwaited]
    rfl
  · obtain ⟨hphase, hjournal, hjudged⟩ := hjudged hjudge
    obtain ⟨terminated, hterminated, -⟩ := terminateAll_ensures host
      { w₁ with journal := .expired :: w₁.journal } pace.grace pace.patience running
      hawaited.accounted
    rw [hterminate] at hterminated
    refine ⟨hjudged, .inr ⟨hphase, terminated, _, w₂, ?_, hterminate, hterminated, ?_⟩⟩
    · rw [hwaited]
      rfl
    · rw [hjournal, hterminated, hwaited]
      simp only [List.append_assoc, List.cons_append]

/-- Until a case waits nothing is sent to any group, and no process escapes. -/
theorem Begins.await_quiet {w w₁ : World σ} {first : Round σ} {ending : Ending}
    {running : List Subject} (h : Begins host c pace w first)
    (hawait : (await host first.watchdog pace.patience first.supervised).run first.world =
      ((ending, running), w₁)) :
    ∃ before, w₁.journal = before ++ w.journal ∧ (∀ e ∈ before, e.toGroup = false) ∧
      ∀ s ∈ running, s.Accounted before := by
  obtain ⟨before, hjournal, hawaited⟩ := h.awaited host c pace hawait
  exact ⟨before, hjournal, hawaited.quiet, hawaited.accounted⟩

/-- If a case has timed out then every process was asked to terminate with its group whose exit had
not been collected when the watchdog decided the last round of the wait. The group of such a process
was killed if and only if the process had not exited at the end of its grace period, whatever else
was in the group. -/
theorem run_kills_iff {w w' : World σ} {o : Outcome}
    (hrun : (c.run host pace).run w = (.outcome o, w')) (hphase : o.phase = .timedOut) :
    ∃ added first last running w₁, w'.journal = added ++ w.journal ∧ Begins host c pace w first ∧
      first.Visits host last ∧ last.Ends host .timedOut running w₁ ∧
      (∀ pid, SentToGroup .terminate added pid ↔
        ∃ s ∈ running, ∃ child, s.Awaits child ∧ child.pid = pid) ∧
      ∀ pid, SentToGroup .kill added pid ↔
        Outlived host pace.grace pace.patience running
          { w₁ with journal := .expired :: w₁.journal } pid := by
  obtain ⟨_, hjournal, -, executed, dropped, subjects, w₂, hexecute, hexecuted, rfl, hcourse, -,
    hdropped, -⟩ := run_ensures host w c pace
  rw [hrun] at hjournal hexecute hcourse
  obtain ⟨first, ending, running, w₁, hbegins, hawait, hend⟩ := execute_outcome host c pace hexecute
  obtain ⟨-, -, hjudge⟩ | ⟨rfl, w₃, hterminate, hjudge⟩ := hend
  · rw [judge_phase host c hjudge] at hphase
    cases hphase
  obtain ⟨last, hvisits, hends⟩ := first.await_ends host hawait nofun
  obtain ⟨before, hwaited, hquiet, haccounted⟩ := hbegins.await_quiet host c pace hawait
  obtain ⟨terminated, hterminated, -, hsends⟩ := terminateAll_sends host pace.grace pace.patience
    running { w₁ with journal := .expired :: w₁.journal } haccounted
  obtain ⟨_, hjudged, -, rfl, -⟩ := judge_ensures host w₃ c .timedOut subjects
  rw [hterminate] at hterminated hsends
  rw [hjudge] at hjudged
  have hall : executed = .phase .timedOut :: (terminated ++ .expired :: before) := by
    rw [← List.append_left_inj w.journal, ← hexecuted, hjudged, hterminated, hwaited]
    simp only [List.append_assoc, List.cons_append, List.nil_append]
  have hdiscarded : ∀ e ∈ dropped, e.toGroup = false := by
    intro e he
    obtain ⟨s, hs, hstep⟩ := (hdropped.exists_part fun h => by cases h <;> rfl).2 e he
    exact hstep.toGroup_eq (hcourse.concluded.1 s hs).idle
  -- what is sent to a group is sent by the termination
  have hsent (signal : Signal) (pid : Pid) : SentToGroup signal (dropped ++ executed) pid ↔
      SentToGroup signal terminated pid := by
    rw [hall, sentToGroup_append, sentToGroup_cons rfl, sentToGroup_append, sentToGroup_cons rfl]
    simp only [not_sentToGroup hdiscarded, not_sentToGroup hquiet, false_or, or_false]
  obtain ⟨hasked, hkilled⟩ := hsends rfl
  refine ⟨_, first, last, running, w₁, hjournal, hbegins, hvisits, hends, fun pid => ?_,
    fun pid => ?_⟩
  · rw [hsent, hasked]
  · rw [hsent, hkilled]

/-- A clock, and whether a process and one more member of its group are alive. -/
structure Pack where
  clock : Nat := 0
  leader : Bool := false
  member : Bool := false

/-- A host on which every process has one more member in its group. The leader exits when its group
is asked to terminate. The member ignores that, and exits only when its group is killed. -/
def packHost : Host Pack where
  now := fun pack => (⟨pack.clock⟩, pack)
  openSink := fun pack => (.ok ⟨0⟩, pack)
  shareSink := fun _ pack => (.ok (), pack)
  drain := fun _ pack => (.ok [], pack)
  spawn := fun _ pack => (.ok 1, { pack with leader := true, member := true })
  collect := fun _ pack => (if pack.leader then .pending else .ended (.ofSignal 15), pack)
  send := fun recipient signal pack =>
    match recipient with
    | .group _ =>
      (.accepted, { pack with leader := false, member := pack.member && signal ≠ .kill })
    | .process _ => (.accepted, { pack with leader := false })
  abandon := fun _ pack => pack
  coin := fun pack => (false, pack)
  rest := fun limit pack =>
    { pack with clock := (limit.map fun t => t.tick * Instant.perMillisecond).getD pack.clock }

/-- A case of one process, which has to be done after five milliseconds. -/
def packCase : TestCase where
  name := "pack"
  allowTimeout := false
  processes := [{ (default : ProcessSpec) with name := "leader", timeout := .ofMilliseconds 5 }]

/-- The run of that case on that host. -/
def packRun : CaseEnd × World Pack := (packCase.run packHost earlyPace).run { host := {} }

/-- The case times out. -/
theorem packRun_timedOut : ∃ o, packRun = (.outcome o, packRun.2) ∧ o.phase = .timedOut := by
  have h : packRun.1.outcome?.map (·.phase) = some .timedOut := by decide +kernel
  exact CaseEnd.exists_outcome h

/-- A case that times out leaves a member of a group behind that ignores the request to terminate.
The member is alive at the end of the run, and that request is the only signal of the run. -/
theorem member_left_behind : ∃ o w',
    (packCase.run packHost earlyPace).run { host := {} } = (.outcome o, w') ∧
      o.phase = .timedOut ∧ w'.host.member = true ∧
      (∀ pack, (packHost.send (.group 1) .terminate pack).2.member = pack.member) ∧
      w'.journal.filter Entry.signals =
        [.sent (.group 1) .terminate ⟨17000000⟩ .accepted] := by
  obtain ⟨o, hrun, hphase⟩ := packRun_timedOut
  refine ⟨o, packRun.2, hrun, hphase, by decide +kernel, fun pack => ?_, by decide +kernel⟩
  exact Bool.and_true pack.member

theorem run_kills_iff_pack : ∃ o w',
    (packCase.run packHost earlyPace).run { host := {} } = (.outcome o, w') ∧
      o.phase = .timedOut ∧ ∃ added first last running w₁, w'.journal = added ++ [] ∧
        Begins packHost packCase earlyPace { host := {} } first ∧ first.Visits packHost last ∧
        last.Ends packHost .timedOut running w₁ ∧
        (∀ pid, SentToGroup .terminate added pid ↔
          ∃ s ∈ running, ∃ child, s.Awaits child ∧ child.pid = pid) ∧
        ∀ pid, SentToGroup .kill added pid ↔
          Outlived packHost earlyPace.grace earlyPace.patience running
            { w₁ with journal := .expired :: w₁.journal } pid := by
  obtain ⟨o, hrun, hphase⟩ := packRun_timedOut
  exact ⟨o, packRun.2, hrun, hphase, run_kills_iff packHost packCase earlyPace hrun hphase⟩

end TestCase
end Proctor
