import Proctor.Proofs.Process.Supervision

/-!
# Termination settles a process

A subject that is accounted for was never started, or is still waited for, or is settled: its
exit was collected or lost, or its group was killed. Supervision keeps every subject accounted
for, termination settles it unless a wait stalls, and whoever lets go of it settles it in any
case.
-/
namespace Proctor

/-- The group that a process leads was killed. If the group could not be signalled the process
itself was. -/
def Killed (journal : List Entry) (pid : Pid) : Prop :=
  ∃ t d, .sent (.group pid) .kill t d ∈ journal ∧
    (d = .accepted ∨ ∃ t' d', .sent (.process pid) .kill t' d' ∈ journal)

/-- Nothing more has to be done about a process: its exit was collected, or asking for it failed,
or it was killed with its group. -/
def Settled (journal : List Entry) (pid : Pid) : Prop :=
  (∃ status, .collected pid status ∈ journal) ∨ (∃ reason, .uncollected pid reason ∈ journal) ∨
    Killed journal pid

section Growth
variable {journal journal' : List Entry} {pid : Pid}

theorem Killed.mono (h : Killed journal pid) (hs : journal ⊆ journal') : Killed journal' pid := by
  obtain ⟨t, d, hg, hp⟩ := h
  exact ⟨t, d, hs hg, hp.imp id fun ⟨t', d', h'⟩ => ⟨t', d', hs h'⟩⟩

theorem Settled.mono (h : Settled journal pid) (hs : journal ⊆ journal') :
    Settled journal' pid := by
  obtain ⟨status, h⟩ | ⟨reason, h⟩ | h := h
  · exact .inl ⟨status, hs h⟩
  · exact .inr (.inl ⟨reason, hs h⟩)
  · exact .inr (.inr (h.mono hs))

end Growth

namespace Subject

/-- A subject that nothing more is to be done about. -/
structure Idle (s : Subject) : Prop where
  idle : s.isRunning = false
  recorded : s.exit.isSome = true

/-- A subject that does not escape: what it is, and what the journal says of its child. -/
inductive Accounted (journal : List Entry) (s : Subject) : Prop
  | unstarted (child : s.child = none) (h : s.Idle)
  | waiting {c : Child} (h : s.Awaits c) (guard : c.guarded = true ∨ Killed journal c.pid)
  | settled {c : Child} (child : s.child = some c) (h : s.Idle) (settled : Settled journal c.pid)

variable {s s' : Subject} {c : Child} {e : Entry} {journal : List Entry}

theorem Awaits.unique {c' : Child} (h : s.Awaits c) (h' : s.child = some c') : c' = c :=
  Option.some.inj (h'.symm.trans h.child)

/-- A subject stays accounted for while the journal grows. -/
theorem Accounted.mono {journal' : List Entry} (h : s.Accounted journal)
    (hs : journal ⊆ journal') : s.Accounted journal' := by
  cases h with
  | unstarted hc h => exact .unstarted hc h
  | waiting h hg => exact .waiting h (hg.imp id (·.mono hs))
  | settled hc h hd => exact .settled hc h (hd.mono hs)

theorem Accounted.append (h : s.Accounted journal) (later : List Entry) :
    s.Accounted (later ++ journal) :=
  h.mono (List.subset_append_right later journal)

/-- The child of an accounted subject is guarded while it is waited for, or was killed. -/
theorem Accounted.guard (h : s.Accounted journal) (ha : s.Awaits c) :
    c.guarded = true ∨ Killed journal c.pid := by
  cases h with
  | unstarted hc _ => rw [ha.child] at hc; cases hc
  | waiting h hg => rwa [ha.unique h.child] at hg
  | settled _ h _ => exact absurd (h.idle.symm.trans ha.running) (by decide)

theorem Accounted.awaits (h : s.Accounted journal) (hr : s.isRunning = true) :
    ∃ c, s.Awaits c := by
  cases h with
  | unstarted _ h => exact absurd (h.idle.symm.trans hr) (by decide)
  | waiting h _ => exact ⟨_, h⟩
  | settled _ h _ => exact absurd (h.idle.symm.trans hr) (by decide)

/-- A subject whose exit was not recorded is still waited for. -/
theorem Accounted.awaits_of_unended (h : s.Accounted journal) (he : s.exit = none) :
    ∃ c, s.Awaits c := by
  cases h with
  | waiting h _ => exact ⟨_, h⟩
  | unstarted _ h | settled _ h _ =>
    have hrecorded := h.recorded
    rw [he] at hrecorded
    cases hrecorded

theorem Accounted.idle_of_recorded (h : s.Accounted journal) (he : s.exit.isSome = true) :
    s.Idle := by
  cases h with
  | unstarted _ h => exact h
  | waiting h _ => rw [h.unended] at he; cases he
  | settled _ h _ => exact h

theorem ended_idle (outcome : Except String WaitStatus) : (s.ended c outcome).Idle :=
  ⟨by cases outcome <;> rfl, ended_exit_isSome outcome⟩

/-- Supervision keeps a subject accounted for. -/
theorem Supervises.accounted (h : s.Accounted journal) (hs : s.Supervises e s') :
    s'.Accounted (e :: journal) := by
  cases hs with
  | inject ha _ _ _ =>
    exact .waiting (ha.with_report _) ((h.guard ha).imp id (·.mono (List.subset_cons_self _ _)))
  | @collect c status ha =>
    exact .settled (c := { c with status := some status }) rfl (ended_idle _)
      (.inl ⟨status, List.mem_cons_self⟩)
  | @lose c reason ha =>
    exact .settled (c := c) rfl (ended_idle _) (.inr (.inl ⟨reason, List.mem_cons_self⟩))

variable {σ : Type} (host : Host σ) (w : World σ)

/-- How waiting for a child ends. -/
inductive WaitedFor (c : Child) : List Entry → Waited × Child → Prop
  | exited (status : WaitStatus) :
      WaitedFor c [.collected c.pid status] (.exited (.ok status), { c with status := some status })
  | failed (reason : String) :
      WaitedFor c [.uncollected c.pid reason] (.exited (.error reason), c)
  | timedOut : WaitedFor c [] (.timedOut, c)
  | stalled : WaitedFor c [] (.stalled, c)

theorem waitChild_ensures (limit : Instant) (patience : Nat) (h : c.status = none) :
    (waitChild host limit patience c).Ensures w fun added r _ => WaitedFor c added r := by
  induction patience generalizing w with
  | zero => exact .of_pure .stalled
  | succ patience ih =>
    refine (Child.exit?_ensures host w h).seq ?_
    rintro _ _ w₁ - (_ | status | reason)
    · refine (Run.now_ensures host w₁).seq ?_
      rintro _ t w₂ - ⟨rfl, -⟩
      split
      · exact .of_pure .timedOut
      · refine (Run.rest_ensures host w₂ _).seq ?_
        rintro _ _ w₃ - rfl
        simpa using ih w₃
    · exact .of_pure (.exited status)
    · exact .of_pure (.failed reason)

/-- The entries of a signal to a group, and to its leader if the group could not be signalled. -/
inductive Signalled (pid : Pid) (signal : Signal) : List Entry → Prop
  | group (t : Instant) : Signalled pid signal [.sent (.group pid) signal t .accepted]
  | alone (t t' : Instant) (d d' : Delivery) :
      Signalled pid signal [.sent (.process pid) signal t' d', .sent (.group pid) signal t d]

theorem signalGroup_ensures (pid : Pid) (signal : Signal) :
    (signalGroup host pid signal).Ensures w fun added _ _ => Signalled pid signal added := by
  refine (Run.send_ensures host w _ _).seq ?_
  rintro _ d w₁ - ⟨t, -, rfl⟩
  split
  · exact .of_pure (.group t)
  · refine (Run.send_ensures host w₁ _ _).seq ?_
    rintro _ d' w₂ - ⟨t', -, rfl⟩
    exact .of_pure (.alone t t' d d')

theorem Signalled.killed {pid : Pid} {added : List Entry} (h : Signalled pid .kill added) :
    Killed added pid := by
  cases h with
  | group t => exact ⟨t, _, List.mem_cons_self, .inl rfl⟩
  | alone t t' d d' => exact ⟨t, d, by simp, .inr ⟨t', d', by simp⟩⟩

/-- Killing a group takes steps that leave the subject as it is. -/
theorem Signalled.kill_path {added : List Entry} (h : s.Awaits c)
    (hs : Signalled c.pid .kill added) : Path Terminates s added s := by
  cases hs with
  | group t => exact .single (.killGroup h)
  | alone t t' d d' =>
    have hself : { s with child := some { c with guarded := c.guarded } } = s := with_child h.child
    refine .snoc (.single (.killGroup h)) ?_
    have hstep := Terminates.killAlone (t := t') (d := d') h c.guarded
    rwa [hself] at hstep

/-- Asking a group to terminate takes steps to a subject that is stopping. -/
theorem Signalled.terminate_path {added : List Entry} (h : s.Awaits c)
    (hs : Signalled c.pid .terminate added) :
    Path Terminates s added { s with state := .stopping } := by
  cases hs with
  | group t => exact .single (.ask h)
  | alone t t' d d' =>
    exact .snoc (.single (.ask h)) (.askAlone ⟨h.child, h.uncollected, rfl, h.unended⟩)

/-- A child that was killed, unless that was refused, is not killed once more. -/
theorem Child.kill_ensures (h : s.Awaits c) :
    (Child.kill host c).Ensures w fun added c' _ =>
      ∃ guarded, c' = { c with guarded } ∧
        Path Terminates s added { s with child := some c' } := by
  unfold Child.kill
  split
  · rename_i status hc
    rw [h.uncollected] at hc
    cases hc
  · refine (Run.send_ensures host w _ _).seq ?_
    rintro _ d w₁ - ⟨t, -, rfl⟩
    split
    · exact .of_pure ⟨false, rfl, .single (.killAlone h false)⟩
    · exact .of_pure ⟨c.guarded, rfl, .single (.killAlone h c.guarded)⟩

/-- Killing settles a subject. If waiting for it stalls it was killed all the same. -/
theorem kill_ensures (grace : Duration) (patience : Nat) (h : s.Awaits c) :
    (s.kill host grace patience).Ensures w fun added r _ =>
      Path Terminates s added r.2 ∧ (∀ journal, r.2.Accounted (added ++ journal)) ∧
        (r.1 = true → r.2.Idle) := by
  simp only [kill, h.child]
  refine (signalGroup_ensures host w _ _).seq ?_
  rintro signals _ w₁ - hsignals
  refine (Child.kill_ensures host w₁ h).seq ?_
  rintro shot _ w₂ - ⟨guarded, rfl, hpath⟩
  have hpath := (hsignals.kill_path h).trans hpath
  have hkilled := hsignals.killed.mono (List.subset_append_right shot signals)
  have h' : ({ s with child := some { c with guarded } } : Subject).Awaits { c with guarded } :=
    ⟨rfl, h.uncollected, h.running, h.unended⟩
  have hsettled (later journal : List Entry) :
      Settled (later ++ (shot ++ signals) ++ journal) c.pid :=
    .inr (.inr (hkilled.mono
      (List.subset_append_of_subset_left journal (List.subset_append_right later _))))
  refine (Run.now_ensures host w₂).seq ?_
  rintro _ t w₃ - ⟨rfl, -⟩
  refine (waitChild_ensures host w₃ _ _ h'.uncollected).seq ?_
  rintro _ _ w₄ - (status | reason | _ | _)
  · refine .of_pure ⟨hpath.snoc (.reap h'), fun journal => ?_, fun _ => ⟨rfl, rfl⟩⟩
    exact .settled rfl ⟨rfl, rfl⟩ (hsettled [_] journal)
  · refine .of_pure ⟨hpath.snoc (.loseKilled h'), fun journal => ?_, fun _ => ⟨rfl, rfl⟩⟩
    exact .settled rfl ⟨rfl, rfl⟩ (hsettled [_] journal)
  · refine .note_seq fun _ _ => .of_pure ?_
    refine ⟨hpath.snoc (.survive h'), fun journal => ?_, fun _ => ⟨rfl, rfl⟩⟩
    exact .settled rfl ⟨rfl, rfl⟩ (hsettled [_] journal)
  · refine .of_pure ⟨hpath, fun journal => ?_, nofun⟩
    exact .waiting h' (.inr (hkilled.mono (List.subset_append_left _ _)))

/-- Terminating keeps a subject accounted for, and nothing more is to be done about it unless a
wait stalls. -/
theorem terminate_ensures (grace : Duration) (patience : Nat) (h : s.Accounted journal) :
    (s.terminate host grace patience).Ensures w fun added r _ =>
      Path Terminates s added r.2 ∧ r.2.Accounted (added ++ journal) ∧
        (r.1 = true → r.2.Idle) := by
  unfold terminate
  split
  · rename_i c hc hr
    obtain ⟨_, ha⟩ := h.awaits hr
    obtain rfl := ha.unique hc
    refine (signalGroup_ensures host w _ _).seq ?_
    rintro signals _ w₁ - hsignals
    have hpath := hsignals.terminate_path ha
    -- the subject as it stops, in the form in which its child is put back into its place
    have ha' : ({ s with child := some c, state := .stopping } : Subject).Awaits c :=
      ⟨rfl, ha.uncollected, rfl, ha.unended⟩
    have hself : ({ s with child := some c, state := .stopping } : Subject) =
        { s with state := .stopping } := by
      rw [← hc]
    rw [← hself] at hpath
    refine (Run.now_ensures host w₁).seq ?_
    rintro _ t w₂ - ⟨rfl, -⟩
    refine (waitChild_ensures host w₂ _ _ ha.uncollected).seq ?_
    rintro _ _ w₃ - (status | reason | _ | _)
    · refine .of_pure ⟨hpath.snoc (.collect ha'), ?_, fun _ => ⟨rfl, rfl⟩⟩
      exact .settled (c := { c with status := some status }) rfl ⟨rfl, rfl⟩
        (.inl ⟨status, by simp⟩)
    · refine .of_pure ⟨hpath.snoc (.lose ha'), ?_, fun _ => ⟨rfl, rfl⟩⟩
      exact .settled (c := c) rfl ⟨rfl, rfl⟩ (.inr (.inl ⟨reason, by simp⟩))
    · refine (kill_ensures host w₃ grace patience ha').mono ?_
      rintro added r w₄ - ⟨hkill, haccounted, hidle⟩
      refine ⟨by simpa using hpath.trans hkill, ?_, hidle⟩
      simpa using haccounted (signals ++ journal)
    · refine .of_pure ⟨hpath, .waiting ha' ((h.guard ha).imp id ?_), nofun⟩
      exact fun hk => hk.mono (List.subset_append_right _ _)
  · rename_i hno
    refine .of_pure ⟨.refl s, h, fun _ => ?_⟩
    cases h with
    | unstarted _ h => exact h
    | waiting h _ => exact (hno _ h.child h.running).elim
    | settled _ h _ => exact h

theorem terminateAll_ensures (grace : Duration) (patience : Nat) (subjects : List Subject)
    (h : ∀ s ∈ subjects, s.Accounted journal) :
    (terminateAll host grace patience subjects).Ensures w fun added r _ =>
      Path (OneOf Terminates) subjects added r.2 ∧ (∀ s ∈ r.2, s.Accounted (added ++ journal)) ∧
        (r.1 = true → ∀ s ∈ r.2, s.Idle) := by
  induction subjects generalizing w journal with
  | nil => exact .of_pure ⟨.refl [], by simp, by simp⟩
  | cons s rest ih =>
    rw [List.forall_mem_cons] at h
    refine (terminate_ensures host w grace patience h.1).seq ?_
    rintro added ⟨ended, s'⟩ w₁ - ⟨hpath, haccounted, hidle⟩
    have hhead := hpath.oneOf_head rest
    have hrest : ∀ s ∈ rest, s.Accounted (added ++ journal) := fun s hs => (h.2 s hs).append added
    cases ended with
    | false =>
      refine .of_pure ⟨hhead, ?_, nofun⟩
      rw [List.forall_mem_cons]
      exact ⟨haccounted, hrest⟩
    | true =>
      refine (ih w₁ hrest).seq ?_
      rintro later ⟨ended, rest'⟩ w₂ - ⟨htail, haccounted', hidle'⟩
      refine .of_pure ⟨hhead.trans (htail.oneOf_tail s'), ?_, fun hended => ?_⟩
      · rw [List.forall_mem_cons]
        simp only [List.nil_append, List.append_assoc]
        exact ⟨haccounted.append later, haccounted'⟩
      · rw [List.forall_mem_cons]
        exact ⟨hidle rfl, hidle' hended⟩

/-- Letting go of a child kills it, unless its exit was collected or it was killed before. -/
theorem Child.release_ensures (hc : s.child = some c) :
    (Child.release host c).Ensures w fun added _ _ => Path Discards s added s ∧
      (c.status = none → c.guarded = true → ∃ t d, .sent (.process c.pid) .kill t d ∈ added) := by
  unfold Child.release
  split
  · rename_i status hs
    refine .of_pure ⟨.refl s, fun hn => ?_⟩
    rw [hs] at hn
    cases hn
  · rename_i hs
    dsimp only
    split
    · rename_i hg
      refine (Run.send_ensures host w _ _).seq ?_
      rintro _ d w₁ - ⟨t, -, rfl⟩
      exact .of_ask ⟨.single (.killAlone hc hs hg), fun _ _ => ⟨t, d, by simp⟩⟩
    · rename_i hg
      exact .of_ask ⟨.refl s, fun _ hg' => absurd hg' hg⟩

/-- Letting go of an accounted subject settles it. -/
theorem discard_ensures (h : s.Accounted journal) :
    (s.discard host).Ensures w fun added _ _ =>
      Path Discards s added s ∧ ∀ c, s.child = some c → Settled (added ++ journal) c.pid := by
  unfold discard
  split
  · rename_i hc
    exact .of_pure ⟨.refl s, fun c hc' => by rw [hc] at hc'; cases hc'⟩
  · rename_i c hc
    dsimp only
    split
    · rename_i hr
      obtain ⟨_, ha⟩ := h.awaits hr
      obtain rfl := ha.unique hc
      refine (Run.send_ensures host w _ _).seq ?_
      rintro _ d w₁ - ⟨t, -, rfl⟩
      refine (Child.release_ensures host w₁ hc).mono ?_
      rintro added _ w₂ - ⟨hpath, hkill⟩
      refine ⟨(Path.single (.killGroup hc ha.uncollected hr)).trans hpath, fun c' hc' => ?_⟩
      obtain rfl := ha.unique hc'
      obtain hg | hk := h.guard ha
      · obtain ⟨t', d', hsent⟩ := hkill ha.uncollected hg
        exact .inr (.inr ⟨t, d, by simp, .inr ⟨t', d', by simp [hsent]⟩⟩)
      · exact .inr (.inr (hk.mono (List.subset_append_right _ _)))
    · rename_i hr
      refine (Child.release_ensures host w hc).mono ?_
      rintro added _ w₁ - ⟨hpath, -⟩
      refine ⟨hpath, fun c' hc' => ?_⟩
      cases h with
      | unstarted hn _ => rw [hn] at hc'; cases hc'
      | waiting ha _ => exact absurd ha.running hr
      | settled hs _ hd =>
        obtain rfl := Option.some.inj (hs.symm.trans hc')
        exact hd.mono (List.subset_append_right _ _)

/-- Letting go of accounted subjects settles all of them. -/
theorem discardAll_ensures (subjects : List Subject) (h : ∀ s ∈ subjects, s.Accounted journal) :
    (discardAll host subjects).Ensures w fun added _ _ =>
      Path (OneOf Discards) subjects added subjects ∧
        ∀ s ∈ subjects, ∀ c, s.child = some c → Settled (added ++ journal) c.pid := by
  induction subjects generalizing w journal with
  | nil => exact .of_pure ⟨.refl [], by simp⟩
  | cons s rest ih =>
    rw [List.forall_mem_cons] at h
    refine (discard_ensures host w h.1).seq ?_
    rintro added _ w₁ - ⟨hpath, hsettled⟩
    refine (ih w₁ fun s hs => (h.2 s hs).append added).mono ?_
    rintro later _ w₂ - ⟨htail, hrest⟩
    refine ⟨(hpath.oneOf_head rest).trans (htail.oneOf_tail s), ?_⟩
    rw [List.forall_mem_cons, List.append_assoc]
    exact ⟨fun c hc => (hsettled c hc).mono (List.subset_append_right _ _), hrest⟩

end Subject
end Proctor
