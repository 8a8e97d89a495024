import Proctor.Proofs.Process.Conduct

/-!
# Supervision takes steps of supervision

One call of `supervise` takes a path of at most two steps: the scheduled signal, then the exit.
How far supervision has come fits what has been done to the subject so far, so the signal is
sent only while none was sent before.
-/
namespace Proctor

namespace Subject
variable {s : Subject} {c : Child}

/-- A subject is not changed by putting its child in its place. -/
theorem with_child (h : s.child = some c) : { s with child := some c } = s := by
  cases s
  simp_all

/-- A report does not bear on what is waited for. -/
theorem Awaits.with_report (h : s.Awaits c) (report : Option InjectionReport) :
    ({ s with report } : Subject).Awaits c :=
  ⟨h.child, h.uncollected, h.running, h.unended⟩

@[simp] theorem ended_exit_isSome (outcome : Except String WaitStatus) :
    (s.ended c outcome).exit.isSome = true := by
  cases outcome <;> rfl

/-- The exit of a subject whose signal is no longer to be sent. -/
theorem record_eq_ended (outcome : Except String WaitStatus)
    (h : s.report.or (s.injection.map (.skipped ·.kind)) = s.report) :
    ({ s with child := some c } : Subject).record outcome = s.ended c outcome := by
  unfold ended
  rw [h]
  cases outcome <;> rfl

/-- The exit of a subject whose signal was never sent. -/
theorem record_skipped {i : Injection} (outcome : Except String WaitStatus)
    (hr : s.report = none) (hi : s.injection = some i) :
    { ({ s with child := some c } : Subject).record outcome with
      report := some (.skipped i.kind) } = s.ended c outcome := by
  unfold ended
  rw [hr, hi]
  rfl

end Subject

namespace Supervision

/-- What has been done to a subject when supervision has come so far. -/
def Fits (s : Subject) : Supervision → Prop
  | .fresh => s.child = none ∧ s.exit.isSome ∨ ∃ c, s.Awaits c ∧ s.report = none
  | .untilSignal due => ∃ c i, s.Awaits c ∧ s.report = none ∧ s.injection = some i ∧
      due = s.started.after i.delay
  | .untilExit => ∃ c, s.Awaits c ∧
      s.report.or (s.injection.map (.skipped ·.kind)) = s.report
  | .over => s.exit.isSome
  | .overflow => True

end Supervision

namespace Subject
variable {σ : Type} (host : Host σ) (w : World σ) {s : Subject} {c : Child}

/-- What asking for an exit brings that was not collected before, by the answer of the host. -/
inductive Child.Asked (c : Child) (answer : Collection) :
    List Entry → Option (Except String WaitStatus) × Child → Prop
  | pending (h : answer = .pending) : Child.Asked c answer [] (none, c)
  | ended (status : WaitStatus) (h : answer = .ended status) :
      Child.Asked c answer [.collected c.pid status]
        (some (.ok status), { c with status := some status })
  | failed (reason : String) (h : answer = .failed reason) :
      Child.Asked c answer [.uncollected c.pid reason] (some (.error reason), c)

theorem Child.exit?_ensures (h : c.status = none) :
    (Child.exit? host c).Ensures w fun added r _ =>
      Child.Asked c (host.collect c.pid w.host).1 added r := by
  simp only [Child.exit?, h]
  refine .ask_seq ?_
  split
  · rename_i hanswer
    exact .of_pure (.pending hanswer)
  · rename_i status hanswer
    exact .note_seq fun _ _ => .of_pure (.ended status hanswer)
  · rename_i reason hanswer
    exact .note_seq fun _ _ => .of_pure (.failed reason hanswer)

/-- What trying to record an exit does to a subject, by the answer of the host. -/
inductive Tried (s : Subject) (c : Child) (answer : Collection) :
    List Entry → Bool × Subject → Prop
  | pending (h : answer = .pending) : Tried s c answer [] (false, s)
  | ended (status : WaitStatus) (h : answer = .ended status) :
      Tried s c answer [.collected c.pid status]
        (true, ({ s with child := some { c with status := some status } } : Subject).record
          (.ok status))
  | failed (reason : String) (h : answer = .failed reason) :
      Tried s c answer [.uncollected c.pid reason]
        (true, ({ s with child := some c } : Subject).record (.error reason))

theorem tryRecord_ensures (h : s.Awaits c) :
    (s.tryRecord host c).Ensures w fun added r _ =>
      Tried s c (host.collect c.pid w.host).1 added r := by
  refine (Child.exit?_ensures host w h.uncollected).seq ?_
  rintro _ _ w' - (hanswer | ⟨status, hanswer⟩ | ⟨reason, hanswer⟩)
  · simp only [with_child h.child]
    exact .of_pure (.pending hanswer)
  · exact .of_pure (.ended status hanswer)
  · exact .of_pure (.failed reason hanswer)

theorem deliver_ensures (h : s.Awaits c) (kind : SignalKind) :
    (s.deliver host kind).Ensures w fun added report _ => ∃ t d, w.latest ≤ t ∧
      added = [.sent (.process c.pid) kind.signal t d] ∧ report = d.report kind := by
  have hpid : s.pid = some c.pid := by simp [pid, h.child]
  simp only [deliver, hpid, h.running]
  refine (Run.send_ensures host w _ _).seq ?_
  rintro _ d w' - ⟨t, ht, rfl⟩
  cases d <;> exact .of_pure ⟨t, _, ht, rfl, rfl⟩

/-- Steps of supervision that lead to where supervision has come. -/
def Supervised (s : Subject) (added : List Entry) (r : Supervision × Subject) : Prop :=
  Path Supervises s added r.2 ∧ r.1.Fits r.2

theorem superviseExit_ensures (h : Supervision.untilExit.Fits s) :
    (s.superviseExit host).Ensures w fun added r _ => s.Supervised added r := by
  obtain ⟨c, h, hr⟩ := h
  simp only [superviseExit, h.child, h.unended]
  refine (tryRecord_ensures host w h).seq ?_
  rintro _ _ w' - (_ | status | reason)
  · exact .of_pure ⟨.refl s, c, h, hr⟩
  · refine .of_pure ⟨?_, rfl⟩
    rw [record_eq_ended _ hr]
    exact .single (.collect h)
  · refine .of_pure ⟨?_, rfl⟩
    rw [record_eq_ended _ hr]
    exact .single (.lose h)

/-- Sending the signal is one step, and what comes of the exit at once may be a second one. -/
theorem inject_ensures {i : Injection} (h : s.Awaits c) (hi : s.injection = some i)
    (hr : s.report = none) (hdue : s.started.after i.delay ≤ w.latest) :
    (s.inject host i.kind).Ensures w fun added r _ => s.Supervised added r := by
  refine (deliver_ensures host w h i.kind).seq ?_
  rintro _ _ w' - ⟨t, d, ht, rfl, rfl⟩
  have hsent : Supervises s (.sent (.process c.pid) i.kind.signal t d)
      { s with report := some (d.report i.kind) } :=
    .inject h hi hr (Nat.le_trans hdue ht)
  refine (superviseExit_ensures host w' ⟨c, h.with_report _, rfl⟩).mono ?_
  rintro later r _ - ⟨hpath, hfits⟩
  exact ⟨(Path.single hsent).trans hpath, hfits⟩

theorem superviseSignal_ensures {i : Injection} {due : Instant} (h : s.Awaits c)
    (hi : s.injection = some i) (hr : s.report = none) (hdue : due = s.started.after i.delay) :
    (s.superviseSignal host c i.kind due).Ensures w fun added r _ => s.Supervised added r := by
  subst hdue
  refine .ask_seq ((Run.now_ensures host _).seq ?_)
  rintro _ t w₁ - ⟨rfl, rfl⟩
  split
  · rename_i hreached
    rw [Bool.and_eq_true] at hreached
    simpa using inject_ensures host w₁ h hi hr (Instant.le_of_reached hreached.2)
  · refine (tryRecord_ensures host w₁ h).seq ?_
    rintro _ _ w₂ - (_ | status | reason)
    · refine (Run.now_ensures host w₂).seq ?_
      rintro _ t w₃ - ⟨rfl, rfl⟩
      split
      · rename_i hreached
        simpa using inject_ensures host w₃ h hi hr (Instant.le_of_reached hreached)
      · exact .of_pure ⟨.refl s, c, i, h, hr, hi, rfl⟩
    · refine .of_pure ⟨?_, rfl⟩
      rw [record_skipped _ hr hi]
      exact .single (.collect h)
    · refine .of_pure ⟨?_, rfl⟩
      rw [record_skipped _ hr hi]
      exact .single (.lose h)

/-- One call of `supervise` takes steps of supervision. -/
theorem supervise_ensures {stage : Supervision} (h : stage.Fits s) :
    (s.supervise host stage).Ensures w fun added r _ => s.Supervised added r := by
  cases stage with
  | fresh =>
    simp only [supervise]
    split
    · rename_i hi
      obtain ⟨hc, he⟩ | ⟨c, h, hr⟩ := h
      · simp only [superviseExit, hc]
        exact .of_pure ⟨.refl s, he⟩
      · exact superviseExit_ensures host w ⟨c, h, by simp [hi]⟩
    · rename_i i hi
      split
      · exact .of_pure ⟨.refl s, trivial⟩
      · rename_i due hdue hc
        obtain ⟨-, he⟩ | ⟨c, h, -⟩ := h
        · exact .of_pure ⟨.refl s, he⟩
        · rw [h.child] at hc
          cases hc
      · rename_i due c hdue hc
        obtain ⟨hn, -⟩ | ⟨c', h, hr⟩ := h
        · rw [hn] at hc
          cases hc
        · obtain rfl : c' = c := Option.some.inj (h.child.symm.trans hc)
          exact superviseSignal_ensures host w h hi hr (Instant.eq_after_of_add? hdue)
  | untilSignal due =>
    obtain ⟨c, i, h, hr, hi, hdue⟩ := h
    simp only [supervise, hi, h.child]
    exact superviseSignal_ensures host w h hi hr hdue
  | untilExit => exact superviseExit_ensures host w h
  | «over» => exact .of_pure ⟨.refl s, h⟩
  | overflow => exact .of_pure ⟨.refl s, trivial⟩

/-- Going round some subjects takes steps of one of them at a time. -/
theorem superviseAll_ensures (supervised : List (Supervision × Subject))
    (h : ∀ x ∈ supervised, x.1.Fits x.2) :
    (superviseAll host supervised).Ensures w fun added r _ =>
      Path (OneOf Supervises) (supervised.map (·.2)) added (r.map (·.2)) ∧
        ∀ x ∈ r, x.1.Fits x.2 := by
  induction supervised generalizing w with
  | nil => exact .of_pure ⟨.refl [], by simp⟩
  | cons x rest ih =>
    obtain ⟨stage, s⟩ := x
    rw [List.forall_mem_cons] at h
    refine (supervise_ensures host w h.1).seq ?_
    rintro added next w₁ - ⟨hpath, hfits⟩
    have hhead := hpath.oneOf_head (rest.map (·.2))
    split
    · refine .of_pure ⟨hhead, ?_⟩
      rw [List.forall_mem_cons]
      exact ⟨hfits, h.2⟩
    · refine (ih w₁ h.2).seq ?_
      rintro later r w₂ - ⟨htail, hrest⟩
      refine .of_pure ⟨hhead.trans (htail.oneOf_tail next.2), ?_⟩
      rw [List.forall_mem_cons]
      exact ⟨hfits, hrest⟩

end Subject
end Proctor
