import Proctor.Proofs.Process.Recorded

/-!
# How a subject stands

There are two kinds of subject. One that was started has a child, and it runs until its exit is
recorded. One that was never started has a launch error instead and an unknown exit, and nothing is
ever done in its name. Every operation keeps a subject of its kind, and none makes one run again.
-/
namespace Proctor

namespace Subject

/-- What holds of a subject at any time from its launch on. -/
structure Sound (s : Subject) : Prop where
  running_iff : s.isRunning = true ↔ s.exit = none
  running : s.isRunning = true → s.child.isSome = true ∧ s.pid.isSome = true
  launchError_iff : s.launchError.isSome = true ↔ s.child = none
  child_iff : s.child = none ↔ s.pid = none
  unstarted : s.launchError.isSome = true → s.exit = some .unknown ∧ s.report = none

/-- The two kinds of subject. -/
inductive Standing (s : Subject) : Prop
  | started {c : Child} (child : s.child = some c) (launchError : s.launchError = none)
      (consistent : s.Consistent)
  | unstarted (child : s.child = none) (launchError : s.launchError.isSome = true)
      (idle : s.isRunning = false) (exit : s.exit = some .unknown) (report : s.report = none)

variable {s s' : Subject}

theorem Standing.sound (h : s.Standing) : s.Sound := by
  cases h with
  | @started c hc hl hs =>
    have hp : s.pid = some c.pid := by rw [pid, hc, Option.map_some]
    exact ⟨hs, by simp [hc, hp], by simp [hl, hc], by simp [hc, hp], by simp [hl]⟩
  | unstarted hc hl hi he hr =>
    have hp : s.pid = none := by rw [pid, hc, Option.map_none]
    exact ⟨by simp [hi, he], by simp [hi], by simp [hl, hc], by simp [hc, hp], fun _ => ⟨he, hr⟩⟩

theorem Launched.standing {spec : ProcessSpec} {added : List Entry} (h : Launched spec added s) :
    s.Standing := by
  have hs := h.consistent
  cases h with
  | started instant stdout stderr pid => exact .started rfl rfl hs
  | unstarted instant stdout stderr fault => exact .unstarted rfl rfl rfl rfl rfl

theorem Changes.child_isSome (h : s.Changes s') (hc : s.child.isSome = true) :
    s'.child.isSome = true := by
  cases h with
  | report | stop | kill => exact hc
  | child => rfl
  | record _ outcome => cases outcome <;> exact hc

theorem Changes.launchError_eq (h : s.Changes s') : s'.launchError = s.launchError := by
  have hbirth := h.birth_eq
  simp only [birth, Prod.mk.injEq] at hbirth
  exact hbirth.2.2.2.2

/-- A change keeps a subject of its kind. To one that was never started it does nothing but to
record once more that its exit is unknown. -/
theorem Changes.standing (h : s.Changes s') (hs : s.Standing) : s'.Standing := by
  cases hs with
  | started hc hl hconsistent =>
    obtain ⟨c', hc'⟩ := Option.isSome_iff_exists.mp (h.child_isSome (by simp [hc]))
    exact .started hc' (h.launchError_eq.trans hl) (h.consistent hconsistent)
  | unstarted hc hl hi he hr =>
    cases h with
    | report h | child h | record h =>
      rw [hc] at h
      cases h
    | stop h =>
      rw [hi] at h
      cases h
    | kill => exact .unstarted hc hl rfl rfl hr

theorem Leads.standing (h : s.Leads s') (hs : s.Standing) : s'.Standing :=
  h.preserves Changes.standing hs

/-- An exit may be recorded once more, but it is never taken back. -/
theorem Changes.exit_isSome (h : s.Changes s') (he : s.exit.isSome = true) :
    s'.exit.isSome = true := by
  cases h with
  | report | stop | child => exact he
  | record _ outcome => cases outcome <;> rfl
  | kill => rfl

theorem Leads.exit_isSome (h : s.Leads s') (he : s.exit.isSome = true) : s'.exit.isSome = true :=
  h.preserves Changes.exit_isSome he

theorem Consistent.exit_isSome_iff (h : s.Consistent) :
    s.exit.isSome = true ↔ s.isRunning = false := by
  rw [Option.isSome_iff_ne_none, ← Bool.not_eq_true]
  exact (not_congr h).symm

section Unstarted
variable {σ : Type} (host : Host σ)

/-- There is nothing to supervise about a subject that was never started. -/
theorem supervise_unstarted (h : s.child = none) {stage : Supervision}
    (hstage : stage = .fresh ∨ stage = .untilExit) :
    s.supervise host stage = pure (.over, s) ∨ s.supervise host stage = pure (.overflow, s) := by
  have hexit : s.superviseExit host = pure (.over, s) := by
    unfold superviseExit
    rw [h]
  obtain rfl | rfl := hstage
  · simp only [supervise, h, hexit]
    cases s.injection with
    | none => exact .inl rfl
    | some i =>
      cases hdue : s.started.add? i.delay with
      | none => exact .inr (by simp only [hdue])
      | some due => exact .inl (by simp only [hdue])
  · exact .inl hexit

theorem superviseUntil_unstarted (h : s.child = none) (limit : Instant) (wakes : Nat)
    {stage : Supervision} (hstage : stage = .fresh ∨ stage = .untilExit) :
    ∃ limited, superviseUntil host limit (wakes + 1) stage s = pure (limited, s) := by
  rw [superviseUntil]
  obtain hs | hs := supervise_unstarted host h hstage
  · exact ⟨.over, by rw [hs, pure_bind]⟩
  · exact ⟨.overflow, by rw [hs, pure_bind]⟩

/-- Nothing is done in the name of a subject that was never started. -/
theorem perform_unstarted (h : s.child = none) (o : Operation) (w : World σ) :
    (s.perform host o).Ensures w fun added s' _ => added = [] ∧ s'.child = none := by
  cases o with
  | supervise limit wakes =>
    obtain ⟨limited, hrun⟩ := superviseUntil_unstarted host h limit wakes (.inl rfl)
    rw [perform, hrun, pure_bind]
    exact .of_pure ⟨rfl, h⟩
  | wait limit wakes =>
    obtain ⟨limited, hrun⟩ := superviseUntil_unstarted host h limit wakes (.inr rfl)
    rw [perform, hrun, pure_bind]
    exact .of_pure ⟨rfl, h⟩
  | deliver kind =>
    have hp : s.pid = none := by rw [pid, h, Option.map_none]
    have hdeliver : s.deliver host kind = pure (.skipped kind) := by
      unfold deliver
      rw [hp]
    rw [perform, hdeliver, pure_bind]
    exact .of_pure ⟨rfl, h⟩
  | terminate grace wakes =>
    have hterminate : s.terminate host grace (wakes + 1) = pure (true, s) := by
      unfold terminate
      rw [h]
    rw [perform, hterminate, pure_bind]
    exact .of_pure ⟨rfl, h⟩
  | kill grace wakes =>
    have hkill : s.kill host grace (wakes + 1) = pure (true, s.killed none) := by
      unfold kill
      rw [h]
    rw [perform, hkill, pure_bind]
    exact .of_pure ⟨rfl, rfl⟩
  | finish =>
    refine (TestCase.finish_ensures host w s).seq ?_
    rintro _ _ w' - ⟨rfl, -⟩
    exact .of_pure ⟨rfl, h⟩

theorem performAll_unstarted (h : s.child = none) (operations : List Operation) (w : World σ) :
    (performAll host operations s).Ensures w fun added _ _ => added = [] := by
  induction operations generalizing s w with
  | nil => exact .of_pure rfl
  | cons o operations ih =>
    refine (perform_unstarted host h o w).seq ?_
    rintro _ s' w' - ⟨rfl, h'⟩
    simpa using ih h' w'

end Unstarted

/-- After its launch and after any operations a subject is sound. Once it no longer runs it never
does so again, and while it has a launch error the operations leave nothing in the journal, so no
signal is sent on its behalf. -/
theorem performAll_sound {σ : Type} (host : Host σ) {spec : ProcessSpec} {w w₁ w₂ w₃ : World σ}
    {launched s s' : Subject} {earlier later : List Operation}
    (hlaunch : (launch host spec).run w = (.ok launched, w₁))
    (hearlier : (performAll host earlier launched).run w₁ = (s, w₂))
    (hlater : (performAll host later s).run w₂ = (s', w₃)) :
    s.Sound ∧ s'.Sound ∧ (s.isRunning = false → s'.isRunning = false) ∧
      (s.launchError.isSome = true → w₃.journal = w₂.journal) := by
  obtain ⟨added, -, -, hlaunched⟩ := launch_ensures host w spec
  rw [hlaunch] at hlaunched
  have hleads : launched.Leads s := (performAll_leads host earlier launched).of_run hearlier
  have hleads' : s.Leads s' := (performAll_leads host later s).of_run hlater
  have hstanding : s.Standing := hleads.standing hlaunched.standing
  have hconsistent : s.Consistent := hleads.consistent hlaunched.consistent
  refine ⟨hstanding.sound, (hleads'.standing hstanding).sound, fun hidle => ?_, fun hfault => ?_⟩
  · have hexit := hleads'.exit_isSome (hconsistent.exit_isSome_iff.mpr hidle)
    exact (hleads'.consistent hconsistent).exit_isSome_iff.mp hexit
  · have hchild : s.child = none := hstanding.sound.launchError_iff.mp hfault
    obtain ⟨_, hjournal, -, rfl⟩ := performAll_unstarted host hchild later w₂
    rw [hlater] at hjournal
    exact hjournal

/-- A host on which no program is found. -/
def barrenHost : Host Unit := { promptHost with
  spawn := fun _ _ => (.error (.system .notFound), ()) }

/-- The subject of a process that was launched on that host. -/
def barren : Subject := ofFault default ⟨0⟩ ⟨0⟩ ⟨0⟩ (.system .notFound)

/-- Every operation once. -/
def allOperations : List Operation :=
  [.supervise ⟨0⟩ 0, .deliver .reload, .terminate .zero 0, .kill .zero 0, .wait ⟨0⟩ 0, .finish]

/-- A process that could not be started stays so, whatever is done about it. -/
theorem performAll_sound_barren : ∃ w w₁ w₂ w₃ s',
    (launch barrenHost default).run w = (.ok barren, w₁) ∧
    (performAll barrenHost [] barren).run w₁ = (barren, w₂) ∧
    (performAll barrenHost allOperations barren).run w₂ = (s', w₃) ∧
    barren.isRunning = false ∧ barren.launchError.isSome = true ∧
    barren.Sound ∧ s'.Sound ∧ s'.isRunning = false ∧ w₃.journal = w₂.journal := by
  obtain ⟨w₁, hlaunch⟩ : ∃ w₁, (launch barrenHost default).run { host := () } = (.ok barren, w₁) :=
    ⟨_, rfl⟩
  have hnone : (performAll barrenHost [] barren).run w₁ = (barren, w₁) := rfl
  obtain ⟨⟨s', w₃⟩, hall⟩ : ∃ r, (performAll barrenHost allOperations barren).run w₁ = r := ⟨_, rfl⟩
  obtain ⟨hs, hs', hstays, hjournal⟩ := performAll_sound barrenHost hlaunch hnone hall
  exact ⟨_, w₁, w₁, w₃, s', hlaunch, hnone, hall, rfl, rfl, hs, hs', hstays rfl, hjournal rfl⟩

end Subject
end Proctor
