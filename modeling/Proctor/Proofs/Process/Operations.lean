import Proctor.Proofs.Case.Course
import Mathlib.Logic.Relation

/-!
# Operations on a subject

A subject can be supervised, waited for, sent a signal, terminated, killed and finished, in any
order and as often as one likes, and a wait can be given up at any time. Each operation makes a few
kinds of changes to the subject, whatever the host answers. What all operations preserve is shown of
these changes.
-/
namespace Proctor

namespace Run
variable {σ α β : Type}

/-- What holds of the result of a computation, in whatever world it is run. -/
def Yields (m : Run σ α) (P : α → Prop) : Prop := ∀ w, P (m.run w).1

variable {m : Run σ α} {f : α → Run σ β} {P : α → Prop} {Q : β → Prop}

theorem Yields.of_pure {a : α} (h : P a) : Yields (σ := σ) (pure a) P := fun _ => h

theorem Yields.seq (hm : Yields m P) (hf : ∀ a, P a → Yields (f a) Q) : Yields (m >>= f) Q :=
  fun w => hf _ (hm w) _

/-- The result of a run is one that its computation yields. -/
theorem Yields.of_run {a : α} {w w' : World σ} (hm : Yields m P) (h : m.run w = (a, w')) : P a := by
  have ha := hm w
  rwa [h] at ha

/-- A step whose result does not matter. -/
theorem Yields.after (hf : ∀ a, Yields (f a) Q) : Yields (m >>= f) Q :=
  fun _ => hf _ _

theorem Yields.and {P' : α → Prop} (hm : Yields m P) (hm' : Yields m P') :
    Yields m fun a => P a ∧ P' a := fun w => ⟨hm w, hm' w⟩

theorem Yields.mono {P' : α → Prop} (hm : Yields m P) (h : ∀ a, P a → P' a) : Yields m P' :=
  fun w => h _ (hm w)

end Run

namespace Subject

/-- An operation. A wait is given up at an instant, or after so many wake-ups. -/
inductive Operation where
  | supervise (limit : Instant) (wakes : Nat)
  | wait (limit : Instant) (wakes : Nat)
  | deliver (kind : SignalKind)
  | terminate (grace : Duration) (wakes : Nat)
  | kill (grace : Duration) (wakes : Nat)
  | finish
  deriving DecidableEq

section Performing
variable {σ : Type} (host : Host σ)

/-- What is left of a subject after an operation. -/
def perform (s : Subject) : Operation → Run σ Subject
  | .supervise limit wakes => do
    let (_, s) ← superviseUntil host limit (wakes + 1) .fresh s
    return s
  | .wait limit wakes => do
    let (_, s) ← superviseUntil host limit (wakes + 1) .untilExit s
    return s
  | .deliver kind => do
    let _ ← s.deliver host kind
    return s
  | .terminate grace wakes => do
    let (_, s) ← s.terminate host grace (wakes + 1)
    return s
  | .kill grace wakes => do
    let (_, s) ← s.kill host grace (wakes + 1)
    return s
  | .finish => do
    let _ ← s.finish host
    return s

/-- What is left of a subject after some operations, one after the other. -/
def performAll : List Operation → Subject → Run σ Subject
  | [], s => return s
  | o :: operations, s => do
    let s ← s.perform host o
    performAll operations s

end Performing

/-- A child is followed by itself, killed or not, and once it is collected its status stays. -/
structure Child.Follows (c c' : Child) : Prop where
  pid : c'.pid = c.pid
  status : ∀ status, c.status = some status → c'.status = some status

theorem Child.Follows.refl (c : Child) : Child.Follows c c := ⟨rfl, fun _ h => h⟩

theorem Child.Follows.trans {c c' c'' : Child} (h : Child.Follows c c')
    (h' : Child.Follows c' c'') : Child.Follows c c'' :=
  ⟨h'.pid.trans h.pid, fun status hstatus => h'.status status (h.status status hstatus)⟩

/-- A change that operations make to a subject. -/
inductive Changes : Subject → Subject → Prop
  | report {s : Subject} {c : Child} (h : s.child = some c) (report : InjectionReport) :
      Changes s { s with report := some report }
  | stop {s : Subject} (h : s.isRunning = true) : Changes s { s with state := .stopping }
  | child {s : Subject} {c c' : Child} (h : s.child = some c) (hc : Child.Follows c c') :
      Changes s { s with child := some c' }
  | record {s : Subject} {c : Child} (h : s.child = some c) (outcome : Except String WaitStatus) :
      Changes s (s.record outcome)
  | kill (s : Subject) : Changes s (s.killed s.child)

/-- Some changes, one after the other. -/
abbrev Leads : Subject → Subject → Prop := Relation.ReflTransGen Changes

section Inversion
variable {σ : Type} (host : Host σ) {s : Subject} {c : Child}

theorem Child.exit?_follows (c : Child) :
    (Child.exit? host c).Yields fun r => Child.Follows c r.2 := by
  unfold Child.exit?
  split
  · exact .of_pure (.refl c)
  · rename_i hnone
    refine .after fun answer => ?_
    cases answer with
    | pending => exact .of_pure (.refl c)
    | ended status =>
      refine .after fun _ => .of_pure ⟨rfl, fun status h => ?_⟩
      rw [hnone] at h
      cases h
    | failed reason => exact .after fun _ => .of_pure (.refl c)

theorem tryRecord_leads (h : s.child = some c) :
    (s.tryRecord host c).Yields fun r => s.Leads r.2 ∧ r.2.child.isSome = true := by
  refine (Child.exit?_follows host c).seq ?_
  rintro ⟨exit, c'⟩ hc
  have hchild : s.Changes { s with child := some c' } := .child h hc
  cases exit with
  | none => exact .of_pure ⟨.single hchild, rfl⟩
  | some outcome =>
    refine .of_pure ⟨(Relation.ReflTransGen.single hchild).tail (.record rfl outcome), ?_⟩
    cases outcome <;> rfl

theorem superviseExit_leads (s : Subject) :
    (s.superviseExit host).Yields fun r => s.Leads r.2 := by
  unfold superviseExit
  split
  · rename_i c hc _
    refine (tryRecord_leads host hc).seq fun r hr => ?_
    exact .of_pure hr.1
  · exact .of_pure .refl

theorem inject_leads (h : s.child.isSome = true) (kind : SignalKind) :
    (s.inject host kind).Yields fun r => s.Leads r.2 := by
  obtain ⟨c, hc⟩ := Option.isSome_iff_exists.mp h
  refine .after fun report => (superviseExit_leads host _).mono fun r hr => ?_
  exact .head (.report hc report) hr

theorem superviseSignal_leads (h : s.child = some c) (kind : SignalKind) (due : Instant) :
    (s.superviseSignal host c kind due).Yields fun r => s.Leads r.2 := by
  refine .after fun exitFirst => .after fun now => ?_
  split
  · exact inject_leads host (by simp [h]) kind
  · refine (tryRecord_leads host h).seq ?_
    rintro ⟨ended, s'⟩ ⟨hs, hc⟩
    obtain ⟨c', hc'⟩ := Option.isSome_iff_exists.mp hc
    dsimp only
    split
    · exact .of_pure (hs.tail (.report hc' _))
    · refine .after fun now => ?_
      split
      · exact (inject_leads host hc kind).mono fun r hr => hs.trans hr
      · exact .of_pure hs

theorem supervise_leads (s : Subject) (stage : Supervision) :
    (s.supervise host stage).Yields fun r => s.Leads r.2 := by
  cases stage with
  | fresh =>
    simp only [supervise]
    split
    · exact superviseExit_leads host s
    · split
      · exact .of_pure .refl
      · exact .of_pure .refl
      · rename_i due c _ hc
        exact superviseSignal_leads host hc _ due
  | untilSignal due =>
    simp only [supervise]
    split
    · rename_i injection c _ hc
      exact superviseSignal_leads host hc _ due
    · exact .of_pure .refl
  | untilExit => exact superviseExit_leads host s
  | «over» => exact .of_pure .refl
  | overflow => exact .of_pure .refl

theorem superviseUntil_leads (limit : Instant) (patience : Nat) (stage : Supervision)
    (s : Subject) : (superviseUntil host limit patience stage s).Yields fun r => s.Leads r.2 := by
  induction patience generalizing stage s with
  | zero => exact .of_pure .refl
  | succ patience ih =>
    refine (supervise_leads host s stage).seq ?_
    rintro ⟨stage, s'⟩ hs
    have hrest (stage : Supervision) (next : Instant) : (do
        if limit.reached (← Run.now host) then return (Limited.givenUp, s')
        Run.rest host (some next)
        superviseUntil host limit patience stage s').Yields fun r => s.Leads r.2 := by
      refine .after fun now => ?_
      split
      · exact .of_pure hs
      · exact .after fun _ => (ih stage s').mono fun r hr => hs.trans hr
    cases stage with
    | «over» => exact .of_pure hs
    | overflow => exact .of_pure hs
    | untilSignal due => exact hrest (.untilSignal due) (limit.earlier due)
    | fresh => exact hrest .fresh limit
    | untilExit => exact hrest .untilExit limit

theorem waitChild_follows (limit : Instant) (patience : Nat) (c : Child) :
    (waitChild host limit patience c).Yields fun r => Child.Follows c r.2 := by
  induction patience generalizing c with
  | zero => exact .of_pure (.refl c)
  | succ patience ih =>
    refine (Child.exit?_follows host c).seq ?_
    rintro ⟨exit, c'⟩ hc
    cases exit with
    | some outcome => exact .of_pure hc
    | none =>
      refine .after fun now => ?_
      split
      · exact .of_pure hc
      · exact .after fun _ => (ih c').mono fun r hr => hc.trans hr

theorem Child.kill_follows (c : Child) : (Child.kill host c).Yields (Child.Follows c) := by
  unfold Child.kill
  split
  · exact .of_pure (.refl c)
  · refine .after fun delivery => ?_
    split
    · exact .of_pure ⟨rfl, fun _ h => h⟩
    · exact .of_pure (.refl c)

theorem kill_leads (s : Subject) (grace : Duration) (patience : Nat) :
    (s.kill host grace patience).Yields fun r => s.Leads r.2 := by
  unfold kill
  split
  · rename_i hc
    have hkill := Changes.kill s
    rw [hc] at hkill
    exact .of_pure (.single hkill)
  · rename_i c hc
    refine .after fun _ => (Child.kill_follows host c).seq fun c₁ hc₁ => .after fun now => ?_
    refine (waitChild_follows host _ patience c₁).seq ?_
    rintro ⟨waited, c₂⟩ hc₂
    have hchild : s.Leads { s with child := some c₂ } := .single (.child hc (hc₁.trans hc₂))
    have hkilled : s.Leads (s.killed (some c₂)) := hchild.tail (.kill _)
    cases waited with
    | exited outcome => exact .of_pure hkilled
    | timedOut => exact .after fun _ => .of_pure hkilled
    | stalled => exact .of_pure hchild

theorem terminate_leads (s : Subject) (grace : Duration) (patience : Nat) :
    (s.terminate host grace patience).Yields fun r => s.Leads r.2 := by
  unfold terminate
  split
  · rename_i c hc hrunning
    refine .after fun _ => .after fun now => (waitChild_follows host _ patience c).seq ?_
    rintro ⟨waited, c'⟩ hc'
    have hstopping : s.Leads { s with state := .stopping } := .single (.stop hrunning)
    have hchild : s.Leads { s with state := .stopping, child := some c' } :=
      hstopping.tail (.child hc hc')
    cases waited with
    | exited outcome => exact .of_pure (hchild.tail (.record rfl outcome))
    | timedOut => exact (kill_leads host _ grace patience).mono fun r hr => hchild.trans hr
    | stalled => exact .of_pure hchild
  · exact .of_pure .refl

/-- Operations make nothing but changes. -/
theorem perform_leads (s : Subject) (o : Operation) : (s.perform host o).Yields s.Leads := by
  cases o with
  | supervise limit wakes =>
    exact (superviseUntil_leads host limit _ .fresh s).seq fun r hr => .of_pure hr
  | wait limit wakes =>
    exact (superviseUntil_leads host limit _ .untilExit s).seq fun r hr => .of_pure hr
  | deliver kind => exact .after fun _ => .of_pure .refl
  | terminate grace wakes =>
    exact (terminate_leads host s grace _).seq fun r hr => .of_pure hr
  | kill grace wakes => exact (kill_leads host s grace _).seq fun r hr => .of_pure hr
  | finish => exact .after fun _ => .of_pure .refl

theorem performAll_leads (operations : List Operation) (s : Subject) :
    (performAll host operations s).Yields s.Leads := by
  induction operations generalizing s with
  | nil => exact .of_pure .refl
  | cons o operations ih =>
    exact (perform_leads host s o).seq fun s' hs => (ih s').mono fun r hr => hs.trans hr

/-- More operations go on with what is left after the first ones. -/
theorem performAll_append (earlier later : List Operation) (s : Subject) :
    performAll host (earlier ++ later) s = (do
      let s ← performAll host earlier s
      performAll host later s) := by
  induction earlier generalizing s with
  | nil => rfl
  | cons o earlier ih =>
    rw [List.cons_append, performAll, performAll, bind_assoc]
    exact bind_congr fun s => ih s

end Inversion

section Invariants
variable {s s' : Subject}

/-- What every change preserves is preserved by all operations. -/
theorem Leads.preserves {P : Subject → Prop} (hstep : ∀ {s s'}, Changes s s' → P s → P s')
    (h : s.Leads s') (hs : P s) : P s' := by
  induction h with
  | refl => exact hs
  | tail _ hchange ih => exact hstep hchange ih

/-- What is known of a subject from its launch on is never changed. -/
theorem Changes.birth_eq (h : s.Changes s') : s'.birth = s.birth := by
  cases h with
  | report | stop | kill => rfl
  | child h hc => simp [birth, pid, h, hc.pid]
  | record h outcome => cases outcome <;> rfl

theorem Leads.birth_eq (h : s.Leads s') : s'.birth = s.birth :=
  h.preserves (P := fun t => t.birth = s.birth) (fun hchange ht => hchange.birth_eq.trans ht) rfl

theorem Leads.injection_eq (h : s.Leads s') : s'.injection = s.injection := by
  have hbirth := h.birth_eq
  simp only [birth, Prod.mk.injEq] at hbirth
  exact hbirth.2.1

theorem Leads.started_eq (h : s.Leads s') : s'.started = s.started := by
  have hbirth := h.birth_eq
  simp only [birth, Prod.mk.injEq] at hbirth
  exact hbirth.2.2.2.1

/-- A subject is running until its exit is recorded. -/
def Consistent (s : Subject) : Prop := s.isRunning = true ↔ s.exit = none

theorem Changes.consistent (h : s.Changes s') (hs : s.Consistent) : s'.Consistent := by
  cases h with
  | report | child => exact hs
  | stop h =>
    have hnone : s.exit = none := hs.mp h
    simp [Consistent, isRunning, hnone]
  | record h outcome => cases outcome <;> simp [Consistent, isRunning, Subject.record]
  | kill => simp [Consistent, isRunning, killed]

theorem Leads.consistent (h : s.Leads s') (hs : s.Consistent) : s'.Consistent :=
  h.preserves Changes.consistent hs

theorem Launched.consistent {spec : ProcessSpec} {added : List Entry} (h : Launched spec added s) :
    s.Consistent := by
  cases h <;> simp [Consistent, isRunning, ofChild, ofFault]

/-- The child of a subject was collected with a status. -/
def Collected (s : Subject) (status : WaitStatus) : Prop :=
  ∃ c, s.child = some c ∧ c.status = some status

theorem Changes.collected {status : WaitStatus} (h : s.Changes s') (hs : s.Collected status) :
    s'.Collected status := by
  obtain ⟨c, hc, hstatus⟩ := hs
  cases h with
  | report | stop | kill => exact ⟨c, hc, hstatus⟩
  | child h hfollows =>
    obtain rfl := Option.some.inj (hc.symm.trans h)
    exact ⟨_, rfl, hfollows.status status hstatus⟩
  | record h outcome => cases outcome <;> exact ⟨c, hc, hstatus⟩

theorem Leads.collected {status : WaitStatus} (h : s.Leads s') (hs : s.Collected status) :
    s'.Collected status :=
  h.preserves (fun hchange => hchange.collected) hs

end Invariants

end Subject
end Proctor
