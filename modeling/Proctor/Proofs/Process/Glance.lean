import Proctor.Proofs.Process.Supervision

/-!
# A glance at a process that waits for its signal

Each time a process with a planned signal is looked at, chance decides whether its exit or its
delay comes first. What comes of it is decided by three things: that choice, the reading of the
clock, and what asking for the exit would bring. If the delay comes first and is over, the exit
is not asked for, and the signal is sent even to a process that has exited.
-/
namespace Proctor

/-- What there is to be seen of a process at a glance. -/
structure Glance where
  /-- Whether the exit comes before the delay. -/
  exitFirst : Bool
  now : Instant
  /-- What asking for the exit would bring. -/
  exit : Collection

/-- Whether the delay comes first and is over. -/
def Glance.hurried (g : Glance) (due : Instant) : Bool := !g.exitFirst && due.reached g.now

/-- Whether supervision still waits for the time of the signal. -/
def Supervision.undecided : Supervision → Bool
  | .fresh => true
  | .untilSignal _ => true
  | _ => false

namespace Subject
variable {σ : Type} (host : Host σ)

/-- What there is to be seen of a process in some world. -/
def glance (pid : Pid) (w : World σ) : Glance :=
  let (exitFirst, h) := host.coin w.host
  let (now, w) := (Run.now host).run { w with host := h }
  ⟨exitFirst, now, (host.collect pid w.host).1⟩

variable (w : World σ) {s : Subject} {c : Child} {i : Injection} {due : Instant}

/-- What comes of a glance: the signal is sent, or the exit is recorded and the signal skipped, or
nothing has happened yet. -/
inductive Seen (s : Subject) (c : Child) (i : Injection) (due : Instant) (g : Glance) :
    List Entry → Supervision × Subject → Prop
  | sent {later : List Entry} {t : Instant} {d : Delivery} {r : Supervision × Subject}
      (hg : g.hurried due = true ∨ g.exit = .pending) (hr : r.1.undecided = false) :
      Seen s c i due g (later ++ [.sent (.process c.pid) i.kind.signal t d]) r
  | skipped {e : Entry} {s' : Subject} (hg : g.hurried due = false) (hexit : g.exit ≠ .pending)
      (he : e.signals = false) (hr : s'.report = some (.skipped i.kind)) :
      Seen s c i due g [e] (.over, s')
  | waited (hg : g.hurried due = false) (hexit : g.exit = .pending) :
      Seen s c i due g [] (.untilSignal due, s)

/-- Once the signal is no longer to be sent only the exit is waited for. -/
theorem superviseExit_decided (s : Subject) (w : World σ) :
    ((s.superviseExit host).run w).1.1.undecided = false := by
  unfold superviseExit
  split
  · change (if ((s.tryRecord host _).run w).1.1 then Supervision.over else .untilExit).undecided = _
    split <;> rfl
  · rfl

theorem inject_sends (h : s.Awaits c) :
    (s.inject host i.kind).Ensures w fun added r _ => r.1.undecided = false ∧
      ∃ later t d, added = later ++ [.sent (.process c.pid) i.kind.signal t d] := by
  refine (deliver_ensures host w h i.kind).seq ?_
  rintro _ _ w' - ⟨t, d, -, rfl, rfl⟩
  have hfits : Supervision.untilExit.Fits { s with report := some (d.report i.kind) } :=
    ⟨c, h.with_report _, rfl⟩
  refine (superviseExit_ensures host w' hfits).with_run.mono ?_
  rintro later r _ - ⟨⟨hrun, -⟩, -⟩
  refine ⟨?_, later, t, d, rfl⟩
  have hdecided := superviseExit_decided host { s with report := some (d.report i.kind) } w'
  rwa [hrun] at hdecided

/-- What comes of a glance is decided by what there is to be seen. -/
theorem superviseSignal_seen (h : s.Awaits c) :
    (s.superviseSignal host c i.kind due).Ensures w fun added r _ =>
      Seen s c i due (glance host c.pid w) added r := by
  refine .ask_seq ((Run.now_ensures host _).with_run.seq ?_)
  rintro _ t w₁ - ⟨⟨hnow, -⟩, rfl, -⟩
  have hglance : glance host c.pid w = ⟨(host.coin w.host).1, t, (host.collect c.pid w₁.host).1⟩ := by
    simp only [glance, hnow]
  rw [hglance]
  split
  · rename_i hhurried
    refine (inject_sends host w₁ h).mono ?_
    rintro _ r w₂ - ⟨hdecided, later, t', d, rfl⟩
    simp only [List.append_nil]
    exact .sent (.inl hhurried) hdecided
  · rename_i hcalm
    rw [Bool.not_eq_true] at hcalm
    refine (tryRecord_ensures host w₁ h).seq ?_
    rintro _ _ w₂ - (hexit | ⟨status, hexit⟩ | ⟨reason, hexit⟩)
    · refine (Run.now_ensures host w₂).seq ?_
      rintro _ t' w₃ - ⟨rfl, -⟩
      split
      · refine (inject_sends host w₃ h).mono ?_
        rintro _ r w₄ - ⟨hdecided, later, t'', d, rfl⟩
        simp only [List.append_nil]
        exact .sent (.inr hexit) hdecided
      · exact .of_pure (.waited hcalm hexit)
    · exact .of_pure (.skipped hcalm (by simp [hexit]) rfl rfl)
    · exact .of_pure (.skipped hcalm (by simp [hexit]) rfl rfl)

/-- A glance at a process whose signal is undecided, unless the clock cannot hold the time of the
signal. -/
theorem supervise_seen {stage : Supervision} (h : s.Awaits c) (hi : s.injection = some i)
    (hfits : stage.Fits s) (hundecided : stage.undecided = true)
    (hover : ((s.supervise host stage).run w).1.1 ≠ .overflow) :
    (s.supervise host stage).Ensures w fun added r _ =>
      Seen s c i (s.started.after i.delay) (glance host c.pid w) added r := by
  cases stage with
  | fresh =>
    cases hdue : s.started.add? i.delay with
    | none =>
      simp only [supervise, hi, hdue] at hover
      exact absurd rfl hover
    | some due =>
      rw [← Instant.eq_after_of_add? hdue]
      simp only [supervise, hi, hdue, h.child]
      exact superviseSignal_seen host w h
  | untilSignal due =>
    obtain ⟨_, i', _, -, hi', rfl⟩ := hfits
    obtain rfl := Option.some.inj (hi.symm.trans hi')
    simp only [supervise, hi, h.child]
    exact superviseSignal_seen host w h
  | untilExit | «over» | overflow => cases hundecided

end Subject
end Proctor
