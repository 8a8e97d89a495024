import Proctor.Host.Journal

/-!
# What a computation on a host brings about

A computation on a host only adds to the journal, and the latest reading of the clock never
decreases. `Ensures` states both, together with what is known of the added entries, of the
result and of the world that is left. Nothing is assumed of the host: its answers are
arbitrary, so what is shown here holds of every behaviour of the operating system.
-/
namespace Proctor.Run
variable {σ α β : Type}

/-- What holds of the entries that a computation adds, the newest first, of its result and of
the world that it leaves. -/
def Ensures (m : Run σ α) (w : World σ) (Q : List Entry → α → World σ → Prop) : Prop :=
  ∃ added, (m.run w).2.journal = added ++ w.journal ∧ w.latest ≤ (m.run w).2.latest ∧
    Q added (m.run w).1 (m.run w).2

section Rules
variable {m : Run σ α} {f : α → Run σ β} {w : World σ}
  {P Q : List Entry → α → World σ → Prop} {R : List Entry → β → World σ → Prop}

theorem Ensures.mono (h : Ensures m w P)
    (hPQ : ∀ added a w', w.latest ≤ w'.latest → P added a w' → Q added a w') :
    Ensures m w Q := by
  obtain ⟨added, hj, hl, hP⟩ := h
  exact ⟨added, hj, hl, hPQ _ _ _ hl hP⟩

/-- The result and the world that a computation leaves are its own. -/
theorem Ensures.with_run (h : Ensures m w P) :
    Ensures m w fun added a w' =>
      (m.run w = (a, w') ∧ w'.journal = added ++ w.journal) ∧ P added a w' := by
  obtain ⟨added, hj, hl, hP⟩ := h
  exact ⟨added, hj, hl, ⟨rfl, hj⟩, hP⟩

theorem Ensures.of_pure {a : α} (h : Q [] a w) : Ensures (pure a) w Q :=
  ⟨[], rfl, Nat.le_refl _, h⟩

/-- Entries that are added later stand in front of those that were added before. -/
theorem Ensures.seq (hm : Ensures m w P)
    (hf : ∀ added a w', w.latest ≤ w'.latest → P added a w' →
      Ensures (f a) w' fun later b w'' => R (later ++ added) b w'') :
    Ensures (m >>= f) w R := by
  obtain ⟨added, hj, hl, hP⟩ := hm
  obtain ⟨later, hj', hl', hR⟩ := hf _ _ _ hl hP
  refine ⟨later ++ added, ?_, Nat.le_trans hl hl', hR⟩
  change ((f (m.run w).1).run (m.run w).2).2.journal = _
  rw [hj', hj, List.append_assoc]

/-- A question leaves no entry, whatever the answer. -/
theorem Ensures.of_ask {question : σ → α × σ}
    (h : Q [] (question w.host).1 { w with host := (question w.host).2 }) :
    Ensures (ask question) w Q :=
  ⟨[], rfl, Nat.le_refl _, h⟩

theorem ask_ensures {α : Type} (question : σ → α × σ) (w : World σ) :
    Ensures (ask question) w fun added _ _ => added = [] :=
  .of_ask rfl

/-- A question, and what is done with its answer. -/
theorem Ensures.ask_seq {question : σ → α × σ}
    (h : Ensures (f (question w.host).1) { w with host := (question w.host).2 } R) :
    Ensures (ask question >>= f) w R := by
  refine (Ensures.of_ask (Q := fun added a w' => added = [] ∧ a = (question w.host).1 ∧
    w' = { w with host := (question w.host).2 }) ⟨rfl, rfl, rfl⟩).seq ?_
  rintro _ _ _ - ⟨rfl, rfl, rfl⟩
  simpa using h

theorem Ensures.of_note {e : Entry} {Q : List Entry → Unit → World σ → Prop}
    (h : Q [e] () { w with journal := e :: w.journal }) : Ensures (note e) w Q :=
  ⟨[e], rfl, Nat.le_refl _, h⟩

/-- An entry, and what is done next. -/
theorem Ensures.note_seq {e : Entry} {g : Unit → Run σ β}
    (h : ∀ w', w'.latest = w.latest → Ensures (g ()) w' fun later b w'' => R (later ++ [e]) b w'') :
    Ensures (note e >>= g) w R := by
  refine (Ensures.of_note (Q := fun added _ w' => added = [e] ∧ w'.latest = w.latest)
    ⟨rfl, rfl⟩).seq ?_
  rintro _ _ w' - ⟨rfl, hw'⟩
  exact h w' hw'

/-- A step that can fail, and what is done after it if it does not. -/
theorem Ensures.except_seq {ε : Type} {m : ExceptT ε (Run σ) α} {f : α → ExceptT ε (Run σ) β}
    {P : List Entry → Except ε α → World σ → Prop} {R : List Entry → Except ε β → World σ → Prop}
    (hm : Ensures m.run w P)
    (herror : ∀ added e w', w.latest ≤ w'.latest → P added (.error e) w' → R added (.error e) w')
    (hok : ∀ added a w', w.latest ≤ w'.latest → P added (.ok a) w' →
      Ensures (f a).run w' fun later b w'' => R (later ++ added) b w'') :
    Ensures (m >>= f).run w R := by
  rw [ExceptT.run_bind]
  refine hm.seq fun added a w' hw' hP => ?_
  cases a with
  | error e => exact .of_pure (herror added e w' hw' hP)
  | ok a => exact hok added a w' hw' hP

/-- A step that cannot fail among steps that can. -/
theorem Ensures.lift_seq {ε : Type} {m : Run σ α} {f : α → ExceptT ε (Run σ) β}
    {R : List Entry → Except ε β → World σ → Prop} (hm : Ensures m w P)
    (hf : ∀ added a w', w.latest ≤ w'.latest → P added a w' →
      Ensures (f a).run w' fun later b w'' => R (later ++ added) b w'') :
    Ensures (ExceptT.lift m >>= f).run w R := by
  rw [ExceptT.run_bind_lift]
  exact hm.seq hf

/-- What follows an entry is done in a world whose journal has it. -/
theorem run_note_bind (e : Entry) (g : Unit → Run σ β) :
    (note e >>= g).run w = (g ()).run { w with journal := e :: w.journal } := rfl

/-- A run of two steps is a run of the first and then one of the second. -/
theorem exists_of_run_bind {b : β} {w' : World σ} (h : (m >>= f).run w = (b, w')) :
    ∃ a w₁, m.run w = (a, w₁) ∧ (f a).run w₁ = (b, w') :=
  ⟨_, _, rfl, h⟩

end Rules

variable (host : Host σ) (w : World σ)

/-- A reading of the clock is the latest one. -/
theorem now_ensures :
    Ensures (now host) w fun added t w' => added = [] ∧ w'.latest = t := by
  refine ⟨[], rfl, ?_, rfl, rfl⟩
  change w.latest ≤ if w.latest ≤ (host.now w.host).1 then (host.now w.host).1 else w.latest
  split
  · assumption
  · exact Nat.le_refl _

/-- Sending a signal leaves an entry with an instant that is not before the latest reading. -/
theorem send_ensures (recipient : Recipient) (signal : Signal) :
    Ensures (send host recipient signal) w fun added d _ =>
      ∃ t, w.latest ≤ t ∧ added = [.sent recipient signal t d] := by
  refine (now_ensures host w).seq ?_
  rintro _ t w' hw' ⟨rfl, rfl⟩
  refine .ask_seq (.note_seq fun _ _ => .of_pure ?_)
  exact ⟨_, hw', rfl⟩

theorem rest_ensures (limit : Option Instant) :
    Ensures (rest host limit) w fun added _ _ => added = [] :=
  ask_ensures _ w

/-- Waiting leaves no entry. -/
theorem restUntil_ensures (limit : Instant) (patience : Nat) :
    Ensures (restUntil host limit patience) w fun added _ _ => added = [] := by
  induction patience generalizing w with
  | zero => exact .of_pure rfl
  | succ patience ih =>
    refine (now_ensures host w).seq ?_
    rintro _ t w' - ⟨rfl, -⟩
    split
    · exact .of_pure rfl
    · refine (rest_ensures host w' _).seq ?_
      rintro _ _ w'' - rfl
      simpa using ih w''

theorem pause_ensures (span : Duration) (patience : Nat) :
    Ensures (pause host span patience) w fun added _ _ => added = [] := by
  refine (now_ensures host w).seq ?_
  rintro _ t w' - ⟨rfl, -⟩
  simpa using restUntil_ensures host w' _ _

end Proctor.Run
