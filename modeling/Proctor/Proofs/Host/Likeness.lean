import Proctor.Proofs.Host.Alike

/-!
# States in which a host answers alike

A run learns nothing of a host but its answers. If a host answers alike in two states, up to the
numbers it gives to processes and files and up to the readings of its clock, then a computation that
begins in one of them does what it does in the other. What stands in the journal has no part in it.

The clock may show different readings as long as they cannot be told apart by what is done with
them: they are compared, they are waited for, and spans are added to them, which the clock can hold
in both states or in neither.
-/
namespace Proctor

/-- Recipients that related numbers stand for. -/
inductive Recipient.Like (pids : Pid → Pid → Prop) : Recipient → Recipient → Prop where
  | process {pid pid' : Pid} (h : pids pid pid') : Like pids (.process pid) (.process pid')
  | group {pid pid' : Pid} (h : pids pid pid') : Like pids (.group pid) (.group pid')

namespace Run
variable {σ α β : Type}

/-- Pairs that are related in both places. -/
def Both {α' β' : Type} (R : α → α' → Prop) (S : β → β' → Prop) (a : α × β) (b : α' × β') : Prop :=
  R a.1 b.1 ∧ S a.2 b.2

/-- In related states two questions bring related answers, and they leave related states. -/
def Answers (states : σ → σ → Prop) (R : α → β → Prop) (question : σ → α × σ)
    (question' : σ → β × σ) : Prop :=
  ∀ s s', states s s' → Both R states (question s) (question' s')

end Run

open Run (Answers Both OrFault)

/-- A likeness of states in which a host answers alike, with what the numbers and the instants of
one state are in the other. The spans are those that are added to readings of the clock. -/
structure Likeness {σ : Type} (host : Host σ) (spans : Duration → Prop) where
  states : σ → σ → Prop
  pids : Pid → Pid → Prop
  sinks : Sink → Sink → Prop
  /-- Readings of the clock. -/
  readings : Instant → Instant → Prop
  /-- Instants that are waited for. -/
  limits : Instant → Instant → Prop
  readings_le {a a' b b' : Instant} (ha : readings a a') (hb : readings b b') : a ≤ b ↔ a' ≤ b'
  limits_le {a a' b b' : Instant} (ha : limits a a') (hb : limits b b') : a ≤ b ↔ a' ≤ b'
  reached_eq {limit limit' now now' : Instant} (hlimit : limits limit limit')
    (hnow : readings now now') : limit.reached now = limit'.reached now'
  add? {t t' : Instant} {span : Duration} (hspan : spans span) (h : readings t t') :
    Option.Rel limits (t.add? span) (t'.add? span)
  deadline {t t' : Instant} {span : Duration} (hspan : spans span) (h : readings t t') :
    limits (t.deadline span) (t'.deadline span)
  now : Answers states readings host.now host.now
  openSink : Answers states (OrFault sinks) host.openSink host.openSink
  shareSink {sink sink' : Sink} (h : sinks sink sink') :
    Answers states (OrFault Eq) (host.shareSink sink) (host.shareSink sink')
  drain {sink sink' : Sink} (h : sinks sink sink') :
    Answers states (OrFault Eq) (host.drain sink) (host.drain sink')
  spawn {out out' err err' : Sink} (command : CommandLine) (environment : Environment)
    (hout : sinks out out') (herr : sinks err err') :
    Answers states (OrFault pids) (host.spawn ⟨command, environment, out, err⟩)
      (host.spawn ⟨command, environment, out', err'⟩)
  collect {pid pid' : Pid} (h : pids pid pid') :
    Answers states Eq (host.collect pid) (host.collect pid')
  send {recipient recipient' : Recipient} (h : recipient.Like pids recipient') (signal : Signal) :
    Answers states Eq (host.send recipient signal) (host.send recipient' signal)
  abandon {pid pid' : Pid} (h : pids pid pid') {s s' : σ} (hs : states s s') :
    states (host.abandon pid s) (host.abandon pid' s')
  coin : Answers states Eq host.coin host.coin
  rest {limit limit' : Instant} (h : limits limit limit') {s s' : σ} (hs : states s s') :
    states (host.rest (some limit) s) (host.rest (some limit') s')

namespace Likeness
variable {σ α β γ δ ε : Type} {host : Host σ} {spans : Duration → Prop}

/-- Every state is like itself. -/
def refl (host : Host σ) : Likeness host fun _ => True where
  states := Eq
  pids := Eq
  sinks := Eq
  readings := Eq
  limits := Eq
  readings_le := by rintro a _ b _ rfl rfl; rfl
  limits_le := by rintro a _ b _ rfl rfl; rfl
  reached_eq := by rintro limit _ now _ rfl rfl; rfl
  add? := by
    rintro t _ span - rfl
    cases t.add? span with
    | none => exact .none
    | some t => exact .some rfl
  deadline := by rintro t _ span - rfl; rfl
  now := by rintro s _ rfl; exact ⟨rfl, rfl⟩
  openSink := by
    rintro s _ rfl
    refine ⟨?_, rfl⟩
    cases (host.openSink s).1 <;> rfl
  shareSink := by
    rintro sink _ rfl s _ rfl
    refine ⟨?_, rfl⟩
    cases (host.shareSink sink s).1 <;> rfl
  drain := by
    rintro sink _ rfl s _ rfl
    refine ⟨?_, rfl⟩
    cases (host.drain sink s).1 <;> rfl
  spawn := by
    rintro out _ err _ command environment rfl rfl s _ rfl
    refine ⟨?_, rfl⟩
    cases (host.spawn ⟨command, environment, out, err⟩ s).1 <;> rfl
  collect := by rintro pid _ rfl s _ rfl; exact ⟨rfl, rfl⟩
  send := by rintro recipient _ (⟨rfl⟩ | ⟨rfl⟩) signal s _ rfl <;> exact ⟨rfl, rfl⟩
  abandon := by rintro pid _ rfl s _ rfl; rfl
  coin := by rintro s _ rfl; exact ⟨rfl, rfl⟩
  rest := by rintro limit _ rfl s _ rfl; rfl

/-- Worlds in which the host answers alike. Their journals need not be related. -/
structure Worlds (like : Likeness host spans) (w w' : World σ) : Prop where
  host : like.states w.host w'.host
  latest : like.readings w.latest w'.latest

/-- Two computations in like worlds come to related results, and leave like worlds. -/
def Agree (like : Likeness host spans) (R : α → β → Prop) (m : Run σ α) (m' : Run σ β) : Prop :=
  ∀ w w', like.Worlds w w' → Both R like.Worlds (m.run w) (m'.run w')

variable {like : Likeness host spans}

section Rules
variable {R : α → β → Prop} {S : γ → δ → Prop} {m : Run σ α} {m' : Run σ β} {f : α → Run σ γ}
  {f' : β → Run σ δ}

theorem Agree.of_pure {a : α} {b : β} (h : R a b) : like.Agree R (pure a) (pure b) :=
  fun _ _ hw => ⟨h, hw⟩

theorem Agree.seq (hm : like.Agree R m m') (hf : ∀ a b, R a b → like.Agree S (f a) (f' b)) :
    like.Agree S (m >>= f) (m' >>= f') := by
  intro w w' hw
  obtain ⟨hresult, hworld⟩ := hm w w' hw
  exact hf _ _ hresult _ _ hworld

theorem Agree.ask {question : σ → α × σ} {question' : σ → β × σ}
    (h : Answers like.states R question question') :
    like.Agree R (Run.ask question) (Run.ask question') := by
  intro w w' hw
  obtain ⟨hanswer, hhost⟩ := h w.host w'.host hw.host
  exact ⟨hanswer, hhost, hw.latest⟩

/-- Whatever is noted, what follows does not depend on it. -/
theorem Agree.note_seq {g : Unit → Run σ γ} {g' : Unit → Run σ δ} {e e' : Entry}
    (h : like.Agree S (g ()) (g' ())) : like.Agree S (Run.note e >>= g) (Run.note e' >>= g') :=
  fun _ _ hw => h _ _ ⟨hw.host, hw.latest⟩

/-- A step that can fail, and what is done after it if it does not. -/
theorem Agree.except_seq {m : ExceptT ε (Run σ) α} {m' : ExceptT ε (Run σ) β}
    {f : α → ExceptT ε (Run σ) γ} {f' : β → ExceptT ε (Run σ) δ}
    (hm : like.Agree (OrFault R) m.run m'.run)
    (hf : ∀ a b, R a b → like.Agree (OrFault S) (f a).run (f' b).run) :
    like.Agree (OrFault S) (m >>= f).run (m' >>= f').run := by
  rw [ExceptT.run_bind, ExceptT.run_bind]
  refine hm.seq fun _ _ h => ?_
  obtain ⟨e, rfl, rfl⟩ | ⟨a, b, rfl, rfl, hab⟩ := h.cases
  · exact .of_pure rfl
  · exact hf a b hab

/-- A step that cannot fail among steps that can. -/
theorem Agree.lift_seq {f : α → ExceptT ε (Run σ) γ} {f' : β → ExceptT ε (Run σ) δ}
    (hm : like.Agree R m m')
    (hf : ∀ a b, R a b → like.Agree (OrFault S) (f a).run (f' b).run) :
    like.Agree (OrFault S) (ExceptT.lift m >>= f).run (ExceptT.lift m' >>= f').run := by
  rw [ExceptT.run_bind_lift, ExceptT.run_bind_lift]
  exact hm.seq hf

end Rules

/-- The earlier ones of related instants are related. -/
theorem earlier {a a' b b' : Instant} (ha : like.limits a a') (hb : like.limits b b') :
    like.limits (a.earlier b) (a'.earlier b') := by
  unfold Instant.earlier
  by_cases h : a ≤ b
  · rwa [if_pos h, if_pos ((like.limits_le ha hb).mp h)]
  · rwa [if_neg h, if_neg (mt (like.limits_le ha hb).mpr h)]

variable (like)

theorem now_agree : like.Agree like.readings (Run.now host) (Run.now host) := by
  refine (Agree.ask like.now).seq fun reading reading' h w w' hw => ?_
  have hlatest : like.readings (if w.latest ≤ reading then reading else w.latest)
      (if w'.latest ≤ reading' then reading' else w'.latest) := by
    by_cases hle : w.latest ≤ reading
    · rwa [if_pos hle, if_pos ((like.readings_le hw.latest h).mp hle)]
    · rw [if_neg hle, if_neg (mt (like.readings_le hw.latest h).mpr hle)]
      exact hw.latest
  exact ⟨hlatest, hw.host, hlatest⟩

theorem send_agree {recipient recipient' : Recipient} (h : recipient.Like like.pids recipient')
    (signal : Signal) :
    like.Agree Eq (Run.send host recipient signal) (Run.send host recipient' signal) := by
  refine like.now_agree.seq fun t t' _ => ?_
  refine (Agree.ask (like.send h signal)).seq ?_
  rintro delivery _ rfl
  exact .note_seq (.of_pure rfl)

theorem rest_agree {limit limit' : Instant} (h : like.limits limit limit') :
    like.Agree Eq (Run.rest host (some limit)) (Run.rest host (some limit')) :=
  .ask fun _ _ hs => ⟨rfl, like.rest h hs⟩

theorem restUntil_agree {limit limit' : Instant} (h : like.limits limit limit') (patience : Nat) :
    like.Agree Eq (Run.restUntil host limit patience) (Run.restUntil host limit' patience) := by
  induction patience with
  | zero => exact .of_pure rfl
  | succ patience ih =>
    refine like.now_agree.seq fun now now' hnow => ?_
    simp only [like.reached_eq h hnow]
    split
    · exact .of_pure rfl
    · exact (like.rest_agree h).seq fun _ _ _ => ih

theorem pause_agree {span : Duration} (hspan : spans span) (patience : Nat) :
    like.Agree Eq (Run.pause host span patience) (Run.pause host span patience) :=
  like.now_agree.seq fun _ _ h => like.restUntil_agree (like.deadline hspan h) patience

end Likeness
end Proctor
