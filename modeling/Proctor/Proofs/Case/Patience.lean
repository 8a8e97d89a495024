import Proctor.Proofs.Case.Containment
import Proctor.Proofs.Case.Escalation
import Proctor.Proofs.Watchdog.Events

/-!
# Enough patience

A wait is given up after some wake-ups, so that a run comes to an end on every host. On a host that
rests as long as it is asked to no wait is ever given up, if the patience is more than twice the
number of processes: a wait for an instant takes one rest, and the supervision of a process changes
its stage at most twice. What is left to be supervised is measured by a weight, which every round of
waiting lowers, unless the watchdog has fired by its end.
-/
namespace Proctor

theorem Instant.reached_mono {limit t t' : Instant} (h : t ≤ t')
    (hreached : limit.reached t = true) : limit.reached t' = true :=
  decide_eq_true (Nat.le_trans (of_decide_eq_true hreached) h)

theorem Instant.earlier_eq_or (a b : Instant) : a.earlier b = a ∨ a.earlier b = b := by
  unfold earlier
  split
  · exact .inl rfl
  · exact .inr rfl

/-- A host that rests until an instant has been reached, with a clock that does not go back while a
child is asked for its exit. -/
structure Host.Punctual {σ : Type} (host : Host σ) : Prop where
  reached_rest (limit : Instant) (s : σ) :
    limit.reached (host.now (host.rest (some limit) s)).1 = true
  collect_le (pid : Pid) (s : σ) : (host.now s).1 ≤ (host.now (host.collect pid s).2).1

namespace Run
variable {σ : Type} {host : Host σ} {w : World σ} {limit : Instant}

/-- The clock of the host has come to an instant. -/
def Due (host : Host σ) (limit : Instant) (w : World σ) : Prop :=
  limit.reached (host.now w.host).1 = true

theorem rest_due (hhost : host.Punctual) (w : World σ) (limit : Instant) :
    (rest host (some limit)).Ensures w fun _ _ w' => Due host limit w' :=
  .of_ask (hhost.reached_rest limit w.host)

theorem now_due (h : Due host limit w) :
    (now host).Ensures w fun _ t w' => limit.reached t = true ∧ w'.latest = t := by
  obtain ⟨added, hjournal, hlatest, -, -⟩ := now_ensures host w
  refine ⟨added, hjournal, hlatest, ?_, rfl⟩
  change limit.reached (if w.latest ≤ (host.now w.host).1 then (host.now w.host).1
    else w.latest) = true
  split
  · exact h
  · rename_i hle
    exact Instant.reached_mono (Nat.le_of_not_le hle) h

variable {patience : Nat} (hhost : host.Punctual) (hpatience : 2 ≤ patience)
include hhost hpatience

theorem restUntil_over (w : World σ) (limit : Instant) :
    (restUntil host limit patience).Ensures w fun _ reached _ => reached = true := by
  obtain ⟨patience, rfl⟩ := Nat.exists_eq_add_of_le' hpatience
  refine (now_ensures host w).seq ?_
  rintro _ t w₁ - -
  split
  · exact .of_pure rfl
  · refine (rest_due hhost w₁ limit).seq ?_
    rintro _ _ w₂ - hdue
    refine (now_due hdue).seq ?_
    rintro _ t w₃ - ⟨hreached, -⟩
    rw [if_pos hreached]
    exact .of_pure rfl

theorem pause_over (w : World σ) (span : Duration) :
    (pause host span patience).Ensures w fun _ passed _ => passed = true := by
  refine (now_ensures host w).seq ?_
  rintro _ t w₁ - -
  exact restUntil_over hhost hpatience w₁ _

end Run

/-- How many stages supervision can still go through before it only waits for the exit. -/
def Supervision.weight : Supervision → Nat
  | .fresh => 2
  | .untilSignal _ => 1
  | .untilExit | .over | .overflow => 0

/-- Supervision goes on to its next stage when it is looked at after some instant. -/
inductive Supervision.Moves (now : Instant) : Supervision → Prop where
  | fresh : Moves now .fresh
  | untilSignal {due : Instant} (h : due.reached now = true) : Moves now (.untilSignal due)

theorem Supervision.Moves.mono {now now' : Instant} {stage : Supervision} (h : stage.Moves now)
    (hle : now ≤ now') : stage.Moves now' := by
  cases h with
  | fresh => exact .fresh
  | untilSignal h => exact .untilSignal (Instant.reached_mono hle h)

theorem Supervision.Moves.weight_pos {now : Instant} {stage : Supervision} (h : stage.Moves now) :
    0 < stage.weight := by
  cases h <;> exact Nat.succ_pos _

namespace Subject
variable {σ : Type} {host : Host σ} (w : World σ)

/-- Looking at a child asks the host at most once. -/
theorem Child.exit?_host (c : Child) : (Child.exit? host c).Ensures w fun _ _ w' =>
    w'.host = w.host ∨ w'.host = (host.collect c.pid w.host).2 := by
  unfold Child.exit?
  cases c.status with
  | some status => exact .of_pure (.inl rfl)
  | none =>
    refine .ask_seq ?_
    split
    · exact .of_pure (.inr rfl)
    · exact ⟨[_], rfl, Nat.le_refl _, .inr rfl⟩
    · exact ⟨[_], rfl, Nat.le_refl _, .inr rfl⟩

section Waiting
variable (hhost : host.Punctual)
include hhost

theorem Child.exit?_due {w : World σ} {limit : Instant} (h : Run.Due host limit w) (c : Child) :
    (Child.exit? host c).Ensures w fun _ _ w' => Run.Due host limit w' := by
  refine (Child.exit?_host w c).mono ?_
  rintro _ _ w' - (hsame | hasked)
  · rwa [Run.Due, hsame]
  · rw [Run.Due, hasked]
    exact Instant.reached_mono (hhost.collect_le c.pid w.host) h

variable {patience : Nat} (hpatience : 2 ≤ patience)
include hpatience

theorem waitChild_over (limit : Instant) (c : Child) :
    (waitChild host limit patience c).Ensures w fun _ r _ => r.1 ≠ .stalled := by
  obtain ⟨patience, rfl⟩ := Nat.exists_eq_add_of_le' hpatience
  refine (Child.exit?_host w c).seq ?_
  rintro _ ⟨exit, c₁⟩ w₁ - -
  cases exit with
  | some outcome => exact .of_pure nofun
  | none =>
    refine (Run.now_ensures host w₁).seq ?_
    rintro _ t w₂ - -
    split
    · exact .of_pure nofun
    · refine (Run.rest_due hhost w₂ limit).seq ?_
      rintro _ _ w₃ - hdue
      refine (Child.exit?_due hhost hdue c₁).seq ?_
      rintro _ ⟨exit, c₂⟩ w₄ - hdue
      cases exit with
      | some outcome => exact .of_pure nofun
      | none =>
        refine (Run.now_due hdue).seq ?_
        rintro _ t w₅ - ⟨hreached, -⟩
        rw [if_pos hreached]
        exact .of_pure nofun

variable (s : Subject) (grace : Duration)

theorem kill_over : (s.kill host grace patience).Ensures w fun _ r _ => r.1 = true := by
  unfold kill
  split
  · exact .of_pure rfl
  · rename_i c _
    refine (signalGroup_ensures host w c.pid .kill).seq ?_
    rintro _ _ w₁ - -
    refine (Child.kill_toGroup host c w₁).seq ?_
    rintro _ c₁ w₂ - -
    refine (Run.now_ensures host w₂).seq ?_
    rintro _ t w₃ - -
    refine (waitChild_over w₃ hhost hpatience _ c₁).seq ?_
    rintro _ ⟨waited, c₂⟩ w₄ - hwaited
    cases waited with
    | exited => exact .of_pure rfl
    | timedOut => exact .note_seq fun _ _ => .of_pure rfl
    | stalled => exact absurd rfl hwaited

theorem terminate_over : (s.terminate host grace patience).Ensures w fun _ r _ => r.1 = true := by
  unfold terminate
  split
  · rename_i c _ _
    refine (signalGroup_ensures host w c.pid .terminate).seq ?_
    rintro _ _ w₁ - -
    refine (Run.now_ensures host w₁).seq ?_
    rintro _ t w₂ - -
    refine (waitChild_over w₂ hhost hpatience _ c).seq ?_
    rintro _ ⟨waited, c₁⟩ w₃ - hwaited
    cases waited with
    | exited => exact .of_pure rfl
    | timedOut => exact kill_over w₃ hhost hpatience _ grace
    | stalled => exact absurd rfl hwaited
  · exact .of_pure rfl

end Waiting

section Supervising

theorem tryRecord_ends (s : Subject) (c : Child) :
    (s.tryRecord host c).Ensures w fun _ _ _ => True := by
  refine (Child.exit?_host w c).seq ?_
  rintro _ ⟨exit, child⟩ w₁ - -
  cases exit <;> exact .of_pure trivial

theorem deliver_ends (s : Subject) (kind : SignalKind) :
    (s.deliver host kind).Ensures w fun _ _ _ => True := by
  unfold deliver
  split
  · refine (Run.send_ensures host w _ _).seq ?_
    rintro _ delivery w₁ - -
    cases delivery <;> exact .of_pure trivial
  · exact .of_pure trivial

theorem superviseExit_weight (s : Subject) :
    (s.superviseExit host).Ensures w fun _ r _ => r.1.weight = 0 := by
  unfold superviseExit
  split
  · rename_i c _ _
    refine (tryRecord_ends w s c).seq ?_
    rintro _ ⟨ended, s₁⟩ w₁ - -
    cases ended <;> exact .of_pure rfl
  · exact .of_pure rfl

theorem inject_weight (s : Subject) (kind : SignalKind) :
    (s.inject host kind).Ensures w fun _ r _ => r.1.weight = 0 := by
  refine (deliver_ends w s kind).seq ?_
  rintro _ report w₁ - -
  exact superviseExit_weight w₁ _

/-- When the time of a signal has come, the signal is sent or the exit is seen. -/
theorem superviseSignal_weight (s : Subject) (c : Child) (kind : SignalKind) (due : Instant) :
    (s.superviseSignal host c kind due).Ensures w fun _ r _ =>
      r.1.weight ≤ 1 ∧ (due.reached w.latest = true → r.1.weight = 0) := by
  have hinject (w' : World σ) (s' : Subject) : (s'.inject host kind).Ensures w' fun _ r _ =>
      r.1.weight ≤ 1 ∧ (due.reached w.latest = true → r.1.weight = 0) := by
    refine (inject_weight w' s' kind).mono ?_
    rintro _ r w'' - hr
    exact ⟨by omega, fun _ => hr⟩
  refine .ask_seq ((Run.now_ensures host _).seq ?_)
  rintro _ t w₁ hw₁ ⟨-, rfl⟩
  split
  · exact hinject w₁ s
  · refine (tryRecord_ends w₁ s c).seq ?_
    rintro _ ⟨ended, s₁⟩ w₂ hw₂ -
    cases ended with
    | true => exact .of_pure ⟨Nat.zero_le 1, fun _ => rfl⟩
    | false =>
      refine (Run.now_ensures host w₂).seq ?_
      rintro _ t w₃ hw₃ ⟨-, rfl⟩
      split
      · exact hinject w₃ s₁
      · rename_i hearly
        refine .of_pure ⟨Nat.le_refl 1, fun hreached => absurd ?_ hearly⟩
        exact Instant.reached_mono (Nat.le_trans hw₁ (Nat.le_trans hw₂ hw₃)) hreached

/-- A look at a process never adds to what is left of its supervision, and lowers it if supervision
has something to go on with. -/
theorem supervise_weight (s : Subject) (stage : Supervision) :
    (s.supervise host stage).Ensures w fun _ r _ =>
      r.1.weight ≤ stage.weight ∧ (stage.Moves w.latest → r.1.weight < stage.weight) := by
  cases stage with
  | fresh =>
    have hlower {r : Supervision × Subject} (hr : r.1.weight ≤ 1) :
        r.1.weight ≤ Supervision.fresh.weight ∧ (Supervision.fresh.Moves w.latest →
          r.1.weight < Supervision.fresh.weight) :=
      ⟨Nat.le_succ_of_le hr, fun _ => Nat.lt_succ_of_le hr⟩
    simp only [supervise]
    split
    · refine (superviseExit_weight w s).mono ?_
      rintro _ r w₁ - hr
      exact hlower (by omega)
    · split
      · exact .of_pure (hlower (Nat.zero_le 1))
      · exact .of_pure (hlower (Nat.zero_le 1))
      · refine (superviseSignal_weight w s _ _ _).mono ?_
        rintro _ r w₁ - ⟨hr, -⟩
        exact hlower hr
  | untilSignal due =>
    simp only [supervise]
    split
    · refine (superviseSignal_weight w s _ _ due).mono ?_
      rintro _ r w₁ - ⟨hr, hreached⟩
      refine ⟨hr, ?_⟩
      rintro (_ | hdue)
      rw [hreached hdue]
      exact Nat.one_pos
    · exact .of_pure ⟨Nat.zero_le 1, fun _ => Nat.one_pos⟩
  | untilExit =>
    refine (superviseExit_weight w s).mono ?_
    rintro _ r w₁ - hr
    exact ⟨Nat.le_of_eq hr, fun h => absurd h.weight_pos (Nat.lt_irrefl 0)⟩
  | «over» | overflow =>
    exact .of_pure ⟨Nat.le_refl 0, fun h => absurd h.weight_pos (Nat.lt_irrefl 0)⟩

/-- What is left of the supervision of some processes. -/
def totalWeight : List (Supervision × Subject) → Nat
  | [] => 0
  | (stage, _) :: rest => stage.weight + totalWeight rest

theorem totalWeight_fresh (subjects : List Subject) :
    totalWeight (subjects.map (.fresh, ·)) = 2 * subjects.length := by
  induction subjects with
  | nil => rfl
  | cons s rest ih =>
    rw [List.map_cons, totalWeight, ih, List.length_cons, Supervision.weight]
    omega

/-- Going round some processes lowers what is left, if one of them has something to go on with, or
else it comes upon one that overflows. -/
theorem superviseAll_weight (staged : List (Supervision × Subject)) :
    (superviseAll host staged).Ensures w fun _ next _ => next.length = staged.length ∧
      totalWeight next ≤ totalWeight staged ∧ ((∃ x ∈ staged, x.1.Moves w.latest) →
        totalWeight next < totalWeight staged ∨ ∃ x ∈ next, x.1 = .overflow) := by
  induction staged generalizing w with
  | nil => exact .of_pure ⟨rfl, Nat.le_refl 0, by simp⟩
  | cons x rest ih =>
    obtain ⟨stage, s⟩ := x
    refine (supervise_weight w s stage).seq ?_
    rintro _ next w₁ hw₁ ⟨hle, hlt⟩
    split
    · rename_i hover
      refine .of_pure ⟨rfl, Nat.add_le_add_right hle _, fun _ => .inr ⟨next, ?_, hover⟩⟩
      exact List.mem_cons_self
    · refine (ih w₁).seq ?_
      rintro _ others w₂ - ⟨hlength, hothers, hmoves⟩
      refine .of_pure ⟨congrArg Nat.succ hlength, Nat.add_le_add hle hothers, ?_⟩
      rintro ⟨x, hx, hx'⟩
      obtain rfl | hx := List.mem_cons.mp hx
      · exact .inl (Nat.add_lt_add_of_lt_of_le (hlt hx') hothers)
      · obtain hothers' | ⟨y, hy, hover⟩ := hmoves ⟨x, hx, hx'.mono hw₁⟩
        · exact .inl (Nat.add_lt_add_of_le_of_lt hle hothers')
        · exact .inr ⟨y, List.mem_cons_of_mem _ hy, hover⟩

end Supervising
end Subject

namespace TestCase
open Subject

variable {σ : Type} {host : Host σ}

/-- What a case waits for next is the deadline or the time of a signal. -/
theorem nextDue_eq_or (watchdog : Watchdog) (staged : List (Supervision × Subject)) :
    nextDue watchdog staged = watchdog.due ∨
      ∃ x ∈ staged, x.1 = .untilSignal (nextDue watchdog staged) := by
  unfold nextDue
  generalize watchdog.due = due
  induction staged generalizing due with
  | nil => exact .inl rfl
  | cons x rest ih =>
    obtain ⟨stage, s⟩ := x
    have hlater (due' : Instant) (hdue : due' = due ∨ stage = .untilSignal due') :
        nextDue { watchdog with due := due' } rest = due ∨ ∃ x ∈ (stage, s) :: rest,
          x.1 = .untilSignal (nextDue { watchdog with due := due' } rest) := by
      obtain h | ⟨x, hx, h⟩ := ih due'
      · rw [nextDue, h]
        exact hdue.imp id fun hdue => ⟨_, List.mem_cons_self, hdue⟩
      · exact .inr ⟨x, List.mem_cons_of_mem _ hx, h⟩
    cases stage with
    | untilSignal other =>
      refine hlater (due.earlier other) ?_
      exact (Instant.earlier_eq_or due other).imp id fun h => congrArg _ h.symm
    | fresh | untilExit | «over» | overflow => exact hlater due (.inl rfl)

theorem ending?_ne_stalled (staged : List (Supervision × Subject)) :
    ending? staged ≠ some .stalled := by
  unfold ending?
  split
  · nofun
  · split <;> nofun

/-- A case has something to go on with: the watchdog has fired, or nothing is left to be waited
for, or the supervision of a process moves on. -/
def GoesOn (watchdog : Watchdog) (staged : List (Supervision × Subject)) (now : Instant) : Prop :=
  watchdog.fired = true ∨ staged = [] ∨ ∃ x ∈ staged, x.1.Moves now

/-- When the clock has come to the next instant that is waited for, there is something to go on
with. -/
theorem goesOn_of_reached {watchdog : Watchdog} {staged : List (Supervision × Subject)}
    {now : Instant} (harmed : watchdog.aborted = false)
    (h : (nextDue watchdog staged).reached now = true) :
    GoesOn (watchdog.run now) staged now := by
  obtain hdue | ⟨x, hx, hdue⟩ := nextDue_eq_or watchdog staged
  · rw [hdue] at h
    refine .inl ?_
    rw [Watchdog.run_of_armed harmed, h, Bool.or_true]
  · refine .inr (.inr ⟨x, hx, ?_⟩)
    rw [hdue]
    exact .untilSignal h

theorem judge_ne_stalled (w : World σ) (c : TestCase) (phase : Phase) (subjects : List Subject) :
    (c.judge host phase subjects).Ensures w fun _ ending _ => ending ≠ .stalled := by
  refine (judge_ensures host w c phase subjects).mono ?_
  rintro _ ending _ - ⟨-, hjudged⟩
  cases hjudged <;> nofun

section Punctual
variable (hhost : host.Punctual)
include hhost

/-- Every round of waiting lowers what is left, and so no case runs out of patience. -/
theorem await_over {watchdog : Watchdog} (harmed : watchdog.aborted = false) {patience : Nat}
    {staged : List (Supervision × Subject)} (hpatience : totalWeight staged < patience)
    (w : World σ) (h : GoesOn watchdog staged w.latest) :
    (await host watchdog patience staged).Ensures w fun _ r _ =>
      r.1 ≠ .stalled ∧ r.2.length = staged.length := by
  induction patience generalizing watchdog staged w with
  | zero => cases hpatience
  | succ patience ih =>
    have hcount (next : List (Supervision × Subject)) (hlength : next.length = staged.length) :
        (next.map (·.2)).length = staged.length := by
      rw [List.length_map, hlength]
    refine .ask_seq ?_
    split
    · exact .of_pure ⟨nofun, hcount staged rfl⟩
    · refine (superviseAll_weight _ staged).seq ?_
      rintro _ next w₁ - ⟨hlength, -, hmoves⟩
      split
      · rename_i ending hending
        refine .of_pure ⟨?_, hcount next hlength⟩
        rintro rfl
        exact ending?_ne_stalled next hending
      · rename_i hending
        split
        · exact .of_pure ⟨nofun, hcount next hlength⟩
        · rename_i hquiet
          have hlower : totalWeight next < patience := by
            obtain hfired | rfl | hmove := h
            · exact absurd hfired hquiet
            · obtain rfl := List.eq_nil_of_length_eq_zero hlength
              cases hending
            · obtain hlt | ⟨x, hx, hover⟩ := hmoves hmove
              · omega
              · have hnone := not_overflow (by rw [hending]; nofun) x hx
                exact absurd hover hnone
          refine (Run.rest_due hhost w₁ _).seq ?_
          rintro _ _ w₂ - hdue
          refine (Run.now_due hdue).seq ?_
          rintro _ _ w₃ - ⟨hreached, rfl⟩
          have harmed' : (watchdog.run w₃.latest).aborted = false := by
            rw [Watchdog.run_of_armed harmed]
            exact harmed
          rw [← hlength]
          exact ih harmed' hlower w₃ (goesOn_of_reached harmed hreached)

variable (w : World σ) {c : TestCase} {pace : Pace}

theorem terminateAll_over {subjects : List Subject} {patience : Nat} (grace : Duration)
    (hpatience : 2 * subjects.length < patience) :
    (terminateAll host grace patience subjects).Ensures w fun _ r _ => r.1 = true := by
  induction subjects generalizing w with
  | nil => exact .of_pure rfl
  | cons s rest ih =>
    rw [List.length_cons] at hpatience
    refine (terminate_over w hhost (by omega) s grace).seq ?_
    rintro _ ⟨ended, s₁⟩ w₁ - hended
    obtain rfl : ended = true := hended
    refine (ih w₁ (by omega)).seq ?_
    rintro _ ⟨ended, rest₁⟩ w₂ - hended
    exact .of_pure hended

/-- No launch is kept waiting, and no more processes are launched than there are. -/
theorem launchAll_over {specs : List ProcessSpec} (hpatience : 2 * specs.length < pace.patience) :
    (launchAll host pace specs).Ensures w fun _ r _ =>
      r.1.length ≤ specs.length ∧ r.2 ≠ some .stalled := by
  induction specs generalizing w with
  | nil => exact .of_pure ⟨Nat.le_refl 0, nofun⟩
  | cons spec rest ih =>
    rw [List.length_cons] at hpatience
    refine (Run.pause_over hhost (by omega) w pace.stagger).seq ?_
    rintro _ passed w₁ - hpassed
    obtain rfl : passed = true := hpassed
    refine (launch_ensures host w₁ spec).seq ?_
    rintro _ launched w₂ - -
    cases launched with
    | error fault => exact .of_pure ⟨Nat.zero_le _, nofun⟩
    | ok s =>
      refine (ih w₂ (by omega)).seq ?_
      rintro _ ⟨subjects, setback⟩ w₃ - ⟨hlength, hsetback⟩
      exact .of_pure ⟨Nat.succ_le_succ hlength, hsetback⟩

theorem overrun_over {subjects : List Subject} (hpatience : 2 * subjects.length < pace.patience) :
    (c.overrun host pace subjects).Ensures w fun _ r _ => r.1 ≠ .stalled := by
  refine .note_seq fun w₁ _ => ?_
  refine (terminateAll_over hhost w₁ pace.grace hpatience).seq ?_
  rintro _ ⟨ended, subjects₁⟩ w₂ - hended
  obtain rfl : ended = true := hended
  refine (judge_ne_stalled w₂ c .timedOut subjects₁).seq ?_
  rintro _ ending w₃ - hending
  exact .of_pure hending

theorem watch_over {subjects : List Subject} (hpatience : 2 * subjects.length < pace.patience) :
    (c.watch host pace subjects).Ensures w fun _ r _ => r.1 ≠ .stalled := by
  refine (Run.now_ensures host w).seq ?_
  rintro _ now w₁ - -
  split
  · exact .of_pure nofun
  · rename_i watchdog harm
    obtain ⟨due, -, rfl⟩ := Option.map_eq_some_iff.mp harm
    refine .note_seq fun w₂ _ => ?_
    have hstart : GoesOn ⟨due, false, false⟩ (subjects.map (.fresh, ·)) w₂.latest := by
      cases subjects with
      | nil => exact .inr (.inl rfl)
      | cons s rest => exact .inr (.inr ⟨_, List.mem_cons_self, .fresh⟩)
    refine (await_over hhost rfl (by rwa [totalWeight_fresh]) w₂ hstart).seq ?_
    rintro _ ⟨ending, subjects₁⟩ w₃ - ⟨hending, hlength⟩
    rw [List.length_map] at hlength
    cases ending with
    | completed =>
      refine (judge_ne_stalled w₃ c .completed subjects₁).seq ?_
      rintro _ ending w₄ - hending
      exact .of_pure hending
    | timedOut =>
      have hpatience₁ : 2 * subjects₁.length < pace.patience := by
        simpa only [hlength] using hpatience
      exact overrun_over hhost w₃ hpatience₁
    | overflow => exact .of_pure nofun
    | stalled => exact absurd rfl hending

theorem execute_over (hpatience : 2 * c.processes.length < pace.patience) :
    (c.execute host pace).Ensures w fun _ r _ => r.1 ≠ .stalled := by
  refine .note_seq fun w₁ _ => .note_seq fun w₂ _ => ?_
  refine (launchAll_over hhost w₂ hpatience).seq ?_
  rintro _ ⟨subjects, setback⟩ w₃ - ⟨hlength, hsetback⟩
  have hpatience₁ : 2 * subjects.length < pace.patience := by
    have hlength : subjects.length ≤ c.processes.length := hlength
    omega
  cases setback with
  | none => exact watch_over hhost w₃ hpatience₁
  | some setback =>
    cases setback with
    | fault fault => exact .of_pure nofun
    | stalled => exact absurd rfl hsetback

/-- With enough patience for its processes a case never stalls on a punctual host. -/
theorem run_ne_stalled (hpatience : 2 * c.processes.length < pace.patience) :
    ((c.run host pace).run w).1 ≠ .stalled := by
  obtain ⟨_, -, -, hending⟩ := execute_over hhost w hpatience
  exact hending

/-- With enough patience a case launches all of its processes, unless a launch is refused before the
host is asked to start the process. -/
theorem run_attempts_all (hpatience : 2 * c.processes.length < pace.patience) :
    (c.run host pace).Ensures w fun added ending _ =>
      attempts added = c.processes.map (·.name) ∨ ∃ fault, ending = .fault fault := by
  refine (run_ensures host w c pace).with_run.mono ?_
  rintro _ ending w' - ⟨⟨hrun, -⟩, _, _, subjects, _, -, -, rfl, hcourse, -, hdropped, -⟩
  obtain ⟨setback, hbegun, hsetback⟩ := hcourse.begun
  have hnames := (hbegun.go_on (hdropped.forall_entry (·.not_launches)) rfl).attempts_eq.1
  obtain hlength | hstalled | ⟨_, fault, -, -, hfault, -⟩ := hbegun.length_or
  · rw [hlength, List.take_length] at hnames
    exact .inl hnames
  · have hending := run_ne_stalled hhost w (c := c) hpatience
    rw [hrun] at hending
    exact absurd (hsetback _ hstalled) hending
  · exact .inr ⟨fault, hsetback _ hfault⟩

end Punctual

/-- A host whose clock comes to whatever is waited for is punctual. -/
theorem punctual_exitingHost : exitingHost.Punctual where
  reached_rest _ _ := decide_eq_true (Nat.le_refl _)
  collect_le _ _ := Nat.le_refl _

example (w : World (Nat × Nat)) : ((earlyCase.run exitingHost earlyPace).run w).1 ≠ .stalled :=
  run_ne_stalled punctual_exitingHost w (by decide)

end TestCase
end Proctor
