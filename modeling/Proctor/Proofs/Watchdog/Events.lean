import Proctor.Case.Watchdog

/-!
# Events on a bench

Watchdogs are armed, polled, disarmed and dropped while time passes and timers run, in any
order. A watchdog that is held changes only by its own timer, one that was put away does not
change at all, and what becomes of the current one depends on nothing but it and the clock.
-/
namespace Proctor
namespace Watchdog

/-- A timer that is not aborted makes its watchdog fire once the clock has come to its deadline. -/
theorem run_of_armed {w : Watchdog} (harmed : w.aborted = false) (now : Instant) :
    w.run now = { w with fired := w.fired || w.due.reached now } := by
  obtain ⟨due, fired, aborted⟩ := w
  obtain rfl : aborted = false := harmed
  cases hreached : due.reached now <;> simp [run, hreached]

namespace Bench

/-- What can happen on a bench. -/
inductive Event where
  | arm (span : Duration)
  /-- So many nanoseconds pass, and no timer runs. -/
  | pass (nanoseconds : Nat)
  /-- The timer of the current watchdog runs. -/
  | timer
  /-- The timer of a watchdog that was put away runs. -/
  | oldTimer (place : Nat)
  | poll
  | disarm
  | drop
  deriving DecidableEq

/-- What one event does to a bench, and the answer to whoever polls or disarms: whether the
current watchdog had fired, if there was one. Arming for an instant that the clock cannot hold
changes nothing. -/
def step (b : Bench) : Event → Option Bool × Bench
  | .arm span => (none, (b.arm span).getD b)
  | .pass n => (none, { b with now := ⟨b.now.nanoseconds + n⟩ })
  | .timer => (none, { b with current := b.current.map (·.run b.now) })
  | .oldTimer place => (none, { b with retired := b.retired.modify place (·.run b.now) })
  | .poll => (b.current.map (·.fired), b)
  | .disarm => b.disarm
  | .drop => (none, b.release)

/-- A bench after some events. -/
def after (b : Bench) (events : List Event) : Bench := events.foldl (fun b e => (b.step e).2) b

/-- Whether an event takes the current watchdog away. -/
def letsGo (b : Bench) : Event → Bool
  | .arm span => (b.arm span).isSome
  | .disarm | .drop => true
  | _ => false

/-- Whether the current watchdog is held throughout some events. -/
def holds (b : Bench) : List Event → Bool
  | [] => true
  | e :: rest => !b.letsGo e && (b.step e).2.holds rest

/-- Whether the timer of the current watchdog runs during some events, at a time when the clock
has come to an instant. -/
def GoesOff (b : Bench) (due : Instant) (events : List Event) : Prop :=
  ∃ earlier later, events = earlier ++ .timer :: later ∧
    due.reached (b.after earlier).now = true

/-- The timers of all watchdogs that were put away are aborted. -/
def Settled (b : Bench) : Prop := ∀ w ∈ b.retired, w.aborted = true

section Histories
variable {b other : Bench} {w : Watchdog} {due : Instant} {e : Event} {events more : List Event}

@[simp] theorem after_nil : b.after [] = b := rfl

@[simp] theorem after_cons : b.after (e :: events) = (b.step e).2.after events := rfl

@[simp] theorem after_append : b.after (events ++ more) = (b.after events).after more :=
  List.foldl_append

theorem holds_append :
    b.holds (events ++ more) = (b.holds events && (b.after events).holds more) := by
  induction events generalizing b with
  | nil => rfl
  | cons e events ih => simp [holds, ih, Bool.and_assoc]

theorem not_goesOff_nil : ¬ b.GoesOff due [] := by
  rintro ⟨earlier, later, h, -⟩
  cases earlier <;> cases h

theorem goesOff_cons :
    b.GoesOff due (e :: events) ↔
      e = .timer ∧ due.reached b.now = true ∨ (b.step e).2.GoesOff due events := by
  constructor
  · rintro ⟨_ | ⟨e, earlier⟩, later, h, hreached⟩
    · cases h
      exact .inl ⟨rfl, hreached⟩
    · cases h
      exact .inr ⟨earlier, later, rfl, hreached⟩
  · rintro (⟨rfl, hreached⟩ | ⟨earlier, later, rfl, hreached⟩)
    · exact ⟨[], events, rfl, hreached⟩
    · exact ⟨e :: earlier, later, rfl, hreached⟩

/-- What went off has gone off, whatever happens next. -/
theorem GoesOff.append (h : b.GoesOff due events) : b.GoesOff due (events ++ more) := by
  obtain ⟨earlier, later, rfl, hreached⟩ := h
  exact ⟨earlier, later ++ more, by simp, hreached⟩

/-- A timer does not go off before the instant it is set to. -/
theorem GoesOff.le (h : b.GoesOff due events) :
    ∃ earlier later, events = earlier ++ .timer :: later ∧ due ≤ (b.after earlier).now := by
  obtain ⟨earlier, later, hevents, hreached⟩ := h
  exact ⟨earlier, later, hevents, Instant.le_of_reached hreached⟩

theorem step_now_le (b : Bench) (e : Event) : b.now ≤ (b.step e).2.now := by
  cases e with
  | arm span =>
    simp only [step, arm]
    cases Watchdog.arm b.now span <;> exact Nat.le_refl _
  | pass n => exact Nat.le_add_right _ n
  | timer | oldTimer | poll | disarm | drop => exact Nat.le_refl _

/-- The clock never goes back. -/
theorem now_le_after (b : Bench) (events : List Event) : b.now ≤ (b.after events).now := by
  induction events generalizing b with
  | nil => exact Nat.le_refl _
  | cons e events ih => exact Nat.le_trans (b.step_now_le e) (ih _)

/-- While a watchdog is held, only its own timer changes it. -/
theorem step_current (hw : b.current = some w) (harmed : w.aborted = false)
    (hholds : b.letsGo e = false) :
    (b.step e).2.current =
      some { w with fired := w.fired || (decide (e = .timer) && w.due.reached b.now) } := by
  cases e with
  | arm span =>
    have hnone : b.arm span = none := by simpa [letsGo] using hholds
    simp [step, hnone, hw]
  | timer => simp [step, hw, run_of_armed harmed]
  | pass | oldTimer | poll => simp [step, hw]
  | disarm | drop => cases hholds

/-- A watchdog that is held has fired if it had done so before or if its timer went off. -/
theorem after_current (hw : b.current = some w) (harmed : w.aborted = false)
    (hholds : b.holds events = true) :
    ∃ fired, (b.after events).current = some { w with fired := fired } ∧
      (fired = true ↔ w.fired = true ∨ b.GoesOff w.due events) := by
  induction events generalizing b w with
  | nil => exact ⟨w.fired, hw, by simp [not_goesOff_nil]⟩
  | cons e events ih =>
    simp only [holds, Bool.and_eq_true, Bool.not_eq_true'] at hholds
    have hstep := step_current hw harmed hholds.1
    obtain ⟨fired, hcurrent, hfired⟩ := ih hstep harmed hholds.2
    refine ⟨fired, hcurrent, ?_⟩
    rw [hfired, goesOff_cons, Bool.or_eq_true, Bool.and_eq_true, decide_eq_true_iff, or_assoc]

/-- The watchdogs that were put away stay as they are, and at most the current one joins them. -/
theorem step_retired (h : b.Settled) (e : Event) :
    (b.step e).2.retired =
      (if b.letsGo e then (b.current.map abort).toList else []) ++ b.retired := by
  cases e with
  | arm span =>
    cases harm : b.arm span with
    | none => simp [step, letsGo, harm]
    | some next =>
      obtain ⟨w, -, rfl⟩ := Option.map_eq_some_iff.mp harm
      simp [step, letsGo, harm, release]
  | oldTimer place =>
    have hrun : ∀ w ∈ b.retired, w.run b.now = w := fun w hw => by simp [run, h w hw]
    simp only [step, letsGo, Bool.false_eq_true, if_false, List.nil_append]
    refine List.ext_getElem (by simp) fun i _ hi => ?_
    rw [List.getElem_modify]
    split
    · exact hrun _ (List.getElem_mem hi)
    · rfl
  | pass | timer | poll | disarm | drop => rfl

theorem Settled.step (h : b.Settled) (e : Event) : (b.step e).2.Settled := by
  intro w hw
  rw [step_retired h, List.mem_append] at hw
  obtain hw | hw := hw
  · split at hw
    · obtain ⟨_, -, rfl⟩ := by simpa using hw
      rfl
    · cases hw
  · exact h w hw

theorem Settled.after (h : b.Settled) (events : List Event) : (b.after events).Settled := by
  induction events generalizing b with
  | nil => exact h
  | cons e events ih => exact ih (h.step e)

/-- No history changes a watchdog that was put away. -/
theorem Settled.retired_suffix (h : b.Settled) (events : List Event) :
    b.retired <:+ (b.after events).retired := by
  induction events generalizing b with
  | nil => exact List.suffix_rfl
  | cons e events ih =>
    have hstep : b.retired <:+ (b.step e).2.retired := by
      rw [step_retired h]
      exact List.suffix_append _ _
    exact hstep.trans (ih (h.step e))

/-- Who lets go of a watchdog puts it away as it is. -/
theorem Settled.letsGo_retired (h : b.Settled) (hw : b.current = some w)
    (hgo : b.letsGo e = true) : (b.step e).2.retired = w.abort :: b.retired := by
  rw [step_retired h, if_pos hgo, hw]
  rfl

/-- A watchdog is armed in place of the current one if the clock can hold its deadline. -/
theorem arm_of_fits {span : Duration} (hfits : (b.now.add? span).isSome = true) :
    b.arm span = some { b.release with current := some ⟨b.now.after span, false, false⟩ } := by
  obtain ⟨due, hdue⟩ := Option.isSome_iff_exists.mp hfits
  simp [arm, Watchdog.arm, hdue, Instant.eq_after_of_add? hdue]

theorem letsGo_arm (span : Duration) : b.letsGo (.arm span) = (b.now.add? span).isSome := by
  simp [letsGo, arm, Watchdog.arm]

/-- An event after which some watchdog is held armed it or left it where it was. -/
theorem isSome_of_step (h : (b.step e).2.current.isSome = true) :
    (∃ span, e = .arm span ∧ (b.now.add? span).isSome = true) ∨
      b.letsGo e = false ∧ b.current.isSome = true := by
  cases e with
  | arm span =>
    by_cases hfits : (b.now.add? span).isSome = true
    · exact .inl ⟨span, rfl, hfits⟩
    · rw [← letsGo_arm, Bool.not_eq_true] at hfits
      have hnone : b.arm span = none := by simpa [letsGo] using hfits
      exact .inr ⟨hfits, by simpa [step, hnone] using h⟩
  | disarm | drop => cases h
  | pass | timer | oldTimer | poll => exact .inr ⟨rfl, by simpa [step] using h⟩

/-- Whether the timer that runs belongs to a watchdog that was put away. -/
def Event.isOld : Event → Bool
  | .oldTimer _ => true
  | _ => false

/-- What one event does to the current watchdog depends on it and on the clock alone. -/
theorem step_congr (hnow : b.now = other.now) (hcurrent : b.current = other.current) (e : Event) :
    (b.step e).1 = (other.step e).1 ∧ (b.step e).2.now = (other.step e).2.now ∧
      (b.step e).2.current = (other.step e).2.current := by
  cases e with
  | arm span =>
    simp only [step, arm, hnow]
    cases Watchdog.arm other.now span with
    | none => exact ⟨trivial, hnow, hcurrent⟩
    | some w => exact ⟨trivial, hnow, rfl⟩
  | pass | timer | oldTimer | poll | disarm | drop =>
    simp [step, disarm, release, hnow, hcurrent]

/-- Neither the watchdogs that were put away nor their timers have a part in what becomes of the
current one. -/
theorem after_congr (hnow : b.now = other.now) (hcurrent : b.current = other.current)
    (events : List Event) :
    (b.after events).now = (other.after (events.filter (!·.isOld))).now ∧
      (b.after events).current = (other.after (events.filter (!·.isOld))).current := by
  induction events generalizing b other with
  | nil => exact ⟨hnow, hcurrent⟩
  | cons e events ih =>
    cases hold : e.isOld with
    | true =>
      rw [List.filter_cons_of_neg (by simp [hold])]
      cases e with
      | oldTimer place => exact ih hnow hcurrent
      | _ => cases hold
    | false =>
      rw [List.filter_cons_of_pos (by simp [hold])]
      obtain ⟨-, hnow', hcurrent'⟩ := step_congr hnow hcurrent e
      exact ih hnow' hcurrent'

end Histories

end Bench
end Watchdog
end Proctor
