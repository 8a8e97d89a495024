import Proctor.Proofs.Watchdog.Events
import Mathlib.Data.List.Induction

/-!
# Histories of watchdogs

Whatever the history, a watchdog is expired exactly if its timer went off since it was armed,
while it was held and once the clock had come to its deadline. It stays expired, nothing changes
it once it was let go of, and the watchdogs before it have no part in what becomes of it.
-/
namespace Proctor
namespace Watchdog.Bench

/-- A bench with nothing on it after some history. -/
def opened (start : Instant) (history : List Event) : Bench :=
  after { now := start } history

/-- What somebody who polls after some history learns: whether the watchdog is expired, if there
is one. -/
def polled (start : Instant) (history : List Event) : Option Bool :=
  ((opened start history).step .poll).1

/-- What somebody who disarms after some history learns. -/
def disarmed (start : Instant) (history : List Event) : Option Bool :=
  ((opened start history).step .disarm).1

/-- A history after which a watchdog is held: when it was armed, for how long, and what has
happened since. -/
structure HeldSince (start : Instant) (history before : List Event) (span : Duration)
    (held : List Event) : Prop where
  eq : history = before ++ .arm span :: held
  fits : ((opened start before).now.add? span).isSome = true
  holds : (opened start (before ++ [.arm span])).holds held = true

/-- Whether the timer of a watchdog has gone off since it was armed. -/
def Expires (start : Instant) (before : List Event) (span : Duration) (held : List Event) : Prop :=
  (opened start (before ++ [.arm span])).GoesOff ((opened start before).now.after span) held

section Opened
variable {start : Instant} {history before held : List Event} {span : Duration} {w : Watchdog}

theorem opened_append (start : Instant) (history more : List Event) :
    opened start (history ++ more) = (opened start history).after more :=
  after_append

theorem opened_after (start : Instant) (before : List Event) (e : Event) (held : List Event) :
    (opened start (before ++ [e])).after held = opened start (before ++ e :: held) := by
  rw [← opened_append, List.append_assoc, List.singleton_append]

theorem opened_settled (start : Instant) (history : List Event) :
    (opened start history).Settled :=
  Settled.after (fun _ h => absurd h List.not_mem_nil) history

/-- The watchdog that is held is the one that was armed, and it has fired if its timer went off. -/
theorem HeldSince.current (h : HeldSince start history before span held) :
    ∃ fired, (opened start history).current =
        some ⟨(opened start before).now.after span, fired, false⟩ ∧
      (fired = true ↔ Expires start before span held) := by
  have harmed : (opened start (before ++ [.arm span])).current =
      some ⟨(opened start before).now.after span, false, false⟩ := by
    simp [opened_append, step, arm_of_fits h.fits]
  obtain ⟨fired, hcurrent, hfired⟩ := after_current harmed rfl h.holds
  refine ⟨fired, ?_, by simpa [Expires] using hfired⟩
  rw [← hcurrent, opened_after, h.eq]

/-- A watchdog that is held was armed at some time, and has not been let go of since. -/
theorem exists_heldSince (hw : (opened start history).current.isSome = true) :
    ∃ before span held, HeldSince start history before span held := by
  -- the last event tells whether the watchdog was armed just now or had been held before
  induction history using List.reverseRecOn with
  | nil => cases hw
  | append_singleton history e ih =>
    rw [opened_append] at hw
    obtain ⟨span, rfl, hfits⟩ | ⟨hholds, hw⟩ := isSome_of_step hw
    · exact ⟨history, span, [], rfl, hfits, rfl⟩
    · obtain ⟨before, span, held, rfl, hfits, hheld⟩ := ih hw
      refine ⟨before, span, held ++ [e], by simp, hfits, ?_⟩
      rw [holds_append, hheld, opened_after]
      simp [holds, hholds]

end Opened

/-- What watchdogs promise over all histories that begin at some instant. -/
structure Safe (start : Instant) : Prop where
  /-- A watchdog is expired exactly if its timer went off since it was armed. -/
  expired_iff : ∀ history, polled start history = some true ↔
    ∃ before span held, HeldSince start history before span held ∧
      Expires start before span held
  /-- It is so only if the clock had come to its deadline while it was held. -/
  due_le : ∀ history, polled start history = some true →
    ∃ before span earlier later,
      HeldSince start history before span (earlier ++ .timer :: later) ∧
      (opened start before).now.after span ≤
        (opened start (before ++ .arm span :: earlier)).now
  /-- Once it is expired, it is so for as long as it is held. -/
  expired_stays : ∀ history more, polled start history = some true →
    (opened start history).holds more = true → polled start (history ++ more) = some true
  /-- Disarming tells of every watchdog that is held whether it was expired. -/
  disarmed_iff : ∀ history before span held, HeldSince start history before span held →
    ∃ fired, disarmed start history = some fired ∧
      (fired = true ↔ Expires start before span held)
  /-- A watchdog that is let go of is never changed again. -/
  put_away : ∀ history w e later, (opened start history).current = some w →
    (opened start history).letsGo e = true →
    ∃ newer, (opened start (history ++ e :: later)).retired =
      newer ++ w.abort :: (opened start history).retired
  /-- What becomes of a watchdog is the same whatever was on the bench before it, and whether or
  not the old timers run. -/
  apart : ∀ history span (other : Bench), other.now = (opened start history).now →
    ((opened start history).now.add? span).isSome = true →
    ∀ events e, ((((opened start history).step (.arm span)).2.after events).step e).1 =
      (((other.step (.arm span)).2.after (events.filter (!·.isOld))).step e).1

theorem polled_eq (start : Instant) (history : List Event) :
    polled start history = (opened start history).current.map (·.fired) := rfl

theorem disarmed_eq_polled (start : Instant) (history : List Event) :
    disarmed start history = polled start history := rfl

/-- Somebody who polls learns that a watchdog is expired exactly if its timer went off since it
was armed. -/
theorem polled_eq_true_iff (start : Instant) (history : List Event) :
    polled start history = some true ↔
      ∃ before span held, HeldSince start history before span held ∧
        Expires start before span held := by
  rw [polled_eq]
  constructor
  · intro h
    obtain ⟨w, hw, hfired⟩ := Option.map_eq_some_iff.mp h
    obtain ⟨before, span, held, hheld⟩ := exists_heldSince (by rw [hw]; rfl)
    obtain ⟨fired, hcurrent, hexpires⟩ := hheld.current
    obtain rfl := Option.some.inj (hw.symm.trans hcurrent)
    exact ⟨before, span, held, hheld, hexpires.mp hfired⟩
  · rintro ⟨before, span, held, hheld, hexpires⟩
    obtain ⟨fired, hcurrent, hfired⟩ := hheld.current
    rw [hcurrent, Option.map_some, hfired.mpr hexpires]

/-- Whenever a bench is opened, its watchdogs keep to this, whatever happens. -/
theorem history_safe (start : Instant) : Safe start where
  expired_iff := polled_eq_true_iff start
  due_le history h := by
    obtain ⟨before, span, held, hheld, hexpires⟩ := (polled_eq_true_iff start history).mp h
    obtain ⟨earlier, later, rfl, hle⟩ := hexpires.le
    refine ⟨before, span, earlier, later, hheld, ?_⟩
    rwa [opened_after] at hle
  expired_stays history more h hholds := by
    obtain ⟨before, span, held, hheld, hexpires⟩ := (polled_eq_true_iff start history).mp h
    refine (polled_eq_true_iff start _).mpr ⟨before, span, held ++ more, ?_, hexpires.append⟩
    refine ⟨by simp [hheld.eq], hheld.fits, ?_⟩
    rw [holds_append, hheld.holds, opened_after, ← hheld.eq, hholds]
    rfl
  disarmed_iff history before span held hheld := by
    obtain ⟨fired, hcurrent, hfired⟩ := hheld.current
    exact ⟨fired, by rw [disarmed_eq_polled, polled_eq, hcurrent]; rfl, hfired⟩
  put_away history w e later hw hgo := by
    have hsettled := opened_settled start history
    obtain ⟨newer, hnewer⟩ := (hsettled.step e).retired_suffix later
    rw [hsettled.letsGo_retired hw hgo] at hnewer
    exact ⟨newer, by rw [opened_append, after_cons, hnewer]⟩
  apart history span other hnow hfits events e := by
    have hother : (other.now.add? span).isSome = true := by rw [hnow]; exact hfits
    have hcurrent : ((opened start history).step (.arm span)).2.current =
        (other.step (.arm span)).2.current := by
      simp [step, arm_of_fits hfits, arm_of_fits hother, hnow]
    have hclock : ((opened start history).step (.arm span)).2.now =
        (other.step (.arm span)).2.now := by
      simp [step, arm_of_fits hfits, arm_of_fits hother, hnow, release]
    obtain ⟨hnow', hcurrent'⟩ := after_congr hclock hcurrent events
    exact (step_congr hnow' hcurrent' e).1

/-- An old watchdog whose timer is due when it is replaced, and a new one that is dropped before
its own timer runs. -/
example :
    let history : List Event := [.arm (.ofMilliseconds 1), .pass 2000000,
      .arm (.ofMilliseconds 3), .oldTimer 0, .timer, .poll, .pass 4000000, .drop, .oldTimer 0]
    polled ⟨0⟩ (history.take 5) = some false ∧
      disarmed ⟨0⟩ (history.take 7 ++ [.timer]) = some true ∧
      (opened ⟨0⟩ history).retired.map (·.fired) = [false, false] := by
  decide

end Watchdog.Bench
end Proctor
