import Proctor.Proofs.Case.Delivery
import Proctor.Proofs.Watchdog.Events

/-!
# Waiting is a history

The operations of a bench that wait let time pass and timers run, and so do the rounds in which
a case waits for its processes: all of them are histories of events.
-/
namespace Proctor

namespace Instant

theorem le_deadline (now : Instant) (span : Duration) : now ≤ now.deadline span := by
  rw [deadline]
  cases hadd : now.add? span with
  | none => exact Nat.le_add_right _ _
  | some due =>
    obtain rfl := eq_after_of_add? hadd
    exact Nat.le_add_right _ _

theorem lt_tick (t : Instant) : t.nanoseconds < t.tick * perMillisecond := by
  simp only [tick, perMillisecond]
  omega

/-- The later of two instants. -/
theorem exists_later (now limit : Instant) :
    ∃ t, (if now ≤ limit then limit else now) = t ∧ now ≤ t ∧ limit ≤ t ∧
      (t = limit ∨ t = now) := by
  by_cases hle : now ≤ limit
  · exact ⟨limit, if_pos hle, hle, Nat.le_refl _, .inl rfl⟩
  · exact ⟨now, if_neg hle, Nat.le_refl _, Nat.le_of_lt (Nat.not_le.mp hle), .inr rfl⟩

end Instant

namespace Watchdog.Bench

/-- Time passes or a timer runs, and nobody does anything. -/
def Event.isIdle : Event → Bool
  | .pass _ | .timer | .oldTimer _ => true
  | _ => false

section Waiting
variable {b : Bench} {w : Watchdog} {events : List Event}

/-- A watchdog is held while nobody does anything. -/
theorem holds_of_isIdle (h : events.all (·.isIdle) = true) : b.holds events = true := by
  induction events generalizing b with
  | nil => rfl
  | cons e events ih =>
    rw [List.all_cons, Bool.and_eq_true] at h
    have hstays : b.letsGo e = false := by
      cases e with
      | pass | timer | oldTimer => rfl
      | arm | poll | disarm | drop => cases h.1
    simp only [holds, hstays, ih h.2, Bool.not_false, Bool.and_self]

theorem Settled.run_retired (h : b.Settled) (instant : Instant) :
    b.retired.map (·.run instant) = b.retired := by
  have hsame : ∀ w ∈ b.retired, w.run instant = id w := fun w hw => by simp [run, h w hw]
  rw [List.map_congr_left hsame, List.map_id]

/-- Letting time pass is a history in which the current timer runs at the end. -/
theorem Settled.advance_eq (h : b.Settled) {instant : Instant} (hle : b.now ≤ instant) :
    b.advance instant =
      b.after [.pass (instant.nanoseconds - b.now.nanoseconds), .timer] := by
  have hnow : b.now.nanoseconds + (instant.nanoseconds - b.now.nanoseconds) =
      instant.nanoseconds := Nat.add_sub_cancel' hle
  simp [advance, Bench.step, hnow, h.run_retired]

/-- Sleeping is a history in which the current timer runs a tick before the end at the latest. -/
theorem Settled.sleep_eq (h : b.Settled) (span : Duration) :
    ∃ n m, b.sleep span = b.after [.pass n, .timer, .pass m] ∧
      (b.after [.pass n]).now.nanoseconds <
        (b.now.deadline span).tick * Instant.perMillisecond := by
  have hpos : 0 < (b.now.deadline span).tick := Nat.succ_pos _
  have hnow : b.now.nanoseconds < (b.now.deadline span).tick * Instant.perMillisecond :=
    Nat.lt_of_le_of_lt (b.now.le_deadline span) (Instant.lt_tick _)
  simp only [sleep]
  generalize (b.now.deadline span).tick = ticks at hpos hnow ⊢
  obtain ⟨last, hlast, hle, -, hlater⟩ :=
    b.now.exists_later ⟨(ticks - 1) * Instant.perMillisecond⟩
  have hlt : last.nanoseconds < ticks * Instant.perMillisecond := by
    obtain rfl | rfl := hlater
    · exact Nat.mul_lt_mul_of_pos_right (Nat.sub_lt hpos Nat.one_pos) (by decide)
    · exact hnow
  refine ⟨last.nanoseconds - b.now.nanoseconds,
    ticks * Instant.perMillisecond - last.nanoseconds, ?_, ?_⟩
  · rw [hlast, h.advance_eq hle]
    have hend : b.now.nanoseconds + (last.nanoseconds - b.now.nanoseconds) +
        (ticks * Instant.perMillisecond - last.nanoseconds) =
        ticks * Instant.perMillisecond := by
      have : b.now.nanoseconds ≤ last.nanoseconds := hle
      omega
    simp only [after_cons, after_nil, Bench.step, hend]
  · show b.now.nanoseconds + (last.nanoseconds - b.now.nanoseconds) < _
    rwa [Nat.add_sub_cancel' hle]

/-- Waiting for a watchdog that is held is a history too, and tells what polling at its end would
tell. -/
theorem Settled.expired_eq (h : b.Settled) (hw : b.current = some w) (harmed : w.aborted = false)
    (span : Duration) :
    ∃ events, events.all (·.isIdle) = true ∧ (b.expired span).2 = b.after events ∧
      (b.expired span).1 = ((b.after events).step .poll).1 := by
  simp only [expired, hw]
  by_cases hfired : w.fired = true
  · exact ⟨[], rfl, by rw [if_pos hfired]; exact ⟨rfl, by simp [Bench.step, hw, hfired]⟩⟩
  rw [if_neg hfired]
  by_cases hdue : w.due.tick < (b.now.deadline span).tick
  · rw [if_pos hdue]
    obtain ⟨instant, hinstant, hle, hdue', -⟩ :=
      b.now.exists_later ⟨w.due.tick * Instant.perMillisecond⟩
    have hreached : w.due.reached instant = true := decide_eq_true hdue'
    simp only [hinstant]
    refine ⟨_, ?_, h.advance_eq hle, ?_⟩
    · rfl
    · rw [← h.advance_eq hle]
      simp [Bench.step, advance, hw, run_of_armed harmed, hreached]
  · rw [if_neg hdue]
    obtain ⟨n, m, hsleep, hlt⟩ := h.sleep_eq span
    refine ⟨_, ?_, hsleep, ?_⟩
    · rfl
    · have hnot : w.due.reached (b.after [.pass n]).now = false := by
        refine decide_eq_false (Nat.not_le.mpr (Nat.lt_of_lt_of_le hlt ?_))
        exact Nat.mul_le_mul_right _ (Nat.not_lt.mp hdue)
      have hrun : w.run (b.after [.pass n]).now = w := by
        rw [run, hnot, Bool.and_false]
        rfl
      have hcurrent : (b.after [.pass n, .timer, .pass m]).current =
          b.current.map (·.run (b.after [.pass n]).now) := rfl
      simp only [Bench.step, hcurrent, hw, Option.map_some, hrun, Bool.eq_false_iff.mpr hfired]

end Waiting

end Watchdog.Bench

namespace TestCase
open Watchdog.Bench

section Waiting
variable {σ : Type} {host : Host σ} {c : TestCase} {pace : Pace} {w : World σ}
  {r first last : Round σ}

/-- The watchdog of a round, at the time of the latest reading of the clock. -/
def Round.bench (r : Round σ) : Watchdog.Bench :=
  { now := r.world.latest, current := some r.watchdog }

/-- Between two rounds time passes, and then the timer runs. -/
theorem Round.Fits.bench_next (host : Host σ) (h : r.Fits) :
    ∃ n, (r.next host).bench = r.bench.after [.pass n, .timer] := by
  obtain ⟨_, -, hlooked, -⟩ := Subject.superviseAll_ensures host (r.tossed host) r.supervised h
  have hrested := (Run.rest_ensures host (r.looked host).2
    (some (nextDue r.watchdog (r.looked host).1))).seq (R := fun _ t w' => w'.latest = t)
    fun _ _ w' _ _ => (Run.now_ensures host w').mono fun _ _ _ _ h => h.2
  obtain ⟨_, -, hle, hlatest⟩ := hrested
  have hlast : (r.rested host).2.latest = (r.rested host).1 := hlatest
  have hpassed : r.world.latest ≤ (r.rested host).1 := by
    rw [← hlast]
    exact Nat.le_trans hlooked hle
  refine ⟨(r.rested host).1.nanoseconds - r.world.latest.nanoseconds, ?_⟩
  have hnow : r.world.latest.nanoseconds +
      ((r.rested host).1.nanoseconds - r.world.latest.nanoseconds) =
      (r.rested host).1.nanoseconds := Nat.add_sub_cancel' hpassed
  simp [Round.bench, step, hnow, hlast, Round.next]

/-- Over the rounds of a wait the watchdog is what some history makes of it. -/
theorem Round.Visits.bench_eq (h : first.Visits host last) (hfits : first.Fits) :
    ∃ events, events.all (·.isIdle) = true ∧ last.bench = first.bench.after events := by
  induction h with
  | here r => exact ⟨[], rfl, rfl⟩
  | @later r r' _ _ ih =>
    obtain ⟨n, hnext⟩ := hfits.bench_next host
    obtain ⟨events, hidle, hlast⟩ := ih hfits.next
    refine ⟨.pass n :: .timer :: events, by simpa [Event.isIdle] using hidle, ?_⟩
    rw [hlast, hnext]
    rfl

/-- A case begins to wait with a watchdog that was armed at the latest reading of the clock. -/
theorem Begins.bench_current (h : Begins host c pace w first) :
    first.bench.current = some ⟨first.world.latest.after c.deadline, false, false⟩ := by
  obtain ⟨_, w₁, now, w₂, watchdog, -, hnow, harm, rfl⟩ := h
  have hlatest : w₂.latest = now := by
    obtain ⟨_, -, -, -, hlatest⟩ := Run.now_ensures host w₁
    rwa [hnow] at hlatest
  obtain ⟨due, hdue, rfl⟩ := Option.map_eq_some_iff.mp harm
  rw [Instant.eq_after_of_add? hdue, ← hlatest]
  rfl

/-- The watchdog of a case fires only when the clock has come to its deadline, counted from the
reading with which the wait began. -/
theorem Begins.deadline_le (h : Begins host c pace w first) (hvisits : first.Visits host last)
    (hfired : last.watchdog.fired = true) :
    first.world.latest.after c.deadline ≤ last.world.latest := by
  obtain ⟨events, hidle, hlast⟩ := hvisits.bench_eq h.launching.1
  obtain ⟨fired, hcurrent, hexpires⟩ :=
    after_current h.bench_current rfl (holds_of_isIdle hidle)
  rw [← hlast] at hcurrent
  have hfired' : fired = true :=
    (congrArg Watchdog.fired (Option.some.inj hcurrent)).symm.trans hfired
  have hoff := (hexpires.mp hfired').resolve_left nofun
  obtain ⟨earlier, later, rfl, hle⟩ := hoff.le
  have hnow : (first.bench.after (earlier ++ .timer :: later)).now = last.world.latest := by
    rw [← hlast]
    rfl
  rw [after_append] at hnow
  exact hnow ▸ Nat.le_trans hle (now_le_after _ _)

end Waiting
end TestCase
end Proctor
