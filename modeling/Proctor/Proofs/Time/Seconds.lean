import Proctor.Proofs.Number.Exact
import Proctor.Time.Duration

/-!
# Seconds and durations

What becomes of an exact number of seconds when it is made a duration.
-/
namespace Proctor.Duration

/-- The integer that the exact number of nanoseconds in some seconds is rounded to. -/
theorem roundSeconds_nearest (m : Nat) (e : Int) :
    Number.Nearest (roundSeconds m e) (m * 2 ^ e * perSecond) := by
  have hden : 0 < 1 <<< (-e).toNat := by
    rw [Nat.shiftLeft_eq]
    positivity
  have hnearest := Number.roundDiv_nearest ((m * perSecond) <<< e.toNat) hden
  rw [Number.shift_div_shift, Nat.cast_mul, mul_right_comm] at hnearest
  exact hnearest

/-- A number that becomes a duration has an exact value, and the duration has the nearest number of
nanoseconds. -/
theorem nearest_of_ofSeconds? {x : Binary64} {d : Duration} (h : ofSeconds? x = some d) :
    ∃ s, x.value? = some s ∧ Number.Nearest d.nanoseconds (s * perSecond) := by
  cases x with
  | finite negative m e =>
    refine ⟨_, rfl, ?_⟩
    by_cases hm : m = 0
    · obtain rfl : zero = d := by simpa [ofSeconds?, hm] using h
      have hnone : Number.Nearest 0 0 := ⟨by norm_num, fun _ => rfl⟩
      simpa [hm, zero] using hnone
    · cases negative with
      | true => simp [ofSeconds?, hm] at h
      | false =>
        have hround : d.nanoseconds = roundSeconds m e := by
          simp only [ofSeconds?, ofNanoseconds?, if_neg hm, Bool.false_eq_true, if_false] at h
          split_ifs at h
          obtain rfl := Option.some.inj h
          rfl
        rw [hround]
        simpa using roundSeconds_nearest m e
  | infinite negative => cases h
  | nan => cases h

/-- A number that becomes a duration has an exact value, and the duration is above zero when this is
more than half a nanosecond. -/
theorem value_of_ofSeconds? {x : Binary64} {d : Duration} (h : ofSeconds? x = some d) :
    ∃ s, x.value? = some s ∧ (0 < d.nanoseconds ↔ 1 / (2 * perSecond) < s) := by
  obtain ⟨s, hs, hnearest⟩ := nearest_of_ofSeconds? h
  refine ⟨s, hs, ?_⟩
  rw [Nat.pos_iff_ne_zero, Ne, hnearest.eq_zero_iff, not_le, div_lt_iff₀ (by norm_num),
    div_lt_iff₀ (by norm_num)]
  constructor <;> intro h <;> linarith

/-- A larger number never becomes a shorter duration. -/
theorem le_of_ofSeconds? {x y : Binary64} {s t : ℚ} {d e : Duration} (hx : x.value? = some s)
    (hy : y.value? = some t) (hle : s ≤ t) (hd : ofSeconds? x = some d)
    (he : ofSeconds? y = some e) : d ≤ e := by
  obtain ⟨_, hs, hnear⟩ := nearest_of_ofSeconds? hd
  obtain ⟨_, ht, hnear'⟩ := nearest_of_ofSeconds? he
  obtain rfl := Option.some.inj (hx.symm.trans hs)
  obtain rfl := Option.some.inj (hy.symm.trans ht)
  exact hnear.mono hnear' (mul_le_mul_of_nonneg_right hle (by norm_num))

theorem eq_of_le_of_le {d e : Duration} (h : d ≤ e) (h' : e ≤ d) : d = e := by
  obtain ⟨n, _⟩ := d
  obtain ⟨m, _⟩ := e
  obtain rfl : n = m := Nat.le_antisymm h h'
  rfl

/-- A duration that stands for some seconds: it has fewer than `2 ^ 64` whole seconds and a part of
one, and is off by half a nanosecond at most. If it is off by just that, its nanoseconds are even. -/
structure StandsFor (d : Duration) (s : ℚ) : Prop where
  seconds_lt : d.seconds < 2 ^ 64
  subsecond_lt : d.subsecond < 10 ^ 9
  near : |(d.seconds + d.subsecond / 10 ^ 9 : ℚ) - s| ≤ 1 / (2 * 10 ^ 9)
  even : |(d.seconds + d.subsecond / 10 ^ 9 : ℚ) - s| = 1 / (2 * 10 ^ 9) → d.nanoseconds % 2 = 0

theorem standsFor_of_nearest {d : Duration} {s : ℚ}
    (h : Number.Nearest d.nanoseconds (s * perSecond)) : d.StandsFor s := by
  have hparts : (d.nanoseconds : ℚ) = (d.seconds + d.subsecond / 10 ^ 9) * 10 ^ 9 := by
    rw [← d.seconds_add_subsecond, add_mul, div_mul_cancel₀ _ (by norm_num)]
    push_cast
    ring
  have hscaled : |(d.nanoseconds : ℚ) - s * perSecond| =
      |(d.seconds + d.subsecond / 10 ^ 9 : ℚ) - s| * 10 ^ 9 := by
    rw [hparts, show ((perSecond : ℕ) : ℚ) = 10 ^ 9 by norm_num, ← sub_mul, abs_mul,
      abs_of_pos (show (0 : ℚ) < 10 ^ 9 by norm_num)]
  obtain ⟨hnear, heven⟩ := h
  rw [hscaled] at hnear heven
  refine ⟨d.seconds_lt, d.subsecond_lt, ?_, fun htie => heven ?_⟩
  · rw [le_div_iff₀ (by norm_num)]
    linarith
  · rw [htie]
    norm_num

/-- The longest of some durations is above zero when one of them is. -/
theorem longest_pos_iff {ds : List Duration} :
    0 < (longest ds).nanoseconds ↔ ∃ d ∈ ds, 0 < d.nanoseconds := by
  constructor
  · intro h
    have hne : ds ≠ [] := by
      rintro rfl
      exact absurd h (by decide)
    exact ⟨_, longest_mem hne, h⟩
  · rintro ⟨d, hd, hpos⟩
    have hle : d.nanoseconds ≤ (longest ds).nanoseconds := le_longest hd
    omega

end Proctor.Duration
