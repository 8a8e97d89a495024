import Proctor.Number.Binary64
import Mathlib.Algebra.Order.Field.Power
import Mathlib.Algebra.Order.Field.Rat
import Mathlib.Tactic.FieldSimp
import Mathlib.Tactic.Linarith
import Mathlib.Tactic.Positivity
import Mathlib.Tactic.Ring

/-!
# Exact values

A finite double has an exact value, and so have the quotients that are rounded on the way to and
from doubles. Both are rational numbers, and what rounding does is said of them.
-/
namespace Proctor

namespace Number

/-- Shifting numerator or denominator, whichever the sign of the exponent tells, is multiplication
by a power of two. -/
theorem shift_div_shift (n : Nat) (e : Int) :
    ((n <<< e.toNat : Nat) : ℚ) / ((1 <<< (-e).toNat : Nat) : ℚ) = n * 2 ^ e := by
  rw [Nat.shiftLeft_eq, Nat.shiftLeft_eq]
  cases e with
  | ofNat k => simp
  | negSucc k =>
    have hpos : (Int.negSucc k).toNat = 0 := rfl
    have hneg : (-Int.negSucc k).toNat = k + 1 := rfl
    rw [hpos, hneg, zpow_negSucc]
    push_cast
    ring

/-- An integer that is nearest to an exact value. Of two that are, it is the even one. -/
structure Nearest (n : Nat) (v : ℚ) : Prop where
  near : |(n : ℚ) - v| ≤ 1 / 2
  even : |(n : ℚ) - v| = 1 / 2 → n % 2 = 0

/-- A quotient is rounded down when its remainder is small, and up when it is large. -/
theorem roundDiv_cases (num : Nat) {den : Nat} (hden : 0 < den) :
    (roundDiv num den = num / den ∧ 2 * (num % den) ≤ den ∧
      (2 * (num % den) = den → roundDiv num den % 2 = 0)) ∨
    (roundDiv num den = num / den + 1 ∧ den ≤ 2 * (num % den) ∧
      (2 * (num % den) = den → roundDiv num den % 2 = 0)) := by
  have hmod := Nat.mod_lt num hden
  simp only [roundDiv]
  split_ifs with hdown hup heven
  · exact .inl ⟨rfl, by omega, by omega⟩
  · exact .inr ⟨rfl, by omega, by omega⟩
  · exact .inl ⟨rfl, by omega, fun _ => heven⟩
  · exact .inr ⟨rfl, by omega, by omega⟩

theorem roundDiv_nearest (num : Nat) {den : Nat} (hden : 0 < den) :
    Nearest (roundDiv num den) (num / den) := by
  have hden' : (0 : ℚ) < den := by exact_mod_cast hden
  have hvalue : (num : ℚ) / den = (num / den : Nat) + ((num % den : Nat) : ℚ) / den := by
    rw [div_eq_iff hden'.ne', add_mul, div_mul_cancel₀ _ hden'.ne']
    exact_mod_cast (Nat.div_add_mod' num den).symm
  have hhalf : 2 * (num % den) = den ↔ ((num % den : Nat) : ℚ) / den = 1 / 2 := by
    rw [div_eq_div_iff hden'.ne' (by norm_num), mul_comm, one_mul]
    exact_mod_cast Iff.rfl
  have hbelow : 2 * (num % den) ≤ den ↔ ((num % den : Nat) : ℚ) / den ≤ 1 / 2 := by
    rw [div_le_div_iff₀ hden' (by norm_num), mul_comm, one_mul]
    exact_mod_cast Iff.rfl
  have habove : den ≤ 2 * (num % den) ↔ 1 / 2 ≤ ((num % den : Nat) : ℚ) / den := by
    rw [div_le_div_iff₀ (by norm_num) hden', mul_comm _ (2 : ℚ), one_mul]
    exact_mod_cast Iff.rfl
  have hless : ((num % den : Nat) : ℚ) / den < 1 := by
    rw [div_lt_one hden']
    exact_mod_cast Nat.mod_lt num hden
  have hpos : 0 ≤ ((num % den : Nat) : ℚ) / den := by positivity
  obtain ⟨hround, hle, heven⟩ | ⟨hround, hge, heven⟩ := roundDiv_cases num hden
  · have hdiff : |(roundDiv num den : ℚ) - num / den| = ((num % den : Nat) : ℚ) / den := by
      rw [hround, hvalue, sub_add_cancel_left, abs_neg, abs_of_nonneg hpos]
    exact ⟨hdiff ▸ hbelow.mp hle, fun htie => heven (hhalf.mpr (hdiff ▸ htie))⟩
  · have hdiff : |(roundDiv num den : ℚ) - num / den| = 1 - ((num % den : Nat) : ℚ) / den := by
      rw [hround, hvalue, Nat.cast_succ, add_sub_add_left_eq_sub, abs_of_pos (by linarith)]
    have hge := habove.mp hge
    refine ⟨by rw [hdiff]; linarith, fun htie => heven (hhalf.mpr ?_)⟩
    rw [hdiff] at htie
    linarith

/-- Rounding keeps the order of values. -/
theorem Nearest.mono {m n : Nat} {v w : ℚ} (hm : Nearest m v) (hn : Nearest n w) (h : v ≤ w) :
    m ≤ n := by
  by_contra hlt
  have hsucc : (n : ℚ) + 1 ≤ m := by exact_mod_cast Nat.lt_of_not_le hlt
  obtain ⟨hv, hv'⟩ := abs_le.mp hm.near
  obtain ⟨hw, hw'⟩ := abs_le.mp hn.near
  -- both values are half way between the two integers, and these would both be even
  have hmv : (m : ℚ) - v = 1 / 2 := by linarith
  have hnw : (n : ℚ) - w = -(1 / 2) := by linarith
  have heven := hm.even (by rw [hmv]; norm_num)
  have heven' := hn.even (by rw [hnw]; norm_num)
  have hnext : m = n + 1 := by
    have hnext : (m : ℚ) = n + 1 := by linarith
    exact_mod_cast hnext
  omega

/-- No more than a half becomes zero: the tie goes down, as zero is even. -/
theorem Nearest.eq_zero_iff {n : Nat} {v : ℚ} (h : Nearest n v) : n = 0 ↔ v ≤ 1 / 2 := by
  constructor
  · rintro rfl
    obtain ⟨hle, -⟩ := abs_le.mp h.near
    rw [Nat.cast_zero] at hle
    linarith
  · intro hle
    have hhalf : Nearest 0 (1 / 2) := ⟨by norm_num, fun _ => rfl⟩
    exact Nat.le_zero.mp (h.mono hhalf hle)

end Number

namespace Binary64

/-- The exact value of a finite number. -/
def value? : Binary64 → Option ℚ
  | .finite negative m e => some ((if negative then -1 else 1) * m * 2 ^ e)
  | _ => none

theorem isPositive_iff {x : Binary64} {s : ℚ} (h : x.value? = some s) :
    x.isPositive = true ↔ 0 < s := by
  cases x with
  | finite negative m e =>
    obtain rfl := Option.some.inj h
    have hpow : (0 : ℚ) < 2 ^ e := zpow_pos (by norm_num) e
    cases negative with
    | false => simp [isPositive, mul_pos_iff_of_pos_right hpow, Nat.pos_iff_ne_zero]
    | true =>
      have hle : -(m : ℚ) * 2 ^ e ≤ 0 :=
        mul_nonpos_of_nonpos_of_nonneg (by simp) hpow.le
      simpa [isPositive] using hle
  | infinite negative => cases h
  | nan => cases h

end Binary64
end Proctor
