import Proctor.Number.Binary64

/-!
# Durations

A duration is a whole number of nanoseconds with fewer than `2 ^ 64` whole seconds.
Seconds given as a double become the nearest duration, ties to even; negative, too
large and undefined numbers have none.
-/
namespace Proctor

/-- A span of time in nanoseconds, less than `2 ^ 64` seconds. -/
structure Duration where
  nanoseconds : Nat
  bounded : nanoseconds < 0x10000000000000000 * 1000000000
  deriving DecidableEq

namespace Duration

/-- Nanoseconds in a second. -/
abbrev perSecond : Nat := 1000000000

def zero : Duration := ⟨0, by decide⟩

instance : Inhabited Duration := ⟨zero⟩

/-- The duration of so many nanoseconds, if it is in range. -/
def ofNanoseconds? (n : Nat) : Option Duration :=
  if h : n < 0x10000000000000000 * 1000000000 then some ⟨n, h⟩ else none

/-- A whole number of milliseconds. -/
def ofMilliseconds (ms : UInt64) : Duration :=
  ⟨ms.toNat * 1000000, by have := ms.toNat_lt; omega⟩

/-- Whole seconds and the nanoseconds beyond them. -/
def ofParts? (seconds subsecond : Nat) : Option Duration :=
  ofNanoseconds? (seconds * perSecond + subsecond)

/-- The whole seconds. -/
def seconds (d : Duration) : Nat := d.nanoseconds / perSecond

/-- The nanoseconds beyond the whole seconds. -/
def subsecond (d : Duration) : Nat := d.nanoseconds % perSecond

theorem seconds_lt (d : Duration) : d.seconds < 0x10000000000000000 := by
  have := d.bounded
  simp only [seconds, perSecond]
  omega

theorem subsecond_lt (d : Duration) : d.subsecond < perSecond :=
  Nat.mod_lt _ (by decide)

theorem seconds_add_subsecond (d : Duration) :
    d.seconds * perSecond + d.subsecond = d.nanoseconds := by
  simp only [seconds, subsecond, perSecond]
  omega

instance : LE Duration := ⟨fun a b => a.nanoseconds ≤ b.nanoseconds⟩

instance (a b : Duration) : Decidable (a ≤ b) :=
  inferInstanceAs (Decidable (a.nanoseconds ≤ b.nanoseconds))

/-- The longer of two durations. -/
def longer (a b : Duration) : Duration := if a ≤ b then b else a

@[simp] theorem longer_nanoseconds (a b : Duration) :
    (longer a b).nanoseconds = max a.nanoseconds b.nanoseconds := by
  unfold longer
  split
  case isTrue h => exact (Nat.max_eq_right h).symm
  case isFalse h => exact (Nat.max_eq_left (Nat.le_of_not_le h)).symm

/-- The longest of some durations, zero if there are none. -/
def longest : List Duration → Duration
  | [] => zero
  | d :: ds => longer d (longest ds)

theorem le_longest {d : Duration} {ds : List Duration} (h : d ∈ ds) : d ≤ longest ds := by
  induction ds with
  | nil => cases h
  | cons e ds ih =>
    show d.nanoseconds ≤ (longer e (longest ds)).nanoseconds
    rw [longer_nanoseconds]
    obtain rfl | h := List.mem_cons.mp h
    · exact Nat.le_max_left _ _
    · exact Nat.le_trans (ih h) (Nat.le_max_right _ _)

theorem longest_mem {ds : List Duration} (h : ds ≠ []) : longest ds ∈ ds := by
  induction ds with
  | nil => exact absurd rfl h
  | cons e ds ih =>
    by_cases hnone : ds = []
    · subst hnone
      have hfirst : longer e zero = e := by
        simp only [longer]
        split
        · rename_i hle
          have hle : e.nanoseconds ≤ 0 := hle
          cases e
          simp_all [zero]
        · rfl
      simp [longest, hfirst]
    · simp only [longest, longer]
      split
      · exact List.mem_cons_of_mem _ (ih hnone)
      · exact List.mem_cons_self

/-- The exact number of nanoseconds in a nonnegative `mantissa · 2 ^ exponent` seconds,
rounded to the nearest one. -/
def roundSeconds (mantissa : Nat) (exponent : Int) : Nat :=
  Number.roundDiv ((mantissa * perSecond) <<< exponent.toNat) (1 <<< (-exponent).toNat)

/-- Seconds as a duration: the exact value rounded to the nearest nanosecond, ties to even.
There is none for a negative number, for `2 ^ 64` seconds or more, and for what is no number. -/
def ofSeconds? : Binary64 → Option Duration
  | .finite negative m e =>
    if m = 0 then some zero
    else if negative then none
    else if 64 ≤ (m.log2 : Int) + e then none
    else ofNanoseconds? (roundSeconds m e)
  | _ => none

/-- A natural number padded on the left with zeros to a width. -/
def padded (width n : Nat) : String :=
  let digits := Nat.toDigits 10 n
  String.ofList (List.replicate (width - digits.length) '0' ++ digits)

/-- A whole part and a fraction of `width` digits, without the fraction's trailing zeros. -/
def decimalText (whole fraction width : Nat) : String :=
  let digits := ((padded width fraction).toList.reverse.dropWhile (· = '0')).reverse
  if digits.isEmpty then toString whole
  else toString whole ++ "." ++ String.ofList digits

/-- The text of a duration in the largest unit that leaves a whole part: seconds,
milliseconds, microseconds or nanoseconds. -/
def text (d : Duration) : String :=
  let n := d.nanoseconds
  if perSecond ≤ n then decimalText d.seconds d.subsecond 9 ++ "s"
  else if 1000000 ≤ n then decimalText (n / 1000000) (n % 1000000) 6 ++ "ms"
  else if 1000 ≤ n then decimalText (n / 1000) (n % 1000) 3 ++ "µs"
  else toString n ++ "ns"

end Duration
end Proctor
