import Proctor.Number.Rounding

/-!
# Double-precision numbers

A finite double is a sign, a mantissa below `2 ^ 53` and a power of two. Decimal
texts are read by rounding their exact value once, to the nearest double with ties to
even, so every number of a catalog has one exact rational value to reason about.
-/
namespace Proctor

/-- A double-precision number. The finite ones stand for `± mantissa · 2 ^ exponent`. -/
inductive Binary64 where
  | finite (negative : Bool) (mantissa : Nat) (exponent : Int)
  | infinite (negative : Bool)
  | nan
  deriving DecidableEq, Repr, Inhabited

namespace Binary64

open Number

/-- The exponent of the subnormal doubles, the least there is. -/
def minExponent : Int := -1074

/-- The greatest exponent of a finite double. -/
def maxExponent : Int := 971

/-- The zero of either sign. -/
def zero (negative : Bool) : Binary64 := .finite negative 0 minExponent

/-- Puts a rounded mantissa into range: a carry out of 53 bits moves into the exponent,
and an exponent above the greatest one is an infinity. -/
def pack (negative : Bool) (mantissa : Nat) (exponent : Int) : Binary64 :=
  let (m, e) := if mantissa = 0x20000000000000 then (0x10000000000000, exponent + 1) else (mantissa, exponent)
  if m = 0 then zero negative
  else if maxExponent < e then .infinite negative
  else .finite negative m e

/-- `⌊log₂ (num / den)⌋` for positive `num` and `den`. -/
def ratioLog (num den : Nat) : Int :=
  let guess : Int := (num.log2 : Int) - den.log2
  if den <<< guess.toNat ≤ num <<< (-guess).toNat then guess else guess - 1

/-- The double nearest to `± num / den`, ties to even. -/
def ofRatio (negative : Bool) (num den : Nat) : Binary64 :=
  if num = 0 then zero negative
  else
    let exponent := max (ratioLog num den - 52) minExponent
    pack negative
      (roundDiv (num <<< (-exponent).toNat) (den <<< exponent.toNat)) exponent

/-- How many decimal digits a natural number has; zero has none. -/
def decimalLength (n : Nat) : Nat := if n = 0 then 0 else (Nat.toDigits 10 n).length

/-- The double nearest to `± digits · 10 ^ power`. Values far outside the range of doubles
are settled by the position of their first digit alone. -/
def ofDecimal (negative : Bool) (digits : Nat) (power : Int) : Binary64 :=
  let leading : Int := decimalLength digits + power
  if digits = 0 then zero negative
  else if 310 < leading then .infinite negative
  else if leading < -330 then zero negative
  else ofRatio negative (digits * Nat.pow 10 power.toNat) (Nat.pow 10 (-power).toNat)

/-- The double nearest to an integer. -/
def ofInt (n : Int) : Binary64 := ofDecimal (decide (n < 0)) n.natAbs 0

/-- Greater than zero. Neither zero is, nor is the not-a-number. -/
def isPositive : Binary64 → Bool
  | .finite negative m _ => !negative && m != 0
  | .infinite negative => !negative
  | .nan => false

end Binary64
end Proctor
