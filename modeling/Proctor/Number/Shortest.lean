import Proctor.Number.Binary64

/-!
# Shortest decimal text of a double

The text has the fewest decimal digits that read back to the same double, and of those
the nearest to it. It is always positional: no exponent is written however large or
small the number is.
-/
namespace Proctor.Binary64

/-- The decimal numbers that read back as a given double: those between `low` and `high`,
in units of `2 ^ unit`, the ends included when the mantissa is even. -/
structure Interval where
  low : Nat
  value : Nat
  high : Nat
  closed : Bool
  unit : Int

/-- The interval of `mantissa · 2 ^ exponent`. The gap below a power of two is half as wide. -/
def Interval.of (mantissa : Nat) (exponent : Int) : Interval :=
  let below := if mantissa = 0x10000000000000 && decide (minExponent < exponent) then 1 else 2
  { low := 4 * mantissa - below
    value := 4 * mantissa
    high := 4 * mantissa + 2
    closed := mantissa % 2 = 0
    unit := exponent - 2 }

/-- Multiplies out `a · 2 ^ unit` and `b · 10 ^ power` to naturals over one denominator. -/
def Interval.scale (unit power : Int) : Nat × Nat :=
  (Nat.pow 10 (-power).toNat <<< unit.toNat, Nat.pow 10 power.toNat <<< (-unit).toNat)

/-- The best multiple of `10 ^ power` within the interval, if one lies there: of the two
neighbours of the value the nearer one, the upper one on a tie. -/
def Interval.onGrid? (i : Interval) (power : Int) : Option Nat :=
  let (x, y) := Interval.scale i.unit power
  let value := i.value * x
  let down := value / y
  let up := down + 1
  let inside (n : Nat) : Bool :=
    if i.closed then decide (i.low * x ≤ n * y) && decide (n * y ≤ i.high * x)
    else decide (i.low * x < n * y) && decide (n * y < i.high * x)
  match down != 0 && inside down, inside up with
  | true, true => if value - down * y < up * y - value then some down else some up
  | true, false => some down
  | false, true => some up
  | false, false => none

/-- The power of ten of the first digit of `value · 2 ^ unit`, found by counting down from
an upper bound. -/
def Interval.leadingPower (i : Interval) : Int :=
  let (x, y) := Interval.scale i.unit 0
  let whole := i.value * x / y
  if whole ≠ 0 then (decimalLength whole : Int) - 1
  else
    let inverse := (y + i.value * x - 1) / (i.value * x)
    0 - (decimalLength (inverse - 1) : Int)

/-- Tries grids of more and more digits, `budget` of them. -/
def Interval.shortest (i : Interval) : Nat → Int → Nat × Int
  | 0, power => (i.value, power)
  | budget + 1, power =>
    match i.onGrid? power with
    | some n => (n, power)
    | none => i.shortest budget (power - 1)

/-- Writes `digits · 10 ^ power` in positional notation. -/
def positional (digits : Nat) (power : Int) : String :=
  let text := Nat.toDigits 10 digits
  let chars : List Char :=
    if 0 ≤ power then text ++ List.replicate power.toNat '0'
    else
      let places := (-power).toNat
      let padded := List.replicate (places + 1 - text.length) '0' ++ text
      let whole := padded.take (padded.length - places)
      let fraction := ((padded.drop (padded.length - places)).reverse.dropWhile (· = '0')).reverse
      if fraction.isEmpty then whole else whole ++ '.' :: fraction
  String.ofList chars

/-- The shortest text that reads back as the same double. -/
def text : Binary64 → String
  | .nan => "NaN"
  | .infinite negative => if negative then "-inf" else "inf"
  | .finite negative m e =>
    let magnitude :=
      if m = 0 then "0"
      else
        let i := Interval.of m e
        let (digits, power) := i.shortest 20 i.leadingPower
        positional digits power
    if negative then "-" ++ magnitude else magnitude

end Proctor.Binary64
