import Proctor.Toml.Value

/-!
# Numbers, truth values and dates

A scalar that is not quoted is a run of letters, digits and the signs of numbers and
dates, read as a whole. Underscores may stand between digits, integers have 64 bits, and
a number too large for a double is refused unless it is negative.
-/
namespace Proctor.Toml.Scalar

/-- The value of a digit in a base up to sixteen. -/
def digit? (base : Nat) (c : Char) : Option Nat :=
  let value :=
    if c.isDigit then c.toNat - '0'.toNat
    else if 'a' ≤ c ∧ c ≤ 'f' then c.toNat - 'a'.toNat + 10
    else if 'A' ≤ c ∧ c ≤ 'F' then c.toNat - 'A'.toNat + 10
    else base
  if value < base then some value else none

/-- Reads digits with single underscores between them; there must be a digit. -/
def digits? (base : Nat) : List Char → Option (List Nat)
  | [] => none
  | [c] => (digit? base c).map ([·])
  | c :: '_' :: rest => do some ((← digit? base c) :: (← digits? base rest))
  | c :: rest => do some ((← digit? base c) :: (← digits? base rest))

/-- The number that digits stand for. -/
def number (base : Nat) (digits : List Nat) : Nat :=
  digits.foldl (fun n d => base * n + d) 0

/-- Digits of a decimal integer: no zero stands before others. -/
def wholeDigits? (chars : List Char) : Option (List Nat) := do
  match ← digits? 10 chars with
  | 0 :: _ :: _ => none
  | digits => some digits

/-- A sign, and what follows it. -/
def signed : List Char → Bool × List Char
  | '-' :: rest => (true, rest)
  | '+' :: rest => (false, rest)
  | chars => (false, chars)

/-- An integer if it fits into 64 bits. -/
def bounded? (n : Int) : Option Value :=
  if -0x8000000000000000 ≤ n ∧ n < 0x8000000000000000 then some (.integer n) else none

/-- Reads an integer; one in another base has no sign. -/
def integer? : List Char → Option Value
  | '0' :: 'x' :: rest => do bounded? (number 16 (← digits? 16 rest))
  | '0' :: 'o' :: rest => do bounded? (number 8 (← digits? 8 rest))
  | '0' :: 'b' :: rest => do bounded? (number 2 (← digits? 2 rest))
  | chars => do
    let (negative, rest) := signed chars
    let n : Int := number 10 (← wholeDigits? rest)
    bounded? (if negative then -n else n)

/-- Reads the exponent of a number, after its `e`. -/
def exponent? (chars : List Char) : Option Int := do
  let (negative, rest) := signed chars
  let n : Int := number 10 (← digits? 10 rest)
  some (if negative then -n else n)

def isExponentMark (c : Char) : Bool := c = 'e' || c = 'E'

/-- Reads a number with a fraction or an exponent. -/
def decimal? (chars : List Char) : Option Value := do
  let (negative, rest) := signed chars
  let whole ← wholeDigits? (rest.takeWhile fun c => c.isDigit || c = '_')
  let (fraction, power) ← match rest.dropWhile fun c => c.isDigit || c = '_' with
    | '.' :: rest => do
      let fraction ← digits? 10 (rest.takeWhile (!isExponentMark ·))
      match rest.dropWhile (!isExponentMark ·) with
      | [] => some (fraction, 0)
      | _ :: rest => some (fraction, ← exponent? rest)
    | c :: rest => if isExponentMark c then some ([], ← exponent? rest) else none
    | [] => none
  let x := Binary64.ofDecimal negative (number 10 (whole ++ fraction)) (power - fraction.length)
  if x = .infinite false then none else some (.float x)

/-- Exactly `count` digits and the number they stand for, within bounds. -/
def field? (count low high : Nat) (chars : List Char) : Option (Nat × List Char) := do
  let digits := chars.take count
  if digits.length = count ∧ digits.all Char.isDigit then
    let n := number 10 (← digits? 10 digits)
    if low ≤ n ∧ n ≤ high then some (n, chars.drop count) else none
  else none

/-- One given character. -/
def mark? (c : Char) : List Char → Option (List Char)
  | [] => none
  | d :: rest => if c = d then some rest else none

/-- A natural number written with two digits at least. -/
def twoDigits (n : Nat) : String := if n < 10 then "0" ++ toString n else toString n

/-- How many days a month has. -/
def daysIn (year month : Nat) : Nat :=
  if month = 2 then
    if year % 4 = 0 ∧ (year % 100 ≠ 0 ∨ year % 400 = 0) then 29 else 28
  else if month = 4 ∨ month = 6 ∨ month = 9 ∨ month = 11 then 30
  else 31

/-- Reads a day of the calendar; gives its text and the rest. -/
def date? (chars : List Char) : Option (String × List Char) := do
  let (year, rest) ← field? 4 0 9999 chars
  let (month, rest) ← field? 2 1 12 (← mark? '-' rest)
  let (day, rest) ← field? 2 1 (daysIn year month) (← mark? '-' rest)
  let digits := (Nat.toDigits 10 (10000 + year)).drop 1
  some (String.ofList digits ++ "-" ++ twoDigits month ++ "-" ++ twoDigits day, rest)

/-- The text of a fraction of a second, nine digits of which count. -/
def subsecondText (digits : List Char) : String :=
  let kept := ((digits.take 9).reverse.dropWhile (· = '0')).reverse
  if kept.isEmpty then "" else "." ++ String.ofList kept

/-- Reads a time of day. -/
def time? (chars : List Char) : Option (String × List Char) := do
  let (hour, rest) ← field? 2 0 23 chars
  let (minute, rest) ← field? 2 0 59 (← mark? ':' rest)
  let (second, rest) ← field? 2 0 60 (← mark? ':' rest)
  let text := twoDigits hour ++ ":" ++ twoDigits minute ++ ":" ++ twoDigits second
  match rest with
  | '.' :: rest =>
    let digits := rest.takeWhile Char.isDigit
    if digits.isEmpty then none
    else some (text ++ subsecondText digits, rest.dropWhile Char.isDigit)
  | _ => some (text, rest)

/-- Reads an offset from universal time, to the end. -/
def offset? : List Char → Option String
  | [] => some ""
  | ['Z'] => some "Z"
  | ['z'] => some "Z"
  | c :: rest => do
    if c ≠ '+' ∧ c ≠ '-' then none
    let (hour, rest) ← field? 2 0 23 rest
    let (minute, rest) ← field? 2 0 59 (← mark? ':' rest)
    if !rest.isEmpty then none
    let sign := if c = '-' ∧ (hour ≠ 0 ∨ minute ≠ 0) then "-" else "+"
    some (sign ++ twoDigits hour ++ ":" ++ twoDigits minute)

/-- Reads a date, a time of day, or both with an offset. -/
def datetime? (chars : List Char) : Option Value :=
  match date? chars with
  | some (day, []) => some (.datetime day)
  | some (day, c :: rest) => do
    if c ≠ 'T' ∧ c ≠ 't' ∧ c ≠ ' ' then none
    let (time, rest) ← time? rest
    some (.datetime (day ++ "T" ++ time ++ (← offset? rest)))
  | none =>
    match time? chars with
    | some (time, []) => some (.datetime time)
    | _ => none

/-- The characters of a scalar that is not quoted. -/
def isPart (c : Char) : Bool :=
  c.isAlphanum || c = '_' || c = '+' || c = '-' || c = '.' || c = ':'

/-- Splits off a scalar. A date takes a time along that follows after a space. -/
def split (chars : List Char) : List Char × List Char :=
  let token := chars.takeWhile isPart
  match chars.dropWhile isPart with
  | ' ' :: c :: rest =>
    if c.isDigit && (match date? token with | some (_, []) => true | _ => false) then
      (token ++ ' ' :: (c :: rest).takeWhile isPart, (c :: rest).dropWhile isPart)
    else (token, ' ' :: c :: rest)
  | rest => (token, rest)

/-- The value of a scalar that is not quoted. -/
def value? (chars : List Char) : Option Value :=
  match String.ofList chars with
  | "true" => some (.boolean true)
  | "false" => some (.boolean false)
  | "inf" => some (.float (.infinite false))
  | "+inf" => some (.float (.infinite false))
  | "-inf" => some (.float (.infinite true))
  | "nan" => some (.float .nan)
  | "+nan" => some (.float .nan)
  | "-nan" => some (.float .nan)
  | _ => (datetime? chars <|> decimal? chars) <|> integer? chars

end Proctor.Toml.Scalar
