/-!
# Octets

The programs of a machine handle bytes without asking what they mean. Here a byte is the
character of the same number, below 256, so that rules for programs can name the ASCII
characters directly; all others are just themselves.
-/
namespace Proctor

/-- A sequence of bytes, each as the character of its number. -/
abbrev Octets := List Char

namespace Octets

/-- The octets of bytes. -/
def ofBytes (bytes : List UInt8) : Octets := bytes.map fun b => Char.ofNat b.toNat

/-- The octets of a text in UTF-8. -/
def ofString (text : String) : Octets := ofBytes text.toUTF8.toList

/-- The bytes of octets. -/
def toBytes (octets : Octets) : List UInt8 := octets.map fun c => UInt8.ofNat c.toNat

/-- The digits of a number. -/
def ofNat (n : Nat) : Octets := Nat.toDigits 10 n

/-- The digits of a number, behind a sign if it is negative. -/
def ofInt (n : Int) : Octets := if n < 0 then '-' :: ofNat n.natAbs else ofNat n.natAbs

/-- The number that some decimal digits write, if there are only digits and at least one. -/
def toNat? (octets : Octets) : Option Nat :=
  if octets.isEmpty || !octets.all Char.isDigit then none
  else some (octets.foldl (fun n c => 10 * n + (c.toNat - '0'.toNat)) 0)

/-- A decimal number at the front as a mantissa and a power of ten, and what follows it. -/
def decimal? (text : Octets) : Option (Nat × Int × Octets) :=
  let whole := text.takeWhile Char.isDigit
  let rest := text.drop whole.length
  let (fraction, rest) :=
    match rest with
    | '.' :: r => (r.takeWhile Char.isDigit, r.dropWhile Char.isDigit)
    | r => ([], r)
  match toNat? (whole ++ fraction) with
  | none => none
  | some mantissa =>
    let shift : Int := -(fraction.length : Int)
    let plain := some (mantissa, shift, rest)
    match rest with
    | 'e' :: r =>
      let (sign, digits) : Int × Octets :=
        match r with
        | '-' :: d => (-1, d)
        | '+' :: d => (1, d)
        | d => (1, d)
      match toNat? (digits.takeWhile Char.isDigit) with
      | some n => some (mantissa, shift + sign * n, digits.dropWhile Char.isDigit)
      | none => plain
    | _ => plain

/-- Whether one sequence does not come after another in the order of a dictionary. -/
def notAfter (a b : Octets) : Bool := !b.lex a fun c d => c < d

/-- The pieces between the occurrences of a separator. -/
def splitAt (separator : Char) : Octets → List Octets
  | [] => [[]]
  | c :: rest =>
    if c = separator then [] :: splitAt separator rest
    else
      match splitAt separator rest with
      | [] => [[c]]
      | piece :: pieces => (c :: piece) :: pieces

/-- Pieces with a separator between any two. -/
def join (separator : Octets) (pieces : List Octets) : Octets :=
  separator.intercalate pieces

/-- Whether one sequence stands at the front of another, and what follows it. -/
def dropPrefix? (front octets : Octets) : Option Octets :=
  if octets.take front.length = front then some (octets.drop front.length) else none

end Octets
end Proctor
