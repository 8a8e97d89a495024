/-!
# UTF-8

Bytes are decoded by a machine that reads one byte at a time and never fails: a byte
sequence that cannot be continued to a character becomes one replacement character, as
long as it was a proper beginning, and every other stray byte becomes one of its own.
-/
namespace Proctor.Utf8

/-- The character that stands for bytes that are no character. -/
def replacement : Char := '\uFFFD'

/-- Where the decoder stands between two bytes: at a character boundary, or inside a
character with `value` read so far, `owed` bytes still to come, and the next of them
between `low` and `high`. -/
inductive State where
  | boundary
  | inside (value owed : Nat) (low high : UInt8)
  deriving DecidableEq, Repr

/-- The first byte of a character. A byte that begins none is replaced at once. -/
def start (b : UInt8) : State × List Char :=
  if b < 0x80 then (.boundary, [Char.ofNat b.toNat])
  else if b < 0xC2 then (.boundary, [replacement])
  else if b < 0xE0 then (.inside (b.toNat % 32) 1 0x80 0xBF, [])
  else if b = 0xE0 then (.inside 0 2 0xA0 0xBF, [])
  else if b = 0xED then (.inside 13 2 0x80 0x9F, [])
  else if b < 0xF0 then (.inside (b.toNat % 16) 2 0x80 0xBF, [])
  else if b = 0xF0 then (.inside 0 3 0x90 0xBF, [])
  else if b < 0xF4 then (.inside (b.toNat % 8) 3 0x80 0xBF, [])
  else if b = 0xF4 then (.inside 4 3 0x80 0x8F, [])
  else (.boundary, [replacement])

/-- One byte: the state after it and the characters it completes. A byte that cannot
continue the character begins anew, after a replacement for what was read. -/
def step : State → UInt8 → State × List Char
  | .boundary, b => start b
  | .inside value owed low high, b =>
    if low ≤ b ∧ b ≤ high then
      let value := value * 64 + b.toNat % 64
      if owed = 1 then (.boundary, [Char.ofNat value])
      else (.inside value (owed - 1) 0x80 0xBF, [])
    else
      let (next, out) := start b
      (next, replacement :: out)

/-- What the end of the bytes completes: a replacement for a character cut short. -/
def finish : State → List Char
  | .boundary => []
  | .inside .. => [replacement]

/-- Decodes from a state to the end. -/
def decodeFrom (s : State) : List UInt8 → List Char
  | [] => finish s
  | b :: bytes => (step s b).2 ++ decodeFrom (step s b).1 bytes

/-- The text of bytes, with replacements for what is not UTF-8. -/
def decode (bytes : List UInt8) : List Char := decodeFrom .boundary bytes

/-- The bytes of a text. -/
def encode (text : List Char) : List UInt8 := text.flatMap String.utf8EncodeChar

/-- The text of bytes, as a string. -/
def decodeString (bytes : List UInt8) : String := String.ofList (decode bytes)

/-- Reads bytes that must be UTF-8 throughout. -/
def decodeStrict? (bytes : List UInt8) : Option (List Char) :=
  let text := decode bytes
  if encode text = bytes then some text else none

/-- How many bytes a text takes. -/
def size (text : List Char) : Nat := (encode text).length

end Proctor.Utf8
