import Proctor.Machine.Request

/-!
# Tools

The small programs of a machine: the two that only end, and those that repeat their
arguments, copy files and wait.
-/
namespace Proctor.Machine.Tools

/-- Writes to the standard output. -/
def output (octets : Octets) : Program (Except SystemError Unit) :=
  if octets.isEmpty then pure (.ok ()) else Program.ask (.write 1 octets)

/-- Complains on the standard error stream. -/
def complain (text : Octets) : Program Unit := do
  let _ ← Program.ask (.write 2 text)

/-- Complains that a write failed, and ends. -/
def writeError (tool : String) (e : SystemError) : Program Nat := do
  complain (Octets.ofString (tool ++ ": write error: " ++ e.reason ++ "\n"))
  return 1

/-! ## Repeating arguments -/

/-- Whether an argument is made of option letters. -/
def isEchoOption : Octets → Bool
  | '-' :: letters => !letters.isEmpty && letters.all fun c => c = 'n' || c = 'e' || c = 'E'
  | _ => false

/-- The value of a hexadecimal digit. -/
def hexDigit? (c : Char) : Option Nat :=
  if c.isDigit then some (c.toNat - '0'.toNat)
  else if 'a' ≤ c && c ≤ 'f' then some (c.toNat - 'a'.toNat + 10)
  else if 'A' ≤ c && c ≤ 'F' then some (c.toNat - 'A'.toNat + 10)
  else none

/-- The character that an escape stands for, and what follows the escape. -/
def escape : Octets → Option (Octets × Octets)
  | 'a' :: r => some (['\x07'], r)
  | 'b' :: r => some (['\x08'], r)
  | 'e' :: r => some (['\x1b'], r)
  | 'f' :: r => some (['\x0c'], r)
  | 'n' :: r => some (['\n'], r)
  | 'r' :: r => some (['\r'], r)
  | 't' :: r => some (['\t'], r)
  | 'v' :: r => some (['\x0b'], r)
  | '\\' :: r => some (['\\'], r)
  | '0' :: r =>
    let digits := (r.take 3).takeWhile fun c => '0' ≤ c && c ≤ '7'
    let value := digits.foldl (fun n c => 8 * n + (c.toNat - '0'.toNat)) 0
    some ([Char.ofNat (value % 256)], r.drop digits.length)
  | 'x' :: r =>
    let digits := (r.take 2).takeWhile fun c => (hexDigit? c).isSome
    if digits.isEmpty then none
    else
      let value := digits.foldl (fun n c => 16 * n + (hexDigit? c).getD 0) 0
      some ([Char.ofNat value], r.drop digits.length)
  | _ => none

/-- A text with its escapes replaced, and whether it says that the output ends there. -/
def unescape : Nat → Octets → Octets × Bool
  | 0, text => (text, false)
  | fuel + 1, text =>
    match text with
    | [] => ([], false)
    | '\\' :: 'c' :: _ => ([], true)
    | '\\' :: rest =>
      match escape rest with
      | some (out, rest) =>
        let (text, ended) := unescape fuel rest
        (out ++ text, ended)
      | none =>
        let (text, ended) := unescape fuel rest
        ('\\' :: text, ended)
    | c :: rest =>
      let (text, ended) := unescape fuel rest
      (c :: text, ended)

/-- Repeats its arguments with single spaces between them. -/
def echo (arguments : List Octets) : Program Nat := do
  let options := arguments.takeWhile isEchoOption
  let letters := options.flatMap (·.drop 1)
  let words := arguments.drop options.length
  let text := Octets.join [' '] words
  let escapes := (letters.reverse.find? (· ≠ 'n')) = some 'e'
  let (text, ended) := if escapes then unescape text.length text else (text, false)
  let newline := if ended || letters.contains 'n' then [] else ['\n']
  match ← output (text ++ newline) with
  | .ok () => return 0
  | .error e => writeError "echo" e

/-! ## Copying files -/

/-- How much is copied at a time. -/
def chunk : Nat := 131072

/-- Copies from a descriptor to the standard output until nothing is left. -/
def copy (name : Octets) (descriptor : Nat) : Nat → Program (Option Nat)
  | 0 => return some 1
  | fuel + 1 => do
    match ← Program.ask (.read descriptor chunk) with
    | .error e =>
      complain (Octets.ofString "cat: " ++ name ++ Octets.ofString (": " ++ e.reason ++ "\n"))
      return some 1
    | .ok [] => return none
    | .ok octets =>
      match ← output octets with
      | .ok () => copy name descriptor fuel
      | .error e => return some (← writeError "cat" e)

/-- The most chunks of one file that are copied. -/
def mostChunks : Nat := 1000000

/-- Copies files one after the other; the result is the exit code. -/
def copyAll : List Octets → Program Nat
  | [] => return 0
  | name :: rest => do
    let failure ←
      if name = ['-'] then copy name 0 mostChunks
      else
        match ← Program.ask (.openAt 3 name .read) with
        | .ok () => copy name 3 mostChunks
        | .error e => do
          complain (Octets.ofString "cat: " ++ name ++ Octets.ofString (": " ++ e.reason ++ "\n"))
          pure (some 1)
    let code ← copyAll rest
    return failure.getD code

/-- Copies its input, or the files that it is given, to its output. -/
def cat (arguments : List Octets) : Program Nat :=
  let names := arguments.filter fun a => a ≠ ['-', 'u'] && a ≠ ['-', '-']
  copyAll (if names.isEmpty then [['-']] else names)

/-! ## Waiting -/

/-- The longest that can be slept, in nanoseconds: a hundred years. -/
def forever : Nat := 3155760000 * 1000000000

/-- The nanoseconds of an interval such as `0.5`, `2m` or `infinity`. -/
def interval? (text : Octets) : Option Nat :=
  let (number, suffix) : Option (Nat × Int) × Octets :=
    match text with
    | 'i' :: 'n' :: 'f' :: 'i' :: 'n' :: 'i' :: 't' :: 'y' :: r => (some (1, 12), r)
    | 'i' :: 'n' :: 'f' :: r => (some (1, 12), r)
    | _ =>
      match Octets.decimal? (if text.head? = some '+' then text.drop 1 else text) with
      | some (mantissa, exponent, r) => (some (mantissa, exponent), r)
      | none => (none, text)
  let unit? : Option Nat :=
    match suffix with
    | [] => some 1
    | ['s'] => some 1
    | ['m'] => some 60
    | ['h'] => some 3600
    | ['d'] => some 86400
    | _ => none
  match number, unit? with
  | some (mantissa, exponent), some unit =>
    if mantissa = 0 then some 0
    else if 12 < exponent then some forever
    else if exponent < -400 then some 1
    else
      let scaled := mantissa * unit * Nat.pow 10 (exponent + 9).toNat
      let divisor := Nat.pow 10 (-(exponent + 9)).toNat
      some (min forever ((scaled + divisor - 1) / divisor))
  | _, _ => none

/-- What is said about an argument that is an option, which nobody knows. -/
def unknownOption? : Octets → Option Octets
  | '-' :: '-' :: name =>
    if name.isEmpty then none
    else some (Octets.ofString "unrecognized option '--" ++ name ++ ['\''])
  | '-' :: letter :: _ => some (Octets.ofString "invalid option -- '" ++ [letter, '\''])
  | _ => none

/-- Waits for the sum of some intervals. -/
def sleep (arguments : List Octets) : Program Nat := do
  let hint := Octets.ofString "Try 'sleep --help' for more information.\n"
  let options := arguments.takeWhile (· ≠ ['-', '-'])
  if let some message := options.findSome? unknownOption? then
    complain (Octets.ofString "sleep: " ++ message ++ '\n' :: hint)
    return 1
  let arguments := arguments.erase ['-', '-']
  if arguments.isEmpty then
    complain (Octets.ofString "sleep: missing operand\n" ++ hint)
    return 1
  match arguments.filter fun a => (interval? a).isNone with
  | [] =>
    let start ← Program.ask .clock
    let _ ← Program.ask (.sleep (start + (arguments.filterMap interval?).foldl (· + ·) 0))
    return 0
  | bad =>
    complain (bad.flatMap fun a =>
      Octets.ofString "sleep: invalid time interval '" ++ a ++ Octets.ofString "'\n")
    complain hint
    return 1

end Proctor.Machine.Tools
