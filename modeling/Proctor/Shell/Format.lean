import Proctor.Number.Binary64
import Proctor.Shell.Arithmetic

/-!
# Formatted output

The text that the shell writes for a format and its arguments, and for words in which a
backslash begins an escape. Output can be cut short by an escape that says so.
-/
namespace Proctor.Shell.Format

/-- The value of octal digits, reduced to a byte. -/
def octal (digits : Octets) : Char :=
  Char.ofNat (digits.foldl (fun n c => 8 * n + (c.toNat - '0'.toNat)) 0 % 256)

/-- Whether a character is an octal digit. -/
def isOctal (c : Char) : Bool := '0' ≤ c && c ≤ '7'

/-- What an escape stands for, and what follows it. The backslash itself is gone; it comes
back where it does not begin an escape. -/
def escape (text : Octets) : Char × Octets :=
  match text with
  | [] => ('\\', [])
  | c :: rest =>
    if isOctal c then
      let digits := (text.take 3).takeWhile isOctal
      (octal digits, text.drop digits.length)
    else
      match c with
      | '\\' => ('\\', rest)
      | 'a' => ('\x07', rest)
      | 'b' => ('\x08', rest)
      | 'f' => ('\x0c', rest)
      | 'n' => ('\n', rest)
      | 'r' => ('\r', rest)
      | 't' => ('\t', rest)
      | 'v' => ('\x0b', rest)
      | _ => ('\\', text)

/-- A text with its escapes replaced, and whether it says that the output ends there. An
octal escape may have a zero in front of its three digits. -/
def unescape : Nat → Octets → Octets × Bool
  | 0, _ => ([], false)
  | n + 1, text =>
    match text with
    | [] => ([], false)
    | '\\' :: 'c' :: _ => ([], true)
    | '\\' :: rest =>
      let rest :=
        match rest with
        | '0' :: d :: _ => if isOctal d then rest.drop 1 else rest
        | _ => rest
      let (c, rest) := escape rest
      let (text, ended) := unescape n rest
      (c :: text, ended)
    | c :: rest =>
      let (text, ended) := unescape n rest
      (c :: text, ended)

/-- What the words of a command that repeats its arguments come to. -/
def echo (arguments : List Octets) : Octets :=
  let (newline, words) :=
    match arguments with
    | ['-', 'n'] :: words => (false, words)
    | words => (true, words)
  let text := Octets.join [' '] words
  let (text, ended) := unescape (text.length + 1) text
  text ++ if newline && !ended then ['\n'] else []

/-! ## Directives -/

/-- A directive of a format. -/
structure Directive where
  leftAligned : Bool := false
  plus : Bool := false
  space : Bool := false
  alternate : Bool := false
  zeros : Bool := false
  width : Nat := 0
  precision : Option Nat := none

/-- What is wrong with an argument or a format. -/
inductive Flaw where
  | expectingNumber (text : Octets)
  | notAllConverted (text : Octets)
  | tooLarge (text : Octets)
  | invalidDirective (text : Octets)
  deriving DecidableEq, Repr

/-- The wording of a flaw. -/
def Flaw.message : Flaw → Octets
  | .expectingNumber text => text ++ Octets.ofString ": expected numeric value"
  | .notAllConverted text => text ++ Octets.ofString ": not completely converted"
  | .tooLarge text => text ++ Octets.ofString ": Numerical result out of range"
  | .invalidDirective text => text ++ Octets.ofString ": invalid directive"

/-- Puts blanks or zeros in front of a text that is shorter than wanted, or blanks behind
it. -/
def Directive.pad (d : Directive) (zeros : Bool) (sign body : Octets) : Octets :=
  let missing := d.width - (sign.length + body.length)
  if d.leftAligned then sign ++ body ++ List.replicate missing ' '
  else if zeros then sign ++ List.replicate missing '0' ++ body
  else List.replicate missing ' ' ++ sign ++ body

/-- A number in some base, with as many digits as the precision asks for. -/
def Directive.digits (d : Directive) (base : Nat) (n : Nat) : Octets :=
  let digits := if n = 0 && d.precision = some 0 then [] else Nat.toDigits base n
  List.replicate (d.precision.getD 0 - digits.length) '0' ++ digits

/-- An integer as a directive asks for. -/
def Directive.integer (d : Directive) (conversion : Char) (n : Int) : Octets :=
  let zeros := d.zeros && d.precision.isNone
  let unsigned := (n % 0x10000000000000000).toNat
  match conversion with
  | 'o' =>
    let digits := d.digits 8 unsigned
    d.pad zeros [] (if d.alternate && digits.head? ≠ some '0' then '0' :: digits else digits)
  | 'x' => d.pad zeros (if d.alternate && n ≠ 0 then ['0', 'x'] else []) (d.digits 16 unsigned)
  | 'X' =>
    d.pad zeros (if d.alternate && n ≠ 0 then ['0', 'X'] else [])
      ((d.digits 16 unsigned).map Char.toUpper)
  | 'u' => d.pad zeros [] (d.digits 10 unsigned)
  | _ =>
    let sign := if n < 0 then ['-'] else if d.plus then ['+'] else if d.space then [' '] else []
    d.pad zeros sign (d.digits 10 n.natAbs)

/-- A fraction with as many decimal places as the precision asks for, six if it does not: the
double nearest to a decimal text, rounded to those places. -/
def Directive.fixed (d : Directive) (text : Octets) : Octets × Option Flaw :=
  let places := d.precision.getD 6
  let trimmed := text.dropWhile fun c => c = ' ' || c = '\t' || c = '\n'
  let (negative, rest) : Bool × Octets :=
    match trimmed with
    | '-' :: r => (true, r)
    | '+' :: r => (false, r)
    | r => (false, r)
  let (value, flaw) : Binary64 × Option Flaw :=
    match Octets.decimal? rest with
    | some (mantissa, power, after) =>
      (.ofDecimal negative mantissa power,
        if after.isEmpty then none else some (.notAllConverted text))
    | none => (.zero false, if text.isEmpty then none else some (.expectingNumber text))
  let sign (negative : Bool) : Octets :=
    if negative then ['-'] else if d.plus then ['+'] else if d.space then [' '] else []
  match value with
  | .finite negative m e =>
    let n := Number.roundDiv ((m * Nat.pow 10 places) <<< e.toNat) (1 <<< (-e).toNat)
    let digits := Octets.ofNat n
    let digits := List.replicate (places + 1 - digits.length) '0' ++ digits
    let whole := digits.take (digits.length - places)
    let fraction := digits.drop (digits.length - places)
    let point := if places = 0 && !d.alternate then [] else ['.']
    (d.pad d.zeros (sign negative) (whole ++ point ++ fraction), flaw)
  | .infinite negative => (d.pad false (sign negative) "inf".toList, flaw)
  | .nan => (d.pad false [] "nan".toList, flaw)

/-- The number that an argument writes, and what is wrong with it. A quote in front asks for
the number of a character. -/
def number (signed : Bool) (text : Octets) : Int × Option Flaw :=
  match text with
  | [] => (0, none)
  | q :: rest =>
    if q = '\'' || q = '"' then (((rest.head?.map Char.toNat).getD 0 : Nat), none)
    else
      let trimmed := text.dropWhile fun c => c = ' ' || c = '\t' || c = '\n'
      let (sign, rest) : Int × Octets :=
        match trimmed with
        | '-' :: r => (-1, r)
        | '+' :: r => (1, r)
        | r => (1, r)
      match exact rest with
      | none => (0, some (.expectingNumber text))
      | some (n, after) =>
        let value := sign * n
        let (low, high) : Int × Int :=
          if signed then (-0x8000000000000000, 0x8000000000000000 - 1) else (1 - 0x10000000000000000, 0x10000000000000000 - 1)
        if !after.isEmpty then (value, some (.notAllConverted text))
        else if value < low || high < value then (max low (min high value), some (.tooLarge text))
        else (value, none)
where
  /-- Digits at the front of a text, octal or hexadecimal if they are marked so, and what
  follows them. -/
  exact (text : Octets) : Option (Nat × Octets) :=
    let take (base : Nat) (text : Octets) : Option (Nat × Octets) :=
      let front := text.takeWhile fun c => (Arithmetic.digit? base c).isSome
      if front.isEmpty then none
      else
        some (front.foldl (fun n c => base * n + (Arithmetic.digit? base c).getD 0) 0,
          text.drop front.length)
    match text with
    | '0' :: x :: rest =>
      if x = 'x' || x = 'X' then (take 16 rest).orElse fun _ => take 8 text else take 8 text
    | _ => take 10 text

/-- The output so far, what is wrong, the arguments that are left, and whether the output
has ended. -/
structure Progress where
  output : Octets := []
  flaws : List Flaw := []
  arguments : List Octets := []
  ended : Bool := false

/-- Takes the next argument. -/
def Progress.next (p : Progress) : Option Octets × Progress :=
  (p.arguments.head?, { p with arguments := p.arguments.drop 1 })

/-- Writes more. -/
def Progress.emit (p : Progress) (text : Octets) : Progress :=
  { p with output := p.output ++ text }

/-- Takes the next argument as a number. -/
def Progress.nextNumber (p : Progress) (signed : Bool) : Int × Progress :=
  let (text, p) := p.next
  let (n, flaw) := number signed (text.getD [])
  (n, { p with flaws := p.flaws ++ flaw.toList })

/-- Follows the conversion of a directive. -/
def convert (d : Directive) (conversion : Char) (p : Progress) : Option Progress :=
  let cut (text : Octets) : Octets :=
    match d.precision with
    | some n => text.take n
    | none => text
  match conversion with
  | 's' =>
    let (text, p) := p.next
    some (p.emit (d.pad false [] (cut (text.getD []))))
  | 'b' =>
    let (text, p) := p.next
    let text := text.getD []
    let (text, ended) := unescape (text.length + 1) text
    some { p.emit (d.pad false [] (cut text)) with ended := ended }
  | 'c' =>
    let (text, p) := p.next
    some (p.emit (d.pad false [] ((text.getD []).take 1)))
  | _ =>
    if conversion = 'd' || conversion = 'i' then
      let (n, p) := p.nextNumber true
      some (p.emit (d.integer conversion n))
    else if conversion = 'f' || conversion = 'F' then
      let (text, p) := p.next
      let (text, flaw) := d.fixed (text.getD [])
      some { p.emit text with flaws := p.flaws ++ flaw.toList }
    else if ['o', 'u', 'x', 'X'].contains conversion then
      let (n, p) := p.nextNumber false
      some (p.emit (d.integer conversion n))
    else none

/-- A number of a directive, written out or taken from the arguments, and what follows it. -/
def count (text : Octets) (p : Progress) : Option Int × Octets × Progress :=
  match text with
  | '*' :: rest =>
    let (n, p) := p.nextNumber true
    (some n, rest, p)
  | _ =>
    let digits := text.takeWhile Char.isDigit
    ((Octets.toNat? digits).map Int.ofNat, text.drop digits.length, p)

/-- Follows the directive behind a percent sign, and tells what comes after it. The error is
the text of a directive that is none. -/
def directive (text : Octets) (p : Progress) : Except Octets (Octets × Progress) :=
  let flags := text.takeWhile "#-+ 0".toList.contains
  let (width, rest, p) := count (text.drop flags.length) p
  let (precision, rest, p) : Option Int × Octets × Progress :=
    match rest with
    | '.' :: rest =>
      let (n, rest, p) := count rest p
      (some (n.getD 0), rest, p)
    | rest => (none, rest, p)
  let d : Directive := {
    leftAligned := flags.contains '-' || width.any (· < 0)
    plus := flags.contains '+'
    space := flags.contains ' '
    alternate := flags.contains '#'
    zeros := flags.contains '0'
    width := (width.getD 0).natAbs
    precision := precision.bind fun n => if n < 0 then none else some n.toNat }
  let whole := text.take (text.length - rest.length + 1)
  match rest with
  | [] => .error whole
  | conversion :: rest =>
    match convert d conversion p with
    | some p => .ok (rest, p)
    | none => .error whole

/-- Follows a format once. -/
def once : Nat → Octets → Progress → Progress
  | 0, _, p => p
  | n + 1, text, p =>
    if p.ended then p
    else
      match text with
      | [] => p
      | '\\' :: rest =>
        let (c, rest) := escape rest
        once n rest (p.emit [c])
      | '%' :: '%' :: rest => once n rest (p.emit ['%'])
      | '%' :: rest =>
        match directive rest p with
        | .ok (rest, p) => once n rest p
        | .error whole =>
          { p with flaws := p.flaws ++ [.invalidDirective ('%' :: whole)], ended := true }
      | c :: rest => once n rest (p.emit [c])

/-- Follows a format again and again while there are arguments that it takes. -/
def again (format : Octets) : Nat → Progress → Progress
  | 0, p => p
  | n + 1, p =>
    let q := once (format.length + 1) format p
    if q.ended || q.arguments.isEmpty || q.arguments.length = p.arguments.length then q
    else again format n q

/-- The output for a format and its arguments, and what is wrong with them. -/
def print (format : Octets) (arguments : List Octets) : Octets × List Flaw :=
  let p := again format (arguments.length + 1) { arguments := arguments }
  (p.output, p.flaws)

end Proctor.Shell.Format
