import Proctor.Shell.Syntax

/-!
# Shell arithmetic

Expressions over integers of 64 bits that wrap around, with the operators of C but those
that count up and down. A name stands for the value of a variable, and can be assigned to.
-/
namespace Proctor.Shell.Arithmetic

/-- Why an expression has no value. -/
inductive Flaw where
  | expectingPrimary
  | expectingEnd
  | expectingParenthesis
  | expectingColon
  | divisionByZero
  | illegalNumber (text : Octets)
  | readOnly (name : Octets)
  deriving DecidableEq, Repr

/-- An integer reduced to 64 bits. -/
def wrap (n : Int) : Int := Int.bmod n 0x10000000000000000

/-- The value of a digit. -/
def digit? (base : Nat) (c : Char) : Option Nat :=
  let value :=
    if c.isDigit then some (c.toNat - '0'.toNat)
    else if 'a' ≤ c && c ≤ 'z' then some (c.toNat - 'a'.toNat + 10)
    else if 'A' ≤ c && c ≤ 'Z' then some (c.toNat - 'A'.toNat + 10)
    else none
  value.filter (· < base)

/-- Digits as a number. A number that is too large stays the largest there is. -/
def digits (base : Nat) (text : Octets) : Int :=
  let n := text.foldl (fun n c => base * n + (digit? base c).getD 0) 0
  min n (0x8000000000000000 - 1)

/-- A number at the front of a text, with an octal or hexadecimal mark or none, and what
follows it. -/
def number? (text : Octets) : Option (Int × Octets) :=
  let take (base : Nat) (text : Octets) : Option (Int × Octets) :=
    let front := text.takeWhile fun c => (digit? base c).isSome
    if front.isEmpty then none else some (digits base front, text.drop front.length)
  match text with
  | '0' :: x :: rest =>
    if x = 'x' || x = 'X' then take 16 rest
    else take 8 text
  | _ => take 10 text

/-- The whole of a text as a number, with blanks around it and a sign. An empty text is
zero. -/
def value? (text : Octets) : Option Int :=
  let isBlank (c : Char) : Bool := c = ' ' || c = '\t' || c = '\n'
  let text := text.dropWhile isBlank
  if text.isEmpty then some 0
  else
    let (sign, rest) : Int × Octets :=
      match text with
      | '-' :: r => (-1, r)
      | '+' :: r => (1, r)
      | r => (1, r)
    match number? rest with
    | some (n, after) => if after.all isBlank then some (sign * n) else none
    | none => none

/-- What is left of an expression, and the variables that were assigned to, the newest
first. -/
structure State where
  input : Octets
  assigned : List (Octets × Octets) := []

/-- A computation on an expression. -/
abbrev Evaluator := StateT State (Except Flaw)

/-- The operators with two operands, longer ones first, each with its rank. -/
def operators : List (String × Nat) :=
  [("<<=", 0), (">>=", 0), ("<<", 8), (">>", 8), ("<=", 7), (">=", 7), ("==", 6), ("!=", 6),
    ("&&", 2), ("||", 1), ("*=", 0), ("/=", 0), ("%=", 0), ("+=", 0), ("-=", 0), ("&=", 0),
    ("^=", 0), ("|=", 0), ("<", 7), (">", 7), ("+", 9), ("-", 9), ("*", 10), ("/", 10),
    ("%", 10), ("&", 5), ("^", 4), ("|", 3), ("=", 0), ("?", 0)]

/-- Applies an operator. -/
def apply (operator : String) (a b : Int) : Except Flaw Int :=
  let truth (b : Bool) : Int := if b then 1 else 0
  let bits (f : Nat → Nat → Nat) : Int :=
    wrap (f (a % 0x10000000000000000).toNat (b % 0x10000000000000000).toNat : Nat)
  match operator with
  | "+" => .ok (wrap (a + b))
  | "-" => .ok (wrap (a - b))
  | "*" => .ok (wrap (a * b))
  | "/" => if b = 0 then .error .divisionByZero else .ok (wrap (a.tdiv b))
  | "%" => if b = 0 then .error .divisionByZero else .ok (wrap (a.tmod b))
  | "<<" => .ok (wrap (a * (1 <<< (b % 64).toNat : Nat)))
  | ">>" => .ok (wrap (a.fdiv (1 <<< (b % 64).toNat : Nat)))
  | "<" => .ok (truth (a < b))
  | ">" => .ok (truth (b < a))
  | "<=" => .ok (truth (a ≤ b))
  | ">=" => .ok (truth (b ≤ a))
  | "==" => .ok (truth (a = b))
  | "!=" => .ok (truth (a ≠ b))
  | "&" => .ok (bits Nat.land)
  | "^" => .ok (bits Nat.xor)
  | "|" => .ok (bits Nat.lor)
  | "&&" => .ok (truth (a ≠ 0 ∧ b ≠ 0))
  | _ => .ok (truth (a ≠ 0 ∨ b ≠ 0))

/-- Skips blanks. -/
def skip : Evaluator Unit := modify fun s =>
  { s with input := s.input.dropWhile fun c => c = ' ' || c = '\t' || c = '\n' }

/-- The operator that comes next, which is not taken away. -/
def operator? : Evaluator (Option (String × Nat)) := do
  skip
  let s ← get
  return operators.find? fun o => (Octets.dropPrefix? o.1.toList s.input).isSome

/-- Takes characters away. -/
def drop (count : Nat) : Evaluator Unit :=
  modify fun s => { s with input := s.input.drop count }

/-- The value of a variable. -/
def lookup (values : Octets → Option Octets) (name : Octets) : Evaluator Int := do
  let s ← get
  let text := (s.assigned.lookup name).orElse fun _ => values name
  match value? (text.getD []) with
  | some n => return n
  | none => throw (.illegalNumber (text.getD []))

mutual

/-- Reads an operand. Where nothing depends on its value, it is not worked out. -/
def primary (values : Octets → Option Octets) (live : Bool) : Nat → Evaluator Int
  | 0 => throw .expectingPrimary
  | n + 1 => do
    skip
    match (← get).input with
    | '(' :: _ =>
      drop 1
      let value ← expression values live n
      skip
      if (← get).input.head? ≠ some ')' then throw .expectingParenthesis
      drop 1
      return value
    | '!' :: _ =>
      drop 1
      return if (← primary values live n) = 0 then 1 else 0
    | '~' :: _ =>
      drop 1
      return wrap (-(← primary values live n) - 1)
    | '-' :: _ =>
      drop 1
      return wrap (-(← primary values live n))
    | '+' :: _ =>
      drop 1
      primary values live n
    | c :: rest =>
      if c.isDigit then
        match number? (c :: rest) with
        | some (value, after) =>
          modify fun s => { s with input := after }
          return value
        | none => throw .expectingPrimary
      else if isNameStart c then
        let name := c :: rest.takeWhile isNameChar
        drop name.length
        match ← operator? with
        | some (o, 0) =>
          if o = "?" then if live then lookup values name else return 0
          else
            drop o.length
            let right ← expression values live n
            if !live then return 0
            let value ←
              if o = "=" then pure right
              else do
                let left ← lookup values name
                StateT.lift (apply (o.dropEnd 1).copy left right)
            modify fun s => { s with assigned := (name, Octets.ofInt value) :: s.assigned }
            return value
        | _ => if live then lookup values name else return 0
      else throw .expectingPrimary
    | [] => throw .expectingPrimary

/-- Reads operators of some rank at least, and their operands. -/
def climb (values : Octets → Option Octets) (live : Bool) (rank : Nat) (left : Int) :
    Nat → Evaluator Int
  | 0 => throw .expectingPrimary
  | n + 1 => do
    match ← operator? with
    | some (o, r) =>
      if r = 0 || r < rank then return left
      else
        drop o.length
        let needed := live && !(o = "&&" && left = 0) && !(o = "||" && left ≠ 0)
        let right ← primary values needed n
        let right ← climb values needed (r + 1) right n
        let value ← if needed then StateT.lift (apply o left right) else
          pure (if o = "||" && left ≠ 0 then 1 else 0)
        climb values live rank value n
    | none => return left

/-- Reads an expression. -/
def expression (values : Octets → Option Octets) (live : Bool) : Nat → Evaluator Int
  | 0 => throw .expectingPrimary
  | n + 1 => do
    let first ← primary values live n
    let value ← climb values live 1 first n
    skip
    if (← get).input.head? = some '?' then
      drop 1
      let yes ← expression values (live && value ≠ 0) n
      skip
      if (← get).input.head? ≠ some ':' then throw .expectingColon
      drop 1
      let no ← expression values (live && value = 0) n
      return if value ≠ 0 then yes else no
    else return value

end

/-- The value of an expression, and the assignments it makes, the oldest first. -/
def evaluate (values : Octets → Option Octets) (text : Octets) :
    Except Flaw (Int × List (Octets × Octets)) := do
  let all : Evaluator Int := do
    skip
    if (← get).input.isEmpty then return 0
    let value ← expression values true (4 * text.length + 8)
    skip
    if !(← get).input.isEmpty then throw .expectingEnd
    return value
  let (value, s) ← all.run ⟨text, []⟩
  return (value, s.assigned.reverse)

/-- The wording of a flaw in an expression. -/
def Flaw.message (text : Octets) : Flaw → Octets
  | .expectingPrimary => say "expecting primary"
  | .expectingEnd => say "expecting EOF"
  | .expectingParenthesis => say "expecting ')'"
  | .expectingColon => say "expecting ':'"
  | .divisionByZero => say "division by zero"
  | .illegalNumber text => Octets.ofString "Illegal number: " ++ text
  | .readOnly name => name ++ Octets.ofString ": is read only"
where
  /-- The wording of a flaw in the form of an expression. -/
  say (what : String) : Octets :=
    Octets.ofString ("arithmetic expression: " ++ what ++ ": \"") ++ text ++ ['"']

end Proctor.Shell.Arithmetic
