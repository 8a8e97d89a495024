import Proctor.Shell.Session

/-!
# Conditions

The conditions that a script can test: about texts, numbers and files, joined by negation,
conjunction and disjunction. A condition is read from the words of the test; what is an
operator among them depends on how many words there are and where it stands.
-/
namespace Proctor.Shell

/-- A condition. -/
inductive Condition where
  | constant (value : Bool)
  | nonempty (text : Octets)
  | empty (text : Octets)
  /-- A property of a file, by its letter. -/
  | file (property : Char) (name : Octets)
  | compare (operator : String) (left right : Octets)
  | negation (of : Condition)
  | both (first second : Condition)
  | either (first second : Condition)
  deriving DecidableEq, Repr

namespace Condition

/-- The letters of the properties of files and texts that can be tested. -/
def properties : List Char := "bcdefghkLnOGprsStuwxz".toList

/-- The operators that compare. -/
def operators : List String :=
  ["=", "!=", "<", ">", "-eq", "-ne", "-ge", "-gt", "-le", "-lt", "-nt", "-ot", "-ef"]

/-- Whether a word is an operator with one operand. -/
def isProperty : Octets → Bool
  | ['-', letter] => properties.contains letter
  | _ => false

/-- Whether a word is an operator that compares, or joins conditions. -/
def isBinary (word : Octets) : Bool :=
  operators.contains (String.ofList word) || word = ['-', 'a'] || word = ['-', 'o']

/-- Whether a word is an operator that compares. -/
def isComparison (word : Octets) : Bool := operators.contains (String.ofList word)

/-- Whether the word at the front is an operator with one operand, and not itself an
operand. -/
def beginsProperty : List Octets → Bool
  | word :: next :: rest => isProperty word && (rest.isEmpty || !isBinary next)
  | _ => false

/-- What is wrong at a word. -/
def wrong (word : Octets) (what : String) : Octets :=
  word ++ Octets.ofString (": " ++ what)

mutual

/-- Reads a condition without joints. -/
def primary : Nat → List Octets → Except Octets (Condition × List Octets)
  | 0, words => .ok (.constant false, words)
  | n + 1, words =>
    match words with
    | [] => .ok (.constant false, [])
    | word :: rest =>
      if word = ['!'] && !(rest.head?.any isComparison && 2 ≤ rest.length) then do
        let (c, rest) ← primary n rest
        return (.negation c, rest)
      else if word = ['('] && !rest.isEmpty && !(rest.head?.any isComparison) then
        if rest.head? = some [')'] then .ok (.constant false, rest.drop 1)
        else do
          let (c, rest) ← disjunction n rest
          if rest.head? ≠ some [')'] then throw (Octets.ofString "closing paren expected")
          return (c, rest.drop 1)
      else if beginsProperty words then
        match word, rest with
        | [_, letter], operand :: rest =>
          if letter = 'z' then .ok (.empty operand, rest)
          else if letter = 'n' then .ok (.nonempty operand, rest)
          else .ok (.file letter operand, rest)
        | _, _ => .ok (.nonempty word, rest)
      else
        match rest with
        | operator :: rest' =>
          if isComparison operator then
            match rest' with
            | right :: rest => .ok (.compare (String.ofList operator) word right, rest)
            | [] => .error (wrong operator "argument expected")
          else .ok (.nonempty word, rest)
        | [] => .ok (.nonempty word, [])

/-- Reads conditions of which all must hold. -/
def conjunction : Nat → List Octets → Except Octets (Condition × List Octets)
  | 0, words => .ok (.constant false, words)
  | n + 1, words => do
    let (first, rest) ← primary n words
    match rest with
    | ['-', 'a'] :: rest =>
      let (second, rest) ← conjunction n rest
      return (.both first second, rest)
    | _ => return (first, rest)

/-- Reads conditions of which one must hold. -/
def disjunction : Nat → List Octets → Except Octets (Condition × List Octets)
  | 0, words => .ok (.constant false, words)
  | n + 1, words => do
    let (first, rest) ← conjunction n words
    match rest with
    | ['-', 'o'] :: rest =>
      let (second, rest) ← disjunction n rest
      return (.either first second, rest)
    | _ => return (first, rest)

end

/-- The condition that words express. With three words of which the second compares, the
others are operands whatever they look like. -/
def ofWords (words : List Octets) : Except Octets Condition :=
  let fuel := 3 * words.length + 3
  let general (words : List Octets) : Except Octets Condition := do
    let (c, rest) ← disjunction fuel words
    if rest.isEmpty then return c
    let last := words[words.length - rest.length - 1]?
    throw (wrong (last.getD []) "unexpected operator")
  match words with
  | [] => .ok (.constant false)
  | [left, operator, right] =>
    if isComparison operator then .ok (.compare (String.ofList operator) left right)
    else if operator = ['-', 'a'] then .ok (.both (.nonempty left) (.nonempty right))
    else if operator = ['-', 'o'] then .ok (.either (.nonempty left) (.nonempty right))
    else if left = ['('] && right = [')'] then .ok (.nonempty operator)
    else general words
  | ['!'] :: a :: b :: c :: [] =>
    if isComparison b then .ok (.negation (.compare (String.ofList b) a c)) else general words
  | _ => general words

/-- The number that an operand of a comparison writes. -/
def number (text : Octets) : Act Int := do
  let isBlank (c : Char) : Bool := c = ' ' || c = '\t' || c = '\n'
  let trimmed := ((text.dropWhile isBlank).reverse.dropWhile isBlank).reverse
  let (sign, digits) : Int × Octets :=
    match trimmed with
    | '-' :: r => (-1, r)
    | '+' :: r => (1, r)
    | r => (1, r)
  let value := (Octets.toNat? digits).map (sign * ·)
  match value.filter fun n => -0x8000000000000000 ≤ n && n < 0x8000000000000000 with
  | some n => return n
  | none => Act.fail (Octets.ofString "Illegal number: " ++ text)

/-- Whether a file has a property. -/
def holdsOf (property : Char) (kind : Machine.FileKind) : Bool :=
  match kind with
  | .directory => "derwxsOG".toList.contains property
  | .file size executable =>
    match property with
    | 's' => 0 < size
    | 'x' => executable
    | _ => "efrwOG".toList.contains property
  | .device => "cerwOG".toList.contains property

/-- Whether a condition holds. -/
def holds : Condition → Act Bool
  | .constant value => return value
  | .nonempty text => return !text.isEmpty
  | .empty text => return text.isEmpty
  | .file property name => do
    if property = 't' then
      let _ ← number name
      return false
    return (← Act.ask (.kindOf name)).any (holdsOf property)
  | .compare operator left right => do
    match operator with
    | "=" => return left = right
    | "!=" => return left ≠ right
    | "<" => return left < right
    | ">" => return right < left
    | "-nt" => return false
    | "-ot" => return false
    | "-ef" => return left = right && (← Act.ask (.kindOf left)).isSome
    | _ =>
      let a ← number left
      let b ← number right
      match operator with
      | "-eq" => return a = b
      | "-ne" => return a ≠ b
      | "-ge" => return b ≤ a
      | "-gt" => return b < a
      | "-le" => return a ≤ b
      | _ => return a < b
  | .negation c => return !(← c.holds)
  | .both a b => do
    let first ← a.holds
    let second ← b.holds
    return first && second
  | .either a b => do
    let first ← a.holds
    let second ← b.holds
    return first || second

end Condition
end Proctor.Shell
