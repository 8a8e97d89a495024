import Proctor.Shell.Syntax

/-!
# Tokens of shell commands

A script is read from its front. What comes next is an operator, a reserved word, any other
word, the end of a line or the end of the script; a mistake is reported with the line where
it was noticed.
-/
namespace Proctor.Shell

/-- A mistake in a script, with the line where it was noticed. -/
structure Mistake where
  line : Nat
  message : String
  deriving DecidableEq, Repr

/-- What is left of a script. -/
structure Source where
  input : Octets
  line : Nat := 1
  /-- The lines that a text in the script has taken out of the input. -/
  owed : Nat := 0

/-- A computation that reads a script. -/
abbrev Reader := StateT Source (Except Mistake)

namespace Reader

/-- Stops reading. -/
def fail {α : Type} (message : String) : Reader α := do
  throw ⟨(← get).line, message⟩

/-- What is left to read. -/
def input : Reader Octets := return (← get).input

/-- Takes so many characters away. -/
def drop (count : Nat) : Reader Unit := modify fun s =>
  let lines := (s.input.take count).count '\n'
  { s with
    input := s.input.drop count
    line := s.line + lines + if lines = 0 then 0 else s.owed
    owed := if lines = 0 then s.owed else 0 }

/-- Whether a character ends a word. -/
def isMeta (c : Char) : Bool := " \t\n;&|<>()".toList.contains c

/-- The blanks and comments in front of a token, as a number of characters. -/
def blankLength : Octets → Nat
  | ' ' :: rest => blankLength rest + 1
  | '\t' :: rest => blankLength rest + 1
  | '\\' :: '\n' :: rest => blankLength rest + 2
  | '#' :: rest => (rest.takeWhile (· ≠ '\n')).length + 1
  | _ => 0

/-- Skips blanks and a comment. -/
def skipBlanks : Reader Unit := do
  drop (blankLength (← input))

/-- Skips blanks, comments and line ends. -/
def skipLines : Nat → Reader Unit
  | 0 => return ()
  | n + 1 => do
    skipBlanks
    if (← input).head? = some '\n' then
      drop 1
      skipLines n

/-- The words that have a meaning of their own where a command can begin. -/
def reservedWords : List String :=
  ["!", "\x7b", "\x7d", "case", "do", "done", "elif", "else", "esac", "fi", "for", "if", "in",
    "then", "until", "while"]

/-- What can come next. -/
inductive Token where
  | eof
  | newline
  | operator (text : String)
  | reserved (text : String)
  | word
  deriving DecidableEq

/-- The operators, longer ones first. -/
def operators : List String :=
  ["<<-", "&&", "||", ";;", "<<", "<&", "<>", ">>", ">&", ">|", "&", "|", ";", "<", ">", "(", ")"]

/-- The operators that redirect. -/
def redirections : List String := ["<<-", "<<", "<&", "<>", ">>", ">&", ">|", "<", ">"]

/-- The next token, which is not taken away. -/
def peek : Reader Token := do
  skipBlanks
  let chars ← input
  match chars.head? with
  | none => return .eof
  | some '\n' => return .newline
  | some _ =>
    match operators.find? fun o => (Octets.dropPrefix? o.toList chars).isSome with
    | some o => return .operator o
    | none =>
      let text := chars.takeWhile fun c => !isMeta c
      match reservedWords.find? fun w => w.toList = text with
      | some w => return .reserved w
      | none => return .word

/-- What a token is called in a message. -/
def Token.name : Token → String
  | .eof => "end of file"
  | .newline => "newline"
  | .operator o => if redirections.contains o then "redirection" else "\"" ++ o ++ "\""
  | .reserved w => "\"" ++ w ++ "\""
  | .word => "word"

/-- Complains about the next token. -/
def unexpected {α : Type} (expecting : Option String) : Reader α := do
  let token ← peek
  fail ("Syntax error: " ++ token.name ++ " unexpected" ++
    match expecting with
    | some e => " (expecting " ++ e ++ ")"
    | none => "")

/-- Takes an operator or a reserved word that must come next. -/
def expect (text : String) : Reader Unit := do
  let token ← peek
  if token = .operator text || token = .reserved text then drop text.length
  else unexpected (some ("\"" ++ text ++ "\""))

/-- Takes a closing parenthesis that must come next, where no word is reserved. -/
def expectClosing : Reader Unit := do
  if (← peek) matches .reserved _ then
    fail "Syntax error: word unexpected (expecting \")\")"
  expect ")"

/-- Takes an operator if it comes next. -/
def accept (text : String) : Reader Bool := do
  let token ← peek
  if token = .operator text || token = .reserved text then
    drop text.length
    return true
  else return false

end Reader
end Proctor.Shell
