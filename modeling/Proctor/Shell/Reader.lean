import Proctor.Shell.Token

/-!
# Reading shell commands

A script is read one line of commands at a time, so that what stands before a mistake is
executed. A line goes on while a command in it is not complete.
-/
namespace Proctor.Shell
namespace Reader

/-! ## Words -/

/-- Where parts are read. -/
inductive Context where
  | word
  | doubleQuoted
  /-- Within braces, in double quotes or not. -/
  | braces (quoted : Bool)
  /-- Within an arithmetic expression, with so many open parentheses. -/
  | arithmetic (depth : Nat)
  /-- In a text of the script. -/
  | text
  deriving DecidableEq

/-- Whether text is quoted as a whole. -/
def Context.isQuoted : Context → Bool
  | .word => false
  | .doubleQuoted => true
  | .braces quoted => quoted
  | .arithmetic _ => true
  | .text => true

/-- Whether a backslash takes the meaning from a character. -/
def Context.escapes (context : Context) (c : Char) : Bool :=
  match context with
  | .word => true
  | .braces false => true
  | .doubleQuoted => "$\x60\"\\".toList.contains c
  | .braces true => "$\x60\"\\\x7d".toList.contains c
  | .arithmetic _ => "$\x60\"\\".toList.contains c
  | .text => "$\x60\\".toList.contains c

/-- Whether parts end before a character. -/
def Context.endsAt (context : Context) (c : Char) : Bool :=
  match context with
  | .word => isMeta c
  | .doubleQuoted => c = '"'
  | .braces _ => c = '\x7d'
  | .arithmetic depth => depth = 0 && c = ')'
  | .text => false

/-- Complains that the input ends within parts. -/
def Context.unfinished {α : Type} : Context → Reader α
  | .braces _ => fail "Syntax error: Missing '\x7d'"
  | .arithmetic _ => fail "Syntax error: Missing '))'"
  | _ => fail "Syntax error: Unterminated quoted string"

/-- The text up to a single quote. -/
def singleQuoted : Reader Octets := do
  let chars ← input
  let text := chars.takeWhile (· ≠ '\'')
  if text.length = chars.length then fail "Syntax error: Unterminated quoted string"
  drop (text.length + 1)
  return text

/-- The script between two backquotes, without the backslashes that guard it, and how many
characters it takes with the second backquote. -/
def backquoted (quoted : Bool) : Octets → Option (Octets × Nat)
  | [] => none
  | '\x60' :: _ => some ([], 1)
  | '\\' :: c :: rest =>
    (backquoted quoted rest).map fun (text, n) =>
      if c = '$' || c = '\x60' || c = '\\' || (quoted && c = '"') then (c :: text, n + 2)
      else ('\\' :: c :: text, n + 2)
  | c :: rest => (backquoted quoted rest).map fun (text, n) => (c :: text, n + 1)

/-- The name of a parameter at the front of a text: a name, digits or a special character.
Outside braces there is one digit at most. -/
def parameterName (braces : Bool) : Octets → Octets
  | [] => []
  | c :: rest =>
    if isNameStart c then c :: rest.takeWhile isNameChar
    else if c.isDigit then c :: if braces then rest.takeWhile Char.isDigit else []
    else if "@*#?-$!".toList.contains c then [c]
    else []

/-- The rest of the first line, and what comes after it. A line end within quotes does not
end the line. -/
def splitLine (quote : Option Char) : Octets → Octets × Octets
  | [] => ([], [])
  | '\\' :: c :: rest =>
    let (line, after) := splitLine quote rest
    ('\\' :: c :: line, after)
  | c :: rest =>
    if c = '\n' && quote.isNone then ([], rest)
    else
      let quote :=
        match quote with
        | none => if c = '\'' || c = '"' then some c else none
        | some q => if c = q then none else some q
      let (line, after) := splitLine quote rest
      (c :: line, after)

/-- The lines up to a delimiter, and what comes after it, together with the number of lines
taken. Leading tabs may not count. -/
def textLines (delimiter : Octets) (stripTabs : Bool) : List Octets → Octets × List Octets × Nat
  | [] => ([], [], 0)
  | line :: rest =>
    let line := if stripTabs then line.dropWhile (· = '\t') else line
    if line = delimiter then ([], rest, 1)
    else if rest.isEmpty then (line, [], 0)
    else
      let (text, after, n) := textLines delimiter stripTabs rest
      (line ++ '\n' :: text, after, n + 1)

/-- The text of a word as it is written, without its quotes, and whether there were any. -/
def rawWord : Nat → Reader (Octets × Bool)
  | 0 => return ([], false)
  | n + 1 => do
    match ← input with
    | [] => return ([], false)
    | c :: rest =>
      if isMeta c then return ([], false)
      drop 1
      if c = '\'' then
        let text ← singleQuoted
        return (text ++ (← rawWord n).1, true)
      else if c = '"' then
        let text := rest.takeWhile (· ≠ '"')
        drop (text.length + 1)
        return (text ++ (← rawWord n).1, true)
      else if c = '\\' then
        drop 1
        return (rest.take 1 ++ (← rawWord n).1, true)
      else
        let (text, quoted) ← rawWord n
        return (c :: text, quoted)

mutual

/-- Reads parts up to where their context ends. -/
def parts (context : Context) : Nat → Reader Word
  | 0 => fail "Syntax error: too deep"
  | n + 1 => do
    let quoted := context.isQuoted
    match ← input with
    | [] => if context = .word || context = .text then return [] else context.unfinished
    | c :: rest =>
      if context.endsAt c then return []
      else if c = '\\' then
        match rest with
        | [] =>
          drop 1
          return [.literal ['\\'] quoted]
        | d :: _ =>
          if d = '\n' then
            drop 2
            parts context n
          else if context.escapes d then
            drop 2
            return Part.cons (.literal [d] true) (← parts context n)
          else
            drop 1
            return Part.cons (.literal ['\\'] quoted) (← parts context n)
      else if c = '\'' && !quoted then
        drop 1
        let text ← singleQuoted
        return Part.cons (.literal text true) (← parts context n)
      else if c = '"' && context ≠ .text then
        drop 1
        match context with
        | .doubleQuoted => return []
        | .arithmetic _ => parts context n
        | _ =>
          let inner ← parts .doubleQuoted n
          drop 1
          let after ← parts context n
          let inner := if inner.isEmpty then [.literal [] true] else inner
          return inner.foldr Part.cons after
      else if c = '$' then
        let part ← dollar quoted n
        return Part.cons part (← parts context n)
      else if c = '\x60' then
        drop 1
        match backquoted quoted (← input) with
        | none => fail "Syntax error: EOF in backquote substitution"
        | some (script, count) =>
          let saved ← get
          set { saved with input := script }
          let body ← commands n
          set { saved with input := saved.input }
          drop count
          return .substitution body quoted :: (← parts context n)
      else
        let context' :=
          match context with
          | .arithmetic depth =>
            if c = '(' then .arithmetic (depth + 1)
            else if c = ')' then .arithmetic (depth - 1)
            else context
          | _ => context
        drop 1
        return Part.cons (.literal [c] quoted) (← parts context' n)

/-- Reads what a dollar sign begins. -/
def dollar (quoted : Bool) : Nat → Reader Part
  | 0 => fail "Syntax error: too deep"
  | n + 1 => do
    match ← input with
    | '$' :: '(' :: '(' :: _ =>
      drop 3
      let expression ← parts (.arithmetic 0) n
      match ← input with
      | ')' :: ')' :: _ =>
        drop 2
        return .arithmetic expression quoted
      | _ => fail "Syntax error: Missing '))'"
    | '$' :: '(' :: _ =>
      drop 2
      let body ← commands n
      expect ")"
      return .substitution body quoted
    | '$' :: '\x7b' :: _ =>
      drop 2
      braced quoted n
    | _ =>
      let name := parameterName false ((← input).drop 1)
      drop (name.length + 1)
      if name.isEmpty then return .literal ['$'] quoted
      else return .parameter name .value quoted

/-- Reads a parameter in braces, of which the first is gone. -/
def braced (quoted : Bool) : Nat → Reader Part
  | 0 => fail "Syntax error: too deep"
  | n + 1 => do
    let chars ← input
    let close (use : Use) (name : Octets) : Reader Part := do
      if (← input).head? = some '\x7d' then
        drop 1
        return .parameter name use quoted
      else
        let _ ← parts (.braces quoted) n
        drop 1
        return .bad
    let counted := parameterName true (chars.drop 1)
    if chars.head? = some '#' && !counted.isEmpty &&
        (chars.drop (1 + counted.length)).head? = some '\x7d' then
      drop (1 + counted.length)
      close .size counted
    else
      let name := parameterName true chars
      drop name.length
      if name.isEmpty then
        let _ ← close .value name
        return .bad
      else
        let argument (count : Nat) : Reader Word := do
          drop count
          parts (.braces quoted) n
        let trimmed (front longest : Bool) (count : Nat) : Reader Part := do
          drop count
          let pattern ← parts (.braces false) n
          drop 1
          return .parameter name (.trim front longest pattern) quoted
        match ← input with
        | ':' :: '-' :: _ => close (.orElse true (← argument 2)) name
        | ':' :: '=' :: _ => close (.orAssign true (← argument 2)) name
        | ':' :: '?' :: _ => close (.orFail true (← argument 2)) name
        | ':' :: '+' :: _ => close (.ifSet true (← argument 2)) name
        | '-' :: _ => close (.orElse false (← argument 1)) name
        | '=' :: _ => close (.orAssign false (← argument 1)) name
        | '?' :: _ => close (.orFail false (← argument 1)) name
        | '+' :: _ => close (.ifSet false (← argument 1)) name
        | '%' :: '%' :: _ => trimmed false true 2
        | '%' :: _ => trimmed false false 1
        | '#' :: '#' :: _ => trimmed true true 2
        | '#' :: _ => trimmed true false 1
        | _ => close .value name

/-- Reads a word that must come next. -/
def word : Nat → Reader Word
  | 0 => fail "Syntax error: too deep"
  | n + 1 => do
    if (← peek) matches .eof | .newline | .operator _ then unexpected none
    parts .word n

/-- Reads a redirection if one comes next. -/
def redirect? : Nat → Reader (Option Redirect)
  | 0 => fail "Syntax error: too deep"
  | n + 1 => do
    skipBlanks
    let chars ← input
    let explicit : Option Nat :=
      match chars with
      | d :: c :: _ => if d.isDigit && (c = '<' || c = '>') then some (d.toNat - 48) else none
      | _ => none
    let afterDigit := if explicit.isSome then chars.drop 1 else chars
    match redirections.find? fun o => (Octets.dropPrefix? o.toList afterDigit).isSome with
    | none => return none
    | some o =>
      drop (o.length + if explicit.isSome then 1 else 0)
      let descriptor := explicit.getD (if o.toList.head? = some '<' then 0 else 1)
      if o = "<<" || o = "<<-" then
        skipBlanks
        if (← peek) matches .eof | .newline | .operator _ then unexpected none
        let (delimiter, quoted) ← rawWord n
        let (line, after) := splitLine none (← input)
        let (text, rest, count) := textLines delimiter (o = "<<-") (Octets.splitAt '\n' after)
        modify fun s => { s with
          input := line ++ '\n' :: Octets.join ['\n'] rest, owed := s.owed + count }
        if quoted then return some (.text descriptor [.literal text true])
        else
          let saved ← get
          set { saved with input := text }
          let body ← parts .text n
          set saved
          return some (.text descriptor body)
      else
        skipBlanks
        let name ← word n
        match o with
        | "<" => return some (.file descriptor .read name)
        | ">" => return some (.file descriptor .write name)
        | ">|" => return some (.file descriptor .write name)
        | ">>" => return some (.file descriptor .append name)
        | "<>" => return some (.file descriptor .update name)
        | _ => return some (.copy descriptor name)

/-- Reads all redirections that come next. -/
def redirects : Nat → Reader (List Redirect)
  | 0 => return []
  | n + 1 => do
    match ← redirect? n with
    | none => return []
    | some r => return r :: (← redirects n)

/-- Reads the assignments, words and redirections of a simple command. -/
def simple (assignments : List (Octets × Word)) (words : List Word) (redirects : List Redirect) :
    Nat → Reader (List (Octets × Word) × List Word × List Redirect)
  | 0 => fail "Syntax error: too deep"
  | n + 1 => do
    match ← redirect? n with
    | some r => simple assignments words (redirects ++ [r]) n
    | none =>
      match ← peek with
      | .eof => return (assignments, words, redirects)
      | .newline => return (assignments, words, redirects)
      | .operator o =>
        if o = "(" && !words.isEmpty then unexpected none
        else return (assignments, words, redirects)
      | _ =>
        let chars ← input
        let name := chars.takeWhile isNameChar
        if words.isEmpty && isName name && (chars.drop name.length).head? = some '=' then
          drop (name.length + 1)
          let value ← parts .word n
          simple (assignments ++ [(name, value)]) words redirects n
        else
          let w ← parts .word n
          simple assignments (words ++ [w]) redirects n

/-- Reads a command. -/
def command : Nat → Reader Command
  | 0 => fail "Syntax error: too deep"
  | n + 1 => do
    let compound (body : Command) : Reader Command := do
      let rs ← redirects n
      return if rs.isEmpty then body else .redirected body rs
    match ← peek with
    | .reserved "if" =>
      drop 2
      let body ← conditional n
      compound body
    | .reserved "while" =>
      drop 5
      let condition ← nonempty n
      expect "do"
      let body ← nonempty n
      expect "done"
      compound (.loop false condition body)
    | .reserved "until" =>
      drop 5
      let condition ← nonempty n
      expect "do"
      let body ← nonempty n
      expect "done"
      compound (.loop true condition body)
    | .reserved "for" =>
      drop 3
      skipBlanks
      let name := (← input).takeWhile fun c => !isMeta c
      if !isName name then fail "Syntax error: Bad for loop variable"
      drop name.length
      skipLines n
      let words ←
        if ← accept "in" then do
          let words ← wordList n
          if !(← accept ";") then
            if (← peek) ≠ .newline then unexpected none
          pure (some words)
        else do
          let _ ← accept ";"
          pure none
      skipLines n
      expect "do"
      let body ← nonempty n
      expect "done"
      compound (.iteration name words body)
    | .reserved "case" =>
      drop 4
      skipBlanks
      let subject ← word n
      skipLines n
      expect "in"
      let body ← arms n
      compound (.choice subject body)
    | .reserved "\x7b" =>
      drop 1
      let body ← nonempty n
      expect "\x7d"
      compound body
    | .operator "(" =>
      drop 1
      let body ← nonempty n
      expect ")"
      compound (.subshell body)
    | .reserved _ => unexpected none
    | .word =>
      let chars ← input
      let name := chars.takeWhile fun c => !isMeta c
      let isPlain := !name.any fun c => "$'\"\x60\\=".toList.contains c
      let after := chars.drop name.length
      if isPlain && (after.drop (blankLength after)).head? = some '(' then
        drop name.length
        skipBlanks
        drop 1
        expectClosing
        if !isName name then fail "Syntax error: Bad function name"
        skipLines n
        let body ← command n
        return .function name body
      else
        let line := (← get).line
        let (assignments, words, rs) ← simple [] [] [] n
        return .simple line assignments words rs
    | .operator o =>
      if redirections.contains o then
        let line := (← get).line
        let (assignments, words, rs) ← simple [] [] [] n
        return .simple line assignments words rs
      else unexpected none
    | _ => unexpected none

/-- Reads a conditional, of which the first word is gone. -/
def conditional : Nat → Reader Command
  | 0 => fail "Syntax error: too deep"
  | n + 1 => do
    let condition ← nonempty n
    expect "then"
    let yes ← nonempty n
    if ← accept "elif" then
      let no ← conditional n
      return .conditional condition yes no
    else if ← accept "else" then
      let no ← nonempty n
      expect "fi"
      return .conditional condition yes no
    else
      expect "fi"
      return .conditional condition yes .empty

/-- Reads words up to the end of a command. -/
def wordList : Nat → Reader (List Word)
  | 0 => fail "Syntax error: too deep"
  | n + 1 => do
    if (← peek) matches .eof | .newline | .operator _ then return []
    let w ← parts .word n
    return w :: (← wordList n)

/-- Reads the patterns of an arm, up to the closing parenthesis. -/
def armPatterns : Nat → Reader (List Word)
  | 0 => fail "Syntax error: too deep"
  | n + 1 => do
    skipBlanks
    if (← peek) = .eof then expect ")"
    let pattern ← word n
    if ← accept "|" then return pattern :: (← armPatterns n)
    else
      expectClosing
      return [pattern]

/-- Reads the arms of a choice. -/
def arms : Nat → Reader (List (List Word × Command))
  | 0 => fail "Syntax error: too deep"
  | n + 1 => do
    skipLines n
    if ← accept "esac" then return []
    let _ ← accept "("
    let patterns ← armPatterns n
    let body ← commands n
    if ← accept ";;" then return (patterns, body) :: (← arms n)
    else
      expect "esac"
      return [(patterns, body)]

/-- Reads a pipeline. -/
def pipeline : Nat → Reader Command
  | 0 => fail "Syntax error: too deep"
  | n + 1 => do
    if ← accept "!" then
      if (← peek) = .reserved "!" then unexpected none
      let body ← pipeline n
      return .negation body
    let first ← command n
    let rest ← pipelineRest n
    return if rest.isEmpty then first else .pipeline (first :: rest)

/-- Reads the further members of a pipeline. -/
def pipelineRest : Nat → Reader (List Command)
  | 0 => fail "Syntax error: too deep"
  | n + 1 => do
    if ← accept "|" then
      skipLines n
      let next ← command n
      return next :: (← pipelineRest n)
    else return []

/-- Reads pipelines that depend on one another. -/
def chain (first : Command) : Nat → Reader Command
  | 0 => fail "Syntax error: too deep"
  | n + 1 => do
    if ← accept "&&" then
      skipLines n
      let next ← pipeline n
      chain (.both first next) n
    else if ← accept "||" then
      skipLines n
      let next ← pipeline n
      chain (.either first next) n
    else return first

/-- Reads commands, over line ends if that is wanted, up to what cannot begin one. -/
def sequenceFrom (acrossLines : Bool) : Nat → Reader Command
  | 0 => fail "Syntax error: too deep"
  | n + 1 => do
    if acrossLines then skipLines n
    let next : Reader Command := do
      let one ← pipeline n
      let one ← chain one n
      if ← accept "&" then return .sequence (.background one) (← sequenceFrom acrossLines n)
      else if ← accept ";" then return .sequence one (← sequenceFrom acrossLines n)
      else if acrossLines && (← peek) = .newline then
        return .sequence one (← sequenceFrom acrossLines n)
      else return one
    match ← peek with
    | .eof => return .empty
    | .newline => return .empty
    | .operator ")" => return .empty
    | .operator ";;" => return .empty
    | .reserved w =>
      if ["then", "else", "elif", "fi", "do", "done", "esac", "\x7d"].contains w then return .empty
      else next
    | _ => next

/-- Reads commands over line ends. There may be none. -/
def commands : Nat → Reader Command
  | 0 => fail "Syntax error: too deep"
  | n + 1 => sequenceFrom true n

/-- Reads commands over line ends. There must be one, unless the input ends. -/
def nonempty : Nat → Reader Command
  | 0 => fail "Syntax error: too deep"
  | n + 1 => do
    let body ← sequenceFrom true n
    if body matches .empty then
      if (← peek) ≠ .eof then unexpected none
    return body

end

/-- Reads the next line of commands; there is none at the end. -/
def line : Reader (Option Command) := do
  let n := 16 * ((← input).length + 16)
  skipLines n
  if (← peek) = .eof then return none
  let body ← sequenceFrom false n
  match ← peek with
  | .eof => return some body
  | .newline =>
    drop 1
    return some body
  | _ => unexpected none

end Reader
end Proctor.Shell
