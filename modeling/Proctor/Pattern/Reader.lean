import Proctor.Pattern.Term
import Proctor.Pattern.Unicode.Property
import Proctor.Text.Blank

/-!
# Reading patterns

A pattern's text is read from left to right into a term. In verbose mode blanks and
comments between the parts are skipped. Reading fails as a whole at the first fault.
-/
namespace Proctor.Term.Reader

open Text

/-- Drops blanks and comments, which run from a number sign to the end of the line. -/
def dropComments : (inside : Bool) → List Char → List Char
  | _, [] => []
  | true, c :: rest => dropComments (c ≠ '\n') rest
  | false, c :: rest =>
    if c = '#' then dropComments true rest
    else if isBlank c then dropComments false rest
    else c :: rest

/-- What a part starts with: in verbose mode, the text without blanks and comments. -/
def skip (verbose : Bool) (chars : List Char) : List Char :=
  if verbose then dropComments false chars else chars

/-- The text after its first character, skipping as `skip` does. -/
def next (verbose : Bool) (chars : List Char) : List Char := skip verbose (chars.drop 1)

/-- The value of a hexadecimal digit. -/
def hexDigit? (c : Char) : Option Nat :=
  if c.isDigit then some (c.toNat - '0'.toNat)
  else if 'a' ≤ c ∧ c ≤ 'f' then some (c.toNat - 'a'.toNat + 10)
  else if 'A' ≤ c ∧ c ≤ 'F' then some (c.toNat - 'A'.toNat + 10)
  else none

/-- The character of a code point. -/
def scalar? (n : Nat) : Option Char :=
  if h : n.isValidChar then some (Char.ofNatAux n h) else none

/-- Exactly `count` hexadecimal digits; blanks between them are skipped in verbose mode. -/
def hexFixed? (verbose : Bool) : (count value : Nat) → List Char → Option (Nat × List Char)
  | 0, value, rest => some (value, rest)
  | _ + 1, _, [] => none
  | count + 1, value, c :: rest => do
    hexFixed? verbose count (16 * value + (← hexDigit? c)) (skip verbose rest)

/-- Hexadecimal digits up to a closing brace; `fuel` bounds their number. -/
def hexBraced? (verbose : Bool) :
    (fuel : Nat) → (value : Option Nat) → List Char → Option (Nat × List Char)
  | 0, _, _ => none
  | _ + 1, _, [] => none
  | fuel + 1, value, c :: rest =>
    if c = '\x7d' then value.map (·, skip verbose rest)
    else do
      let value := 16 * value.getD 0 + (← hexDigit? c)
      hexBraced? verbose fuel (some value) (skip verbose rest)

/-- A character by its code point, after the letter that announces `digits` digits. -/
def hex? (verbose : Bool) (digits : Nat) (chars : List Char) : Option (LiteralChar × List Char) :=
  match chars with
  | '\x7b' :: rest => do
    let (n, rest) ← hexBraced? verbose (rest.length + 1) none (skip verbose rest)
    some (⟨← scalar? n, false⟩, rest)
  | _ => do
    let (n, rest) ← hexFixed? verbose digits 0 chars
    some (⟨← scalar? n, digits = 2⟩, rest)

/-- The characters that mean something of their own in a pattern. -/
def isMeta (c : Char) : Bool := "\\.+*?()|[]\x7b\x7d^$#&-~".toList.contains c

/-- The characters that may be escaped though there is no need to. -/
def isEscapable (c : Char) : Bool :=
  c.toNat < 128 && !c.isAlphanum && c ≠ '<' && c ≠ '>'

/-- Splits a text at the first place where `mark` stands. -/
def splitAt? (mark : List Char) : List Char → Option (List Char × List Char)
  | [] => none
  | c :: rest =>
    if mark.isPrefixOf (c :: rest) then some ([], (c :: rest).drop mark.length)
    else (splitAt? mark rest).map fun (before, after) => (c :: before, after)

/-- A query for a property by the text between braces, and whether it asks for the others. -/
def query (text : List Char) : Bool × PropertyQuery :=
  match splitAt? ['!', '='] text with
  | some (name, value) => (true, .value (String.ofList name) (String.ofList value))
  | none =>
    match splitAt? [':'] text with
    | some (name, value) => (false, .value (String.ofList name) (String.ofList value))
    | none =>
      match splitAt? ['='] text with
      | some (name, value) => (false, .value (String.ofList name) (String.ofList value))
      | none => (false, .name (String.ofList text))

/-- The text up to a closing brace, without the blanks that verbose mode skips. -/
def braced? (verbose : Bool) : (fuel : Nat) → List Char → Option (List Char × List Char)
  | 0, _ => none
  | _ + 1, [] => none
  | fuel + 1, c :: rest =>
    if c = '\x7d' then some ([], rest)
    else do
      let (text, rest) ← braced? verbose fuel (skip verbose rest)
      some (c :: text, rest)

/-- A class by property, after its `p` or `P`. -/
def property? (verbose negated : Bool) (chars : List Char) :
    Option ((Bool × PropertyQuery) × List Char) :=
  match skip verbose chars with
  | [] => none
  | '\x7b' :: rest => do
    let (text, rest) ← braced? verbose (rest.length + 1) (skip verbose rest)
    let (others, q) := query text
    some ((negated != others, q), rest)
  | '\\' :: _ => none
  | c :: rest => some ((negated, .name (String.ofList [c])), skip verbose rest)

/-- A part that stands for itself, in a class or outside. -/
inductive Primitive where
  | literal (c : LiteralChar)
  | assertion (kind : AssertionTerm)
  | perl (negated : Bool) (kind : PerlClass)
  | property (negated : Bool) (query : PropertyQuery)

/-- The characters of a name for a kind of word boundary. -/
def boundaryName (verbose : Bool) : (fuel : Nat) → List Char → List Char × List Char
  | 0, chars => ([], chars)
  | _ + 1, [] => ([], [])
  | fuel + 1, c :: rest =>
    if c.isAlpha || c = '-' then
      let (name, rest) := boundaryName verbose fuel (skip verbose rest)
      (c :: name, rest)
    else ([], c :: rest)

/-- A word boundary, after its `b`. A brace begins its kind, unless what the brace holds
does not begin like one: then the brace is left to be a repetition. -/
def boundary? (verbose : Bool) : List Char → Option (AssertionTerm × List Char)
  | '\x7b' :: rest =>
    match skip verbose rest with
    | [] => none
    | c :: rest' =>
      if c.isAlpha || c = '-' then
        let (name, after) := boundaryName verbose (rest'.length + 1) (c :: rest')
        match after with
        | '\x7d' :: rest =>
          match String.ofList name with
          | "start" => some (.wordStart, rest)
          | "end" => some (.wordEnd, rest)
          | "start-half" => some (.wordStartHalf, rest)
          | "end-half" => some (.wordEndHalf, rest)
          | _ => none
        | _ => none
      else some (.boundary, '\x7b' :: rest)
  | rest => some (.boundary, rest)

/-- An escape, after its backslash. -/
def escape? (verbose : Bool) : List Char → Option (Primitive × List Char)
  | [] => none
  | c :: rest =>
    let literal (c : Char) : Option (Primitive × List Char) := some (.literal ⟨c, false⟩, rest)
    let assertion (kind : AssertionTerm) : Option (Primitive × List Char) :=
      some (.assertion kind, rest)
    let hex (digits : Nat) : Option (Primitive × List Char) :=
      (hex? verbose digits (skip verbose rest)).map fun (c, rest) => (.literal c, rest)
    let property (negated : Bool) : Option (Primitive × List Char) :=
      (property? verbose negated rest).map fun ((negated, q), rest) => (.property negated q, rest)
    if isMeta c || isEscapable c then literal c
    else match c with
      | 'x' => hex 2
      | 'u' => hex 4
      | 'U' => hex 8
      | 'p' => property false
      | 'P' => property true
      | 'd' => some (.perl false .digit, rest)
      | 's' => some (.perl false .space, rest)
      | 'w' => some (.perl false .word, rest)
      | 'D' => some (.perl true .digit, rest)
      | 'S' => some (.perl true .space, rest)
      | 'W' => some (.perl true .word, rest)
      | 'a' => literal '\x07'
      | 'f' => literal '\x0c'
      | 't' => literal '\t'
      | 'n' => literal '\n'
      | 'r' => literal '\r'
      | 'v' => literal '\x0b'
      | 'A' => assertion .textStart
      | 'z' => assertion .textEnd
      | 'b' => (boundary? verbose rest).map fun (kind, rest) => (.assertion kind, rest)
      | 'B' => assertion .notBoundary
      | '<' => assertion .wordStart
      | '>' => assertion .wordEnd
      | _ => none

/-- One item of a class: an escape, or any character for itself. -/
def classItem? (verbose : Bool) : List Char → Option (Primitive × List Char)
  | [] => none
  | '\\' :: rest => escape? verbose rest
  | c :: rest => some (.literal ⟨c, false⟩, rest)

/-- An item as a member of a class. Assertions are none. -/
def Primitive.member? : Primitive → Option ClassTerm
  | .literal c => some (.literal c)
  | .perl negated kind => some (.perl negated kind)
  | .property negated q => some (.property negated q)
  | .assertion _ => none

/-- An item as an end of a range. -/
def Primitive.literal? : Primitive → Option LiteralChar
  | .literal c => some c
  | _ => none

/-- What verbose mode sees after a hyphen: blanks are passed over, and of a comment the
number sign alone. When nothing else follows it sees the very next character. -/
def peekVerbose : (comment : Bool) → List Char → Option Char
  | _, [] => none
  | comment, c :: rest =>
    if isBlank c then peekVerbose comment rest
    else if c = '#' ∧ comment = false then peekVerbose true rest
    else some c

/-- The character that decides whether a hyphen makes a range. -/
def peek (verbose : Bool) (chars : List Char) : Option Char :=
  if verbose then (peekVerbose false chars).or chars.head? else chars.head?

/-- One member of a class: an item or a range. -/
def classMember? (verbose : Bool) (chars : List Char) : Option (ClassTerm × List Char) := do
  let (first, rest) ← classItem? verbose chars
  match skip verbose rest with
  | [] => none
  | '-' :: rest =>
    if peek verbose rest = some ']' || peek verbose rest = some '-' then
      some (← first.member?, '-' :: rest)
    else
      match skip verbose rest with
      | [] => none
      | rest => do
        let (last, rest) ← classItem? verbose rest
        let first ← first.literal?
        let last ← last.literal?
        if first.char ≤ last.char then some (.range first last, rest) else none
  | rest => some (← first.member?, rest)

/-- A class with a name between colons, after its bracket. -/
def asciiClass? : List Char → Option (ClassTerm × List Char)
  | ':' :: rest =>
    let (negated, rest) := match rest with
      | '^' :: rest => (true, rest)
      | _ => (false, rest)
    let name := rest.takeWhile (· ≠ ':')
    match rest.dropWhile (· ≠ ':') with
    | ':' :: ']' :: rest =>
      (AsciiClass.ofName? (String.ofList name)).map fun kind => (.ascii negated kind, rest)
    | _ => none
  | _ => none

/-- The hyphens at the start of a class, which stand for themselves. -/
def hyphens (verbose : Bool) : (fuel : Nat) → List Char → Nat × List Char
  | fuel + 1, '-' :: rest =>
    let (count, rest) := hyphens verbose fuel (skip verbose rest)
    (count + 1, rest)
  | _, chars => (0, chars)

/-- The start of a class, after its bracket: whether it is negated, and the hyphens or the
closing bracket that stand for themselves, in reverse. -/
def classStart? (verbose : Bool) (chars : List Char) :
    Option ((Bool × List ClassTerm) × List Char) :=
  let chars := skip verbose chars
  let (negated, chars) := match chars with
    | '^' :: rest => (true, skip verbose rest)
    | _ => (false, chars)
  let (count, chars) := hyphens verbose (chars.length + 1) chars
  let members := List.replicate count (ClassTerm.literal ⟨'-', false⟩)
  match chars with
  | [] => none
  | ']' :: rest =>
    if count = 0 then
      match skip verbose rest with
      | [] => none
      | rest => some ((negated, [.literal ⟨']', false⟩]), rest)
    else some ((negated, members), chars)
  | _ => some ((negated, members), chars)

/-- What was read of a class before its latest operator. -/
abbrev Pending := Option (SetOperation × ClassTerm)

/-- Applies the pending operator to the members since then. -/
def close (pending : Pending) (members : List ClassTerm) : ClassTerm :=
  let set := ClassTerm.ofMembers members.reverse
  match pending with
  | none => set
  | some (kind, left) => .operation kind left set

/-- The rest of a class up to its closing bracket. Operators all bind alike, to the left. -/
def classRest? (verbose : Bool) :
    (fuel : Nat) → Pending → List ClassTerm → List Char → Option (ClassTerm × List Char)
  | 0, _, _, _ => none
  | fuel + 1, pending, members, chars =>
    match skip verbose chars with
    | [] => none
    | '[' :: rest =>
      match asciiClass? rest with
      | some (member, rest) => classRest? verbose fuel pending (member :: members) rest
      | none => do
        let ((negated, started), rest) ← classStart? verbose rest
        let (inside, rest) ← classRest? verbose fuel none started rest
        classRest? verbose fuel pending (.bracketed negated inside :: members) rest
    | ']' :: rest => some (close pending members, rest)
    | '&' :: '&' :: rest =>
      classRest? verbose fuel (some (.intersection, close pending members)) [] rest
    | '-' :: '-' :: rest =>
      classRest? verbose fuel (some (.difference, close pending members)) [] rest
    | '~' :: '~' :: rest =>
      classRest? verbose fuel (some (.symmetricDifference, close pending members)) [] rest
    | rest => do
      let (member, rest) ← classMember? verbose rest
      classRest? verbose fuel pending (member :: members) rest

/-- A bracketed class, after its bracket. -/
def class? (verbose : Bool) (chars : List Char) : Option (Term × List Char) := do
  let ((negated, started), rest) ← classStart? verbose chars
  let (inside, rest) ← classRest? verbose (rest.length + 1) none started rest
  some (.bracketed negated inside, rest)

/-- The letters of flags up to the end of the group's head; no flag may come twice, and a
hyphen that clears what follows must have something to clear. -/
def flags? : (negated : Bool) → List FlagSetting → List Char →
    Option (List FlagSetting × List Char)
  | _, _, [] => none
  | negated, settings, c :: rest =>
    if c = ':' || c = ')' then some (settings.reverse, c :: rest)
    else if c = '-' then
      match negated, rest with
      | false, d :: _ => if d = ':' || d = ')' then none else flags? true settings rest
      | _, _ => none
    else
      match PatternFlag.ofLetter? c with
      | some flag =>
        if (FlagSetting.value? flag settings).isSome then none
        else flags? negated (⟨flag, !negated⟩ :: settings) rest
      | none => none

/-- The characters of a group's name. -/
def isNameChar (first : Bool) (c : Char) : Bool :=
  if first then c = '_' || Unicode.Property.alphabetic.contains c.toNat
  else c = '_' || c = '.' || c = '[' || c = ']' || Unicode.Property.alphabetic.contains c.toNat ||
    Unicode.Category.number.contains c.toNat

/-- A group's name, up to its closing angle bracket. -/
def name? (chars : List Char) : Option (List Char × List Char) :=
  let name := chars.takeWhile (· ≠ '>')
  match name, chars.dropWhile (· ≠ '>') with
  | c :: more, _ :: rest =>
    if isNameChar true c && more.all (isNameChar false) then some (name, rest) else none
  | _, _ => none

/-- The head of a group. -/
inductive Head where
  /-- No group, but flags for what follows. -/
  | flags (settings : List FlagSetting)
  /-- A group that captures, perhaps with a name. -/
  | capture (name : Option (List Char))
  /-- A group with flags of its own. -/
  | plain (settings : List FlagSetting)

/-- The head of a group, after its parenthesis. Assertions about what surrounds a match are
not supported. -/
def head? (verbose : Bool) (chars : List Char) : Option (Head × List Char) :=
  match skip verbose chars with
  | '?' :: '=' :: _ => none
  | '?' :: '!' :: _ => none
  | '?' :: '<' :: '=' :: _ => none
  | '?' :: '<' :: '!' :: _ => none
  | '?' :: 'P' :: '<' :: rest => (name? rest).map fun (name, rest) => (.capture (some name), rest)
  | '?' :: '<' :: rest => (name? rest).map fun (name, rest) => (.capture (some name), rest)
  | '?' :: rest => do
    let (settings, rest) ← flags? false [] rest
    match rest with
    | ')' :: rest => if settings.isEmpty then none else some (.flags settings, rest)
    | _ :: rest => some (.plain settings, rest)
    | [] => none
  | rest => some (.capture none, rest)

/-- A decimal number below `2 ^ 32`. Blanks around it are passed over, and between its
digits in verbose mode. -/
def digits (verbose : Bool) : (fuel : Nat) → List Char → List Char × List Char
  | fuel + 1, c :: rest =>
    if c.isDigit then
      let (more, rest) := digits verbose fuel (skip verbose rest)
      (c :: more, rest)
    else ([], c :: rest)
  | _, chars => ([], chars)

/-- Drops blanks, and in verbose mode comments after each. -/
def dropBlanks (verbose : Bool) : (fuel : Nat) → List Char → List Char
  | fuel + 1, c :: rest =>
    if isBlank c then dropBlanks verbose fuel (skip verbose rest) else c :: rest
  | _, chars => chars

def decimal? (verbose : Bool) (chars : List Char) : Option Nat × List Char :=
  let (ds, rest) := digits verbose chars.length (chars.dropWhile isBlank)
  let rest := dropBlanks verbose rest.length rest
  let n := ds.foldl (fun n d => 10 * n + (d.toNat - '0'.toNat)) 0
  (if ds.isEmpty || 0x100000000 ≤ n then none else some n, rest)

/-- Drops the question mark that makes a repetition lazy. -/
def dropLazy : List Char → List Char
  | '?' :: rest => rest
  | chars => chars

/-- How often a term is repeated, after the opening brace. -/
def count? (verbose : Bool) (chars : List Char) : Option ((Nat × Option Nat) × List Char) := do
  let chars := skip verbose chars
  if chars.isEmpty then none
  let (least, rest) := decimal? verbose chars
  match rest with
  | '\x7d' :: rest => do
    let least ← least
    some ((least, some least), dropLazy (skip verbose rest))
  | ',' :: rest => do
    let least ← least
    match skip verbose rest with
    | '\x7d' :: rest => some ((least, none), dropLazy (skip verbose rest))
    | rest => do
      let (most, rest) := decimal? verbose rest
      let most ← most
      match rest with
      | '\x7d' :: rest =>
        if least ≤ most then some ((least, some most), dropLazy (skip verbose rest)) else none
      | _ => none
  | _ => none

/-- What was read of a group: its finished alternatives and the terms of the latest, both in
reverse, the names given so far and whether it is verbose. -/
structure Level where
  verbose : Bool
  names : List (List Char)
  alternatives : List Term
  terms : List Term

/-- The term that a group holds. -/
def Level.term (l : Level) : Term :=
  .ofAlternatives ((Term.ofSequence l.terms.reverse :: l.alternatives).reverse)

/-- Adds a term. -/
def Level.push (l : Level) (t : Term) : Level := { l with terms := t :: l.terms }

/-- Repeats the latest term; there must be one, and flags are none. -/
def Level.repeat? (l : Level) (least : Nat) (most : Option Nat) : Option Level :=
  match l.terms with
  | [] => none
  | .flags _ :: _ => none
  | t :: terms => some { l with terms := .repetition least most t :: terms }

/-- A character that is neither a class, a group nor an operator. -/
def primitive? (verbose : Bool) : List Char → Option (Term × List Char)
  | [] => none
  | '\\' :: rest => do
    let (p, rest) ← escape? verbose rest
    match p with
    | .literal c => some (.literal c, rest)
    | .assertion kind => some (.assertion kind, rest)
    | .perl negated kind => some (.perl negated kind, rest)
    | .property negated q => some (.property negated q, rest)
  | '.' :: rest => some (.dot, rest)
  | '^' :: rest => some (.assertion .lineStart, rest)
  | '$' :: rest => some (.assertion .lineEnd, rest)
  | c :: rest => some (.literal ⟨c, false⟩, rest)

/-- Reads a group, or the whole text, to its end; gives the term, the names and what
follows. Every step takes a character. -/
def level? (inside : Bool) : (fuel : Nat) → Level → List Char →
    Option ((Term × List (List Char)) × List Char)
  | 0, _, _ => none
  | fuel + 1, l, chars =>
    match skip l.verbose chars with
    | [] => if inside then none else some ((l.term, l.names), [])
    | ')' :: rest => if inside then some ((l.term, l.names), rest) else none
    | '|' :: rest =>
      level? inside fuel
        { l with alternatives := .ofSequence l.terms.reverse :: l.alternatives, terms := [] } rest
    | '(' :: rest => do
      let (head, rest) ← head? l.verbose rest
      match head with
      | .flags settings =>
        let verbose := (FlagSetting.value? .verbose settings).getD l.verbose
        level? inside fuel { l.push (.flags settings) with verbose } rest
      | .plain settings => do
        let verbose := (FlagSetting.value? .verbose settings).getD l.verbose
        let ((body, names), rest) ← level? true fuel ⟨verbose, l.names, [], []⟩ rest
        level? inside fuel { l.push (.group false settings body) with names } rest
      | .capture name => do
        if name.any l.names.contains then none
        let ((body, names), rest) ←
          level? true fuel ⟨l.verbose, name.toList ++ l.names, [], []⟩ rest
        level? inside fuel { l.push (.group true [] body) with names } rest
    | '[' :: rest => do
      let (t, rest) ← class? l.verbose rest
      level? inside fuel (l.push t) rest
    | '?' :: rest => do level? inside fuel (← l.repeat? 0 (some 1)) (dropLazy rest)
    | '*' :: rest => do level? inside fuel (← l.repeat? 0 none) (dropLazy rest)
    | '+' :: rest => do level? inside fuel (← l.repeat? 1 none) (dropLazy rest)
    | '\x7b' :: rest => do
      let ((least, most), rest) ← count? l.verbose rest
      level? inside fuel (← l.repeat? least most) rest
    | rest => do
      let (t, rest) ← primitive? l.verbose rest
      level? inside fuel (l.push t) rest

end Reader

/-- How deep a pattern may nest. -/
def nestingLimit : Nat := 250

/-- Reads a pattern. -/
def read? (text : String) : Option Term := do
  let chars := text.toList
  let ((t, _), _) ← Reader.level? false (chars.length + 1) ⟨false, [], [], []⟩ chars
  if t.depth ≤ nestingLimit then some t else none

end Proctor.Term
