import Proctor.Toml.Quoted

/-!
# Configuration documents

A document is a sequence of lines: headers, which open a table or a row of an array of
tables, and settings, which give a dotted key of the open table its value. Values nest,
and so may not nest arbitrarily deep.
-/
namespace Proctor.Toml

/-- A reader takes its part off the front of a text, if the part is well formed. -/
abbrev Reader (α : Type) := List Char → Option (α × List Char)

namespace Document

/-- One more than the number of levels that values and the parts of a key may have. -/
def nestingLimit : Nat := 80

/-- Drops blanks within a line. -/
def dropBlanks (chars : List Char) : List Char :=
  chars.dropWhile fun c => c = ' ' || c = '\t'

/-- Drops blanks, line ends and comments; a comment must end with a line end. -/
def dropLines? : (comment : Bool) → List Char → Option (List Char)
  | true, [] => none
  | true, '\n' :: rest => dropLines? false rest
  | true, '\r' :: '\n' :: rest => dropLines? false rest
  | true, c :: rest => if Quoted.isPlain c then dropLines? true rest else none
  | false, '#' :: rest => dropLines? true rest
  | false, ' ' :: rest => dropLines? false rest
  | false, '\t' :: rest => dropLines? false rest
  | false, '\n' :: rest => dropLines? false rest
  | false, '\r' :: '\n' :: rest => dropLines? false rest
  | false, rest => some rest

/-- The end of a line, or of the document. -/
def lineEnd? : List Char → Option (List Char)
  | [] => some []
  | '\n' :: rest => some rest
  | '\r' :: '\n' :: rest => some rest
  | _ => none

/-- The rest of a line that holds no more than a comment. -/
def restOfLine? (chars : List Char) : Option (List Char) :=
  match dropBlanks chars with
  | '#' :: rest => lineEnd? (rest.dropWhile Quoted.isPlain)
  | rest => lineEnd? rest

/-- The characters of a key that is not quoted. -/
def isKeyPart (c : Char) : Bool := c.isAlphanum || c = '_' || c = '-'

/-- One part of a key. -/
def keyPart? : Reader String
  | '"' :: rest => Quoted.line? ('"' :: rest)
  | '\'' :: rest => Quoted.line? ('\'' :: rest)
  | chars =>
    let part := chars.takeWhile isKeyPart
    if part.isEmpty then none else some (String.ofList part, chars.dropWhile isKeyPart)

/-- The parts of a dotted key, at most `budget` of them; blanks may stand around each. -/
def key? : (budget : Nat) → Reader (List String)
  | 0, _ => none
  | budget + 1, chars => do
    let (part, rest) ← keyPart? (dropBlanks chars)
    match dropBlanks rest with
    | '.' :: rest => do
      let (parts, rest) ← key? budget rest
      some (part :: parts, rest)
    | rest => some ([part], rest)

/-- A dotted key: the path to a table, and the key in it. -/
def dottedKey? (chars : List Char) : Option ((List String × String) × List Char) := do
  let (parts, rest) ← key? (nestingLimit - 1) chars
  let last ← parts.getLast?
  some ((parts.dropLast, last), rest)

mutual

/-- A value with at most `depth` levels of arrays and tables in it. The first argument
bounds the number of steps. -/
def value? : (fuel depth : Nat) → Reader Value
  | 0, _, _ => none
  | fuel + 1, depth, chars =>
    match chars, depth with
    | '[' :: _, 0 => none
    | '\x7b' :: _, 0 => none
    | '[' :: rest, depth + 1 => do
      match ← dropLines? false rest with
      | ']' :: rest => some (.array [], rest)
      | rest => do
        let (items, rest) ← items? fuel depth rest
        some (.array items, rest)
    | '\x7b' :: rest, depth + 1 =>
      match dropBlanks rest with
      | '\x7d' :: rest => some (.table .braces [], rest)
      | rest => do
        let (entries, rest) ← settings? fuel depth [] rest
        some (.table .braces entries, rest)
    | '"' :: _, _ => do
      let (text, rest) ← Quoted.text? chars
      some (.string text, rest)
    | '\'' :: _, _ => do
      let (text, rest) ← Quoted.text? chars
      some (.string text, rest)
    | _, _ => do
      let (token, rest) := Scalar.split chars
      some (← Scalar.value? token, rest)

/-- The items of an array up to its closing bracket; a comma may follow the last. -/
def items? : (fuel depth : Nat) → Reader (List Value)
  | 0, _, _ => none
  | fuel + 1, depth, chars => do
    let (item, rest) ← value? fuel depth chars
    match ← dropLines? false rest with
    | ']' :: rest => some ([item], rest)
    | ',' :: rest => do
      match ← dropLines? false rest with
      | ']' :: rest => some ([item], rest)
      | rest => do
        let (items, rest) ← items? fuel depth rest
        some (item :: items, rest)
    | _ => none

/-- The settings of a table in braces up to the closing one, added to `entries`. -/
def settings? : (fuel depth : Nat) → Entries → Reader Entries
  | 0, _, _, _ => none
  | fuel + 1, depth, entries, chars => do
    let ((path, key), rest) ← dottedKey? chars
    match rest with
    | '=' :: rest => do
      let (value, rest) ← value? fuel depth (dropBlanks rest)
      let entries ← entries.insert? path key value
      match dropBlanks rest with
      | '\x7d' :: rest => some (entries, rest)
      | ',' :: rest => settings? fuel depth entries rest
      | _ => none
    | _ => none

end

/-- A document read so far, and the header of its open table. -/
structure Progress where
  entries : Entries
  header : List String

/-- A line that opens a table or a row. -/
def header? (p : Progress) : Reader Progress
  | '[' :: '[' :: rest => do
    let ((path, key), rest) ← dottedKey? rest
    match rest with
    | ']' :: ']' :: rest => do
      let entries ← p.entries.openRow? path key
      some (⟨entries, path ++ [key]⟩, ← restOfLine? rest)
    | _ => none
  | '[' :: rest => do
    let ((path, key), rest) ← dottedKey? rest
    match rest with
    | ']' :: rest => do
      let entries ← p.entries.openTable? path key
      some (⟨entries, path ++ [key]⟩, ← restOfLine? rest)
    | _ => none
  | _ => none

/-- A line that gives a key its value. -/
def setting? (p : Progress) (chars : List Char) : Option (Progress × List Char) := do
  let ((path, key), rest) ← dottedKey? chars
  match rest with
  | '=' :: rest => do
    let (value, rest) ← value? (2 * chars.length) (nestingLimit - 1) (dropBlanks rest)
    let entries ← p.entries.insertUnder? p.header path key value
    some (⟨entries, p.header⟩, ← restOfLine? rest)
  | _ => none

/-- Reads lines to the end; each takes one step and at least one character. -/
def lines? : (fuel : Nat) → Progress → List Char → Option Entries
  | 0, _, _ => none
  | fuel + 1, p, chars =>
    match dropBlanks chars with
    | [] => some p.entries
    | '#' :: rest => do lines? fuel p (← restOfLine? ('#' :: rest))
    | '[' :: rest => do
      let (p, rest) ← header? p ('[' :: rest)
      lines? fuel p rest
    | '\n' :: rest => lines? fuel p rest
    | '\r' :: rest => do lines? fuel p (← lineEnd? ('\r' :: rest))
    | rest => do
      let (p, rest) ← setting? p rest
      lines? fuel p rest

/-- Reads a document; a byte order mark may stand in front. -/
def parse? (text : String) : Option Entries :=
  let chars := match text.toList with
    | '\uFEFF' :: rest => rest
    | chars => chars
  lines? (chars.length + 1) ⟨[], []⟩ chars

end Document
end Proctor.Toml
