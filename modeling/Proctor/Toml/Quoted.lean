import Proctor.Toml.Scalar

/-!
# Quoted texts

A text in double quotes has escapes, a text in single quotes has none; three quotes make
a text of several lines, in which every line end counts as one newline and one right after
the opening quotes is dropped.
-/
namespace Proctor.Toml.Quoted

/-- The characters that may stand in a comment or a text: tabs and all but controls. -/
def isPlain (c : Char) : Bool := c = '\t' || (' ' ≤ c && c ≠ '\x7f')

/-- The character of a code given by hexadecimal digits. -/
def scalar? (digits : List Char) : Option Char := do
  let n := Scalar.number 16 (← digits.mapM (Scalar.digit? 16))
  if h : n.isValidChar then some (Char.ofNatAux n h) else none

/-- The character that a one-letter escape stands for. -/
def escape? : Char → Option Char
  | 'b' => some '\x08'
  | 't' => some '\t'
  | 'n' => some '\n'
  | 'f' => some '\x0c'
  | 'r' => some '\r'
  | '"' => some '"'
  | '\\' => some '\\'
  | _ => none

/-- Puts a character in front of a text that was read. -/
def push (c : Char) (read : Option (List Char × List Char)) : Option (List Char × List Char) :=
  read.map fun (text, rest) => (c :: text, rest)

/-- A text in double quotes, after the opening one; gives the text and what follows. -/
def basic? : List Char → Option (List Char × List Char)
  | [] => none
  | '"' :: rest => some ([], rest)
  | '\\' :: 'u' :: a :: b :: c :: d :: rest => do push (← scalar? [a, b, c, d]) (basic? rest)
  | '\\' :: 'U' :: a :: b :: c :: d :: e :: f :: g :: h :: rest => do
    push (← scalar? [a, b, c, d, e, f, g, h]) (basic? rest)
  | '\\' :: c :: rest => do push (← escape? c) (basic? rest)
  | c :: rest => if isPlain c then push c (basic? rest) else none

/-- A text in single quotes, after the opening one. -/
def literal? : List Char → Option (List Char × List Char)
  | [] => none
  | '\'' :: rest => some ([], rest)
  | c :: rest => if isPlain c then push c (literal? rest) else none

/-- What a text of several lines stands at: text, blanks after a backslash that must lead to
a line end, or blanks after such a line end, which are dropped. -/
inductive Place where
  | text
  | lineEndAhead
  | blanks

/-- A text of several lines in double quotes. Two quotes may stand before the closing three. -/
def basicLines? : Place → List Char → Option (List Char × List Char)
  | _, [] => none
  | .lineEndAhead, '\n' :: rest => basicLines? .blanks rest
  | .lineEndAhead, '\r' :: '\n' :: rest => basicLines? .blanks rest
  | .lineEndAhead, c :: rest =>
    if c = ' ' || c = '\t' then basicLines? .lineEndAhead rest else none
  | .blanks, ' ' :: rest => basicLines? .blanks rest
  | .blanks, '\t' :: rest => basicLines? .blanks rest
  | .blanks, '\n' :: rest => basicLines? .blanks rest
  | .blanks, '\r' :: '\n' :: rest => basicLines? .blanks rest
  | _, '"' :: '"' :: '"' :: '"' :: '"' :: rest => some (['"', '"'], rest)
  | _, '"' :: '"' :: '"' :: '"' :: rest => some (['"'], rest)
  | _, '"' :: '"' :: '"' :: rest => some ([], rest)
  | _, '\\' :: 'u' :: a :: b :: c :: d :: rest => do
    push (← scalar? [a, b, c, d]) (basicLines? .text rest)
  | _, '\\' :: 'U' :: a :: b :: c :: d :: e :: f :: g :: h :: rest => do
    push (← scalar? [a, b, c, d, e, f, g, h]) (basicLines? .text rest)
  | _, '\\' :: '\n' :: rest => basicLines? .blanks rest
  | _, '\\' :: '\r' :: '\n' :: rest => basicLines? .blanks rest
  | _, '\\' :: c :: rest =>
    if c = ' ' || c = '\t' then basicLines? .lineEndAhead rest
    else do push (← escape? c) (basicLines? .text rest)
  | _, '\r' :: '\n' :: rest => push '\n' (basicLines? .text rest)
  | _, c :: rest => if isPlain c || c = '\n' then push c (basicLines? .text rest) else none

/-- A text of several lines in single quotes. -/
def literalLines? : List Char → Option (List Char × List Char)
  | [] => none
  | '\'' :: '\'' :: '\'' :: '\'' :: '\'' :: rest => some (['\'', '\''], rest)
  | '\'' :: '\'' :: '\'' :: '\'' :: rest => some (['\''], rest)
  | '\'' :: '\'' :: '\'' :: rest => some ([], rest)
  | '\r' :: '\n' :: rest => push '\n' (literalLines? rest)
  | c :: rest => if isPlain c || c = '\n' then push c (literalLines? rest) else none

/-- Drops a line end. -/
def dropLineEnd : List Char → List Char
  | '\n' :: rest => rest
  | '\r' :: '\n' :: rest => rest
  | chars => chars

/-- A quoted text of one line, as a key may be. -/
def line? : List Char → Option (String × List Char)
  | '"' :: rest => (basic? rest).map fun (text, rest) => (String.ofList text, rest)
  | '\'' :: rest => (literal? rest).map fun (text, rest) => (String.ofList text, rest)
  | _ => none

/-- A quoted text. -/
def text? : List Char → Option (String × List Char)
  | '"' :: '"' :: '"' :: rest =>
    (basicLines? .text (dropLineEnd rest)).map fun (text, rest) => (String.ofList text, rest)
  | '\'' :: '\'' :: '\'' :: rest =>
    (literalLines? (dropLineEnd rest)).map fun (text, rest) => (String.ofList text, rest)
  | chars => line? chars

end Proctor.Toml.Quoted
