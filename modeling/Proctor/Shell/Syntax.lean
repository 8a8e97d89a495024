import Proctor.Text.Octets

/-!
# Shell commands

The commands of the shell as they are read. A word is a list of parts, each quoted or not;
what a part stands for is found out only when the word is used.
-/
namespace Proctor.Shell

/-- How a redirection opens its file. -/
inductive Opening where
  | read
  | write
  | append
  | update
  deriving DecidableEq, Repr

mutual

/-- A part of a word. -/
inductive Part where
  | literal (text : Octets) (quoted : Bool)
  | parameter (name : Octets) (use : Use) (quoted : Bool)
  /-- What a command writes. -/
  | substitution (body : Command) (quoted : Bool)
  | arithmetic (expression : List Part) (quoted : Bool)
  /-- A use of a parameter that is none; this is found out when the word is used. -/
  | bad

/-- How the value of a parameter is used. The flag of the first four says whether an empty
value counts as none. -/
inductive Use where
  | value
  | size
  | orElse (orEmpty : Bool) (word : List Part)
  | orAssign (orEmpty : Bool) (word : List Part)
  | orFail (orEmpty : Bool) (word : List Part)
  | ifSet (orEmpty : Bool) (word : List Part)
  /-- Without the shortest or longest beginning or end that matches a pattern. -/
  | trim (front longest : Bool) (pattern : List Part)

/-- A redirection of a descriptor. -/
inductive Redirect where
  | file (descriptor : Nat) (opening : Opening) (name : List Part)
  | copy (descriptor : Nat) (source : List Part)
  /-- Text that stands in the script. -/
  | text (descriptor : Nat) (body : List Part)

/-- A command. -/
inductive Command where
  | empty
  | simple (line : Nat) (assignments : List (Octets × List Part)) (words : List (List Part))
    (redirects : List Redirect)
  | redirected (body : Command) (redirects : List Redirect)
  | pipeline (members : List Command)
  | negation (body : Command)
  | both (first second : Command)
  | either (first second : Command)
  | sequence (first second : Command)
  | background (body : Command)
  | subshell (body : Command)
  | conditional (condition yes no : Command)
  | loop (untilTrue : Bool) (condition body : Command)
  /-- Without words it goes through the arguments. -/
  | iteration (name : Octets) (words : Option (List (List Part))) (body : Command)
  | choice (subject : List Part) (arms : List (List (List Part) × Command))
  | function (name : Octets) (body : Command)

end

instance : Inhabited Command := ⟨.empty⟩

/-- A word. -/
abbrev Word := List Part

/-- Puts a part in front of a word; plain text grows together. -/
def Part.cons : Part → Word → Word
  | .literal a quoted, .literal b quoted' :: rest =>
    if quoted = quoted' then .literal (a ++ b) quoted :: rest
    else .literal a quoted :: .literal b quoted' :: rest
  | p, rest => p :: rest

/-- The text of a word in which nothing is quoted and nothing has to be expanded. -/
def Word.plain? : Word → Option Octets
  | [.literal text false] => some text
  | _ => none

/-- Whether a character can begin a name. -/
def isNameStart (c : Char) : Bool := c.isAlpha || c = '_'

/-- Whether a character can stand in a name. -/
def isNameChar (c : Char) : Bool := c.isAlphanum || c = '_'

/-- Whether a text is a name. -/
def isName : Octets → Bool
  | [] => false
  | c :: rest => isNameStart c && rest.all isNameChar

end Proctor.Shell
