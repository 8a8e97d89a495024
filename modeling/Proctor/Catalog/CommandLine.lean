import Proctor.Text.Blank

/-!
# Command lines

A program and its arguments. The program has a name; the arguments may be empty texts.
-/
namespace Proctor

/-- A program and its arguments. -/
structure CommandLine where
  program : String
  args : List String
  named : program ≠ ""
  deriving DecidableEq, Repr

namespace CommandLine

instance : Inhabited CommandLine := ⟨"true", [], by decide⟩

/-- The command line of some words, of which there must be a first that is not empty. -/
def ofList? : List String → Option CommandLine
  | [] => none
  | program :: args => if h : program ≠ "" then some ⟨program, args, h⟩ else none

/-- The program and its arguments. -/
def toList (c : CommandLine) : List String := c.program :: c.args

/-- The words with single spaces between them. -/
def text (c : CommandLine) : String := String.intercalate " " c.toList

end CommandLine
end Proctor
