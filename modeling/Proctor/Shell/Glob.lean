import Proctor.Text.Octets

/-!
# Shell patterns

A pattern stands for texts: a star for any text, a question mark for any one character, and
brackets for any one of some characters. A quoted character stands for itself.
-/
namespace Proctor.Shell

/-- A character of a pattern, and whether it is quoted. -/
abbrev PatternChar := Char × Bool

namespace Glob

/-- The characters of a named class. -/
def inClass (name : Octets) (c : Char) : Bool :=
  match String.ofList name with
  | "alpha" => c.isAlpha
  | "digit" => c.isDigit
  | "alnum" => c.isAlphanum
  | "upper" => c.isUpper
  | "lower" => c.isLower
  | "space" => " \t\n\x0b\x0c\r".toList.contains c
  | "blank" => c = ' ' || c = '\t'
  | "punct" => 32 < c.toNat && c.toNat < 127 && !c.isAlphanum
  | "print" => 32 ≤ c.toNat && c.toNat < 127
  | "graph" => 32 < c.toNat && c.toNat < 127
  | "cntrl" => c.toNat < 32 || c.toNat = 127
  | "xdigit" => c.isDigit || ('a' ≤ c && c ≤ 'f') || ('A' ≤ c && c ≤ 'F')
  | _ => false

/-- Whether brackets hold a character, and what follows them. There is no answer if the
brackets are not closed. -/
def bracket (c : Char) (first : Bool) (found : Bool) : Nat → List PatternChar →
    Option (Bool × List PatternChar)
  | 0, _ => none
  | n + 1, pattern =>
    match pattern with
    | [] => none
    | (']', false) :: rest => if first then range n ']' rest else some (found, rest)
    | ('[', false) :: (':', false) :: rest =>
      let name := (rest.map (·.1)).takeWhile (· ≠ ':')
      match rest.drop name.length with
      | (':', _) :: (']', _) :: rest => bracket c false (found || inClass name c) n rest
      | _ => range n '[' ((':', false) :: rest)
    | (low, _) :: rest => range n low rest
where
  /-- Goes on behind the first character of a range. -/
  range (n : Nat) (low : Char) (rest : List PatternChar) : Option (Bool × List PatternChar) :=
    match n with
    | 0 => none
    | n + 1 =>
      match rest with
      | ('-', false) :: (']', false) :: _ => bracket c false (found || c = low) n rest
      | ('-', false) :: (high, _) :: rest =>
        bracket c false (found || (low ≤ c && c ≤ high)) n rest
      | _ => bracket c false (found || c = low) n rest

/-- Whether a text is one that a pattern stands for. -/
def accepts : Nat → List PatternChar → Octets → Bool
  | 0, _, _ => false
  | n + 1, pattern, text =>
    match pattern, text with
    | [], [] => true
    | [], _ :: _ => false
    | ('*', false) :: rest, [] => accepts n rest []
    | ('*', false) :: rest, c :: cs => accepts n rest (c :: cs) || accepts n pattern cs
    | ('?', false) :: rest, _ :: cs => accepts n rest cs
    | ('[', false) :: rest, c :: cs =>
      let negated := rest.head?.any fun p => (p.1 = '!' || p.1 = '^') && !p.2
      let body := if negated then rest.drop 1 else rest
      match bracket c true false (2 * body.length + 2) body with
      | some (found, after) => found != negated && accepts n after cs
      | none => c = '[' && accepts n rest cs
    | (p, _) :: rest, c :: cs => p = c && accepts n rest cs
    | _ :: _, [] => false

/-- Whether a pattern stands for a text. -/
def Matches (pattern : List PatternChar) (text : Octets) : Bool :=
  accepts (pattern.length + text.length + 1) pattern text

/-- Whether a pattern can stand for more than one text. -/
def isActive (pattern : List PatternChar) : Bool :=
  pattern.any fun (c, quoted) => !quoted && (c = '*' || c = '?' || c = '[')

/-- A text without the shortest or longest beginning that matches. -/
def trimFront (pattern : List PatternChar) (longest : Bool) (text : Octets) : Octets :=
  let counts := List.range (text.length + 1)
  let counts := if longest then counts.reverse else counts
  match counts.find? fun k => Matches pattern (text.take k) with
  | some k => text.drop k
  | none => text

/-- A text without the shortest or longest end that matches. -/
def trimBack (pattern : List PatternChar) (longest : Bool) (text : Octets) : Octets :=
  let counts := List.range (text.length + 1)
  let counts := if longest then counts else counts.reverse
  match counts.find? fun k => Matches pattern (text.drop k) with
  | some k => text.take k
  | none => text

end Glob
end Proctor.Shell
