import Proctor.Pattern.Term
import Proctor.Pattern.Unicode.Folding
import Proctor.Pattern.Unicode.Property
import Proctor.Text.Blank

/-!
# Sets of characters

What a single character of a text may be. A set is kept as the expression it was built
from; whether a character belongs to it is decided by evaluating that expression.
-/
namespace Proctor

open Unicode

/-- Membership in the result of an operation, by membership in its two operands. -/
def SetOperation.holds : SetOperation → Bool → Bool → Bool
  | .intersection, a, b => a && b
  | .difference, a, b => a && !b
  | .symmetricDifference, a, b => a != b

/-- A set of characters. -/
inductive CharSet where
  | empty
  | range (first last : Char)
  | ranges (table : Ranges)
  | perl (kind : PerlClass)
  | union (a b : CharSet)
  | operation (kind : SetOperation) (a b : CharSet)
  | complement (a : CharSet)
  /-- All characters that differ from one of the set at most in letter case. -/
  | folded (unicode : Bool) (a : CharSet)
  deriving Inhabited

namespace CharSet

/-- The characters of words outside ASCII. -/
def wordTable : Ranges :=
  .unions [Property.alphabetic, Category.mark, Category.decimalNumber,
    Category.connectorPunctuation, Property.joinControl]

/-- A letter, digit or low line of ASCII. -/
def isAsciiWord (c : Char) : Bool := c.isAlphanum || c = '_'

/-- The characters of words. -/
def isWord (c : Char) : Bool :=
  if c.toNat < 128 then isAsciiWord c else wordTable.contains c.toNat

/-- The decimal digits. -/
def isDigit (c : Char) : Bool :=
  if c.toNat < 128 then c.isDigit else Category.decimalNumber.contains c.toNat

/-- The other characters in the case orbit of a character: all of them, or within ASCII. -/
def partners (unicode : Bool) (c : Char) : List Char :=
  (if unicode then Folding.others c.toNat else Folding.swapAscii c.toNat).map Char.ofNat

/-- Whether a character belongs to a set. -/
def contains : CharSet → Char → Bool
  | .empty, _ => false
  | .range first last, c => first ≤ c && c ≤ last
  | .ranges table, c => table.contains c.toNat
  | .perl .digit, c => isDigit c
  | .perl .space, c => Text.isBlank c
  | .perl .word, c => isWord c
  | .union a b, c => a.contains c || b.contains c
  | .operation kind a b, c => kind.holds (a.contains c) (b.contains c)
  | .complement a, c => !a.contains c
  | .folded unicode a, c => a.contains c || (partners unicode c).any a.contains

/-- A set with one member. -/
def single (c : Char) : CharSet := .range c c

/-- Every character. -/
def all : CharSet := .complement .empty

/-- The union of some sets. -/
def unions : List CharSet → CharSet
  | [] => .empty
  | [s] => s
  | s :: rest => .union s (unions rest)

/-- Whether a set is closed under letter case by the way it is built. -/
def isFolded (unicode : Bool) : CharSet → Bool
  | .empty => true
  | .perl _ => true
  | .folded u _ => u = unicode
  | .union a b => a.isFolded unicode && b.isFolded unicode
  | .operation _ a b => a.isFolded unicode && b.isFolded unicode
  | .complement a => a.isFolded unicode
  | .range .. => false
  | .ranges _ => false

/-- Closes a set under letter case. Parts that are closed already are left as they are. -/
def fold (unicode : Bool) : CharSet → CharSet
  | .union a b => .union (a.fold unicode) (b.fold unicode)
  | s => if s.isFolded unicode then s else .folded unicode s

/-- The members of a named class. -/
def ofAscii : AsciiClass → CharSet
  | .alnum => unions [.range '0' '9', .range 'A' 'Z', .range 'a' 'z']
  | .alpha => unions [.range 'A' 'Z', .range 'a' 'z']
  | .ascii => .range '\x00' '\x7f'
  | .blank => unions [single '\t', single ' ']
  | .cntrl => unions [.range '\x00' '\x1f', single '\x7f']
  | .digit => .range '0' '9'
  | .graph => .range '!' '~'
  | .lower => .range 'a' 'z'
  | .print => .range ' ' '~'
  | .punct => unions [.range '!' '/', .range ':' '@', .range '[' '\x60', .range '\x7b' '~']
  | .space => unions [.range '\t' '\r', single ' ']
  | .upper => .range 'A' 'Z'
  | .word => unions [.range '0' '9', .range 'A' 'Z', single '_', .range 'a' 'z']
  | .xdigit => unions [.range '0' '9', .range 'A' 'F', .range 'a' 'f']

/-- The members within ASCII of a class with a one-letter escape. -/
def ofAsciiPerl : PerlClass → CharSet
  | .digit => ofAscii .digit
  | .space => ofAscii .space
  | .word => ofAscii .word

end CharSet
end Proctor
