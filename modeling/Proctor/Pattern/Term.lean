/-!
# Patterns as written

The tree of a pattern's text, before flags give its parts a meaning. Sequences,
alternatives and the members of a class are chained to the right, and no link of a chain
holds a chain of the same kind in front.
-/
namespace Proctor

/-- A flag that a pattern can set or clear for what follows. -/
inductive PatternFlag where
  | caseInsensitive
  | multiLine
  | dotMatchesNewline
  | swapGreed
  | unicode
  | crlf
  | verbose
  deriving DecidableEq, Repr

/-- The letter of a flag. -/
def PatternFlag.ofLetter? : Char → Option PatternFlag
  | 'i' => some .caseInsensitive
  | 'm' => some .multiLine
  | 's' => some .dotMatchesNewline
  | 'U' => some .swapGreed
  | 'u' => some .unicode
  | 'R' => some .crlf
  | 'x' => some .verbose
  | _ => none

/-- A flag with the value it is given. -/
structure FlagSetting where
  flag : PatternFlag
  value : Bool
  deriving DecidableEq, Repr

/-- The value that settings give to a flag. -/
def FlagSetting.value? (flag : PatternFlag) (settings : List FlagSetting) : Option Bool :=
  (settings.find? (·.flag = flag)).map (·.value)

/-- The classes with a one-letter escape. -/
inductive PerlClass where
  | digit
  | space
  | word
  deriving DecidableEq, Repr

/-- The classes with a name between colons. -/
inductive AsciiClass where
  | alnum | alpha | ascii | blank | cntrl | digit | graph | lower | print | punct | space
  | upper | word | xdigit
  deriving DecidableEq, Repr

/-- The class of a name. -/
def AsciiClass.ofName? : String → Option AsciiClass
  | "alnum" => some .alnum
  | "alpha" => some .alpha
  | "ascii" => some .ascii
  | "blank" => some .blank
  | "cntrl" => some .cntrl
  | "digit" => some .digit
  | "graph" => some .graph
  | "lower" => some .lower
  | "print" => some .print
  | "punct" => some .punct
  | "space" => some .space
  | "upper" => some .upper
  | "word" => some .word
  | "xdigit" => some .xdigit
  | _ => none

/-- What a class by property asks for: one name, or a property and its value. -/
inductive PropertyQuery where
  | name (name : String)
  | value (property value : String)
  deriving DecidableEq, Repr

/-- A literal character; `byte` when it was written as the two digits of a byte. -/
structure LiteralChar where
  char : Char
  byte : Bool := false
  deriving DecidableEq, Repr

/-- The operations between sets in a class. -/
inductive SetOperation where
  | intersection
  | difference
  | symmetricDifference
  deriving DecidableEq, Repr

/-- The inside of a bracketed class. -/
inductive ClassTerm where
  | empty
  | literal (c : LiteralChar)
  | range (first last : LiteralChar)
  | ascii (negated : Bool) (kind : AsciiClass)
  | perl (negated : Bool) (kind : PerlClass)
  | property (negated : Bool) (query : PropertyQuery)
  | bracketed (negated : Bool) (inside : ClassTerm)
  | union (first rest : ClassTerm)
  | operation (kind : SetOperation) (left right : ClassTerm)
  deriving Repr

/-- An assertion about a position, as written. -/
inductive AssertionTerm where
  | lineStart
  | lineEnd
  | textStart
  | textEnd
  | boundary
  | notBoundary
  | wordStart
  | wordEnd
  | wordStartHalf
  | wordEndHalf
  deriving DecidableEq, Repr

/-- A pattern as written. Laziness of a repetition is left out, since it decides which
match is found and never whether there is one. -/
inductive Term where
  | empty
  | flags (settings : List FlagSetting)
  | literal (c : LiteralChar)
  | dot
  | assertion (kind : AssertionTerm)
  | perl (negated : Bool) (kind : PerlClass)
  | property (negated : Bool) (query : PropertyQuery)
  | bracketed (negated : Bool) (inside : ClassTerm)
  | repetition (least : Nat) (most : Option Nat) (body : Term)
  | group (captured : Bool) (settings : List FlagSetting) (body : Term)
  | sequence (first rest : Term)
  | alternative (first rest : Term)
  deriving Repr

namespace ClassTerm

/-- The members of a class side by side. -/
def ofMembers : List ClassTerm → ClassTerm
  | [] => .empty
  | [t] => t
  | t :: rest => .union t (ofMembers rest)

/-- How deep a class nests. A chain of members counts as one level. -/
def depth : ClassTerm → Nat
  | .bracketed _ t => t.depth + 1
  | .union a b => max (a.depth + 1) (match b with | .union .. => b.depth | _ => b.depth + 1)
  | .operation _ a b => max a.depth b.depth + 1
  | _ => 0

end ClassTerm

namespace Term

/-- Terms one after the other. -/
def ofSequence : List Term → Term
  | [] => .empty
  | [t] => t
  | t :: rest => .sequence t (ofSequence rest)

/-- Terms of which one is taken. -/
def ofAlternatives : List Term → Term
  | [] => .empty
  | [t] => t
  | t :: rest => .alternative t (ofAlternatives rest)

/-- How deep a pattern nests. A chain counts as one level. -/
def depth : Term → Nat
  | .bracketed _ t => t.depth + 1
  | .repetition _ _ t => t.depth + 1
  | .group _ _ t => t.depth + 1
  | .sequence a b => max (a.depth + 1) (match b with | .sequence .. => b.depth | _ => b.depth + 1)
  | .alternative a b =>
    max (a.depth + 1) (match b with | .alternative .. => b.depth | _ => b.depth + 1)
  | _ => 0

end Term
end Proctor
