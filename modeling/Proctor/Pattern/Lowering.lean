import Proctor.Pattern.Expr
import Proctor.Pattern.Query

/-!
# What flags make of a pattern

Flags hold from where they are set to the end of the group they are set in, across its
alternatives. Without the Unicode flag a class speaks of bytes, and whatever would match
bytes that are no characters is refused.
-/
namespace Proctor

/-- The flags that bear on the meaning of a part. -/
structure Flags where
  caseInsensitive : Bool
  multiLine : Bool
  dotMatchesNewline : Bool
  unicode : Bool
  crlf : Bool
  deriving DecidableEq, Repr

namespace Flags

/-- Flags after one setting. Greed does not bear on whether there is a match. -/
def set (f : Flags) : FlagSetting → Flags
  | ⟨.caseInsensitive, b⟩ => { f with caseInsensitive := b }
  | ⟨.multiLine, b⟩ => { f with multiLine := b }
  | ⟨.dotMatchesNewline, b⟩ => { f with dotMatchesNewline := b }
  | ⟨.unicode, b⟩ => { f with unicode := b }
  | ⟨.crlf, b⟩ => { f with crlf := b }
  | ⟨.swapGreed, _⟩ => f
  | ⟨.verbose, _⟩ => f

/-- Flags after some settings. -/
def update (f : Flags) (settings : List FlagSetting) : Flags := settings.foldl set f

/-- Closes a set under letter case if case does not matter. -/
def fold (f : Flags) (s : CharSet) : CharSet := if f.caseInsensitive then s.fold f.unicode else s

/-- A set or its complement. Without Unicode the complement would hold bytes that are no
characters. -/
def complement? (f : Flags) (negated : Bool) (s : CharSet) : Option CharSet :=
  if negated then if f.unicode then some (.complement s) else none else some s

/-- The character that a literal of a class stands for. Without Unicode it must be ASCII. -/
def classChar? (f : Flags) (c : LiteralChar) : Option Char :=
  if f.unicode || c.char.toNat < 128 then some c.char else none

/-- A class by property, closed under case before it is complemented. -/
def property? (f : Flags) (negated : Bool) (q : PropertyQuery) : Option CharSet :=
  if f.unicode then do f.complement? negated (f.fold (← q.set?)) else none

/-- A class with a one-letter escape. -/
def perl? (f : Flags) (negated : Bool) (kind : PerlClass) : Option CharSet :=
  f.complement? negated (if f.unicode then .perl kind else .ofAsciiPerl kind)

/-- The set that a class stands for. -/
def class? (f : Flags) : ClassTerm → Option CharSet
  | .empty => some .empty
  | .literal c => do some (.single (← f.classChar? c))
  | .range first last => do some (.range (← f.classChar? first) (← f.classChar? last))
  | .ascii negated kind => f.complement? negated (f.fold (.ofAscii kind))
  | .perl negated kind => f.perl? negated kind
  | .property negated q => f.property? negated q
  | .bracketed negated inside => do f.complement? negated (f.fold (← f.class? inside))
  | .union a b => do some (.union (← f.class? a) (← f.class? b))
  | .operation kind a b => do
    some (.operation kind (f.fold (← f.class? a)) (f.fold (← f.class? b)))

/-- The set that a literal stands for. A byte outside ASCII is no character. -/
def literal? (f : Flags) (c : LiteralChar) : Option CharSet :=
  if !f.unicode && c.byte && 128 ≤ c.char.toNat then none
  else some (f.fold (.single c.char))

/-- The set that the dot stands for. -/
def dot? (f : Flags) : Option CharSet :=
  if !f.unicode then none
  else if f.dotMatchesNewline then some .all
  else if f.crlf then some (.complement (.union (.single '\n') (.single '\r')))
  else some (.complement (.single '\n'))

/-- The condition that an assertion stands for. -/
def look (f : Flags) : AssertionTerm → Look
  | .lineStart => if f.multiLine then .lineStart f.crlf else .textStart
  | .lineEnd => if f.multiLine then .lineEnd f.crlf else .textEnd
  | .textStart => .textStart
  | .textEnd => .textEnd
  | .boundary => .word f.unicode .boundary
  | .notBoundary => .word f.unicode .notBoundary
  | .wordStart => .word f.unicode .start
  | .wordEnd => .word f.unicode .finish
  | .wordStartHalf => .word f.unicode .startHalf
  | .wordEndHalf => .word f.unicode .finishHalf

end Flags

/-- The expression of a term under flags, and the flags for what follows it. A group that
captures marks either end. -/
def Term.expr? (f : Flags) : Term → Option (Expr × Flags)
  | .empty => some (.empty, f)
  | .flags settings => some (.empty, f.update settings)
  | .literal c => do some (.chars (← f.literal? c), f)
  | .dot => do some (.chars (← f.dot?), f)
  | .assertion kind => some (.look (f.look kind), f)
  | .perl negated kind => do some (.chars (← f.perl? negated kind), f)
  | .property negated q => do some (.chars (← f.property? negated q), f)
  | .bracketed negated inside => do
    some (.chars (← f.class? (.bracketed negated inside)), f)
  | .repetition least most body => do
    let (e, f) ← body.expr? f
    some (.repetition least most e, f)
  | .group captured settings body => do
    let (e, _) ← body.expr? (f.update settings)
    some (if captured then .sequence .empty (.sequence e .empty) else e, f)
  | .sequence a b => do
    let (x, f) ← a.expr? f
    let (y, f) ← b.expr? f
    some (.sequence x y, f)
  | .alternative a b => do
    let (x, f) ← a.expr? f
    let (y, f) ← b.expr? f
    some (.alternative x y, f)

end Proctor
