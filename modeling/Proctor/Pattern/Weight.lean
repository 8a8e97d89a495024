import Proctor.Pattern.Expr

/-!
# How much memory a pattern takes

An estimate in bytes of the automaton of an expression. Repetition with a count copies its
body, so short patterns can be huge; those far beyond the limit are refused.

The estimate is not exact for any pattern. It is compared with a limit and used for nothing else, so
it matters only where the size of an automaton comes near ten mebibytes: without counted repetition
that takes hundreds of large classes or hundreds of thousands of characters.
-/
namespace Proctor

namespace CharSet

/-- About how many ranges a set has. -/
def rangeCount : CharSet → Nat
  | .empty => 0
  | .range .. => 1
  | .ranges table => table.bounds.size
  | .perl .digit => 71
  | .perl .space => 10
  | .perl .word => wordTable.bounds.size
  | .union a b => a.rangeCount + b.rangeCount
  | .operation _ a b => a.rangeCount + b.rangeCount
  | .complement a => a.rangeCount + 1
  | .folded _ a => 2 * a.rangeCount

/-- Whether all members are ASCII by the way a set is built. -/
def isAscii : CharSet → Bool
  | .empty => true
  | .range _ last => last.toNat < 128
  | .union a b => a.isAscii && b.isAscii
  | .operation .intersection a b => a.isAscii || b.isAscii
  | .operation .difference a _ => a.isAscii
  | .operation .symmetricDifference a b => a.isAscii && b.isAscii
  | .folded _ a => a.isAscii
  | _ => false

/-- The bytes of the automaton of a set: one state, or one for each byte of its ranges. -/
def weight (s : CharSet) : Nat :=
  if s.isAscii then 32 + 8 * s.rangeCount else 400 + 60 * s.rangeCount

end CharSet

namespace Expr

/-- Whether an expression never takes a character, by the way it is built. -/
def isNarrow : Expr → Bool
  | .empty => true
  | .chars _ => false
  | .look _ => true
  | .sequence a b => a.isNarrow && b.isNarrow
  | .alternative a b => a.isNarrow && b.isNarrow
  | .repetition _ most body => most = some 0 || body.isNarrow

/-- The bytes of the automaton of an expression. What takes no character is repeated once at
most. -/
def weight : Expr → Nat
  | .empty => 32
  | .chars set => set.weight
  | .look _ => 32
  | .sequence a b => a.weight + b.weight
  | .alternative a b => a.weight + b.weight + 64
  | .repetition least most body =>
    let cap (n : Nat) : Nat := if body.isNarrow then min n 1 else n
    match most with
    | none => max (cap least) 1 * body.weight + 64
    | some m => cap m * body.weight + (cap m - cap least) * 64 + 32

/-- The most bytes that an automaton may take. -/
def weightLimit : Nat := 10 * 0x100000

end Expr
end Proctor
