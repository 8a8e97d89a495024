import Proctor.Pattern.CharSet

/-!
# Patterns as expressions

The meaning of a pattern: which spans of a text it matches. `Expr.Matches` says so by
rules. A search runs an expression forward over all positions of a text at once: a set of
positions is a natural number with a bit for each, and every expression maps the positions
where a match may begin to those where it may end.
-/
namespace Proctor

/-- Which side of a position must be a word. -/
inductive WordLook where
  | boundary
  | notBoundary
  | start
  | finish
  | startHalf
  | finishHalf
  deriving DecidableEq, Repr

/-- What words demand of a position, by whether a word character stands before it and after. -/
def WordLook.holds : WordLook → (before after : Bool) → Bool
  | .boundary, before, after => before != after
  | .notBoundary, before, after => before == after
  | .start, before, after => !before && after
  | .finish, before, after => before && !after
  | .startHalf, before, _ => !before
  | .finishHalf, _, after => !after

/-- A condition on a position. -/
inductive Look where
  | textStart
  | textEnd
  | lineStart (crlf : Bool)
  | lineEnd (crlf : Bool)
  | word (unicode : Bool) (kind : WordLook)
  deriving DecidableEq, Repr

namespace Look

/-- Whether a neighbour of a position is a word character. -/
def isWordAt (unicode : Bool) : Option Char → Bool
  | none => false
  | some c => if unicode then CharSet.isWord c else CharSet.isAsciiWord c

/-- Whether a condition holds between two neighbours, of which the ends of the text have one. -/
def holds (before after : Option Char) : Look → Bool
  | .textStart => before.isNone
  | .textEnd => after.isNone
  | .lineStart false => before.isNone || before = some '\n'
  | .lineEnd false => after.isNone || after = some '\n'
  | .lineStart true =>
    before.isNone || before = some '\n' || (before = some '\r' && after ≠ some '\n')
  | .lineEnd true =>
    after.isNone || after = some '\r' || (after = some '\n' && before ≠ some '\r')
  | .word unicode kind => kind.holds (isWordAt unicode before) (isWordAt unicode after)

end Look

/-- A pattern with its flags resolved. -/
inductive Expr where
  | empty
  | chars (set : CharSet)
  | look (l : Look)
  | sequence (a b : Expr)
  | alternative (a b : Expr)
  | repetition (least : Nat) (most : Option Nat) (body : Expr)
  deriving Inhabited

namespace Expr

/-- The neighbours of a position of a text. -/
def before (text : List Char) (i : Nat) : Option Char := if i = 0 then none else text[i - 1]?

/-- The spans of a text that an expression matches. -/
inductive Matches (text : List Char) : Expr → Nat → Nat → Prop where
  | empty {i : Nat} : Matches text .empty i i
  | chars {set : CharSet} {i : Nat} {c : Char} :
      text[i]? = some c → set.contains c = true → Matches text (.chars set) i (i + 1)
  | look {l : Look} {i : Nat} :
      i ≤ text.length → l.holds (before text i) text[i]? = true → Matches text (.look l) i i
  | sequence {a b : Expr} {i j k : Nat} :
      Matches text a i j → Matches text b j k → Matches text (.sequence a b) i k
  | left {a b : Expr} {i j : Nat} : Matches text a i j → Matches text (.alternative a b) i j
  | right {a b : Expr} {i j : Nat} : Matches text b i j → Matches text (.alternative a b) i j
  | stop {most : Option Nat} {body : Expr} {i : Nat} : Matches text (.repetition 0 most body) i i
  | more {body : Expr} {i j k : Nat} :
      Matches text body i j → Matches text (.repetition 0 none body) j k →
      Matches text (.repetition 0 none body) i k
  | another {most : Nat} {body : Expr} {i j k : Nat} :
      Matches text body i j → Matches text (.repetition 0 (some most) body) j k →
      Matches text (.repetition 0 (some (most + 1)) body) i k
  | first {least : Nat} {most : Option Nat} {body : Expr} {i j k : Nat} :
      Matches text body i j → Matches text (.repetition least (most.map (· - 1)) body) j k →
      Matches text (.repetition (least + 1) most body) i k

/-- Some span of a text matches. -/
def Found (e : Expr) (text : List Char) : Prop :=
  ∃ i j, i ≤ text.length ∧ e.Matches text i j

end Expr

/-- A set of positions, a bit for each. -/
abbrev Positions := Nat

namespace Positions

/-- The positions where a list of answers says yes, counted from zero. -/
def ofAnswers : List Bool → Positions
  | [] => 0
  | b :: rest => 2 * ofAnswers rest + b.toNat

/-- All positions of a text. -/
def all (text : List Char) : Positions := (1 <<< (text.length + 1)) - 1

/-- The positions of one set that are not in another. -/
def without (a b : Positions) : Positions := a ^^^ (a &&& b)

/-- Applies a step a number of times, or until nothing changes. -/
def iterate (step : Positions → Positions) : Nat → Positions → Positions
  | 0, s => s
  | n + 1, s => if step s = s then s else iterate step n (step s)

/-- All positions that at most a number of steps reach. -/
def closure (step : Positions → Positions) : Nat → (found latest : Positions) → Positions
  | 0, found, _ => found
  | n + 1, found, latest =>
    let fresh := without (step latest) found
    if fresh = 0 then found else closure step n (found ||| fresh) fresh

end Positions

/-- An expression for one text: its conditions and sets have become sets of positions. -/
inductive Plan where
  | stay
  | advance (at' : Positions)
  | hold (at' : Positions)
  | sequence (a b : Plan)
  | alternative (a b : Plan)
  | repetition (least : Nat) (most : Option Nat) (body : Plan)

namespace Plan

/-- The neighbours of every position of a text, the first of which comes after `before`. -/
def neighbours (before : Option Char) : List Char → List (Option Char × Option Char)
  | [] => [(before, none)]
  | c :: rest => (before, some c) :: neighbours (some c) rest

/-- Prepares an expression for a text. -/
def of (text : List Char) : Expr → Plan
  | .empty => .stay
  | .chars set => .advance (.ofAnswers (text.map set.contains))
  | .look l => .hold (.ofAnswers ((neighbours none text).map fun (b, a) => l.holds b a))
  | .sequence a b => .sequence (of text a) (of text b)
  | .alternative a b => .alternative (of text a) (of text b)
  | .repetition least most body => .repetition least most (of text body)

/-- Where matches end that begin at one of some positions. The last position of the text
bounds how often a repetition can get any further. -/
def run (length : Nat) : Plan → Positions → Positions
  | .stay, s => s
  | .advance at', s => (s &&& at') <<< 1
  | .hold at', s => s &&& at'
  | .sequence a b, s => b.run length (a.run length s)
  | .alternative a b, s => a.run length s ||| b.run length s
  | .repetition least most body, s =>
    let s := Positions.iterate (body.run length) least s
    let more := match most with
      | none => length + 1
      | some m => min (m - least) (length + 1)
    Positions.closure (body.run length) more s s

end Plan

/-- Whether some span of a text matches. -/
def Expr.search (e : Expr) (text : List Char) : Bool :=
  (Plan.of text e).run text.length (.all text) ≠ 0

end Proctor
