import Proctor.Pattern.Lowering
import Proctor.Pattern.Reader
import Proctor.Pattern.Weight
import Proctor.Text.Utf8

/-!
# Patterns

A pattern is a text together with what it means. Patterns for output are searched for
anywhere in a stream with the dot matching newlines; one newline at the end of the stream
may be left aside. Patterns for names do not regard letter case.
-/
namespace Proctor

/-- A pattern that was read. -/
structure Pattern where
  source : String
  expr : Expr
  deriving Inhabited

/-- Why a text is no pattern. -/
inductive PatternFault where
  | malformed
  | tooLarge
  deriving DecidableEq, Repr

/-- The flags of patterns for output. -/
def Flags.output : Flags := ⟨false, false, true, true, false⟩

/-- The flags of patterns for names. -/
def Flags.name : Flags := ⟨true, false, false, true, false⟩

namespace Pattern

/-- What a text means as a pattern under flags, if it is one. -/
def meaning? (flags : Flags) (source : String) : Option Expr := do
  let (e, _) ← (← Term.read? source).expr? flags
  return e

/-- Reads a pattern under flags, with a limit to the estimated size of its automaton. -/
def compileWithin (limit : Nat) (flags : Flags) (source : String) : Except PatternFault Pattern :=
  match meaning? flags source with
  | none => .error .malformed
  | some e => if e.weight ≤ limit then .ok ⟨source, e⟩ else .error .tooLarge

/-- Reads a pattern under flags. -/
def compile (flags : Flags) (source : String) : Except PatternFault Pattern :=
  compileWithin Expr.weightLimit flags source

/-- Reads a pattern for output. -/
def ofText (source : String) : Except PatternFault Pattern := compile .output source

theorem compileWithin_eq_ok_iff {limit : Nat} {flags : Flags} {source : String} {p : Pattern} :
    compileWithin limit flags source = .ok p ↔
      meaning? flags source = some p.expr ∧ p.source = source ∧ p.expr.weight ≤ limit := by
  obtain ⟨text, expr⟩ := p
  unfold compileWithin
  cases meaning? flags source with
  | none => simp
  | some e =>
    by_cases hsize : e.weight ≤ limit
    · simp only [if_pos hsize, Except.ok.injEq, Pattern.mk.injEq, Option.some.injEq]
      constructor
      · rintro ⟨rfl, rfl⟩
        exact ⟨rfl, rfl, hsize⟩
      · rintro ⟨rfl, rfl, -⟩
        exact ⟨rfl, rfl⟩
    · simp only [if_neg hsize, Option.some.injEq, reduceCtorEq, false_iff]
      rintro ⟨rfl, -, hle⟩
      exact hsize hle

/-- The limit decides whether a pattern is accepted, and has no part in what it means. -/
theorem compileWithin_unique {limit limit' : Nat} {flags : Flags} {source : String}
    {p p' : Pattern} (h : compileWithin limit flags source = .ok p)
    (h' : compileWithin limit' flags source = .ok p') : p = p' := by
  obtain ⟨hexpr, hsource, -⟩ := compileWithin_eq_ok_iff.mp h
  obtain ⟨hexpr', hsource', -⟩ := compileWithin_eq_ok_iff.mp h'
  obtain ⟨text, expr⟩ := p
  obtain ⟨text', expr'⟩ := p'
  obtain rfl := Option.some.inj (hexpr.symm.trans hexpr')
  obtain rfl := hsource.trans hsource'.symm
  rfl

/-- A text that is no pattern is refused whatever the limit is. -/
theorem compileWithin_eq_malformed_iff {limit : Nat} {flags : Flags} {source : String} :
    compileWithin limit flags source = .error .malformed ↔ meaning? flags source = none := by
  unfold compileWithin
  cases meaning? flags source with
  | none => simp
  | some e => by_cases hsize : e.weight ≤ limit <;> simp [hsize]

/-- Whether the pattern is found in a text. -/
def found (p : Pattern) (text : List Char) : Bool := p.expr.search text

/-- A text without its final newline, if it has one. -/
def withoutNewline? (text : List Char) : Option (List Char) :=
  if text.getLast? = some '\n' then some text.dropLast else none

/-- Whether the pattern is found in output, or in the output without its final newline. -/
def accepts (p : Pattern) (output : List UInt8) : Bool :=
  let text := Utf8.decode output
  p.found text || (withoutNewline? text).any p.found

end Pattern
end Proctor
