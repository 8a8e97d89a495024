import Proctor.Text.Blank

/-!
# Ranges of code points

A set of code points as sorted ranges that neither overlap nor touch. Tables are written
as texts: `41-5A` is a range, `5F` a single one and `100-12E/2` every second one.
-/
namespace Proctor.Unicode

/-- Sorted ranges of code points, both ends included. -/
structure Ranges where
  bounds : Array (Nat × Nat)
  deriving Inhabited

namespace Ranges

/-- The value of hexadecimal digits. -/
def hex (text : String) : Nat :=
  text.toList.foldl
    (fun n c => 16 * n + (if c.isDigit then c.toNat - '0'.toNat else c.toNat - 'A'.toNat + 10)) 0

/-- The ranges of one word of a table. -/
def ofWord (word : String) : List (Nat × Nat) :=
  match word.splitOn "/" with
  | [word, _] =>
    match (word.splitOn "-").map hex with
    | [first, last] =>
      (List.range ((last - first) / 2 + 1)).map fun i => (first + 2 * i, first + 2 * i)
    | _ => []
  | _ =>
    match (word.splitOn "-").map hex with
    | [first, last] => [(first, last)]
    | [single] => [(single, single)]
    | _ => []

/-- Reads a table; its words are sorted. -/
def ofText (text : String) : Ranges :=
  ⟨((Text.words text).flatMap ofWord).toArray⟩

/-- Joins sorted ranges that overlap or touch, the first of which is `r`. -/
def joinedFrom (r : Nat × Nat) : List (Nat × Nat) → List (Nat × Nat)
  | [] => [r]
  | s :: rest =>
    if s.1 ≤ r.2 + 1 then joinedFrom (r.1, max r.2 s.2) rest else r :: joinedFrom s rest

/-- Joins sorted ranges that overlap or touch. -/
def joined : List (Nat × Nat) → List (Nat × Nat)
  | [] => []
  | r :: rest => joinedFrom r rest

/-- All code points of some sets. -/
def unions (sets : List Ranges) : Ranges :=
  let all := sets.flatMap fun s => s.bounds.toList
  ⟨(joined (all.mergeSort fun a b => a.1 ≤ b.1)).toArray⟩

/-- Every code point that is a character. -/
def all : Ranges := ⟨#[(0, 0xD7FF), (0xE000, 0x10FFFF)]⟩

/-- What lies outside sorted ranges, from `start` on. -/
def gaps (start : Nat) : List (Nat × Nat) → List (Nat × Nat)
  | [] => if start ≤ 0x10FFFF then [(start, 0x10FFFF)] else []
  | (low, high) :: rest =>
    if start < low then (start, low - 1) :: gaps (high + 1) rest else gaps (high + 1) rest

/-- The characters that are not in a set. -/
def complement (s : Ranges) : Ranges :=
  ⟨(gaps 0 (unions [s, ⟨#[(0xD800, 0xDFFF)]⟩]).bounds.toList).toArray⟩

/-- The characters of one set that are not in another. -/
def without (s t : Ranges) : Ranges := (unions [s.complement, t]).complement

/-- Looks for a code point among the ranges from `low` up to `high`, by halves. -/
def search (bounds : Array (Nat × Nat)) (n : Nat) : (fuel low high : Nat) → Bool
  | 0, _, _ => false
  | fuel + 1, low, high =>
    if high ≤ low then false
    else
      let middle := (low + high) / 2
      match bounds[middle]? with
      | none => false
      | some (first, last) =>
        if n < first then search bounds n fuel low middle
        else if last < n then search bounds n fuel (middle + 1) high
        else true

/-- Whether a code point is in the set. -/
def contains (s : Ranges) (n : Nat) : Bool :=
  search s.bounds n (s.bounds.size.log2 + 2) 0 s.bounds.size

end Ranges
end Proctor.Unicode
