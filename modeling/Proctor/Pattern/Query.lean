import Proctor.Pattern.CharSet
import Proctor.Pattern.Unicode.Age
import Proctor.Pattern.Unicode.Script
import Proctor.Pattern.Unicode.Segmentation

/-!
# Queries for properties of the character set

A name or a value is compared without regard to letter case, blanks, hyphens, low lines
and an `is` in front.
-/
namespace Proctor.PropertyQuery

open Unicode

/-- What is left of a name for comparison. Only ASCII counts; `isc` is a name of its own. -/
def normalized (name : String) : String :=
  let lower := (name.toList.filter (·.toNat < 128)).map Char.toLower
  let significant (chars : List Char) : List Char :=
    chars.filter fun c => c ≠ ' ' && c ≠ '_' && c ≠ '-'
  match name.toList, lower with
  | a :: b :: _, 'i' :: 's' :: rest =>
    if a.toNat < 128 ∧ b.toNat < 128 then
      let rest := significant rest
      if rest = ['c'] then "isc" else String.ofList rest
    else String.ofList (significant lower)
  | _, _ => String.ofList (significant lower)

/-- The set that a single name stands for: a property, or else a category or a script. Three
names are a property's as well, but mean the category. -/
def ofName? (name : String) : Option CharSet :=
  let property :=
    if name = "cf" || name = "sc" || name = "lc" then none else Property.named? name
  if property.isSome then
    if name = "wspace" || name = "whitespace" || name = "space" then some (.perl .space)
    else property.map .ranges
  else if name = "nd" || name = "decimalnumber" || name = "digit" then some (.perl .digit)
  else
    match Category.named? name with
    | some r => some (.ranges r)
    | none => (Script.named? name).map fun s => .ranges s.members

/-- The set of the characters for which a property has a value. -/
def ofValue? (property value : String) : Option CharSet :=
  match property with
  | "gc" | "generalcategory" | "category" =>
    if value = "nd" || value = "decimalnumber" || value = "digit" then some (.perl .digit)
    else (Category.named? value).map .ranges
  | "sc" | "script" => (Script.named? value).map fun s => .ranges s.members
  | "scx" | "scriptextensions" => (Script.named? value).map fun s => .ranges s.extension
  | "age" => (Age.named? value).map .ranges
  | "gcb" | "graphemeclusterbreak" =>
    (Segmentation.named? Segmentation.graphemeClusters value).map .ranges
  | "wb" | "wordbreak" => (Segmentation.named? Segmentation.words value).map .ranges
  | "sb" | "sentencebreak" => (Segmentation.named? Segmentation.sentences value).map .ranges
  | _ => none

/-- The set that a query asks for. -/
def set? : PropertyQuery → Option CharSet
  | .name n => ofName? (normalized n)
  | .value p v => ofValue? (normalized p) (normalized v)

end Proctor.PropertyQuery
