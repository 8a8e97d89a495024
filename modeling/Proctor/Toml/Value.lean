import Proctor.Number.Binary64

/-!
# Values of a configuration document

A document is a table. Besides its entries a table remembers how it came to be, because
that decides who may add to it later: a table written in braces is closed, a dotted key
may only enter tables that dotted keys or longer headers have made, and a header may turn
a table that longer headers have made into one of its own.
-/
namespace Proctor.Toml

/-- How a table came to be. -/
inductive Origin where
  /-- Written in braces. -/
  | braces
  /-- Opened by a header of its own. -/
  | header
  /-- Passed through by a longer header. -/
  | passage
  /-- Passed through by a dotted key. -/
  | dotted
  deriving DecidableEq, Repr

/-- A value of a document. An array of tables that headers made can grow by headers. -/
inductive Value where
  | string (text : String)
  | integer (n : Int)
  | float (x : Binary64)
  | boolean (b : Bool)
  | datetime (text : String)
  | array (items : List Value)
  | rows (tables : List (List (String × Value)))
  | table (origin : Origin) (entries : List (String × Value))
  deriving Inhabited

/-- The entries of a table, in no particular order; no key occurs twice. -/
abbrev Entries := List (String × Value)

namespace Entries

/-- Puts a value in the place of the one that a key has. -/
def replace (key : String) (value : Value) : Entries → Entries
  | [] => []
  | (k, v) :: rest => if k = key then (k, value) :: rest else (k, v) :: replace key value rest

/-- Which tables a path may enter, and as what it creates the ones that are missing. -/
structure Passage where
  admits : Origin → Bool
  creates : Origin

/-- A dotted key enters no table that was closed by its own header or by braces. -/
def Passage.key : Passage := ⟨fun o => o = .passage || o = .dotted, .dotted⟩

/-- A header enters every table but those in braces. -/
def Passage.header : Passage := ⟨fun o => o ≠ .braces, .passage⟩

/-- Changes the table that a path leads to; an array of tables stands for its last row. -/
def at? (way : Passage) (change : Origin → Entries → Option Entries) :
    List String → Origin → Entries → Option Entries
  | [], origin, entries => change origin entries
  | key :: path, _, entries =>
    match entries.lookup key with
    | none => do
      let inner ← at? way change path way.creates []
      some (entries ++ [(key, .table way.creates inner)])
    | some (.table origin inner) =>
      if way.admits origin then do
        let inner ← at? way change path origin inner
        some (replace key (.table origin inner) entries)
      else none
    | some (.rows tables) => do
      let last ← tables.getLast?
      let last ← at? way change path .header last
      some (replace key (.rows (tables.dropLast ++ [last])) entries)
    | some _ => none

/-- Gives a dotted key its value. The key must be new, and the table it stands in must be
one that dotted keys have made, unless the key has one part only. -/
def insert? (path : List String) (key : String) (value : Value) (entries : Entries) :
    Option Entries :=
  at? .key
    (fun origin entries =>
      if !path.isEmpty && origin ≠ .dotted then none
      else if (entries.lookup key).isSome then none
      else some (entries ++ [(key, value)]))
    path .header entries

/-- Opens a table by its header. Only a table that longer headers have passed through may
exist already. -/
def openTable? (path : List String) (key : String) (entries : Entries) : Option Entries :=
  at? .header
    (fun _ entries =>
      match entries.lookup key with
      | none => some (entries ++ [(key, .table .header [])])
      | some (.table .passage inner) => some (replace key (.table .header inner) entries)
      | some _ => none)
    path .header entries

/-- Opens a new row of an array of tables by its header. -/
def openRow? (path : List String) (key : String) (entries : Entries) : Option Entries :=
  at? .header
    (fun _ entries =>
      match entries.lookup key with
      | none => some (entries ++ [(key, .rows [[]])])
      | some (.rows tables) => some (replace key (.rows (tables ++ [[]])) entries)
      | some _ => none)
    path .header entries

/-- Gives a dotted key its value within the table that the latest header opened. -/
def insertUnder? (header path : List String) (key : String) (value : Value)
    (entries : Entries) : Option Entries :=
  at? .header (fun _ entries => insert? path key value entries) header .header entries

end Entries
end Proctor.Toml
