import Proctor.Process.Signal
import Proctor.Toml.Document

/-!
# Catalogs as written

What the tables of a document say, before any of it is checked. Every table may hold known
keys only, and must hold those that have no default. A table may also be given as an array
of its values in order; then none but the last ones with defaults may be left out.
-/
namespace Proctor.Draft

open Toml

/-- A command as one line of words, or word by word. -/
inductive Command where
  | line (text : String)
  | words (argv : List String)
  deriving DecidableEq, Repr

/-- A signal and its delay in seconds. -/
structure Injection where
  kind : SignalKind
  delay : Binary64
  deriving DecidableEq, Repr

/-- A process table. -/
structure Process where
  command : Command
  environment : List (String × String)
  stdout : String
  stderr : String
  exitCode : Int
  timeout : Binary64
  injection : Option Injection
  deriving DecidableEq, Repr

/-- A case table; its process tables are sorted by name, and no name occurs twice. -/
structure Case where
  name : String
  order : List String
  allowTimeout : Bool
  processes : List (String × Process)
  deriving DecidableEq, Repr

/-- A whole catalog. -/
structure Catalog where
  cases : List Case
  deriving DecidableEq, Repr

/-- The fields of a table, however it was written. -/
structure Fields where
  get? : String → Option Value
  /-- Given as an array, where an absent field without a default is missing. -/
  inOrder : Bool

/-- The fields of a value that must have no others than those named. -/
def fields? (names : List String) : Value → Option Fields
  | .table _ entries =>
    if entries.all fun e => names.contains e.1 then some ⟨(List.lookup · entries), false⟩ else none
  | .array items => some ⟨(List.lookup · (names.zip items)), true⟩
  | .rows tables =>
    some ⟨(List.lookup · (names.zip (tables.map (Value.table .header)))), true⟩
  | _ => none

/-- A field that must be there. -/
def Fields.required {α : Type} (f : Fields) (name : String) (read : Value → Option α) :
    Option α := do
  read (← f.get? name)

/-- A field with a default. -/
def Fields.optional {α : Type} (f : Fields) (name : String) (default : α)
    (read : Value → Option α) : Option α :=
  match f.get? name with
  | none => some default
  | some v => read v

def text? : Value → Option String
  | .string s => some s
  | _ => none

def boolean? : Value → Option Bool
  | .boolean b => some b
  | _ => none

/-- A number of seconds; an integer is one too. -/
def seconds? : Value → Option Binary64
  | .float x => some x
  | .integer n => some (.ofInt n)
  | _ => none

/-- An exit code has 32 bits. -/
def exitCode? : Value → Option Int
  | .integer n => if -0x80000000 ≤ n ∧ n < 0x80000000 then some n else none
  | _ => none

/-- The items of an array. -/
def items? : Value → Option (List Value)
  | .array items => some items
  | .rows tables => some (tables.map (Value.table .header))
  | _ => none

def texts? (v : Value) : Option (List String) := do (← items? v).mapM text?

/-- Nothing in it. -/
def isEmpty : Value → Bool
  | .array items => items.isEmpty
  | .rows tables => tables.isEmpty
  | .table _ entries => entries.isEmpty
  | _ => false

/-- A signal by its name, which may also be the key of an empty table. -/
def signal? : Value → Option SignalKind
  | .string name => SignalKind.ofName? name
  | .table _ [(name, v)] => if isEmpty v then SignalKind.ofName? name else none
  | _ => none

/-- A command as a line or as an array of words. -/
def command? : Value → Option Command
  | .string line => some (.line line)
  | v => (texts? v).map .words

/-- Puts an entry in its place in a list sorted by names. -/
def insertSorted {α : Type} (entry : String × α) : List (String × α) → List (String × α)
  | [] => [entry]
  | e :: rest => if entry.1 < e.1 then entry :: e :: rest else e :: insertSorted entry rest

/-- Sorts entries by their names. -/
def sorted {α : Type} (entries : List (String × α)) : List (String × α) :=
  entries.foldr insertSorted []

/-- A table of texts. A date counts as a table with one entry. -/
def environment? : Value → Option (List (String × String))
  | .table _ entries => do
    some (sorted (← entries.mapM fun (name, v) => (text? v).map (name, ·)))
  | .datetime text => some [("$__toml_private_datetime", text)]
  | _ => none

def injection? (v : Value) : Option Injection := do
  let f ← fields? ["signal", "delay"] v
  some {
    kind := ← f.required "signal" signal?
    delay := ← f.optional "delay" (.zero false) seconds? }

def process? (v : Value) : Option Process := do
  let f ← fields? ["cmd", "env", "stdout", "stderr", "rc", "timeout", "inject"] v
  let injection ← match f.get? "inject" with
    | none => if f.inOrder then none else some none
    | some v => (injection? v).map some
  some {
    command := ← f.required "cmd" command?
    environment := ← f.optional "env" [] environment?
    stdout := ← f.optional "stdout" "" text?
    stderr := ← f.optional "stderr" "" text?
    exitCode := ← f.optional "rc" 0 exitCode?
    timeout := ← f.required "timeout" seconds?
    injection }

/-- A table of process tables. -/
def processes? : Value → Option (List (String × Process))
  | .table _ entries => do
    some (sorted (← entries.mapM fun (name, v) => (process? v).map (name, ·)))
  | _ => none

def case? (v : Value) : Option Case := do
  let f ← fields? ["name", "exec", "allow_timeout", "process"] v
  some {
    name := ← f.required "name" text?
    order := ← f.required "exec" texts?
    allowTimeout := ← f.optional "allow_timeout" false boolean?
    processes := ← f.optional "process" [] processes? }

def catalog? (entries : Entries) : Option Catalog := do
  let f ← fields? ["case"] (.table .header entries)
  some ⟨← f.optional "case" [] fun v => do (← items? v).mapM case?⟩

/-- Reads a catalog as written. -/
def Catalog.ofText? (text : String) : Option Catalog := do catalog? (← Document.parse? text)

end Proctor.Draft
