import Proctor.Catalog.Basic

/-!
# Options

The command line of the program: at most one filter for the names of cases, and options
with a value, each given once at most. An option's value is judged when the next argument
is not that value any more, so an unknown argument may come before a bad value.
-/
namespace Proctor

/-- Why a command line is not run: a fault, or a wish for help or for the version. -/
inductive OptionFault where
  | unknownArgument
  /-- A value is missing or empty. -/
  | invalidValue
  /-- A value is not of its type. -/
  | valueValidation
  /-- An option is given twice. -/
  | argumentConflict
  /-- A value for an option that takes none. -/
  | tooManyValues
  | displayHelp
  | displayVersion
  deriving DecidableEq, Repr

/-- The options that take a value. -/
inductive OptionName where
  | catalog
  | stagger
  | killGrace
  | verbose
  deriving DecidableEq, Repr

/-- The option of a name. -/
def OptionName.ofText? : String → Option OptionName
  | "catalog" => some .catalog
  | "stagger-ms" => some .stagger
  | "kill-grace-ms" => some .killGrace
  | "verbose" => some .verbose
  | _ => none

/-- The values that a command line gives. -/
structure Options where
  filter : Option String := none
  catalog : Option String := none
  stagger : Option UInt64 := none
  killGrace : Option UInt64 := none
  verbose : Option String := none
  deriving DecidableEq, Repr

namespace Options

/-- A number of milliseconds below `2 ^ 64`; a plus sign may stand in front. -/
def milliseconds? (text : String) : Option UInt64 :=
  let digits := match text.toList with
    | '+' :: rest => rest
    | chars => chars
  if digits.isEmpty || !digits.all Char.isDigit then none
  else
    let n := digits.foldl (fun n c => 10 * n + (c.toNat - '0'.toNat)) 0
    if n < 0x10000000000000000 then some (UInt64.ofNat n) else none

/-- Whether an option has been given. -/
def has (o : Options) : OptionName → Bool
  | .catalog => o.catalog.isSome
  | .stagger => o.stagger.isSome
  | .killGrace => o.killGrace.isSome
  | .verbose => o.verbose.isSome

/-- Takes the value of an option: it must be there, be the first and be of its type. -/
def give (o : Options) (name : OptionName) (value : Option String) :
    Except OptionFault Options := do
  let some text := value | throw .invalidValue
  if o.has name then throw .argumentConflict
  match name with
  | .catalog => if text.isEmpty then throw .invalidValue else return { o with catalog := text }
  | .stagger =>
    match milliseconds? text with
    | some n => return { o with stagger := n }
    | none => throw .valueValidation
  | .killGrace =>
    match milliseconds? text with
    | some n => return { o with killGrace := n }
    | none => throw .valueValidation
  | .verbose => return { o with verbose := text }

/-- What was read and not judged yet: an option with its value, if that has come, or the
filter. -/
inductive Pending where
  | nothing
  | option (name : OptionName) (value : Option String)
  | filter (text : String)

/-- Judges what is pending. -/
def settle (o : Options) : Pending → Except OptionFault Options
  | .nothing => .ok o
  | .option name value => o.give name value
  | .filter text => .ok { o with filter := text }

/-- An argument by its looks: the end of options, an option with its attached value, letters
after a single hyphen, or a plain word. -/
inductive Shape where
  | endOfOptions
  | long (name : String) (attached : Option String)
  | short (letter : Char)
  | word

/-- How an argument looks. A single hyphen is a word. -/
def Shape.of (argument : String) : Shape :=
  match argument.toList with
  | ['-', '-'] => .endOfOptions
  | '-' :: '-' :: rest =>
    let name := String.ofList (rest.takeWhile (· ≠ '='))
    match rest.dropWhile (· ≠ '=') with
    | [] => .long name none
    | _ :: value => .long name (some (String.ofList value))
  | '-' :: letter :: _ => .short letter
  | _ => .word

/-- How far a command line has been read. -/
structure Reading where
  options : Options := {}
  pending : Pending := .nothing
  /-- Whether a filter has come. -/
  filtered : Bool := false
  /-- Whether all that follows are plain words. -/
  ended : Bool := false

/-- Shows help or the version, once what is pending has been judged. -/
def display (r : Reading) (wish : OptionFault) : Except OptionFault Reading := do
  let _ ← r.options.settle r.pending
  throw wish

/-- A plain word that is no option's value: the filter. -/
def Reading.word (r : Reading) (text : String) : Except OptionFault Reading := do
  if r.filtered then throw .unknownArgument
  return { r with
    options := ← r.options.settle r.pending, pending := .filter text, filtered := true }

/-- Reads one argument. -/
def Reading.next (r : Reading) (argument : String) : Except OptionFault Reading :=
  if r.ended then r.word argument
  else
    match Shape.of argument with
    | .endOfOptions => .ok { r with ended := true }
    | .long name attached =>
      match OptionName.ofText? name, attached with
      | some option, some value => do
        let options ← r.options.settle r.pending
        return { r with options := ← options.give option value, pending := .nothing }
      | some option, none => do
        return { r with options := ← r.options.settle r.pending, pending := .option option none }
      | none, _ =>
        if name = "help" || name = "version" then
          if attached.isSome then .error .tooManyValues
          else display r (if name = "help" then .displayHelp else .displayVersion)
        else .error .unknownArgument
    | .short letter =>
      if letter = 'h' then display r .displayHelp
      else if letter = 'V' then display r .displayVersion
      else .error .unknownArgument
    | .word =>
      match r.pending with
      | .option option none => .ok { r with pending := .option option (some argument) }
      | _ => r.word argument

/-- Reads a command line. A variable of the environment stands in for `--verbose`. -/
def parse (arguments : List String) (verboseVariable : Option String) :
    Except OptionFault Options := do
  let r ← arguments.foldlM Reading.next {}
  let options ← r.options.settle r.pending
  return { options with verbose := options.verbose.or verboseVariable }

end Options

/-- What governs a run of the program. -/
structure Settings where
  catalogPath : String
  filter : Pattern
  verbose : Bool
  stagger : Duration
  killGrace : Duration

namespace Settings

/-- The settings that options ask for. Without a filter every name is selected. -/
def ofOptions (o : Options) : Except PatternFault Settings := do
  return {
    catalogPath := o.catalog.getD Catalog.defaultPath
    filter := ← Pattern.compile .name (o.filter.getD "")
    verbose := o.verbose.any fun text => !text.isEmpty
    stagger := .ofMilliseconds (o.stagger.getD 200)
    killGrace := .ofMilliseconds (o.killGrace.getD 1000) }

/-- Whether the filter selects a name. -/
def selects (s : Settings) (name : String) : Bool := s.filter.found name.toList

end Settings
end Proctor
