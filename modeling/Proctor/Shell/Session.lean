import Proctor.Machine.Request
import Proctor.Shell.SignalName
import Proctor.Shell.Syntax

/-!
# Sessions

What a shell remembers from command to command, and the computations that read and change
it. A command that does not come to its regular end says how far what follows is skipped.
-/
namespace Proctor.Shell

/-- How a command is left before its end. -/
inductive Flow where
  /-- So many loops are left. -/
  | break' (loops : Nat)
  /-- So many loops are left but one, and that one begins anew. -/
  | continue' (loops : Nat)
  | return'
  | exit
  /-- The command could not be done, and that has been said. -/
  | failure
  deriving DecidableEq, Repr

/-- A variable. It can have a mark and no value. -/
structure Variable where
  value : Option Octets := none
  exported : Bool := false
  readOnly : Bool := false
  deriving DecidableEq, Repr

/-- What a shell remembers. -/
structure Session where
  /-- What the shell is called. -/
  name : Octets
  arguments : List Octets := []
  bindings : List (Octets × Variable) := []
  functions : List (Octets × Command) := []
  /-- The letters of the options that are on. -/
  options : List Char := []
  status : Nat := 0
  /-- The status of the last command of which the output was substituted. -/
  substituted : Option Nat := none
  line : Nat := 1
  /-- The command that complaints are about. -/
  command : Option Octets := none
  pid : Nat := 0
  parent : Nat := 0
  /-- The last process that was started in the background. -/
  background : Option Nat := none
  /-- The processes that were started, with their statuses if they have ended. -/
  jobs : List (Nat × Option WaitStatus) := []
  /-- What is executed when a signal comes, and at number zero when the shell ends. -/
  traps : List (Nat × Octets) := []
  /-- The signals that have come and have not been acted on. -/
  arrived : List Nat := []
  /-- The signals that were ignored from the beginning; they cannot be trapped. -/
  ignored : List Nat := []
  /-- The status before the action that is being executed for a signal or for the end. -/
  before : Option Nat := none
  /-- How many loops surround a command. -/
  loops : Nat := 0
  /-- What the functions that are being executed have hidden, the innermost first. -/
  hidden : List (List (Octets × Option Variable)) := []

/-- A computation of a shell. -/
abbrev Act := ExceptT Flow (StateT Session Machine.Program)

namespace Act
variable {α : Type}

/-- Asks the system for something. -/
def ask (request : Machine.Request) : Act request.Reply :=
  ExceptT.lift (StateT.lift (Machine.Program.ask request))

/-- Does something, and tells how it ended. -/
def observe (act : Act α) : Act (Except Flow α) := ExceptT.lift act.run

/-- Goes on as an observed computation ended. -/
def resume : Except Flow α → Act α
  | .ok a => pure a
  | .error flow => throw flow

/-- Says something about the current command on the standard error stream. -/
def complain (message : Octets) : Act Unit := do
  let s ← get
  let command :=
    match s.command with
    | some name => name ++ Octets.ofString ": "
    | none => []
  let _ ← ask (.write 2 (s.name ++ Octets.ofString ": " ++ Octets.ofNat s.line ++
    Octets.ofString ": " ++ command ++ message ++ ['\n']))

/-- Sets the status. -/
def setStatus (status : Nat) : Act Unit := modify ({ · with status := status })

/-- Says why a command cannot be done, and leaves it. -/
def fail (message : Octets) : Act α := do
  complain message
  setStatus 2
  throw .failure

end Act

/-- The status of a process that has ended. -/
def statusOf (status : WaitStatus) : Nat :=
  match Exit.ofStatus status with
  | .exited code => code.toNat
  | .signaled signal => 128 + signal.toNat
  | .unknown => 127

/-! ## Variables -/

namespace Session

/-- A variable. -/
def find? (s : Session) (name : Octets) : Option Variable := s.bindings.lookup name

/-- The value of a variable. -/
def value? (s : Session) (name : Octets) : Option Octets := do (← s.find? name).value

/-- The value of a variable that is named in the text of this program. -/
def setting? (s : Session) (name : String) : Option Octets := s.value? (Octets.ofString name)

/-- Puts a variable in the place of one of that name, or takes it away. -/
def put (s : Session) (name : Octets) (v : Option Variable) : Session :=
  let others := s.bindings.filter (·.1 ≠ name)
  { s with bindings :=
      match v with
      | some v => (name, v) :: others
      | none => others }

/-- Whether an option is on. -/
def has (s : Session) (option : Char) : Bool := s.options.contains option

/-- The characters that separate fields. -/
def separators (s : Session) : Octets := (s.setting? "IFS").getD [' ', '\t', '\n']

/-- The letters of the options of a shell. -/
def optionLetters : List Char := "efIimnsxvVECabu".toList

/-- What a parameter stands for, if it is set. -/
def parameter? (s : Session) (name : Octets) : Option Octets :=
  match name with
  | ['#'] => some (Octets.ofNat s.arguments.length)
  | ['?'] => some (Octets.ofNat s.status)
  | ['-'] => some (optionLetters.filter s.options.contains).reverse
  | ['$'] => some (Octets.ofNat s.pid)
  | ['!'] => s.background.map Octets.ofNat
  | ['0'] => some s.name
  | _ =>
    match Octets.toNat? name with
    | some n => if n = 0 then some s.name else s.arguments[n - 1]?
    | none => s.value? name

/-- The variables for programs, each with its value behind an equals sign. -/
def environment (s : Session) : List Octets :=
  s.bindings.filterMap fun (name, v) =>
    if v.exported then v.value.map (name ++ '=' :: ·) else none

/-- Whether there is an action for any signal or for the end. -/
def hasTraps (s : Session) : Bool := s.traps.any (!·.2.isEmpty)

end Session

namespace Act

/-- Gives a variable a value. -/
def assign (name value : Octets) : Act Unit := do
  let s ← get
  let old := (s.find? name).getD {}
  if old.readOnly then fail (name ++ Octets.ofString ": is read only")
  let exported := old.exported || s.has 'a'
  set (s.put name (some { old with value := some value, exported }))

/-- Takes a variable away. -/
def unset (name : Octets) : Act Unit := do
  let s ← get
  if (s.find? name).any (·.readOnly) then fail (name ++ Octets.ofString ": is read only")
  set (s.put name none)

end Act
end Proctor.Shell
