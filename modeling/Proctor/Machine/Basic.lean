import Proctor.Machine.Pipe
import Proctor.Machine.Request
import Proctor.Machine.SharedFile
import Proctor.Machine.Volume

/-!
# Machines

A machine is a clock, some processes, the files that they hold open, and a volume. One
process of it is the harness; it is the parent of what it launches, and it is not itself
among the processes that the machine runs.
-/
namespace Proctor.Machine

/-- Things by their numbers. -/
abbrev Table (α : Type) := List (Nat × α)

namespace Table
variable {α : Type}

/-- The thing of a number. -/
def get? (t : Table α) (number : Nat) : Option α := t.lookup number

/-- Puts a thing in the place of another, or at the end. -/
def set (t : Table α) (number : Nat) (a : α) : Table α :=
  match t with
  | [] => [(number, a)]
  | (n, b) :: rest => if n = number then (n, a) :: rest else (n, b) :: Table.set rest number a

/-- Takes a thing away. -/
def erase (t : Table α) (number : Nat) : Table α := t.filter (·.1 ≠ number)

/-- The least number from some number on that is free. -/
def fresh (t : Table α) (least : Nat) : Nat :=
  t.foldl (fun n entry => max n (entry.1 + 1)) least

end Table

/-- What an open file reads from or writes to. -/
inductive Target where
  | null
  | directory
  | file (number : Nat)
  /-- The end of a pipe to read from. -/
  | pipeOut (number : Nat)
  /-- The end of a pipe to write to. -/
  | pipeIn (number : Nat)
  deriving DecidableEq, Repr

/-- An open file, as everybody shares it who has a handle of it. -/
structure OpenFile where
  target : Target
  offset : Nat := 0
  /-- Whether every write goes to the end of the file. -/
  append : Bool := false
  readable : Bool := true
  writable : Bool := true
  deriving DecidableEq, Repr

/-- Whether a process still lives. -/
inductive Life where
  | alive (program : Program Nat)
  /-- A signal is about to end it. -/
  | dying (status : WaitStatus)
  /-- It has ended, and its parent has not asked for its exit. -/
  | ended (status : WaitStatus)

/-- Whether a process goes on with its program. -/
def Life.isAlive : Life → Bool
  | .alive _ => true
  | _ => false

/-- A process. -/
structure Process where
  parent : Nat
  group : Nat
  life : Life
  /-- When it can act again, in nanoseconds. -/
  ready : Nat
  directory : Path
  /-- Its descriptors, each with the number of an open file. -/
  descriptors : Table Nat
  ignored : List Nat := []
  caught : List Nat := []
  /-- The signals that have come and have not acted yet. -/
  pending : List Nat := []
  /-- Whether a signal has stopped it. -/
  stopped : Bool := false

end Proctor.Machine

namespace Proctor

open Machine in
/-- A machine. -/
structure Machine where
  /-- In nanoseconds. -/
  clock : Nat
  processes : Table Process := []
  nextPid : Nat := 4096
  open' : Table OpenFile := []
  files : Table (Array UInt8) := []
  pipes : Table Pipe := []
  volume : Volume := []
  /-- The working directory of the harness. -/
  directory : Path := []
  /-- The variables of the harness, each with its value behind an equals sign. -/
  environment : List Octets := []
  /-- Whether a child of the harness has ended since the harness last rested. -/
  news : Bool := false

end Proctor

namespace Proctor.Machine

/-- The process that takes care of those whose parent has ended. -/
def caretaker : Nat := 1

/-- The harness. -/
def harness : Nat := 4095

/-- The process of a number. -/
def process? (m : Machine) (pid : Nat) : Option Process := m.processes.get? pid

/-- Changes a process. -/
def modifyProcess (m : Machine) (pid : Nat) (f : Process → Process) : Machine :=
  match m.process? pid with
  | some p => { m with processes := m.processes.set pid (f p) }
  | none => m

/-- The open file behind a descriptor of a process, and its number. -/
def openFile? (m : Machine) (pid descriptor : Nat) : Option (Nat × OpenFile) := do
  let p ← m.process? pid
  let number ← p.descriptors.get? descriptor
  return (number, ← m.open'.get? number)

/-- What a descriptor of a process reads from or writes to. -/
def target? (m : Machine) (pid descriptor : Nat) : Option Target :=
  (m.openFile? pid descriptor).map fun f => f.2.target

/-- Whether any process holds the end of a pipe. -/
def isHeld (m : Machine) (target : Target) : Bool :=
  m.processes.any fun (_, p) => p.descriptors.any fun (_, number) =>
    (m.open'.get? number).any (·.target = target)

/-- Opens a file, and tells its number. -/
def addOpen (m : Machine) (f : OpenFile) : Nat × Machine :=
  let number := m.open'.fresh 0
  (number, { m with open' := m.open'.set number f })

/-- Makes a file without a name, and tells its number. -/
def addFile (m : Machine) : Nat × Machine :=
  let number := m.files.fresh 0
  (number, { m with files := m.files.set number #[] })

/-- The content of a file. -/
def fileContent (m : Machine) (file : Nat) : Array UInt8 := (m.files.get? file).getD #[]

/-- What waits in a pipe. -/
def pipe (m : Machine) (number : Nat) : Pipe := (m.pipes.get? number).getD {}

/-- Does something to an open file with its content. In the meantime the file is empty, so
that its content is changed in place. -/
def withShared {α : Type} (m : Machine) (number : Nat) (f : OpenFile) (file : Nat)
    (act : SharedFile → α × SharedFile) : α × Machine :=
  let content := m.fileContent file
  let m := { m with files := m.files.set file #[] }
  let (a, shared) := act ⟨content, f.offset⟩
  (a, { m with
    files := m.files.set file shared.content
    open' := m.open'.set number { f with offset := shared.offset } })

end Proctor.Machine
