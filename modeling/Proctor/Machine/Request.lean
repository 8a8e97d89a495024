import Proctor.Host.Fault
import Proctor.Process.Exit
import Proctor.Text.Octets

/-!
# Programs and their requests

A program of a machine computes on its own, and asks the system for everything else. It is
a tree: a leaf is its end, and a node is a request with a program for every possible reply.
A fork is a request with two replies, one to each of the two processes there are then.
-/
namespace Proctor.Machine

/-- How a file is opened. -/
inductive Mode where
  | read
  /-- For writing, after its old content was thrown away; the file is made if need be. -/
  | write
  /-- For writing at its end; the file is made if need be. -/
  | append
  /-- For reading and writing; the file is made if need be. -/
  | update
  deriving DecidableEq, Repr

/-- What a process does when a signal reaches it. -/
inductive Disposition where
  | default
  | ignore
  | catch
  deriving DecidableEq, Repr

/-- What a name of the file system stands for. -/
inductive FileKind where
  | directory
  | file (size : Nat) (executable : Bool)
  | device
  deriving DecidableEq, Repr

/-- What waiting for a child ends with. -/
inductive Waiting where
  | ended (pid : Nat) (status : WaitStatus)
  | noChild
  /-- A signal that is caught came first. -/
  | interrupted
  deriving DecidableEq, Repr

/-- What a program can ask of the system. -/
inductive Request where
  /-- Takes the signals that were caught. -/
  | signals
  | clock
  /-- Sleeps until the clock has reached so many nanoseconds. -/
  | sleep (until' : Nat)
  | write (descriptor : Nat) (octets : Octets)
  /-- Reads up to so many bytes; none are read at the end. -/
  | read (descriptor count : Nat)
  /-- Opens a file at a descriptor. -/
  | openAt (descriptor : Nat) (path : Octets) (mode : Mode)
  /-- Makes the second descriptor mean what the first one means. -/
  | duplicate (source target : Nat)
  /-- A second descriptor, above all that programs name, for what the first one means. -/
  | stash (descriptor : Nat)
  | close (descriptor : Nat)
  /-- Makes a pipe: the reading and the writing descriptor. -/
  | pipe
  | fork
  /-- Becomes another program; there is a reply only if that fails. -/
  | exec (path : Octets) (arguments environment : List Octets)
  /-- Waits for a child, or for any; a signal that is caught may end the wait. -/
  | wait (child : Option Nat) (interruptible : Bool)
  | kill (target : Int) (signal : Nat)
  | pid
  | parent
  | dispose (signal : Nat) (disposition : Disposition)
  | kindOf (path : Octets)
  /-- The names in a directory. -/
  | list (path : Octets)
  | changeDirectory (path : Octets)
  | workingDirectory
  /-- The signals that the process ignores. -/
  | ignored
  /-- Ends the process. -/
  | exit (code : Nat)
  deriving DecidableEq, Repr

/-- The replies to a request. -/
abbrev Request.Reply : Request → Type
  | .signals => List Nat
  | .clock => Nat
  | .sleep _ => Unit
  | .write .. => Except SystemError Unit
  | .read .. => Except SystemError Octets
  | .openAt .. => Except SystemError Unit
  | .duplicate .. => Except SystemError Unit
  | .stash _ => Option Nat
  | .close _ => Unit
  | .pipe => Nat × Nat
  | .fork => Option Nat
  | .exec .. => SystemError
  | .wait .. => Waiting
  | .kill .. => Except SystemError Unit
  | .pid => Nat
  | .parent => Nat
  | .dispose .. => Unit
  | .kindOf _ => Option FileKind
  | .list _ => List Octets
  | .changeDirectory _ => Except SystemError Unit
  | .workingDirectory => Octets
  | .ignored => List Nat
  | .exit _ => Empty

/-- A program that ends with a result. -/
inductive Program (α : Type) where
  | done (result : α)
  | call (request : Request) (resume : request.Reply → Program α)

namespace Program
variable {α β : Type}

/-- Goes on with another program. -/
def bind : Program α → (α → Program β) → Program β
  | .done a, next => next a
  | .call request resume, next => .call request fun reply => (resume reply).bind next

instance : Monad Program where
  pure := .done
  bind := bind

@[simp] theorem pure_eq (a : α) : (pure a : Program α) = .done a := rfl

@[simp] theorem done_bind (a : α) (f : α → Program β) : (.done a >>= f) = f a := rfl

@[simp] theorem call_bind (request : Request) (resume : request.Reply → Program α)
    (f : α → Program β) :
    (.call request resume >>= f) = .call request fun reply => resume reply >>= f := rfl

/-- Asks the system for something. -/
def ask (request : Request) : Program request.Reply := .call request .done

end Program
end Proctor.Machine
