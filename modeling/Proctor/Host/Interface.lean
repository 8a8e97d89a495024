import Proctor.Catalog.Basic
import Proctor.Host.Fault
import Proctor.Process.Exit
import Proctor.Time.Instant

/-!
# The host

What a run of a case asks of the operating system: the clock, capture files, new
processes, signals, and the exits of its children. A host is any such machine, so what is
shown of a run for every host is shown for every behaviour of the launched programs. The
answers of a host may also depend on chance and on the order in which things happen; both
are part of its state.
-/
namespace Proctor

/-- The number of a process. -/
abbrev Pid := Nat

/-- A capture file: it has no name in any directory, and a process writes into it. -/
structure Sink where
  number : Nat
  deriving DecidableEq, Repr, Inhabited

/-- Whom a signal is addressed to. -/
inductive Recipient where
  | process (pid : Pid)
  /-- Every member of the group that a process leads. -/
  | group (leader : Pid)
  deriving DecidableEq, Repr

/-- What became of a signal. -/
inductive Delivery where
  | accepted
  /-- There is no such process or group. -/
  | gone
  | refused (reason : String)
  deriving DecidableEq, Repr

/-- What asking for the exit of a child brings. Asking again after `ended` is wrong. -/
inductive Collection where
  /-- The child has not exited. -/
  | pending
  | ended (status : WaitStatus)
  | failed (reason : String)
  deriving DecidableEq, Repr

/-- A process to be made: its input is empty, and it leads a group of its own. -/
structure Launch where
  command : CommandLine
  environment : Environment
  stdout : Sink
  stderr : Sink
  deriving DecidableEq

/-- An operating system with states `σ`. -/
structure Host (σ : Type) where
  /-- Reads the monotonic clock. -/
  now : σ → Instant × σ
  /-- Makes an empty capture file. -/
  openSink : σ → Except Fault Sink × σ
  /-- A second handle of a capture file, for a child. -/
  shareSink : Sink → σ → Except Fault Unit × σ
  /-- All that has been written into a capture file. -/
  drain : Sink → σ → Except Fault (List UInt8) × σ
  spawn : Launch → σ → Except Fault Pid × σ
  collect : Pid → σ → Collection × σ
  send : Recipient → Signal → σ → Delivery × σ
  /-- Leaves it to the system to collect a child. -/
  abandon : Pid → σ → σ
  /-- Chooses between two things that can both happen next. -/
  coin : σ → Bool × σ
  /-- Lets time pass until something may have happened, or until an instant at the latest. -/
  rest : Option Instant → σ → σ

end Proctor
