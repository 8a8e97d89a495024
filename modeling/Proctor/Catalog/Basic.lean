import Proctor.Catalog.CommandLine
import Proctor.Pattern.Basic
import Proctor.Process.Signal
import Proctor.Process.Stream
import Proctor.Time.Duration

/-!
# Catalogs

A catalog is a list of cases. A case is a list of processes in the order in which they are
launched; what is expected of each stands with it. The longest timeout of a case is the
deadline of the whole case.
-/
namespace Proctor

/-- Environment variables set for a process on top of the inherited ones, sorted by name;
no name occurs twice. -/
abbrev Environment := List (String × String)

/-- The value that is set for a variable. -/
def Environment.get? (env : Environment) (name : String) : Option String := env.lookup name

/-- A signal to be sent to a process some time after its launch. -/
structure Injection where
  kind : SignalKind
  delay : Duration
  deriving DecidableEq

/-- A process to launch, and what is expected of it. -/
structure ProcessSpec where
  name : String
  command : CommandLine
  environment : Environment
  stdout : Pattern
  stderr : Pattern
  exitCode : Int
  timeout : Duration
  injection : Option Injection
  deriving Inhabited

/-- The pattern that a stream must satisfy. -/
def ProcessSpec.expected (spec : ProcessSpec) : Stream → Pattern
  | .stdout => spec.stdout
  | .stderr => spec.stderr

/-- A named scenario: processes in the order of their launch. -/
structure TestCase where
  name : String
  /-- Outliving the deadline is not a failure by itself. -/
  allowTimeout : Bool
  processes : List ProcessSpec
  deriving Inhabited

namespace TestCase

/-- The process of a name. -/
def process? (c : TestCase) (name : String) : Option ProcessSpec :=
  c.processes.find? (·.name = name)

/-- The deadline of the whole case: its longest timeout. -/
def deadline (c : TestCase) : Duration := .longest (c.processes.map (·.timeout))

end TestCase

/-- Cases in the order in which they are run. -/
structure Catalog where
  cases : List TestCase
  deriving Inhabited

namespace Catalog

/-- The bytes of the longest name of a case. -/
def longestName (c : Catalog) : Nat := (c.cases.map (·.name.utf8ByteSize)).foldr max 0

/-- The file that is read when no other is asked for. -/
def defaultPath : String := "exectest.toml"

end Catalog
end Proctor
