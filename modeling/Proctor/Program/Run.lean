import Proctor.Catalog.Load
import Proctor.Report.Basic

/-!
# The program

The program reads its options, loads a catalog and reports every case of it. It ends with
code two for options that cannot be read, with code one for a filter or a catalog that
cannot be used and for a report with a failure in it, and with code zero otherwise.
-/
namespace Proctor

namespace Program

/-- The name of the program and its version. -/
def version : String := "exectest 0.1.0\n"

/-- The help text. -/
def help : String := String.join [
  "Black-box test runner: launches programs, injects signals and checks their output\n\n",
  "Usage: exectest [OPTIONS] [FILTER]\n\n",
  "Arguments:\n",
  "  [FILTER]  Only run cases whose name matches this case-insensitive regex\n\n",
  "Options:\n",
  "      --catalog <CATALOG>              Test case catalog (TOML) [default: exectest.toml]\n",
  "      --stagger-ms <STAGGER_MS>        Delay before launching each process of a case (ms)",
  " [default: 200]\n",
  "      --kill-grace-ms <KILL_GRACE_MS>  Time a process gets to exit after a termination",
  " request before it is killed (ms) [default: 1000]\n",
  "      --verbose <FLAG>                 Print command lines and captured output",
  " (any non-empty value) [env: EXECTEST_VERBOSE=]\n",
  "  -h, --help                           Print help\n",
  "  -V, --version                        Print version\n"]

/-- How a run of the program ends. -/
structure Ending where
  code : Nat
  stdout : List UInt8 := []
  /-- Whether anything was written to the standard error stream. -/
  complained : Bool := false
  deriving DecidableEq

/-- The end that options lead to if there is nothing to run. -/
def ofOptionFault : OptionFault → Ending
  | .displayHelp => { code := 0, stdout := help.toUTF8.toList }
  | .displayVersion => { code := 0, stdout := version.toUTF8.toList }
  | _ => { code := 2, complained := true }

/-- The end of a run that cannot begin. -/
def fatal : Ending := { code := 1, complained := true }

/-- The path of the catalog that a run with some arguments reads. -/
def catalogPath (arguments : List String) (verboseVariable : Option String) : String :=
  match Options.parse arguments verboseVariable with
  | .ok options => options.catalog.getD Catalog.defaultPath
  | .error _ => Catalog.defaultPath

/-- Whether an entry of a journal is an error worth a complaint. -/
def isComplaint : Entry → Bool
  | .uncollected .. => true
  | .survived _ => true
  | _ => false

/-- Whether a status is an exception. -/
def isException : Status → Bool
  | .exception _ => true
  | _ => false

variable {σ : Type} (host : Host σ)

/-- How the cases of a report are paced. -/
def pace (settings : Settings) (patience : Nat) : Pace where
  stagger := settings.stagger
  grace := settings.killGrace
  patience := patience

/-- Reports a catalog. -/
def reportCatalog (settings : Settings) (catalog : Catalog) (patience : Nat) : Run σ Ending := do
  let pace := pace settings patience
  let (code, report) ← (Report.runAll settings (TestCase.run host · pace) catalog).run.run {}
  let complained := report.statuses.any (isException ·.2) || (← get).journal.any isComplaint
  match code with
  | .ok code => return ⟨code, report.writer.kept, complained⟩
  | .error _ => return ⟨1, report.writer.kept, true⟩

/-- Runs the program with its arguments, the variable that stands in for the verbose option,
and a way to read files. -/
def run (read : String → Run σ (Except Fault (List UInt8))) (arguments : List String)
    (verboseVariable : Option String) (patience : Nat := 1000000) : Run σ Ending := do
  match Options.parse arguments verboseVariable with
  | .error fault => return ofOptionFault fault
  | .ok options =>
    match Settings.ofOptions options with
    | .error _ => return fatal
    | .ok settings =>
      match Catalog.load settings.catalogPath (← read settings.catalogPath) with
      | .error _ => return fatal
      | .ok catalog => reportCatalog host settings catalog patience

end Program
end Proctor
