import Proctor.Machine.Standard
import Proctor.Program.Run

/-!
# The command line

The catalog is read from the file system that the command is given. The cases are run on the
standard machine.
-/
namespace Proctor

/-- The fault behind an error of reading a file. -/
def faultOf : IO.Error → Fault
  | .noFileOrDirectory .. => .system .notFound
  | .permissionDenied .. => .system .permissionDenied
  | .inappropriateType .. => .system .isDirectory
  | .invalidArgument .. => .zeroInName
  | _ => .system .notFound

/-- Reads a file. -/
def readCatalog (path : String) : IO (Except Fault (List UInt8)) := do
  try return .ok (← IO.FS.readBinFile path).toList
  catch e => return .error (faultOf e)

end Proctor

open Proctor in
/-- Runs the program. Its report goes to the standard output. -/
def main (arguments : List String) : IO UInt32 := do
  let verbose ← IO.getEnv "EXECTEST_VERBOSE"
  let content ← readCatalog (Program.catalogPath arguments verbose)
  let machine := Machine.standard.withVariable "EXECTEST_VERBOSE" verbose
  let (ending, _) :=
    (Program.run Machine.standardHost (fun _ => return content) arguments verbose).run
      { host := machine }
  let output ← IO.getStdout
  output.write (ByteArray.mk ending.stdout.toArray)
  output.flush
  if ending.complained then IO.eprintln "exectest: see the report or the arguments"
  return ending.code.toUInt32
