/-!
# Faults of the operating system

Why a request to the operating system was refused, and the wording of it. Some requests are
refused before they reach the system, since they are not of a form that it could be asked.
-/
namespace Proctor

/-- An error that the operating system reports. -/
inductive SystemError where
  | notFound
  | noProcess
  | argumentsTooLong
  | notExecutable
  | badDescriptor
  | noChild
  | permissionDenied
  | exists
  | notDirectory
  | isDirectory
  | brokenPipe
  | nameTooLong
  deriving DecidableEq, Repr, Inhabited

namespace SystemError

/-- The number of an error. -/
def number : SystemError → Nat
  | .notFound => 2
  | .noProcess => 3
  | .argumentsTooLong => 7
  | .notExecutable => 8
  | .badDescriptor => 9
  | .noChild => 10
  | .permissionDenied => 13
  | .exists => 17
  | .notDirectory => 20
  | .isDirectory => 21
  | .brokenPipe => 32
  | .nameTooLong => 36

/-- The system's words for an error. -/
def reason : SystemError → String
  | .notFound => "No such file or directory"
  | .noProcess => "No such process"
  | .argumentsTooLong => "Argument list too long"
  | .notExecutable => "Exec format error"
  | .badDescriptor => "Bad file descriptor"
  | .noChild => "No child processes"
  | .permissionDenied => "Permission denied"
  | .exists => "File exists"
  | .notDirectory => "Not a directory"
  | .isDirectory => "Is a directory"
  | .brokenPipe => "Broken pipe"
  | .nameTooLong => "File name too long"

end SystemError

/-- Why a request was refused. -/
inductive Fault where
  | system (error : SystemError)
  /-- A zero byte in the name of a file. -/
  | zeroInName
  /-- A zero byte in a program's name, arguments or variables. -/
  | zeroInCommand
  /-- Text was asked for, and the bytes are none. -/
  | notText
  deriving DecidableEq, Repr, Inhabited

/-- The wording of a fault. -/
def Fault.message : Fault → String
  | .system error => error.reason ++ " (os error " ++ toString error.number ++ ")"
  | .zeroInName => "file name contained an unexpected NUL byte"
  | .zeroInCommand => "nul byte found in provided data"
  | .notText => "stream did not contain valid UTF-8"

end Proctor
