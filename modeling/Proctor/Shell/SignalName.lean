import Proctor.Text.Octets

/-!
# Names of signals

The names by which scripts call signals, and the words for a process that a signal has
ended. The name of number zero stands for the end of the shell itself.
-/
namespace Proctor.Shell.SignalName

/-- The names of the signals in the order of their numbers, and what they mean. -/
def names : List (String × String) :=
  [("EXIT", ""), ("HUP", "Hangup"), ("INT", "Interrupt"), ("QUIT", "Quit"),
    ("ILL", "Illegal instruction"), ("TRAP", "Trace/breakpoint trap"), ("ABRT", "Aborted"),
    ("BUS", "Bus error"), ("FPE", "Floating point exception"), ("KILL", "Killed"),
    ("USR1", "User defined signal 1"), ("SEGV", "Segmentation fault"),
    ("USR2", "User defined signal 2"), ("PIPE", "Broken pipe"), ("ALRM", "Alarm clock"),
    ("TERM", "Terminated"), ("STKFLT", "Stack fault"), ("CHLD", "Child exited"),
    ("CONT", "Continued"), ("STOP", "Stopped (signal)"), ("TSTP", "Stopped"),
    ("TTIN", "Stopped (tty input)"), ("TTOU", "Stopped (tty output)"),
    ("URG", "Urgent I/O condition"), ("XCPU", "CPU time limit exceeded"),
    ("XFSZ", "File size limit exceeded"), ("VTALRM", "Virtual timer expired"),
    ("PROF", "Profiling timer expired"), ("WINCH", "Window changed"), ("IO", "I/O possible"),
    ("PWR", "Power failure"), ("SYS", "Bad system call")]

/-- How many numbers a signal can have. -/
def count : Nat := 65

/-- The name of a signal. -/
def ofNumber (number : Nat) : Octets :=
  match names[number]? with
  | some (name, _) => name.toList
  | none =>
    if number < 50 then
      Octets.ofString "RTMIN" ++ if number = 34 then [] else '+' :: Octets.ofNat (number - 34)
    else Octets.ofString "RTMAX" ++ if number = 64 then [] else '-' :: Octets.ofNat (64 - number)

/-- The signal that a script means by a number or a name in either case. -/
def toNumber? (least : Nat) (text : Octets) : Option Nat :=
  match Octets.toNat? text with
  | some n => if least ≤ n && n < count then some n else none
  | none =>
    let wanted := text.map Char.toUpper
    ((List.range count).drop least).find? fun n => ofNumber n = wanted

/-- What is said about a process that a signal has ended. -/
def describe (number : Nat) : Octets :=
  match names[number]? with
  | some (_, meaning) => Octets.ofString meaning
  | none => Octets.ofString "Real-time signal " ++ Octets.ofNat (number - 34)

end Proctor.Shell.SignalName
