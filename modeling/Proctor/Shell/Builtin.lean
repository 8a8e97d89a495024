import Proctor.Shell.Condition
import Proctor.Shell.Format
import Proctor.Shell.Job

/-!
# Builtin commands

The commands that the shell does itself, apart from those that evaluate other commands. The
result of a command is its status. A special one that fails ends the shell.
-/
namespace Proctor.Shell

/-- The commands that the shell does itself. -/
inductive Builtin where
  | break' | cd | colon | command | continue' | dot | echo | eval | exec | exit | export | false'
  | kill | local' | printf | pwd | read | readonly | return' | set | shift | test | trap | true'
  | type | umask | unset | wait
  deriving DecidableEq, Repr

namespace Builtin

/-- The commands by their names. -/
def names : List (String × Builtin) :=
  [(".", .dot), (":", .colon), ("[", .test), ("break", .break'), ("cd", .cd),
    ("command", .command), ("continue", .continue'), ("echo", .echo), ("eval", .eval),
    ("exec", .exec), ("exit", .exit), ("export", .export), ("false", .false'), ("kill", .kill),
    ("local", .local'), ("printf", .printf), ("pwd", .pwd), ("read", .read),
    ("readonly", .readonly), ("return", .return'), ("set", .set), ("shift", .shift),
    ("test", .test), ("trap", .trap), ("true", .true'), ("type", .type), ("umask", .umask),
    ("unset", .unset), ("wait", .wait)]

/-- The command of a name. -/
def ofName? (name : Octets) : Option Builtin := names.lookup (String.ofList name)

/-- Whether a command comes before functions, and ends the shell if it fails. -/
def isSpecial (b : Builtin) : Bool :=
  [.dot, .colon, .break', .continue', .eval, .exec, .exit, .export, .local', .readonly, .return',
    .set, .shift, .trap, .unset].contains b

/-- Whether the arguments of a command can be assignments. -/
def takesAssignments (b : Builtin) : Bool := [.export, .readonly, .local'].contains b

/-- Writes to the standard output. -/
def emit (text : Octets) : Act Nat := do
  if text.isEmpty then return 0
  match ← Act.ask (.write 1 text) with
  | .ok () => return 0
  | .error _ =>
    let name := (← get).command.getD []
    Act.complain (name ++ Octets.ofString ": I/O error")
    return 1

/-- A text in single quotes, but for the single quotes in it, which are in double quotes. -/
def quote (text : Octets) : Octets := pieces (text.length + 1) text
where
  /-- Quotes the text up to the next single quotes, those quotes, and what follows. -/
  pieces : Nat → Octets → Octets
    | 0, _ => []
    | n + 1, text =>
      let plain := text.takeWhile (· ≠ '\'')
      let rest := text.drop plain.length
      let quotes := rest.takeWhile (· = '\'')
      let after := rest.drop quotes.length
      ['\''] ++ plain ++ ['\''] ++
        (if quotes.isEmpty then [] else ['"'] ++ quotes ++ ['"']) ++
        if after.isEmpty then [] else pieces n after

/-- A number that is not negative. -/
def count (text : Octets) : Act Nat :=
  match Octets.toNat? text with
  | some n => return n
  | none => Act.fail (Octets.ofString "Illegal number: " ++ text)

/-! ## Leaving commands -/

/-- The status that a command which leaves others is given, or that of the last command. -/
def leavingStatus (arguments : List Octets) : Act Nat := do
  let s ← get
  match arguments with
  | [] => return s.before.getD s.status
  | text :: _ => count text

/-- Ends the shell. -/
def exitShell (arguments : List Octets) : Act Nat := do
  Act.setStatus (← leavingStatus arguments)
  throw .exit

/-- Leaves a function or a file. -/
def returnFrom (arguments : List Octets) : Act Nat := do
  Act.setStatus (← leavingStatus arguments)
  throw .return'

/-- Leaves loops, or begins one anew. -/
def leaveLoops (flow : Nat → Flow) (arguments : List Octets) : Act Nat := do
  let wanted ←
    match arguments with
    | [] => pure 1
    | text :: _ =>
      let n ← count text
      if n = 0 then Act.fail (Octets.ofString "Illegal number: " ++ text)
      pure n
  let loops := min wanted (← get).loops
  Act.setStatus 0
  if loops = 0 then return 0 else throw (flow loops)

/-! ## Variables and options -/

/-- Lists the variables that are marked in some way. -/
def listMarked (word : String) (isMarked : Variable → Bool) : Act Nat := do
  let marked := ((← get).bindings.filter (isMarked ·.2)).mergeSort (·.1.notAfter ·.1)
  emit (marked.flatMap fun (name, v) =>
    Octets.ofString word ++ [' '] ++ name ++
      (match v.value with
        | some value => '=' :: quote value
        | none => []) ++ ['\n'])

/-- A name with the value behind its equals sign, if there is one. -/
def assignment (text : Octets) : Octets × Option Octets :=
  let name := text.takeWhile (· ≠ '=')
  (name, if name.length < text.length then some (text.drop (name.length + 1)) else none)

/-- Marks variables, and gives them values. -/
def mark (word : String) (isMarked : Variable → Bool) (put : Variable → Variable)
    (arguments : List Octets) : Act Nat := do
  let arguments := if arguments.head? = some ['-', '-'] then arguments.drop 1 else arguments
  if arguments.isEmpty || arguments = [['-', 'p']] then listMarked word isMarked
  else
    for argument in arguments do
      let (name, value) := assignment argument
      if !isName name then Act.fail (name ++ Octets.ofString ": bad variable name")
      if let some value := value then Act.assign name value
      modify fun s => s.put name (some (put ((s.find? name).getD {})))
    return 0

/-- Hides variables until the end of the function. -/
def hideVariables (arguments : List Octets) : Act Nat := do
  for argument in arguments do
    let (name, value) := assignment argument
    if !isName name then Act.fail (name ++ Octets.ofString ": bad variable name")
    let s ← get
    match s.hidden with
    | [] => Act.fail (Octets.ofString "not in a function")
    | inner :: outer =>
      if (inner.lookup name).isNone then
        modify fun _ => { s with hidden := ((name, s.find? name) :: inner) :: outer }
    if let some value := value then Act.assign name value
  return 0

/-- Takes variables or functions away. -/
def unsetAll (arguments : List Octets) : Act Nat := do
  let isOption (a : Octets) : Bool := [['-', 'v'], ['-', 'f'], ['-', '-']].contains a
  let options := arguments.takeWhile isOption
  for name in arguments.drop options.length do
    if options.contains ['-', 'f'] then
      modify fun s => { s with functions := s.functions.filter (·.1 ≠ name) }
    else
      if !isName name then Act.fail (name ++ Octets.ofString ": bad variable name")
      Act.unset name
  return 0

/-- The options by their letters and names. -/
def optionNames : List (Char × String) :=
  [('e', "errexit"), ('f', "noglob"), ('I', "ignoreeof"), ('i', "interactive"), ('m', "monitor"),
    ('n', "noexec"), ('s', "stdin"), ('x', "xtrace"), ('v', "verbose"), ('V', "vi"),
    ('E', "emacs"), ('C', "noclobber"), ('a', "allexport"), ('b', "notify"), ('u', "nounset")]

/-- Switches an option. -/
def switch (on : Bool) (letter : Char) : Act Unit :=
  modify fun s => { s with
    options := s.options.filter (· ≠ letter) ++ if on then [letter] else [] }

/-- Switches options by their letters. -/
def switchAll (on : Bool) : Octets → Act Unit
  | [] => return ()
  | letter :: rest => do
    if (optionNames.lookup letter).isNone then
      Act.fail (Octets.ofString "Illegal option " ++ [if on then '-' else '+', letter])
    switch on letter
    switchAll on rest

/-- Switches an option by its name. -/
def switchByName (on : Bool) (name : Octets) : Act Unit :=
  match optionNames.find? fun o => o.2.toList = name with
  | some (letter, _) => switch on letter
  | none =>
    Act.fail (Octets.ofString "Illegal option " ++ [if on then '-' else '+', 'o', ' '] ++ name)

/-- Switches options, and tells which arguments are left, if any were meant to be set. -/
def options : List Octets → Act (Option (List Octets))
  | [] => return none
  | ['-', '-'] :: rest => return some rest
  | ['-'] :: rest => return if rest.isEmpty then none else some rest
  | ['-', 'o'] :: name :: rest => do
    switchByName true name
    options rest
  | ['+', 'o'] :: name :: rest => do
    switchByName false name
    options rest
  | ('-' :: letters) :: rest => do
    switchAll true letters
    options rest
  | ('+' :: letters) :: rest => do
    switchAll false letters
    options rest
  | arguments => return some arguments

/-- Switches options and sets the arguments, or lists the variables. -/
def setUp (arguments : List Octets) : Act Nat := do
  if arguments.isEmpty then
    let bindings := (← get).bindings.mergeSort (·.1.notAfter ·.1)
    emit (bindings.flatMap fun (name, v) =>
      match v.value with
      | some value => name ++ '=' :: quote value ++ ['\n']
      | none => [])
  else
    if let some arguments := ← options arguments then
      modify fun s => { s with arguments := arguments }
    return 0

/-- Takes arguments away. -/
def shiftArguments (arguments : List Octets) : Act Nat := do
  let n ←
    match arguments with
    | [] => pure 1
    | text :: _ => count text
  if (← get).arguments.length < n then Act.fail (Octets.ofString "can't shift that many")
  modify fun s => { s with arguments := s.arguments.drop n }
  return 0

/-! ## Input -/

/-- Reads a line byte by byte, with the places where a backslash has guarded a character,
and tells whether it was complete. -/
def readLine (raw : Bool) : Nat → Act (List (Char × Bool) × Bool)
  | 0 => return ([], false)
  | n + 1 => do
    match ← Act.ask (.read 0 1) with
    | .ok ['\n'] => return ([], true)
    | .ok ['\\'] =>
      if raw then
        let (rest, complete) ← readLine raw n
        return (('\\', false) :: rest, complete)
      else
        match ← Act.ask (.read 0 1) with
        | .ok ['\n'] => readLine raw n
        | .ok [c] =>
          let (rest, complete) ← readLine raw n
          return ((c, true) :: rest, complete)
        | _ => return ([], false)
    | .ok [c] =>
      let (rest, complete) ← readLine raw n
      return (if c = '\x00' then rest else (c, false) :: rest, complete)
    | _ => return ([], false)

/-- Splits a line among so many variables; the last takes what is left. -/
def splitLine (separators : Octets) : Nat → List (Char × Bool) → List Octets
  | 0, _ => []
  | count + 1, line =>
    let isBlank (p : Char × Bool) : Bool :=
      !p.2 && separators.contains p.1 && (p.1 = ' ' || p.1 = '\t' || p.1 = '\n')
    let isSeparator (p : Char × Bool) : Bool := !p.2 && separators.contains p.1
    let line := line.dropWhile isBlank
    if count = 0 then
      let trimmed := (line.reverse.dropWhile isBlank).reverse
      let last :=
        match trimmed.reverse with
        | p :: front =>
          if isSeparator p && !front.any isSeparator then front.reverse else trimmed
        | [] => []
      [last.map (·.1)]
    else
      let field := line.takeWhile (!isSeparator ·)
      let rest := (line.drop field.length).dropWhile isBlank
      let rest :=
        match rest with
        | p :: after => if isSeparator p then after else rest
        | [] => []
      field.map (·.1) :: splitLine separators count rest

/-- The longest line that is read. -/
def longestLine : Nat := 10000000

/-- Reads a line into variables. -/
def readVariables (arguments : List Octets) : Act Nat := do
  let (arguments, prompt) :=
    match arguments with
    | ['-', 'p'] :: text :: rest => (rest, text)
    | arguments => (arguments, [])
  let raw := arguments.head? = some ['-', 'r']
  let names := if raw then arguments.drop 1 else arguments
  if names.isEmpty then Act.fail (Octets.ofString "arg count")
  if !prompt.isEmpty then
    let _ ← Act.ask (.write 2 prompt)
  let (line, complete) ← readLine raw longestLine
  for (name, value) in names.zip (splitLine (← get).separators names.length line) do
    if !isName name then Act.fail (name ++ Octets.ofString ": bad variable name")
    Act.assign name value
  return if complete then 0 else 1

/-! ## Output -/

/-- Writes what a format and its arguments come to. -/
def printFormatted (arguments : List Octets) : Act Nat := do
  let arguments := if arguments.head? = some ['-', '-'] then arguments.drop 1 else arguments
  match arguments with
  | [] => Act.fail (Octets.ofString "usage: printf format [arg ...]")
  | format :: arguments =>
    let (text, flaws) := Format.print format arguments
    for flaw in flaws do Act.complain flaw.message
    let status ← emit text
    return if flaws.any (· matches .invalidDirective _) then 2
      else if flaws.isEmpty then status
      else 1

/-! ## Directories -/

/-- Changes the working directory. -/
def changeDirectory (arguments : List Octets) : Act Nat := do
  let options := [['-', 'L'], ['-', 'P'], ['-', '-']]
  let arguments := arguments.filter (!options.contains ·)
  let s ← get
  let (target, aloud) :=
    match arguments with
    | [] => ((s.setting? "HOME").getD [], false)
    | ['-'] :: _ => ((s.setting? "OLDPWD").getD ['.'], true)
    | path :: _ => (path, false)
  if target.isEmpty then return 0
  match ← Act.ask (.changeDirectory target) with
  | .error _ => Act.fail (Octets.ofString "can't cd to " ++ target)
  | .ok () =>
    let here ← Act.ask .workingDirectory
    Act.assign (Octets.ofString "OLDPWD") ((s.setting? "PWD").getD [])
    Act.assign (Octets.ofString "PWD") here
    if aloud then emit (here ++ ['\n']) else return 0

/-! ## Signals and processes -/

/-- Sends signals to processes. -/
def sendSignals (arguments : List Octets) : Act Nat := do
  let signal (text : Octets) : Act Nat :=
    match SignalName.toNumber? 0 text with
    | some n => return n
    | none => Act.fail (Octets.ofString "invalid signal number or name: " ++ text)
  let (number, targets) ←
    match arguments with
    | ['-', 's'] :: name :: rest => pure (← signal name, rest)
    | ['-', '-'] :: rest => pure (15, rest)
    | ['-', 'l'] :: rest =>
      match rest with
      | [] =>
        let _ ← emit (((List.range SignalName.count).drop 1).flatMap fun n =>
          SignalName.ofNumber n ++ ['\n'])
        pure (0, [])
      | text :: _ =>
        let n ← count text
        if n = 0 || 128 + SignalName.count ≤ n then
          Act.fail (Octets.ofString "invalid signal number or exit status: " ++ text)
        let _ ← emit (SignalName.ofNumber (if 128 < n then n - 128 else n) ++ ['\n'])
        pure (0, [])
    | ('-' :: name) :: rest =>
      match SignalName.toNumber? 0 name with
      | some n => pure (n, if rest.head? = some ['-', '-'] then rest.drop 1 else rest)
      | none => Act.fail (Octets.ofString "Illegal option -" ++ name.take 1)
    | rest => pure (15, rest)
  if targets.isEmpty then
    if arguments.head? = some ['-', 'l'] then return 0
    Act.fail (Octets.ofString
      "Usage: kill [-s sigspec | -signum | -sigspec] [pid | job]... or\nkill -l [exitstatus]")
  let mut status := 0
  for target in targets do
    let (negative, digits) :=
      match target with
      | '-' :: d => (true, d)
      | d => (false, d)
    if digits.head? = some '%' then Act.fail (Octets.ofString "No such job: " ++ target)
    let n : Int ← count digits
    match ← Act.ask (.kill (if negative then -n else n) number) with
    | .ok () => pure ()
    | .error e =>
      Act.complain (Octets.ofString (e.reason ++ "\n"))
      status := 1
  return status

/-- Sets what is done when a signal comes. -/
def setTrap (action : Option Octets) (signal : Nat) : Act Unit := do
  let s ← get
  if s.ignored.contains signal then return ()
  let others := s.traps.filter (·.1 ≠ signal)
  match action with
  | some action =>
    modify fun _ => { s with traps := others ++ [(signal, action)] }
    if signal ≠ 0 then
      Act.ask (.dispose signal (if action.isEmpty then .ignore else .catch))
  | none =>
    modify fun _ => { s with traps := others }
    if signal ≠ 0 then Act.ask (.dispose signal .default)

/-- Sets what is done when signals come, or lists it. -/
def setTraps (arguments : List Octets) : Act Nat := do
  let arguments := if arguments.head? = some ['-', '-'] then arguments.drop 1 else arguments
  match arguments with
  | [] =>
    let traps := (← get).traps.mergeSort (·.1 ≤ ·.1)
    emit (traps.flatMap fun (signal, action) =>
      Octets.ofString "trap -- " ++ quote action ++ [' '] ++ SignalName.ofNumber signal ++ ['\n'])
  | first :: rest =>
    let (action, names) : Option Octets × List Octets :=
      if rest.isEmpty then (none, [first])
      else if (Octets.toNat? first).isSome then (none, arguments)
      else if first = ['-'] then (none, rest)
      else (some first, rest)
    let mut status := 0
    for name in names do
      match SignalName.toNumber? 0 name with
      | some signal => setTrap action signal
      | none =>
        let _ ← Act.ask (.write 2 (Octets.ofString "trap: " ++ name ++
          Octets.ofString ": bad trap\n"))
        status := 1
    return status

/-- Waits for processes that were started in the background. A signal that is caught ends
the waiting. -/
def awaitBackground (arguments : List Octets) : Act Nat := do
  let interrupted : Act Nat := do
    let signals ← Act.ask .signals
    modify fun s => { s with arrived := s.arrived ++ signals }
    return 128 + signals.head?.getD 0
  match arguments with
  | [] =>
    let pids := (← get).jobs.map (·.1)
    if ← awaitJobs true false pids mostWaits then
      forgetJobs pids
      return 0
    else interrupted
  | _ =>
    let mut status := 0
    for text in arguments do
      let pid ← count text
      match (← get).jobs.lookup pid with
      | none => status := 127
      | some _ =>
        if ← awaitJobs true true [pid] mostWaits then
          status := (((← get).ended? pid).map statusOf).getD 127
          forgetJobs [pid]
        else return ← interrupted
    return status

end Builtin
end Proctor.Shell
