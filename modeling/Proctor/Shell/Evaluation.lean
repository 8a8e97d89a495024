import Proctor.Shell.Builtin
import Proctor.Shell.Reader
import Proctor.Shell.Redirection

/-!
# Evaluation of commands

Commands set the status of the session. Builtin commands and functions are evaluated by the
shell itself, and all others by a process of their own; a command with nothing behind it
takes the place of the shell instead, if there is nothing left to do when it ends.
-/
namespace Proctor.Shell

/-- What a command is evaluated for. -/
structure Manner where
  /-- Whether the shell ends after it. -/
  last : Bool := false
  /-- Whether its status is tested, so that a failure is not an error. -/
  tested : Bool := false

namespace Manner

/-- The manner for a command with others behind it. -/
def inner (m : Manner) : Manner := { m with last := false }

/-- The manner for a command of which the status is tested. -/
def condition : Manner := ⟨false, true⟩

end Manner

/-- Does what a loop does once, and tells whether the loop goes on. -/
def turn (body : Act Unit) : Act Bool := do
  match ← body.observe with
  | .ok () => return true
  | .error (.break' loops) => if loops ≤ 1 then return false else throw (.break' (loops - 1))
  | .error (.continue' loops) => if loops ≤ 1 then return true else throw (.continue' (loops - 1))
  | .error flow => throw flow

/-- Does something within one more loop. -/
def withinLoop (body : Act Unit) : Act Unit := do
  modify fun s => { s with loops := s.loops + 1 }
  let result ← body.observe
  modify fun s => { s with loops := s.loops - 1 }
  Act.resume result

/-- Does something while some variables have other values. -/
def withVariables {α : Type} (values : List (Octets × Octets)) (body : Act α) : Act α := do
  let old ← values.mapM fun (name, _) => return (name, (← get).find? name)
  for (name, value) in values do
    Act.assign name value
    modify fun s => s.put name (some { (s.find? name).getD {} with exported := true })
  let result ← body.observe
  for (name, v) in old.reverse do modify fun s => s.put name v
  Act.resume result

/-- Where a program may be found: a path as it is, and a name in the directories of the
search path. -/
def programPath? (name : Octets) : Act (Option Octets) := do
  if name.contains '/' then return some name
  let directories := Octets.splitAt ':' (((← get).setting? "PATH").getD [])
  let candidates := directories.map fun d => if d.isEmpty then name else d ++ '/' :: name
  candidates.findM? fun path => return (← Act.ask (.kindOf path)) matches some (.file _ _)

/-- Takes the place of the shell with a program. If that fails, the shell ends. -/
def become (name path : Octets) (arguments : List Octets) : Act Unit := do
  let e ← Act.ask (.exec path (name :: arguments) (← get).environment)
  Act.complain (name ++ [':', ' '] ++ errorText e "not found")
  Act.setStatus (if [.notFound, .notDirectory, .nameTooLong].contains e then 127 else 126)
  throw .exit

/-- Tells what a name means as a command. -/
def describeCommand (short : Bool) (name : Octets) : Act Nat := do
  let s ← get
  let isBuiltin := (Builtin.ofName? name).isSome
  if Reader.reservedWords.contains (String.ofList name) then
    Builtin.emit (name ++ Octets.ofString (if short then "\n" else " is a shell keyword\n"))
  else if isBuiltin && (Builtin.ofName? name).any (·.isSpecial) then
    Builtin.emit (name ++ Octets.ofString (if short then "\n" else " is a special shell builtin\n"))
  else if (s.functions.lookup name).isSome then
    Builtin.emit (name ++ Octets.ofString (if short then "\n" else " is a shell function\n"))
  else if isBuiltin then
    Builtin.emit (name ++ Octets.ofString (if short then "\n" else " is a shell builtin\n"))
  else
    match ← programPath? name with
    | some path =>
      if (← Act.ask (.kindOf path)).isSome then
        Builtin.emit (if short then path ++ ['\n']
          else name ++ Octets.ofString " is " ++ path ++ ['\n'])
      else if short then return 127
      else
        let _ ← Builtin.emit (name ++ Octets.ofString ": not found\n")
        return 127
    | none =>
      if short then return 127
      else
        let _ ← Builtin.emit (name ++ Octets.ofString ": not found\n")
        return 127

/-- Reads all that is left behind a descriptor. -/
def readAll (descriptor : Nat) : Nat → Act Octets
  | 0 => return []
  | n + 1 => do
    match ← Act.ask (.read descriptor 65536) with
    | .ok [] => return []
    | .ok text => return text ++ (← readAll descriptor n)
    | .error _ => return []

/-- How often a shell reads at a stretch. -/
def mostReads : Nat := 1000000

/-- Names a command and its arguments before it is evaluated. -/
def trace (assignments : List (Octets × Octets)) (words : List Octets) : Act Unit := do
  if (← get).has 'x' then
    let all := assignments.map (fun (name, value) => name ++ '=' :: value) ++ words
    let _ ← Act.ask (.write 2 (['+', ' '] ++ Octets.join [' '] all ++ ['\n']))

mutual

/-- Evaluates a command. Signals that have come in the meantime are acted on after it. -/
def evaluate (m : Manner) (c : Command) : Nat → Act Unit
  | 0 => throw .exit
  | n + 1 => do
    if (← get).has 'n' then return ()
    let isChecked ←
      match c with
      | .empty =>
        Act.setStatus 0
        pure false
      | .simple line assignments words redirects =>
        evaluateSimple m line assignments words redirects n
        pure true
      | .redirected body redirects =>
        match ← (redirect (substitute n) [] redirects).observe with
        | .error .failure => Act.setStatus 2
        | .error flow => throw flow
        | .ok kept =>
          let result ← (evaluate m.inner body n).observe
          kept.restore
          Act.resume result
        pure false
      | .pipeline members =>
        evaluatePipeline members n
        pure true
      | .negation body =>
        evaluate .condition body n
        Act.setStatus (if (← get).status = 0 then 1 else 0)
        pure false
      | .both first second =>
        evaluate .condition first n
        if (← get).status = 0 then evaluate m second n
        pure false
      | .either first second =>
        evaluate .condition first n
        if (← get).status ≠ 0 then evaluate m second n
        pure false
      | .sequence first second =>
        evaluate m.inner first n
        if !(second matches .empty) then evaluate m second n
        pure false
      | .background body =>
        match ← Act.ask .fork with
        | none =>
          enterChild
          Act.ask (.dispose Machine.SignalNumber.interrupt .ignore)
          Act.ask (.dispose Machine.SignalNumber.quit .ignore)
          let _ ← Act.ask (.openAt 0 (Octets.ofString "/dev/null") .read)
          finish (evaluate ⟨true, false⟩ body n) n
        | some pid =>
          startJob pid
          modify fun s => { s with background := some pid }
          Act.setStatus 0
        pure false
      | .subshell body =>
        if m.last && !(← get).hasTraps then evaluate m body n
        else
          match ← Act.ask .fork with
          | none =>
            enterChild
            finish (evaluate ⟨true, m.tested⟩ body n) n
          | some pid =>
            startJob pid
            awaitForeground [pid]
        pure true
      | .conditional condition yes no =>
        evaluate .condition condition n
        if (← get).status = 0 then evaluate m yes n
        else evaluate m no n
        pure false
      | .loop untilTrue condition body =>
        withinLoop (evaluateLoop m.inner untilTrue condition body 0 n)
        pure false
      | .iteration name words body =>
        let values ←
          match words with
          | none => pure (← get).arguments
          | some words => do
            let fields ← words.mapM (expandFields (substitute n))
            pure fields.flatten
        Act.setStatus 0
        withinLoop (evaluateIteration m.inner name values body n)
        pure false
      | .choice subject arms =>
        let text ← expandText (substitute n) subject
        evaluateArms m text arms n
        pure false
      | .function name body =>
        modify fun s => { s with functions := (name, body) :: s.functions.filter (·.1 ≠ name) }
        Act.setStatus 0
        pure false
    actOnSignals n
    let s ← get
    if isChecked && !m.tested && s.has 'e' && s.status ≠ 0 then throw .exit

/-- Evaluates a loop, of which the last turn had some status. -/
def evaluateLoop (m : Manner) (untilTrue : Bool) (condition body : Command) (status : Nat) :
    Nat → Act Unit
  | 0 => throw .exit
  | n + 1 => do
    let goesOn ← turn do
      evaluate .condition condition n
      if ((← get).status = 0) = untilTrue then
        Act.setStatus status
        throw (.break' 1)
      evaluate m body n
    if goesOn then evaluateLoop m untilTrue condition body (← get).status n

/-- Evaluates a command for each of some values of a variable. -/
def evaluateIteration (m : Manner) (name : Octets) (values : List Octets) (body : Command) :
    Nat → Act Unit
  | 0 => throw .exit
  | n + 1 => do
    match values with
    | [] => return ()
    | value :: rest =>
      Act.assign name value
      if ← turn (evaluate m body n) then evaluateIteration m name rest body n

/-- Evaluates the first arm of which a pattern matches. -/
def evaluateArms (m : Manner) (text : Octets) (arms : List (List Word × Command)) :
    Nat → Act Unit
  | 0 => throw .exit
  | n + 1 => do
    match arms with
    | [] => Act.setStatus 0
    | (patterns, body) :: rest =>
      let found ← patterns.anyM fun word => do
        return Glob.Matches (← expandPattern (substitute n) word) text
      if found then evaluate m body n else evaluateArms m text rest n

/-- Starts the members of a pipeline and waits for all of them. -/
def evaluatePipeline (members : List Command) : Nat → Act Unit
  | 0 => throw .exit
  | n + 1 => do
    let pids ← startPipeline none members n
    awaitForeground pids

/-- Starts the members of a pipeline; the first reads from a descriptor, if one is given. -/
def startPipeline (input : Option Nat) (members : List Command) : Nat → Act (List Nat)
  | 0 => throw .exit
  | n + 1 => do
    match members with
    | [] => return []
    | body :: rest =>
      let ends ← if rest.isEmpty then pure none else some <$> Act.ask .pipe
      match ← Act.ask .fork with
      | none =>
        enterChild
        if let some descriptor := input then
          let _ ← Act.ask (.duplicate descriptor 0)
          Act.ask (.close descriptor)
        if let some (out, into) := ends then
          let _ ← Act.ask (.duplicate into 1)
          Act.ask (.close into)
          Act.ask (.close out)
        finish (evaluate ⟨true, false⟩ body n) n
        return []
      | some pid =>
        startJob pid
        if let some descriptor := input then Act.ask (.close descriptor)
        if let some (_, into) := ends then Act.ask (.close into)
        return pid :: (← startPipeline (ends.map (·.1)) rest n)

/-- The output of a command, evaluated by a process of its own. -/
def substitute (n : Nat) (body : Command) : Act Octets :=
  match n with
  | 0 => throw .exit
  | n + 1 => do
    let (out, into) ← Act.ask .pipe
    match ← Act.ask .fork with
    | none =>
      enterChild
      Act.ask (.close out)
      let _ ← Act.ask (.duplicate into 1)
      Act.ask (.close into)
      finish (evaluate ⟨true, false⟩ body n) n
      return []
    | some pid =>
      startJob pid
      Act.ask (.close into)
      let text ← readAll out mostReads
      Act.ask (.close out)
      let before := (← get).status
      awaitForeground [pid]
      modify fun s => { s with substituted := some s.status, status := before }
      return text

/-- Evaluates a simple command: words are expanded, redirections performed, and assignments
made for the command alone, or for good if there is none. -/
def evaluateSimple (m : Manner) (line : Nat) (assignments : List (Octets × Word))
    (words : List Word) (redirects : List Redirect) : Nat → Act Unit
  | 0 => throw .exit
  | n + 1 => do
    modify fun s => { s with line := line, command := none, substituted := none }
    let fields ← expandArguments words n
    let builtin? := fields.head?.bind Builtin.ofName?
    let isSpecial := builtin?.any (·.isSpecial)
    match ← (redirect (substitute n) [] redirects).observe with
    | .error .failure =>
      Act.setStatus 2
      if isSpecial then throw .failure
    | .error flow => throw flow
    | .ok kept =>
      let result ← Act.observe do
        let values ← assignments.mapM fun (name, word) => do
          return (name, ← expandText (substitute n) word)
        trace values fields
        match fields with
        | [] =>
          for (name, value) in values do Act.assign name value
          let s ← get
          Act.setStatus (s.substituted.getD 0)
        | name :: arguments =>
          if isSpecial then
            for (name, value) in values do Act.assign name value
            evaluateNamed m name arguments n
          else withVariables values (evaluateNamed m name arguments n)
      if builtin? = some .exec && result matches .ok _ then kept.forget
      else kept.restore
      Act.resume result

/-- Expands the words of a command. What looks like an assignment is not split if the
command takes assignments. -/
def expandArguments (words : List Word) : Nat → Act (List Octets)
  | 0 => throw .exit
  | n + 1 => do
    let takes := (words.head?.bind Word.plain?).any fun name =>
      (Builtin.ofName? name).any (·.takesAssignments)
    let expand (word : Word) : Act (List Octets) :=
      match word with
      | .literal text false :: _ =>
        if takes && text.contains '=' && isName (text.takeWhile (· ≠ '=')) then do
          return [← expandText (substitute n) word]
        else expandFields (substitute n) word
      | _ => expandFields (substitute n) word
    return (← words.mapM expand).flatten

/-- Evaluates a command of a name: a special builtin, a function, a builtin or a program. -/
def evaluateNamed (m : Manner) (name : Octets) (arguments : List Octets) : Nat → Act Unit
  | 0 => throw .exit
  | n + 1 => do
    let builtin? := Builtin.ofName? name
    let function? := (← get).functions.lookup name
    match builtin?, function? with
    | none, none => evaluateProgram m name arguments n
    | some b, none => evaluateBuiltin m b name arguments n
    | none, some body => evaluateFunction m body arguments n
    | some b, some body =>
      if b.isSpecial then evaluateBuiltin m b name arguments n
      else evaluateFunction m body arguments n

/-- Evaluates a builtin command. A complaint ends the shell only if the command is special. -/
def evaluateBuiltin (m : Manner) (b : Builtin) (name : Octets) (arguments : List Octets) :
    Nat → Act Unit
  | 0 => throw .exit
  | n + 1 => do
    modify ({ · with command := some name })
    let act : Act Nat :=
      match b with
      | .break' => Builtin.leaveLoops .break' arguments
      | .cd => Builtin.changeDirectory arguments
      | .colon => return 0
      | .command =>
        match arguments with
        | ['-', 'v'] :: name :: _ => describeCommand true name
        | ['-', 'V'] :: name :: _ => describeCommand false name
        | [['-', 'v']] => return 0
        | [['-', 'V']] => return 0
        | _ => do
          let rest := arguments.filter fun a => a ≠ ['-', 'p']
          let rest := if rest.head? = some ['-', '-'] then rest.drop 1 else rest
          match rest with
          | [] => return 0
          | name :: arguments =>
            match Builtin.ofName? name with
            | some b => evaluateBuiltin m.inner b name arguments n
            | none => evaluateProgram m.inner name arguments n
            return (← get).status
      | .continue' => Builtin.leaveLoops .continue' arguments
      | .dot =>
        match arguments with
        | [] => Act.fail (Octets.ofString "filename argument required")
        | path :: _ => do
          let path ←
            if path.contains '/' then pure path
            else do
              match ← programPath? path with
              | some path => pure path
              | none => Act.fail (path ++ Octets.ofString ": not found")
          let kept ← redirect (fun _ => return []) [] [.file 9 .read [.literal path true]]
          let text ← readAll 9 mostReads
          kept.restore
          match ← (evaluateScript m.inner ⟨text, 1, 0⟩ true n).observe with
          | .error .return' => pure ()
          | result => Act.resume result
          return (← get).status
      | .echo => Builtin.emit (Format.echo arguments)
      | .eval => do
        let text := Octets.join [' '] arguments
        evaluateScript m.inner ⟨text, (← get).line, 0⟩ true n
        return (← get).status
      | .exec =>
        match arguments with
        | [] => return 0
        | name :: arguments => do
          match ← programPath? name with
          | some path => become name path arguments
          | none => become name name arguments
          return 0
      | .exit => Builtin.exitShell arguments
      | .export => Builtin.mark "export" (·.exported) ({ · with exported := true }) arguments
      | .false' => return 1
      | .kill => Builtin.sendSignals arguments
      | .local' => Builtin.hideVariables arguments
      | .printf => Builtin.printFormatted arguments
      | .pwd => do return ← Builtin.emit ((← Act.ask .workingDirectory) ++ ['\n'])
      | .read => Builtin.readVariables arguments
      | .readonly => Builtin.mark "readonly" (·.readOnly) ({ · with readOnly := true }) arguments
      | .return' => Builtin.returnFrom arguments
      | .set => Builtin.setUp arguments
      | .shift => Builtin.shiftArguments arguments
      | .test => do
        let words ←
          if name = ['['] then
            if arguments.getLast? = some [']'] then pure arguments.dropLast
            else Act.fail (Octets.ofString "missing ]")
          else pure arguments
        match Condition.ofWords words with
        | .ok c => return if ← c.holds then 0 else 1
        | .error message => Act.fail message
      | .trap => Builtin.setTraps arguments
      | .true' => return 0
      | .type => do
        let statuses ← arguments.mapM (describeCommand false)
        return statuses.foldl max 0
      | .umask => if arguments.isEmpty then Builtin.emit "0022\n".toList else return 0
      | .unset => Builtin.unsetAll arguments
      | .wait => Builtin.awaitBackground arguments
    let result ← act.observe
    modify ({ · with command := none })
    match result with
    | .ok status => Act.setStatus status
    | .error .failure => if b.isSpecial then throw .failure
    | .error flow => throw flow

/-- Evaluates a function. -/
def evaluateFunction (m : Manner) (body : Command) (arguments : List Octets) : Nat → Act Unit
  | 0 => throw .exit
  | n + 1 => do
    let old ← get
    modify fun s => { s with arguments, loops := 0, hidden := [] :: s.hidden }
    let result ← (evaluate m.inner body n).observe
    for (name, v) in (← get).hidden.head?.getD [] do modify fun s => s.put name v
    modify fun s => { s with
      arguments := old.arguments, loops := old.loops, hidden := old.hidden }
    match result with
    | .error .return' => return ()
    | _ => Act.resume result

/-- Evaluates a program by a process of its own, or in place of the shell. -/
def evaluateProgram (m : Manner) (name : Octets) (arguments : List Octets) : Nat → Act Unit
  | 0 => throw .exit
  | n + 1 => do
    modify ({ · with command := none })
    match ← programPath? name with
    | none =>
      Act.complain (name ++ Octets.ofString
        (if name.isEmpty then ": Permission denied" else ": not found"))
      Act.setStatus 127
    | some path =>
      if m.last && !(← get).hasTraps then become name path arguments
      else
        match ← Act.ask .fork with
        | none =>
          enterChild
          finish (become name path arguments) n
        | some pid =>
          startJob pid
          awaitForeground [pid]

/-- Evaluates a script line by line. -/
def evaluateScript (m : Manner) (source : Source) (empty : Bool) : Nat → Act Unit
  | 0 => throw .exit
  | n + 1 => do
    match Reader.line.run source with
    | .error mistake =>
      modify ({ · with line := mistake.line })
      Act.fail (Octets.ofString mistake.message)
    | .ok (none, _) => if empty then Act.setStatus 0
    | .ok (some c, rest) =>
      let isLast := rest.input.isEmpty && source.input.getLast? ≠ some '\n'
      evaluate { m with last := m.last && isLast } c n
      evaluateScript m rest false n

/-- Acts on the signals that have come. The status stays as it was. -/
def actOnSignals : Nat → Act Unit
  | 0 => throw .exit
  | n + 1 => do
    let signals ← Act.ask .signals
    let signals := (← get).arrived ++ signals
    modify ({ · with arrived := [] })
    actOn signals n

/-- Acts on signals one after the other. -/
def actOn (signals : List Nat) : Nat → Act Unit
  | 0 => throw .exit
  | n + 1 => do
    match signals with
    | [] => return ()
    | signal :: rest =>
      let s ← get
      match s.traps.lookup signal with
      | none => actOn rest n
      | some action =>
        modify fun s => { s with before := some (s.before.getD s.status) }
        let result ← (evaluateScript {} ⟨action, 1, 0⟩ true n).observe
        modify ({ · with before := s.before })
        match result with
        | .ok () =>
          Act.setStatus s.status
          actOn rest n
        | .error flow => throw flow

/-- Does the last thing that the shell does, and ends it. The action for its end is executed
before, and does not change the status unless it says so. -/
def finish (body : Act Unit) : Nat → Act Unit
  | 0 => Act.ask (.exit 2) >>= fun e => nomatch e
  | n + 1 => do
    let _ ← body.observe
    let s ← get
    match s.traps.lookup 0 with
    | some action =>
      modify fun s => { s with traps := s.traps.filter (·.1 ≠ 0), before := some s.status }
      match ← (evaluateScript {} ⟨action, 1, 0⟩ true n).observe with
      | .error .exit => pure ()
      | .error .failure => pure ()
      | _ => Act.setStatus s.status
    | none => pure ()
    let e ← Act.ask (.exit (← get).status)
    nomatch e

end

end Proctor.Shell
