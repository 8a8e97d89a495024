import Proctor.Shell.Evaluation

/-!
# Invocation of the shell

The arguments of the shell say where its commands come from: from an argument, from a file
or from the standard input. The environment becomes its variables.
-/
namespace Proctor.Shell

/-- How far the evaluation of a script may go. -/
def mostSteps : Nat := 1000000000

/-- What the options of the shell say. -/
structure Invocation where
  /-- Whether the commands are an argument. -/
  fromArgument : Bool := false
  /-- Whether the commands come from the standard input. -/
  fromInput : Bool := false
  options : List Char := []
  arguments : List Octets := []

/-- Reads option letters. The result is a letter that is none. -/
def Invocation.letters (on : Bool) (i : Invocation) : Octets → Except Char Invocation
  | [] => .ok i
  | 'c' :: rest => { i with fromArgument := on }.letters on rest
  | 's' :: rest => { i with fromInput := on }.letters on rest
  | letter :: rest =>
    if (Builtin.optionNames.lookup letter).isNone && letter ≠ 'l' then .error letter
    else
      let others := i.options.filter (· ≠ letter)
      { i with options := others ++ if on then [letter] else [] }.letters on rest

/-- Reads the options. The result is the text of an option that is none. -/
def Invocation.ofArguments (i : Invocation) : List Octets → Except Octets Invocation
  | [] => .ok i
  | ['-', '-'] :: rest => .ok { i with arguments := rest }
  | ['-'] :: rest => .ok { i with arguments := rest }
  | (sign :: letters) :: rest =>
    if (sign = '-' || sign = '+') && !letters.isEmpty then
      if letters = ['o'] then
        match rest with
        | name :: rest =>
          match Builtin.optionNames.find? fun o => o.2.toList = name with
          | some (letter, _) =>
            let others := i.options.filter (· ≠ letter)
            { i with options := others ++ if sign = '-' then [letter] else [] }.ofArguments rest
          | none => .error ([sign, 'o', ' '] ++ name)
        | [] => .ok i
      else
        match i.letters (sign = '-') letters with
        | .ok i => i.ofArguments rest
        | .error letter => .error [sign, letter]
    else .ok { i with arguments := (sign :: letters) :: rest }
  | [] :: rest => .ok { i with arguments := [] :: rest }

/-- The variables that an environment makes. -/
def importVariables (environment : List Octets) : List (Octets × Variable) :=
  environment.filterMap fun entry =>
    let (name, value) := Builtin.assignment entry
    if isName name then value.map fun value => (name, { value := some value, exported := true })
    else none

/-- Executes the commands of an invocation. -/
def execute (i : Invocation) : Act Unit := do
  let bindings := [("IFS", " \t\n"), ("OPTIND", "1"), ("PS4", "+ ")]
  for (name, value) in bindings do
    Act.assign (Octets.ofString name) (Octets.ofString value)
  modify fun s => s.put (Octets.ofString "IFS")
    ((s.find? (Octets.ofString "IFS")).map ({ · with exported := false }))
  let pid ← Act.ask .pid
  let parent ← Act.ask .parent
  let ignored ← Act.ask .ignored
  let here ← Act.ask .workingDirectory
  modify fun s => { s with pid, parent, ignored }
  Act.assign (Octets.ofString "PWD") here
  Act.assign (Octets.ofString "PPID") (Octets.ofNat parent)
  modify fun s => { s with options := i.options ++ if i.fromInput then ['s'] else [] }
  if i.fromArgument then
    match i.arguments with
    | [] =>
      modify ({ · with line := 0 })
      Act.fail (Octets.ofString "-c requires an argument")
    | script :: rest =>
      if let name :: arguments := rest then modify ({ · with name, arguments })
      evaluateScript ⟨true, false⟩ ⟨script, 1, 0⟩ true mostSteps
  else
    match i.fromInput, i.arguments with
    | false, path :: arguments =>
      match ← Act.ask (.openAt 9 path .read) with
      | .ok () =>
        let text ← readAll 9 mostReads
        Act.ask (.close 9)
        modify ({ · with name := path, arguments })
        evaluateScript {} ⟨text, 1, 0⟩ true mostSteps
      | .error e =>
        modify ({ · with line := 0 })
        Act.fail (Octets.ofString "cannot open " ++ path ++ [':', ' '] ++
          errorText e "No such file")
    | _, arguments =>
      modify ({ · with arguments })
      let text ← readAll 0 mostReads
      evaluateScript {} ⟨text, 1, 0⟩ true mostSteps

/-- The shell as a program: its arguments, the first of which is its name, and its
environment. The result is its exit code. -/
def run (arguments environment : List Octets) : Machine.Program Nat := do
  let name := arguments.head?.getD ['s', 'h']
  let session : Session := { name, bindings := importVariables environment }
  let body : Act Unit :=
    match Invocation.ofArguments {} (arguments.drop 1) with
    | .ok i => finish (execute i) mostSteps
    | .error option => do
      modify ({ · with line := 0 })
      Act.fail (Octets.ofString "Illegal option " ++ option)
  let (_, session) ← body.run.run session
  return session.status

end Proctor.Shell
