import Proctor.Shell.Arithmetic
import Proctor.Shell.Glob
import Proctor.Shell.Session

/-!
# Expansion of words

What the parts of a word stand for, and the fields that a word becomes. Text that comes out
of a parameter, a command or a calculation without quotes around it is split where
separators stand; patterns among the fields become the names of the files that they stand
for, if there are any.
-/
namespace Proctor.Shell

/-- A piece of an expanded word. -/
inductive Mark where
  | char (c : Char) (quoted splits : Bool)
  /-- A place where quotes stood: there is a field even if nothing was between them. -/
  | quotes
  /-- The border between two arguments. -/
  | gap
  deriving DecidableEq, Repr

namespace Mark

/-- The marks of a text. -/
def ofText (quoted : Bool) (text : Octets) : List Mark :=
  (if quoted then [.quotes] else []) ++ text.map (.char · quoted (!quoted))

/-- A mark as it counts in a word that is split. -/
def splitting : Mark → Mark
  | .char c false _ => .char c false true
  | m => m

/-- Marks as a pattern. -/
def toPattern (marks : List Mark) : List PatternChar :=
  marks.filterMap fun
    | .char c quoted _ => some (c, quoted)
    | .quotes => none
    | .gap => some (' ', true)

/-- Marks as a text. -/
def toText (marks : List Mark) : Octets := (toPattern marks).map (·.1)

/-- How far the splitting of fields has come: the field that has begun, if one has, and
whether a blank has ended the last one. -/
structure Splitting where
  fields : List (List PatternChar) := []
  current : Option (List PatternChar) := none
  afterBlank : Bool := false

/-- Ends the field that has begun. -/
def Splitting.close (s : Splitting) (afterBlank : Bool) : Splitting :=
  match s.current with
  | some field => ⟨s.fields ++ [field], none, afterBlank⟩
  | none => { s with afterBlank := s.afterBlank && afterBlank }

/-- Splits at a mark, if it separates fields. -/
def Splitting.next (separators : Octets) (s : Splitting) : Mark → Splitting
  | .quotes => { s with current := some (s.current.getD []) }
  | .gap => s.close false
  | .char c quoted splits =>
    if splits && separators.contains c then
      if c = ' ' || c = '\t' || c = '\n' then s.close true
      else if s.current.isSome then s.close false
      else if s.afterBlank then { s with afterBlank := false }
      else { s with fields := s.fields ++ [[]] }
    else { s with current := some ((s.current.getD []) ++ [(c, quoted)]) }

/-- The fields of an expanded word. -/
def fields (separators : Octets) (marks : List Mark) : List (List PatternChar) :=
  ((marks.foldl (Splitting.next separators) {}).close false).fields

end Mark

/-- A word in which a tilde at the beginning is replaced by a home directory. -/
def Word.withHome (home : Option Octets) : Word → Word
  | .literal ('~' :: text) false :: rest =>
    let user := text.takeWhile (· ≠ '/')
    let after := text.drop user.length
    let directory :=
      if user.isEmpty then home
      else if user = Octets.ofString "root" then some (Octets.ofString "/root")
      else none
    match directory with
    | some directory =>
      if after.isEmpty && !rest.isEmpty then .literal ('~' :: text) false :: rest
      else .literal directory true :: .literal after false :: rest
    | none => .literal ('~' :: text) false :: rest
  | word => word

/-- What the arguments of the shell stand for as a parameter. -/
def argumentMarks (s : Session) (joined quoted : Bool) : List Mark :=
  if joined && quoted then
    let separator :=
      match s.setting? "IFS" with
      | none => [' ']
      | some text => text.take 1
    Mark.ofText true (Octets.join separator s.arguments)
  else List.flatten ((s.arguments.map (Mark.ofText quoted)).intersperse [.gap])

/-- Works out the value of an expression, with the assignments in it. -/
def calculate (text : Octets) : Act Octets := do
  let s ← get
  match Arithmetic.evaluate s.parameter? text with
  | .ok (value, assignments) =>
    for (name, value) in assignments do Act.assign name value
    return Octets.ofInt value
  | .error flaw => Act.fail (flaw.message text)

mutual

/-- Expands a part of a word. The first argument gives the output of a command. -/
def expandPart (substitute : Command → Act Octets) : Part → Act (List Mark)
  | .literal text quoted =>
    return (if quoted then [.quotes] else []) ++ text.map (.char · quoted false)
  | .substitution body quoted => do
    let output ← substitute body
    let kept := (output.filter (· ≠ '\x00')).reverse.dropWhile (· = '\n')
    return Mark.ofText quoted kept.reverse
  | .arithmetic expression quoted => do
    let text ← expandParts substitute expression
    return Mark.ofText quoted (← calculate (Mark.toText text))
  | .bad => Act.fail (Octets.ofString "Bad substitution")
  | .parameter name use quoted => expandUse substitute name quoted use

/-- Expands a use of a parameter. -/
def expandUse (substitute : Command → Act Octets) (name : Octets) (quoted : Bool) :
    Use → Act (List Mark)
  | .value => do
    let s ← get
    if isArguments then return argumentMarks s (name = ['*']) quoted
    match s.parameter? name with
    | some value => return Mark.ofText quoted value
    | none =>
      if s.has 'u' then missing
      return Mark.ofText quoted []
  | .size => do
    let s ← get
    if isArguments then return Mark.ofText quoted (Octets.ofNat s.arguments.length)
    match s.parameter? name with
    | some value => return Mark.ofText quoted (Octets.ofNat value.length)
    | none =>
      if s.has 'u' then missing
      return Mark.ofText quoted ['0']
  | .orElse orEmpty word => do
    let s ← get
    if isUsable s orEmpty then return present s
    return (if quoted then [.quotes] else []) ++
      (← expandParts substitute word).map Mark.splitting
  | .orAssign orEmpty word => do
    let s ← get
    if isUsable s orEmpty then return present s
    let value := Mark.toText (← expandParts substitute word)
    if !isName name then Act.fail (name ++ Octets.ofString ": bad variable name")
    Act.assign name value
    return Mark.ofText quoted value
  | .orFail orEmpty word => do
    let s ← get
    if isUsable s orEmpty then return present s
    if word.isEmpty then
      Act.fail (name ++ Octets.ofString
        (if orEmpty then ": parameter not set or null" else ": parameter not set"))
    Act.fail (name ++ Octets.ofString ": " ++ Mark.toText (← expandParts substitute word))
  | .ifSet orEmpty word => do
    let s ← get
    if isUsable s orEmpty then
      return (if quoted then [.quotes] else []) ++
        (← expandParts substitute word).map Mark.splitting
    return Mark.ofText quoted []
  | .trim front longest word => do
    let s ← get
    let pattern := Mark.toPattern (← expandParts substitute word)
    let value :=
      if isArguments then some (Octets.join [' '] s.arguments) else s.parameter? name
    if value.isNone && s.has 'u' then missing
    let trim := if front then Glob.trimFront else Glob.trimBack
    return Mark.ofText quoted (trim pattern longest (value.getD []))
where
  /-- Whether the parameter stands for all arguments. -/
  isArguments : Bool := name = ['@'] || name = ['*']
  /-- Complains that the parameter is not set. -/
  missing : Act Unit := Act.fail (name ++ Octets.ofString ": parameter not set")
  /-- Whether the parameter is set, and not empty if that counts as not set. -/
  isUsable (s : Session) (orEmpty : Bool) : Bool :=
    if isArguments then
      if orEmpty then s.arguments.any (!·.isEmpty) else !s.arguments.isEmpty
    else (s.parameter? name).any fun value => !(orEmpty && value.isEmpty)
  /-- The value of a parameter that is set. -/
  present (s : Session) : List Mark :=
    if isArguments then argumentMarks s (name = ['*']) quoted
    else Mark.ofText quoted ((s.parameter? name).getD [])

/-- Expands parts one after the other. -/
def expandParts (substitute : Command → Act Octets) : List Part → Act (List Mark)
  | [] => return []
  | part :: rest => do
    let marks ← expandPart substitute part
    return marks ++ (← expandParts substitute rest)

end

/-! ## Names of files -/

/-- Continues paths with the names of files that a part of a path stands for. -/
def expandComponent (wanted : List PatternChar) (path : Octets) : Act (List Octets) := do
  if !Glob.isActive wanted then return [path ++ wanted.map (·.1)]
  let names ← Act.ask (.list (if path.isEmpty then ['.'] else path))
  let isHidden (name : Octets) : Bool := name.head? = some '.'
  let chosen := names.filter fun name =>
    (!isHidden name || wanted.head?.any (·.1 = '.')) && Glob.Matches wanted name
  return chosen.map (path ++ ·)

/-- The components of a path, of which each but the first comes after a slash. -/
def components : List PatternChar → List (List PatternChar)
  | [] => [[]]
  | (c, quoted) :: rest =>
    match components rest with
    | [] => [[(c, quoted)]]
    | first :: others =>
      if c = '/' then [] :: first :: others else ((c, quoted) :: first) :: others

/-- Continues paths component by component. -/
def expandComponents : List (List PatternChar) → List Octets → Act (List Octets)
  | [], paths => return paths
  | wanted :: rest, paths => do
    let longer ← paths.mapM fun path => expandComponent wanted (path ++ ['/'])
    expandComponents rest longer.flatten

/-- The files that a field stands for, or the field itself. -/
def expandField (field : List PatternChar) : Act (List Octets) := do
  let plain := [field.map (·.1)]
  if !Glob.isActive field || (← get).has 'f' then return plain
  match components field with
  | [] => return plain
  | first :: rest =>
    let found ← expandComponents rest (← expandComponent first [])
    let existing ← found.filterM fun path => return (← Act.ask (.kindOf path)).isSome
    return if existing.isEmpty then plain else existing

/-! ## Words -/

/-- The marks of a word. -/
def expandWord (substitute : Command → Act Octets) (word : Word) : Act (List Mark) := do
  expandParts substitute (word.withHome ((← get).setting? "HOME"))

/-- The fields that a word becomes. -/
def expandFields (substitute : Command → Act Octets) (word : Word) : Act (List Octets) := do
  let marks ← expandWord substitute word
  let fields ← (Mark.fields (← get).separators marks).mapM expandField
  return fields.flatten

/-- The text that a word becomes where it is not split. -/
def expandText (substitute : Command → Act Octets) (word : Word) : Act Octets := do
  return Mark.toText (← expandWord substitute word)

/-- The pattern that a word becomes. -/
def expandPattern (substitute : Command → Act Octets) (word : Word) :
    Act (List PatternChar) := do
  return Mark.toPattern (← expandWord substitute word)

end Proctor.Shell
