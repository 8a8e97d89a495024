import Proctor.Catalog.Basic
import Proctor.Catalog.Defect
import Proctor.Catalog.Draft

/-!
# Checking a catalog

A draft becomes a catalog, or its first defect is reported: case by case, in each case
launch by launch, and of each process its command, its timeout, its delay and its two
patterns. Processes that are never launched are looked for last.
-/
namespace Proctor.Draft

/-- The words of a command. -/
def Command.toList : Command → List String
  | .line text => Text.words text
  | .words argv => argv

/-- A timeout is a positive number of seconds. -/
def timeout? (x : Binary64) : Option Duration :=
  if x.isPositive then Duration.ofSeconds? x else none

/-- The checked process of a draft. -/
def Process.validate (c name : String) (draft : Process) : Except Defect ProcessSpec := do
  let some command := CommandLine.ofList? draft.command.toList
    | throw (.emptyCommand c name)
  let some timeout := timeout? draft.timeout
    | throw (.invalidTimeout c name draft.timeout)
  let injection ← match draft.injection with
    | none => pure none
    | some i =>
      match Duration.ofSeconds? i.delay with
      | some delay => pure (some ⟨i.kind, delay⟩)
      | none => throw (.invalidDelay c name i.delay)
  let stdout ← (Pattern.ofText draft.stdout).mapError (.invalidPattern c name .stdout)
  let stderr ← (Pattern.ofText draft.stderr).mapError (.invalidPattern c name .stderr)
  return {
    name, command, environment := draft.environment, stdout, stderr
    exitCode := draft.exitCode, timeout, injection }

/-- The checked processes of a launch order. `declared` holds the tables that were not
launched yet; they are what is left in the end. -/
def launches (c : String) :
    (order launched : List String) → (declared : List (String × Process)) →
    Except Defect (List ProcessSpec × List (String × Process))
  | [], _, declared => .ok ([], declared)
  | name :: order, launched, declared => do
    match declared.lookup name with
    | none =>
      throw (if launched.contains name then .duplicateLaunch c name else .unknownProcess c name)
    | some draft =>
      let spec ← draft.validate c name
      let (specs, rest) ←
        launches c order (name :: launched) (declared.filter (·.1 ≠ name))
      return (spec :: specs, rest)

/-- The checked case of a draft. -/
def Case.validate (draft : Case) : Except Defect TestCase := do
  if draft.order.isEmpty then throw (.emptyOrder draft.name)
  let (processes, rest) ← launches draft.name draft.order [] draft.processes
  match rest with
  | [] => return ⟨draft.name, draft.allowTimeout, processes⟩
  | (name, _) :: _ => throw (.notLaunched draft.name name)

/-- The checked cases of a draft, after cases of the names `seen`. -/
def validateCases : (seen : List String) → List Case → Except Defect (List TestCase)
  | _, [] => .ok []
  | seen, draft :: drafts => do
    if seen.contains draft.name then throw (.duplicateCase draft.name)
    let c ← draft.validate
    return c :: (← validateCases (draft.name :: seen) drafts)

/-- The checked catalog of a draft. -/
def Catalog.validate (draft : Catalog) : Except Defect Proctor.Catalog := do
  if draft.cases.isEmpty then throw .noCases
  return ⟨← validateCases [] draft.cases⟩

end Proctor.Draft
