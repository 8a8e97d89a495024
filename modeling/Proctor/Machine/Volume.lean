import Proctor.Host.Fault
import Proctor.Text.Octets

/-!
# Volumes

The directories and files of a machine, by their paths from the root. A path is walked
name by name: every name but the last must be that of a directory, and no name has more
than 255 bytes.
-/
namespace Proctor.Machine

/-- The programs that a machine has. -/
inductive Tool where
  | shell
  | true'
  | false'
  | echo
  | cat
  | sleep
  deriving DecidableEq, Repr

/-- What a path stands for. -/
inductive Node where
  | directory
  | file (number : Nat)
  | tool (tool : Tool)
  /-- The device that holds nothing and keeps nothing. -/
  | null
  /-- What the process that opens it has at a descriptor. -/
  | handle (descriptor : Nat)
  deriving DecidableEq, Repr

/-- The names on the way from the root. -/
abbrev Path := List Octets

/-- What all paths but the root stand for. -/
abbrev Volume := List (Path × Node)

namespace Volume

/-- The longest name, in bytes. -/
def longestName : Nat := 255

/-- The longest path, in bytes. -/
def longestPath : Nat := 4095

/-- What stands at the end of a path from the root. -/
def get? (v : Volume) (path : Path) : Option Node :=
  if path.isEmpty then some .directory else v.lookup path

/-- Puts something at the end of a path. -/
def put (v : Volume) (path : Path) (node : Node) : Volume :=
  (path, node) :: v.filter (·.1 ≠ path)

/-- The names in a directory. -/
def names (v : Volume) (directory : Path) : List Octets :=
  let inside := v.filterMap fun entry =>
    if entry.1.dropLast = directory ∧ entry.1 ≠ [] then entry.1.getLast? else none
  inside.mergeSort Octets.notAfter

/-- Walks on from a directory, or from what stands there instead. The end of the walk is a
path with what stands at it, which is nothing if only the last name is missing. -/
def walk (v : Volume) (here : Path) (node : Node) :
    List Octets → Except SystemError (Path × Option Node)
  | [] => .ok (here, some node)
  | name :: rest =>
    if node ≠ .directory then .error .notDirectory
    else if longestName < name.length then .error .nameTooLong
    else if name = ['.'] then walk v here node rest
    else if name = ['.', '.'] then walk v here.dropLast .directory rest
    else
      let there := here ++ [name]
      match v.get? there with
      | some next => walk v there next rest
      | none => if rest.isEmpty then .ok (there, none) else .error .notFound

/-- Walks a path, from the root if it begins there and from a directory otherwise. A slash
at the end asks for a directory. -/
def resolve (v : Volume) (directory : Path) (path : Octets) :
    Except SystemError (Path × Option Node) :=
  if path.isEmpty then .error .notFound
  else if longestPath < path.length then .error .nameTooLong
  else
    let names := (Octets.splitAt '/' path).filter (!·.isEmpty)
    let names := if path.getLast? = some '/' then names ++ [['.']] else names
    let start := if path.head? = some '/' then [] else directory
    match v.get? start with
    | some node => v.walk start node names
    | none => .error .notFound

/-- What a path stands for; it must stand for something. -/
def find (v : Volume) (directory : Path) (path : Octets) : Except SystemError Node :=
  match v.resolve directory path with
  | .ok (_, some node) => .ok node
  | .ok (_, none) => .error .notFound
  | .error e => .error e

/-- The program at a path. -/
def tool (v : Volume) (directory : Path) (path : Octets) : Except SystemError Tool :=
  match v.find directory path with
  | .ok (.tool t) => .ok t
  | .ok _ => .error .permissionDenied
  | .error e => .error e

/-- Looks for a program in the directories of a search path, unless it is given by a path. An
empty entry is the working directory. -/
def search (v : Volume) (directory : Path) (searchPath name : Octets) :
    Except SystemError Octets := do
  if name.isEmpty then throw .notFound
  if name.contains '/' then
    let _ ← v.tool directory name
    return name
  if longestName < name.length then throw .nameTooLong
  let candidates := (Octets.splitAt ':' searchPath).map fun d =>
    if d.isEmpty then name else d ++ '/' :: name
  match candidates.find? fun c => (v.tool directory c).isOk with
  | some c => return c
  | none =>
    if candidates.any fun c => v.tool directory c matches .error .permissionDenied then
      throw .permissionDenied
    else throw .notFound

end Volume

/-- A path as text. -/
def Path.text (path : Path) : Octets :=
  if path.isEmpty then ['/'] else path.flatMap ('/' :: ·)

end Proctor.Machine
