import Proctor.Machine.Host
import Proctor.Machine.Tools
import Proctor.Shell.Invocation

/-!
# The standard machine

A machine with the usual small tools, a few files, and nothing running.
-/
namespace Proctor.Machine

/-- What the tools do. The first argument is the name of the tool. -/
def standardToolbox : Toolbox := fun tool arguments environment =>
  let operands := arguments.drop 1
  match tool with
  | .shell => Shell.run arguments environment
  | .true' => return 0
  | .false' => return 1
  | .echo => Tools.echo operands
  | .cat => Tools.cat operands
  | .sleep => Tools.sleep operands

/-- The names of the tools. -/
def toolNames : List (String × Tool) :=
  [("sh", .shell), ("dash", .shell), ("true", .true'), ("false", .false'), ("echo", .echo),
    ("cat", .cat), ("sleep", .sleep)]

/-- The files that there are, each with its text. -/
def texts : List (String × String) :=
  [("/etc/group", "root:x:0:\nnogroup:x:65534:\n"), ("/etc/hostname", "standard\n"),
    ("/etc/hosts", "127.0.0.1 localhost\n"),
    ("/etc/passwd", "root:x:0:0:root:/root:/bin/sh\nnobody:x:65534:65534::/:/bin/false\n")]

/-- The names of a path from the root. -/
def pathOf (text : String) : Path :=
  (Octets.splitAt '/' (Octets.ofString text)).filter (!·.isEmpty)

/-- Puts a file with some content at a path. -/
def putFile (m : Machine) (path : Path) (content : List UInt8) : Machine :=
  let (file, m) := m.addFile
  { m with
    files := m.files.set file content.toArray
    volume := m.volume.put path (.file file) }

/-- The directories that there are. -/
def directories : List String :=
  ["/bin", "/dev", "/etc", "/home", "/proc", "/root", "/tmp", "/tmp/work", "/usr", "/usr/bin",
    "/usr/local", "/usr/local/bin", "/usr/sbin", "/var", "/var/tmp"]

/-- The machine before anything has happened on it. -/
def standard : Machine :=
  let volume : Volume :=
    directories.map (fun d => (pathOf d, Node.directory)) ++
    toolNames.flatMap (fun (name, tool) =>
      [(pathOf ("/bin/" ++ name), .tool tool), (pathOf ("/usr/bin/" ++ name), .tool tool)]) ++
    [(pathOf "/dev/null", .null), (pathOf "/dev/stdin", .handle 0),
      (pathOf "/dev/stdout", .handle 1), (pathOf "/dev/stderr", .handle 2)]
  let m : Machine := {
    clock := 1000000000300000
    volume := volume
    directory := pathOf "/tmp/work"
    environment := [
      "HOME=/root", "PWD=/tmp/work",
      "PATH=/usr/local/sbin:/usr/local/bin:/usr/sbin:/usr/bin:/sbin:/bin"].map Octets.ofString }
  texts.foldl (fun m (path, text) => m.putFile (pathOf path) text.toUTF8.toList) m

/-- The standard machine as a host. -/
def standardHost : Host Machine := host standardToolbox

end Proctor.Machine
