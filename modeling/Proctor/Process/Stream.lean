/-!
# Output streams
-/
namespace Proctor

/-- A captured output stream of a process. -/
inductive Stream where
  | stdout
  | stderr
  deriving DecidableEq, Repr, Inhabited

/-- The name of a stream. -/
def Stream.name : Stream → String
  | .stdout => "stdout"
  | .stderr => "stderr"

/-- Both streams, in the order in which they are checked and shown. -/
def Stream.all : List Stream := [.stdout, .stderr]

end Proctor
