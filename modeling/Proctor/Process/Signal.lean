/-!
# Signals

The two kinds of signal a catalog can ask for, and the platform signals behind them and
behind forced termination.
-/
namespace Proctor

/-- A platform signal, by number. -/
structure Signal where
  number : Nat
  deriving DecidableEq, Repr, Inhabited

namespace Signal

def kill : Signal := ⟨9⟩
def user1 : Signal := ⟨10⟩
def terminate : Signal := ⟨15⟩

end Signal

/-- What a catalog can ask to be sent to a running process: a request to reload its
configuration, or a request to shut down. -/
inductive SignalKind where
  | reload
  | terminate
  deriving DecidableEq, Repr, Inhabited

namespace SignalKind

/-- The platform signal of a kind. -/
def signal : SignalKind → Signal
  | .reload => .user1
  | .terminate => .terminate

/-- The name of a kind in catalogs. -/
def name : SignalKind → String
  | .reload => "reload"
  | .terminate => "terminate"

/-- The kind of a name in a catalog. -/
def ofName? : String → Option SignalKind
  | "reload" => some .reload
  | "terminate" => some .terminate
  | _ => none

/-- The name of the platform signal of a kind. -/
def signalName : SignalKind → String
  | .reload => "SIGUSR1"
  | .terminate => "SIGTERM"

end SignalKind
end Proctor
