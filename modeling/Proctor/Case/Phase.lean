/-!
# Phases of a case

A case is pending, launches its processes, awaits their completion, then has completed or
timed out, and at last is reported. No other step exists.
-/
namespace Proctor

/-- Where a case stands in its life. -/
inductive Phase where
  | pending
  | launching
  | awaiting
  | completed
  | timedOut
  | reported
  deriving DecidableEq, Repr, Inhabited

namespace Phase

/-- The steps there are. -/
def canAdvance : Phase → Phase → Bool
  | .pending, .launching => true
  | .launching, .awaiting => true
  | .awaiting, .completed => true
  | .awaiting, .timedOut => true
  | .completed, .reported => true
  | .timedOut, .reported => true
  | _, _ => false

/-- The name of a phase. -/
def name : Phase → String
  | .pending => "Pending"
  | .launching => "Launching"
  | .awaiting => "AwaitingCompletion"
  | .completed => "Completed"
  | .timedOut => "TimedOut"
  | .reported => "Reported"

/-- The phase of a name. -/
def ofName? (text : String) : Option Phase :=
  [pending, launching, awaiting, completed, timedOut, reported].find? (·.name = text)

/-- A step between phases that does not exist. -/
structure IllegalTransition where
  source : Phase
  target : Phase
  deriving DecidableEq, Repr

/-- The message of an illegal step. -/
def IllegalTransition.message (t : IllegalTransition) : String :=
  "illegal transition " ++ t.source.name ++ " -> " ++ t.target.name

/-- Moves to the next phase, if that step exists. -/
def advance (source target : Phase) : Except IllegalTransition Phase :=
  if source.canAdvance target then .ok target else .error ⟨source, target⟩

end Phase
end Proctor
