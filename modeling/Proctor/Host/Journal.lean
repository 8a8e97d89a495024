import Proctor.Case.Phase
import Proctor.Host.Interface
import Proctor.Process.Signal

/-!
# Runs on a host

A computation on a host keeps a journal of what it asked for and of what came of it, the
newest entry first. It also remembers the latest reading of the clock, so that instants
never go back.
-/
namespace Proctor

/-- What a run did, or what it learnt. -/
inductive Entry where
  /-- A case entered a phase. -/
  | phase (phase : Phase)
  /-- The host was asked to start the process of that name. -/
  | attempted (name : String)
  | spawned (name : String) (pid : Pid)
  | sent (recipient : Recipient) (signal : Signal) (instant : Instant) (delivery : Delivery)
  | collected (pid : Pid) (status : WaitStatus)
  /-- Asking for the exit of a child failed. -/
  | uncollected (pid : Pid) (reason : String)
  /-- A process had not exited within the grace period after it was killed. -/
  | survived (pid : Pid)
  /-- The watchdog was seen to have fired. -/
  | expired
  deriving DecidableEq

/-- A host in some state, with the journal of a run. -/
structure World (σ : Type) where
  host : σ
  latest : Instant := ⟨0⟩
  journal : List Entry := []

/-- A computation on a host with states `σ`. -/
abbrev Run (σ α : Type) := StateM (World σ) α

namespace Run
variable {σ : Type}

/-- Asks something of a host. -/
def ask {α : Type} (question : σ → α × σ) : Run σ α := fun w =>
  let (answer, host) := question w.host
  (answer, { w with host })

/-- Adds an entry to the journal. -/
def note (entry : Entry) : Run σ Unit := modify fun w => { w with journal := entry :: w.journal }

variable (host : Host σ)

/-- Reads the clock; a reading is never earlier than the last one. -/
def now : Run σ Instant := do
  let reading ← ask host.now
  modifyGet fun w =>
    let latest := if w.latest ≤ reading then reading else w.latest
    (latest, { w with latest })

/-- Sends a signal. -/
def send (recipient : Recipient) (signal : Signal) : Run σ Delivery := do
  let instant ← now host
  let delivery ← ask (host.send recipient signal)
  note (.sent recipient signal instant delivery)
  return delivery

/-- Lets time pass, until an instant at the latest. -/
def rest (limit : Option Instant) : Run σ Unit := ask fun s => ((), host.rest limit s)

/-- Lets a span of time pass. It gives up after some wake-ups, and then the answer is
`false`. -/
def restUntil (limit : Instant) : Nat → Run σ Bool
  | 0 => return false
  | patience + 1 => do
    if limit.reached (← now host) then return true
    rest host (some limit)
    restUntil limit patience

/-- Waits for a span of time. -/
def pause (span : Duration) (patience : Nat) : Run σ Bool := do
  let start ← now host
  restUntil host (start.deadline span) patience

end Run
end Proctor
