import Proctor.Machine.Basic

/-!
# Signals of a machine

A signal is remembered with its process until it acts: one that is caught waits for the
program to take it, one that is ignored is gone at once, and any other ends the process or
stops it. A stopped process does nothing but die of a kill, until it is continued.
-/
namespace Proctor.Machine

namespace SignalNumber

def hangup : Nat := 1
def interrupt : Nat := 2
def quit : Nat := 3
def kill : Nat := 9
def pipe : Nat := 13
def child : Nat := 17
def continue' : Nat := 18
def stop : Nat := 19

/-- The signals that do nothing unless they are caught. -/
def harmless : List Nat := [child, continue', 23, 28]

/-- The signals that stop a process. -/
def stopping : List Nat := [stop, 20, 21, 22]

/-- The greatest number of a signal. -/
def greatest : Nat := 64

end SignalNumber

/-- A process ends. Its children are left to the caretaker, and its parent can ask for its
exit; the caretaker does so at once. -/
def die (m : Machine) (pid : Nat) (status : WaitStatus) : Machine :=
  match m.process? pid with
  | none => m
  | some p =>
    let orphaned := m.processes.map fun (n, q) =>
      (n, if q.parent = pid then { q with parent := caretaker } else q)
    let dead : Process := { p with life := .ended status, descriptors := [], pending := [] }
    let processes := (Table.set orphaned pid dead).filter fun (_, q) =>
      !(q.parent = caretaker && q.life matches .ended _)
    { m with processes, news := m.news || p.parent = harness }

/-- How long it takes a process to die of a signal, in nanoseconds. -/
def deathTime : Nat := 100000

/-- A signal makes a process end, even one that is stopped. -/
def condemn (m : Machine) (pid signal : Nat) : Machine :=
  m.modifyProcess pid fun p => { p with
    life := .dying (.ofSignal signal), ready := m.clock + deathTime, stopped := false }

/-- Lets the signals that have come to a process act. -/
def settle (m : Machine) (pid : Nat) : Machine :=
  match m.process? pid with
  | some p =>
    if p.stopped || !p.life.isAlive then m
    else
      match p.pending.find? (!p.caught.contains ·) with
      | some signal => m.condemn pid signal
      | none => m
  | none => m

/-- Sends a signal to a process that exists. -/
def post (m : Machine) (pid signal : Nat) : Machine :=
  match m.process? pid with
  | none => m
  | some p =>
    if !p.life.isAlive || signal = 0 then m
    else if signal = SignalNumber.kill then m.condemn pid signal
    else
      let resumed := if signal = SignalNumber.continue' then { p with stopped := false } else p
      let isCaught := p.caught.contains signal
      let q : Process :=
        if signal = SignalNumber.stop then { resumed with stopped := true }
        else if p.ignored.contains signal then resumed
        else if !isCaught && SignalNumber.harmless.contains signal then resumed
        else if !isCaught && SignalNumber.stopping.contains signal then
          { resumed with stopped := true }
        else if p.pending.contains signal then resumed
        else { resumed with pending := p.pending ++ [signal] }
      (m.modifyProcess pid fun _ => q).settle pid

/-- The processes that a target of a signal means: one process, the group of the sender, or
a group. -/
def addressed (m : Machine) (sender : Nat) (target : Int) : List Nat :=
  let inGroup (group : Nat) : List Nat :=
    (m.processes.filter fun (_, p) => p.group = group).map (·.1)
  if 0 < target then
    if (m.process? target.toNat).isSome then [target.toNat] else []
  else if target = 0 then ((m.process? sender).map fun p => inGroup p.group).getD []
  else inGroup target.natAbs

/-- Sends a signal to all that a target means. There must be one. -/
def send (m : Machine) (sender : Nat) (target : Int) (signal : Nat) :
    Except SystemError Unit × Machine :=
  if 0 < target && (target.toNat = caretaker || target.toNat = harness) then (.ok (), m)
  else
    match m.addressed sender target with
    | [] => (.error .noProcess, m)
    | pids => (.ok (), pids.foldl (fun m pid => m.post pid signal) m)

end Proctor.Machine
