import Proctor.Text.Octets

/-!
# Pipes

A pipe keeps what has been written into it until it is read, in the order of the writes. It
is kept as what is read next and the later writes behind it, so that neither end has to go
through all of it. Its content is what a reader would get.
-/
namespace Proctor.Machine

/-- What has been written into a pipe and not been read yet. -/
structure Pipe where
  next : Octets := []
  /-- The later writes, the newest first. -/
  later : List Octets := []
  deriving DecidableEq, Repr

namespace Pipe

/-- What a reader would get. -/
def content (p : Pipe) : Octets := p.next ++ p.later.reverse.flatten

/-- Whether there is nothing to read. -/
def isEmpty (p : Pipe) : Bool := p.next.isEmpty && p.later.all (·.isEmpty)

/-- How many writes may wait behind what is read next. -/
def capacity : Nat := 16384

/-- Whether a writer has to wait. -/
def isFull (p : Pipe) : Bool := capacity ≤ p.later.length

/-- Puts octets behind all others. -/
def write (p : Pipe) (octets : Octets) : Pipe := { p with later := octets :: p.later }

/-- Takes so many octets away at most. -/
def read (p : Pipe) (count : Nat) : Octets × Pipe :=
  if p.next.isEmpty then
    let all := p.later.reverse.flatten
    (all.take count, ⟨all.drop count, []⟩)
  else (p.next.take count, { p with next := p.next.drop count })

@[simp] theorem content_write (p : Pipe) (octets : Octets) :
    (p.write octets).content = p.content ++ octets := by
  simp [write, content]

theorem content_read (p : Pipe) (count : Nat) :
    (p.read count).1 ++ (p.read count).2.content = p.content := by
  unfold read content
  split
  · rename_i h
    simp [List.isEmpty_iff.1 h]
  · simp [← List.append_assoc]

@[simp] theorem isEmpty_iff (p : Pipe) : p.isEmpty ↔ p.content = [] := by
  simp [isEmpty, content]

end Pipe
end Proctor.Machine
