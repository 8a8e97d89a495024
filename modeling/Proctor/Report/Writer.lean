import Proctor.Text.Utf8

/-!
# Writers

A report is written to a writer that may have room for so many bytes only: it keeps what
fits, and a write that does not fit as a whole has failed.
-/
namespace Proctor

/-- What has been written, and the room that is left, if it is limited. -/
structure Writer where
  kept : List UInt8 := []
  room : Option Nat := none
  deriving DecidableEq

/-- A write did not fit. -/
inductive WriteFault where
  | full
  deriving DecidableEq, Repr

/-- The wording of a failed write. -/
def WriteFault.message : WriteFault → String
  | .full => "sink full"

namespace Writer

/-- Writes some bytes. -/
def writeBytes (w : Writer) (bytes : List UInt8) : Except WriteFault Unit × Writer :=
  match w.room with
  | none => (.ok (), { w with kept := w.kept ++ bytes })
  | some room =>
    let w' : Writer := ⟨w.kept ++ bytes.take room, some (room - bytes.length)⟩
    if bytes.length ≤ room then (.ok (), w') else (.error .full, w')

/-- Writes a text. -/
def write (w : Writer) (text : String) : Except WriteFault Unit × Writer :=
  w.writeBytes text.toUTF8.toList

end Writer
end Proctor
