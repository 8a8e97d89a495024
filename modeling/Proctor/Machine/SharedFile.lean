/-!
# Shared files

A file that is open, with the one offset that everybody shares who has a handle of it. A
write stores at the offset and moves it on, and so does a read. Whoever reads a file from its
beginning to its end does so in steps, and others may write between them.
-/
namespace Proctor.Machine

/-- The content of a file, and where the next byte is read or written. -/
structure SharedFile where
  content : Array UInt8 := #[]
  offset : Nat := 0
  deriving DecidableEq, Repr

namespace SharedFile

/-- Stores bytes at the offset. A gap after the end of the file is filled with zeros. -/
def write (f : SharedFile) (bytes : Array UInt8) : SharedFile where
  content :=
    if f.offset = f.content.size then f.content ++ bytes
    else
      f.content.extract 0 f.offset ++ Array.replicate (f.offset - f.content.size) 0 ++ bytes ++
        f.content.extract (f.offset + bytes.size) f.content.size
  offset := f.offset + bytes.size

/-- Moves the offset. -/
def seek (f : SharedFile) (offset : Nat) : SharedFile := { f with offset }

/-- Reads so many bytes at most. -/
def read (f : SharedFile) (count : Nat) : Array UInt8 × SharedFile :=
  let bytes := f.content.extract f.offset (f.offset + count)
  (bytes, { f with offset := f.offset + bytes.size })

end SharedFile

/-- How far a file has been read that is read from its beginning to its end. -/
inductive Drain where
  | fresh
  /-- The offset was moved to the beginning, and these bytes were read since. -/
  | reading (bytes : Array UInt8)
  /-- A read brought nothing more. -/
  | done (bytes : Array UInt8)
  deriving DecidableEq, Repr

namespace Drain

/-- The bytes that were read. -/
def bytes : Drain → Array UInt8
  | .fresh => #[]
  | .reading bytes => bytes
  | .done bytes => bytes

/-- The next step: the offset is moved to the beginning, and then so many bytes at most are read at
once, until a read brings none. -/
def step (count : Nat) : Drain → SharedFile → Drain × SharedFile
  | .fresh, f => (.reading #[], f.seek 0)
  | .reading bytes, f =>
    let (more, f) := f.read count
    (if more.isEmpty then .done bytes else .reading (bytes ++ more), f)
  | .done bytes, f => (.done bytes, f)

end Drain
end Proctor.Machine
