import Proctor.Machine.Signals

/-!
# Performing requests

What the system does when a process asks for something. A request is performed as soon as
its process is ready and the reply is at hand; waiting, sleeping and reading from an empty
pipe are what can take longer.
-/
namespace Proctor.Machine

/-- What a tool does with its arguments, the first of which is its own name, and its
environment. -/
abbrev Toolbox := Tool → List Octets → List Octets → Program Nat

namespace Request

/-- How long it takes until a process can go on after a request, in nanoseconds. -/
def cost : Request → Nat
  | .exec .. => 400000
  | .fork => 150000
  | _ => 3000

end Request

/-- The first descriptor that programs have no name for. -/
def firstStash : Nat := 10

/-- The most bytes that one argument or variable may have. -/
def longestArgument : Nat := 131071

/-- The most bytes that all arguments and variables may have. -/
def longestArguments : Nat := 2097152

/-- Whether arguments and variables are too long for a new program. -/
def areTooLong (texts : List Octets) : Bool :=
  texts.any (longestArgument < ·.length) ||
    longestArguments < texts.foldl (fun n text => n + text.length + 9) 0

/-- The children of a process that a wait is for. -/
def awaited (m : Machine) (pid : Nat) (child : Option Nat) : Table Process :=
  m.processes.filter fun (n, p) => p.parent = pid && (child.isNone || child = some n)

/-- Whether a process has caught a signal that it has not taken yet. -/
def hasCaught (p : Process) : Bool := p.pending.any (p.caught.contains ·)

/-- When a process can act, if nothing else has to happen before. -/
def readyAt? (m : Machine) (pid : Nat) (p : Process) : Option Nat :=
  if p.stopped then none
  else
    match p.life with
    | .ended _ => none
    | .dying _ => some p.ready
    | .alive (.done _) => some p.ready
    | .alive (.call request _) =>
      match request with
      | .sleep until' => some (max p.ready until')
      | .wait child interruptible =>
        let children := m.awaited pid child
        if children.isEmpty || children.any (·.2.life matches .ended _) ||
            interruptible && hasCaught p then
          some p.ready
        else none
      | .read descriptor _ =>
        match m.target? pid descriptor with
        | some (.pipeOut number) =>
          if (m.pipe number).isEmpty && m.isHeld (.pipeIn number) then none
          else some p.ready
        | _ => some p.ready
      | .write descriptor _ =>
        match m.target? pid descriptor with
        | some (.pipeIn number) =>
          if (m.pipe number).isFull && m.isHeld (.pipeOut number) then none else some p.ready
        | _ => some p.ready
      | _ => some p.ready

/-- Lets a process go on with the program that follows its request. -/
def goOn (m : Machine) (pid : Nat) (request : Request) (program : Program Nat) : Machine :=
  m.modifyProcess pid fun p =>
    if p.life.isAlive then { p with life := .alive program, ready := m.clock + request.cost }
    else p

/-- Writes through a descriptor. -/
def write (m : Machine) (pid descriptor : Nat) (octets : Octets) :
    Except SystemError Unit × Machine :=
  match m.openFile? pid descriptor with
  | none => (.error .badDescriptor, m)
  | some (number, f) =>
    if !f.writable then (.error .badDescriptor, m)
    else
      match f.target with
      | .null => (.ok (), m)
      | .file file =>
        let start := if f.append then (m.fileContent file).size else f.offset
        let ((), m) := m.withShared number { f with offset := start } file fun shared =>
          ((), shared.write (Octets.toBytes octets).toArray)
        (.ok (), m)
      | .pipeIn pipe =>
        if m.isHeld (.pipeOut pipe) then
          (.ok (), { m with pipes := m.pipes.set pipe ((m.pipe pipe).write octets) })
        else (.error .brokenPipe, m.post pid SignalNumber.pipe)
      | .pipeOut _ => (.error .badDescriptor, m)
      | .directory => (.error .badDescriptor, m)

/-- Reads through a descriptor. -/
def read (m : Machine) (pid descriptor count : Nat) : Except SystemError Octets × Machine :=
  match m.openFile? pid descriptor with
  | none => (.error .badDescriptor, m)
  | some (number, f) =>
    if !f.readable then (.error .badDescriptor, m)
    else
      match f.target with
      | .null => (.ok [], m)
      | .directory => (.error .isDirectory, m)
      | .pipeIn _ => (.error .badDescriptor, m)
      | .file file =>
        let (bytes, m) := m.withShared number f file (·.read count)
        (.ok (Octets.ofBytes bytes.toList), m)
      | .pipeOut pipe =>
        let (octets, rest) := (m.pipe pipe).read count
        (.ok octets, { m with pipes := m.pipes.set pipe rest })

/-- Makes a descriptor of a process mean an open file. -/
def attach (m : Machine) (pid descriptor number : Nat) : Machine :=
  m.modifyProcess pid fun p => { p with descriptors := p.descriptors.set descriptor number }

/-- Opens a target at a descriptor. A file that is opened for writing loses its content. -/
def openTarget (m : Machine) (pid descriptor : Nat) (target : Target) (mode : Mode) : Machine :=
  let m :=
    match target, mode with
    | .file file, .write => { m with files := m.files.set file #[] }
    | _, _ => m
  let (number, m) := m.addOpen {
    target := target
    append := mode = .append
    readable := mode = .read || mode = .update
    writable := mode ≠ .read }
  m.attach pid descriptor number

/-- Opens a file at a descriptor. -/
def openAt (m : Machine) (pid descriptor : Nat) (directory : Path) (path : Octets) (mode : Mode) :
    Except SystemError Unit × Machine :=
  match m.volume.resolve directory path with
  | .error e => (.error e, m)
  | .ok (there, node) =>
    match node with
    | some .directory =>
      if mode = .read then (.ok (), m.openTarget pid descriptor .directory mode)
      else (.error .isDirectory, m)
    | some (.file file) => (.ok (), m.openTarget pid descriptor (.file file) mode)
    | some (.tool _) => (.ok (), m.openTarget pid descriptor .null mode)
    | some .null => (.ok (), m.openTarget pid descriptor .null mode)
    | some (.handle source) =>
      match m.openFile? pid source with
      | some (_, f) => (.ok (), m.openTarget pid descriptor f.target mode)
      | none => (.error .notFound, m)
    | none =>
      if mode = .read then (.error .notFound, m)
      else
        let (file, m) := m.addFile
        let m := { m with volume := m.volume.put there (.file file) }
        (.ok (), m.openTarget pid descriptor (.file file) mode)

/-- What a path stands for, as programs see it. -/
def kindOf (m : Machine) (directory : Path) (path : Octets) : Option FileKind :=
  match m.volume.find directory path with
  | .ok .directory => some .directory
  | .ok (.file file) => some (.file (m.fileContent file).size false)
  | .ok (.tool _) => some (.file 1 true)
  | .ok .null => some .device
  | .ok (.handle _) => some .device
  | .error _ => none

/-- Sets what a process does when a signal reaches it. -/
def dispose (p : Process) (signal : Nat) (disposition : Disposition) : Process :=
  let ignored := p.ignored.filter (· ≠ signal)
  let caught := p.caught.filter (· ≠ signal)
  match disposition with
  | .default => { p with ignored, caught }
  | .catch => { p with ignored, caught := signal :: caught }
  | .ignore =>
    { p with ignored := signal :: ignored, caught, pending := p.pending.filter (· ≠ signal) }

/-- Changes the working directory of a process. -/
def changeDirectory (m : Machine) (pid : Nat) (p : Process) (path : Octets) :
    Except SystemError Unit × Machine :=
  match m.volume.resolve p.directory path with
  | .ok (there, some .directory) => (.ok (), m.modifyProcess pid ({ · with directory := there }))
  | .ok (_, some _) => (.error .notDirectory, m)
  | .ok (_, none) => (.error .notFound, m)
  | .error e => (.error e, m)

/-- Makes a pipe for a process. -/
def addPipe (m : Machine) (pid : Nat) (p : Process) : (Nat × Nat) × Machine :=
  let pipe := m.pipes.fresh 0
  let m := { m with pipes := m.pipes.set pipe {} }
  let (out, m) := m.addOpen { target := .pipeOut pipe, writable := false }
  let (into, m) := m.addOpen { target := .pipeIn pipe, readable := false }
  let first := p.descriptors.fresh firstStash
  ((first, first + 1), (m.attach pid first out).attach pid (first + 1) into)

/-- Splits a process in two. The new one has no signals to act on. -/
def fork (m : Machine) (pid : Nat) (p : Process) (resume : Option Nat → Program Nat) : Machine :=
  let child := m.nextPid
  let twin : Process := { p with
    parent := pid, pending := [], life := .alive (resume none)
    ready := m.clock + Request.fork.cost }
  let m := { m with nextPid := child + 1, processes := m.processes.set child twin }
  m.goOn pid .fork (resume (some child))

/-- Collects an exit that a process waits for. -/
def wait (m : Machine) (pid : Nat) (child : Option Nat) : Waiting × Machine :=
  let children := m.awaited pid child
  match children.findSome? fun (n, p) =>
      match p.life with
      | .ended status => some (n, status)
      | _ => none with
  | some (n, status) => (.ended n status, { m with processes := m.processes.erase n })
  | none => (if children.isEmpty then .noChild else .interrupted, m)

/-- Performs the next request of a process. -/
def perform (m : Machine) (toolbox : Toolbox) (pid : Nat) (p : Process) : Program Nat → Machine
  | .done code => m.die pid (.ofCode code)
  | .call request resume =>
    let reply (m : Machine) (program : Program Nat) : Machine := m.goOn pid request program
    match request with
    | .signals =>
      let m := reply m (resume (p.pending.filter (p.caught.contains ·)))
      m.modifyProcess pid fun q =>
        { q with pending := q.pending.filter (!q.caught.contains ·) }
    | .clock => reply m (resume m.clock)
    | .sleep _ => reply m (resume ())
    | .write descriptor octets =>
      let (answer, m) := m.write pid descriptor octets
      reply m (resume answer)
    | .read descriptor count =>
      let (answer, m) := m.read pid descriptor count
      reply m (resume answer)
    | .openAt descriptor path mode =>
      let (answer, m) := m.openAt pid descriptor p.directory path mode
      reply m (resume answer)
    | .duplicate source target =>
      match p.descriptors.get? source with
      | some number => reply (m.attach pid target number) (resume (.ok ()))
      | none => reply m (resume (.error .badDescriptor))
    | .stash descriptor =>
      match p.descriptors.get? descriptor with
      | some number =>
        let above := p.descriptors.fresh firstStash
        reply (m.attach pid above number) (resume (some above))
      | none => reply m (resume none)
    | .close descriptor =>
      reply (m.modifyProcess pid fun q => { q with descriptors := q.descriptors.erase descriptor })
        (resume ())
    | .pipe =>
      let (ends, m) := m.addPipe pid p
      reply m (resume ends)
    | .fork => m.fork pid p resume
    | .exec path arguments environment =>
      if areTooLong (arguments ++ environment) then reply m (resume .argumentsTooLong)
      else
        match m.volume.tool p.directory path with
        | .error e => reply m (resume e)
        | .ok tool =>
          (reply m (toolbox tool arguments environment)).modifyProcess pid fun q =>
            { q with caught := [], descriptors := q.descriptors.filter (·.1 < firstStash) }
    | .wait child _ =>
      let (answer, m) := m.wait pid child
      reply m (resume answer)
    | .kill target signal =>
      let (answer, sent) := m.send pid target signal
      sent.goOn pid request (resume answer)
    | .pid => reply m (resume pid)
    | .parent => reply m (resume p.parent)
    | .dispose signal disposition =>
      reply (m.modifyProcess pid (dispose · signal disposition)) (resume ())
    | .kindOf path => reply m (resume (m.kindOf p.directory path))
    | .list path =>
      match m.volume.resolve p.directory path with
      | .ok (there, some .directory) => reply m (resume (m.volume.names there))
      | _ => reply m (resume [])
    | .changeDirectory path =>
      let (answer, m) := m.changeDirectory pid p path
      reply m (resume answer)
    | .workingDirectory => reply m (resume p.directory.text)
    | .ignored => reply m (resume p.ignored)
    | .exit code => m.die pid (.ofCode code)

end Proctor.Machine
