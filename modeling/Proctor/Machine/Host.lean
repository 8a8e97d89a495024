import Proctor.Host.Interface
import Proctor.Machine.Perform

/-!
# A machine as a host

Time passes on a machine only while the harness rests, and a little when it launches a
process or reads what was captured. Of all processes that are ready, the one that has been
so for longest acts first.
-/
namespace Proctor.Machine

/-- The process that acts next, and when. -/
def next? (m : Machine) : Option (Nat × Nat) :=
  m.processes.foldl (fun best (pid, p) =>
    match m.readyAt? pid p, best with
    | none, _ => best
    | some t, none => some (max t m.clock, pid)
    | some t, some (time, _) => if max t m.clock < time then some (max t m.clock, pid) else best)
    none

/-- Lets a process act at some time. -/
def step (m : Machine) (toolbox : Toolbox) (time pid : Nat) : Machine :=
  match m.process? pid with
  | some p =>
    match p.life with
    | .alive program => { m with clock := time }.perform toolbox pid p program
    | .dying status => { m with clock := time }.die pid status
    | .ended _ => m
  | none => m

/-- Lets processes act up to some time, or until a child of the harness ends if that is
wanted, for so many steps at most. -/
def advance (toolbox : Toolbox) (limit : Option Nat) (untilNews : Bool) : Nat → Machine → Machine
  | 0, m => m
  | steps + 1, m =>
    if untilNews && m.news then m
    else
      match m.next? with
      | none => m
      | some (time, pid) =>
        if limit.any (· < time) then m
        else advance toolbox limit untilNews steps (m.step toolbox time pid)

/-- How many steps may be taken at a stretch. -/
def stretch : Nat := 100000000

/-- Lets a span of time pass. -/
def elapse (toolbox : Toolbox) (m : Machine) (nanoseconds : Nat) : Machine :=
  let limit := m.clock + nanoseconds
  { advance toolbox (some limit) false stretch m with clock := limit }

/-- How long it takes the harness to notice that a child has ended, in nanoseconds. -/
def noticeTime : Nat := 200000

/-- Lets time pass until a child of the harness ends, or until an instant at the latest. -/
def rest (toolbox : Toolbox) (limit : Option Instant) (m : Machine) : Machine :=
  let limit := limit.map fun t => t.tick * Instant.perMillisecond
  let m := advance toolbox limit true stretch m
  if m.news then
    let noticed := m.clock + noticeTime
    let m := m.elapse toolbox (min noticed (max m.clock (limit.getD noticed)) - m.clock)
    { m with news := false }
  else { m with clock := max m.clock (limit.getD m.clock) }

/-- The value of a variable among others. -/
def valueOf? (environment : List Octets) (name : Octets) : Option Octets :=
  environment.findSome? (Octets.dropPrefix? (name ++ ['=']))

/-- The directory in which capture files are made. -/
def temporary (m : Machine) : Octets :=
  (valueOf? m.environment (Octets.ofString "TMPDIR")).getD (Octets.ofString "/tmp")

/-- Makes an empty capture file. -/
def openSink (m : Machine) : Except Fault Sink × Machine :=
  let directory :=
    if m.temporary.isEmpty then .ok .directory else m.volume.find m.directory m.temporary
  match directory with
  | .ok .directory =>
    let (file, m) := m.addFile
    let (number, m) := m.addOpen { target := .file file }
    (.ok ⟨number⟩, m)
  | .ok _ => (.error (.system .notDirectory), m)
  | .error e => (.error (.system e), m)

/-- Whether a capture file is there to be shared. -/
def shareSink (sink : Sink) (m : Machine) : Except Fault Unit × Machine :=
  match m.open'.get? sink.number with
  | some _ => (.ok (), m)
  | none => (.error (.system .badDescriptor), m)

/-- How long the harness takes from one step on a capture file to the next, in nanoseconds. -/
def drainTime : Nat := 9000

/-- The most bytes that are read at once. -/
def mostRead : Nat := 0x7ffff000

/-- Goes on with reading a capture file, for so many steps at most. Between two steps processes
may act, and write into the file. -/
def drainFrom (toolbox : Toolbox) (sink : Sink) :
    Nat → Drain → Machine → Except Fault (List UInt8) × Machine
  | 0, drain, m => (.ok drain.bytes.toList, m)
  | _ + 1, .done bytes, m => (.ok bytes.toList, m)
  | steps + 1, drain, m =>
    match m.open'.get? sink.number with
    | some f =>
      match f.target with
      | .file file =>
        let (drain, m) := m.withShared sink.number f file (drain.step mostRead)
        drainFrom toolbox sink steps drain (m.elapse toolbox drainTime)
      | _ => (.ok [], m)
    | none => (.error (.system .badDescriptor), m)

/-- Reads a capture file from its beginning to its end. -/
def drain (toolbox : Toolbox) (sink : Sink) (m : Machine) : Except Fault (List UInt8) × Machine :=
  drainFrom toolbox sink stretch .fresh m

/-- The variables of a child: those of the harness with others put on top. -/
def childEnvironment (m : Machine) (environment : Environment) : List Octets :=
  let set := environment.map fun (name, value) => (Octets.ofString name, Octets.ofString value)
  (m.environment.filter fun entry => !set.any fun (name, _) =>
    entry.takeWhile (· ≠ '=') = name) ++ set.map fun (name, value) => name ++ '=' :: value

/-- The machine with a variable of the harness set, unless there is no value for it. -/
def withVariable (m : Machine) (name : String) (value : Option String) : Machine :=
  match value with
  | some value => { m with environment := m.childEnvironment [(name, value)] }
  | none => m

/-- Where programs are looked for if no variable says so. -/
def defaultSearchPath : Octets := Octets.ofString "/bin:/usr/bin"

/-- How long a launch takes, and how long it takes after that until the process acts. -/
def launchTime : Nat := 600000

/-- Starts a process of the harness. -/
def spawn (toolbox : Toolbox) (request : Launch) (m : Machine) : Except Fault Pid × Machine :=
  let words := request.command.toList.map Octets.ofString
  let environment := m.childEnvironment request.environment
  let isBroken (text : Octets) : Bool := text.contains '\x00'
  if words.any isBroken || environment.any isBroken then (.error .zeroInCommand, m)
  else if areTooLong (words ++ environment) then (.error (.system .argumentsTooLong), m)
  else
    let searchPath := (valueOf? environment (Octets.ofString "PATH")).getD defaultSearchPath
    let found : Except SystemError Tool := do
      let path ← m.volume.search m.directory searchPath (Octets.ofString request.command.program)
      m.volume.tool m.directory path
    match found with
    | .error e => (.error (.system e), m)
    | .ok tool =>
      let m := m.elapse toolbox launchTime
      let pid := m.nextPid
      let (null, m) := m.addOpen { target := .null, writable := false }
      let p : Process := {
        parent := harness
        group := pid
        life := .alive (toolbox tool words environment)
        ready := m.clock + launchTime
        directory := m.directory
        descriptors := [(0, null), (1, request.stdout.number), (2, request.stderr.number)] }
      (.ok pid, { m with nextPid := pid + 1, processes := m.processes.set pid p })

/-- Asks for the exit of a child of the harness. -/
def collect (pid : Pid) (m : Machine) : Collection × Machine :=
  match m.process? pid with
  | none => (.failed (Fault.system .noChild).message, m)
  | some p =>
    if p.parent ≠ harness then (.failed (Fault.system .noChild).message, m)
    else
      match p.life with
      | .ended status => (.ended status, { m with processes := m.processes.erase pid })
      | _ => (.pending, m)

/-- Sends a signal of the harness. -/
def deliver (recipient : Recipient) (signal : Signal) (m : Machine) : Delivery × Machine :=
  let target : Int :=
    match recipient with
    | .process pid => pid
    | .group pid => -pid
  match m.send harness target signal.number with
  | (.ok (), m) => (.accepted, m)
  | (.error .noProcess, m) => (.gone, m)
  | (.error e, m) => (.refused (Fault.system e).message, m)

/-- Leaves a child of the harness to the caretaker. -/
def abandon (pid : Pid) (m : Machine) : Machine :=
  let m := m.modifyProcess pid ({ · with parent := caretaker })
  { m with processes := m.processes.filter fun (_, p) =>
      !(p.parent = caretaker && p.life matches .ended _) }

/-- The bytes of a tool, which are no text. -/
def toolImage : List UInt8 := [0x7f, 0x45, 0x4c, 0x46, 0x02, 0x01, 0x01, 0xff]

/-- The bytes of a file, as the harness reads them. -/
def content (m : Machine) (path : Octets) : Except Fault (List UInt8) :=
  if path.contains '\x00' then .error .zeroInName
  else
    match m.volume.find m.directory path with
    | .error e => .error (.system e)
    | .ok .directory => .error (.system .isDirectory)
    | .ok (.file file) => .ok (m.fileContent file).toList
    | .ok (.tool _) => .ok toolImage
    | .ok _ => .ok []

/-- Whether there is a process of a number, be it one that has ended. -/
def isAlive (m : Machine) (pid : Pid) : Bool := (m.process? pid).isSome

/-- The processes that are still there after a span of time, which passes only if there are
any. -/
def survivors (toolbox : Toolbox) (pids : List Pid) (nanoseconds : Nat) (m : Machine) :
    List Pid × Machine :=
  if pids.any m.isAlive then
    let m := m.elapse toolbox nanoseconds
    (pids.filter m.isAlive, m)
  else ([], m)

/-- A machine with some tools as a host. Of two things that can both happen next, the first
always does. -/
def host (toolbox : Toolbox) : Host Machine where
  now m := (⟨m.clock⟩, m)
  openSink := Machine.openSink
  shareSink := Machine.shareSink
  drain := Machine.drain toolbox
  spawn := Machine.spawn toolbox
  collect := Machine.collect
  send := Machine.deliver
  abandon := Machine.abandon
  coin m := (true, m)
  rest := Machine.rest toolbox

end Proctor.Machine
