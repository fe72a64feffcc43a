import PanelLauncher.Host.Task
import PanelLauncher.Process

/-!
# Processes side by side

The processes of a system take turns: the one that can go on first does so. Reading from an empty
pipe, writing to a full one and waiting for a child make a process stand still. The launcher looks
at its signals a little later than they come and passes them on to its child.

This is part of the system for test runs and of nothing else. No theorem is about it.
-/

namespace PanelLauncher

structure Descriptor where
  number : Nat
  opened : Nat
  closesOnExec : Bool
  deriving DecidableEq, Repr

inductive Opened
  | file (place : Location) (offset : Nat) (appends canRead canWrite : Bool)
  | pipe (id : Nat) (isWriter : Bool)
  | stream (stream : Stream)
  deriving DecidableEq, Repr

inductive Activity
  | running (task : Task)
  | reading (pipe count : Nat) (next : Except Errno ByteArray → Task)
  | writing (pipe : Nat) (bytes : ByteArray) (next : Option Errno → Task)
  | waiting (pid : Option Nat) (isInterruptible : Bool) (next : Waited → Task)
  /-- It has ended, and its parent has not been told. -/
  | ended (status : ExitStatus)

structure ProcessState where
  identity : Identity
  activity : Activity
  readyAt : Nat
  descriptors : List Descriptor
  dispositions : List (Nat × Disposition)
  caught : List Nat
  /-- When the first of the caught signals came. -/
  caughtAt : Nat
  isStopped : Bool
  held : List Nat
  working : Location

namespace ProcessState

def pid (p : ProcessState) : Nat := p.identity.pid

def opened? (p : ProcessState) (descriptor : Nat) : Option Nat :=
  (p.descriptors.find? (·.number = descriptor)).map (·.opened)

def disposition (p : ProcessState) (signal : Nat) : Disposition :=
  (p.dispositions.lookup signal).getD .default

def close (p : ProcessState) (descriptor : Nat) : ProcessState :=
  { p with descriptors := p.descriptors.filter (·.number ≠ descriptor) }

def assign (p : ProcessState) (descriptor opened : Nat) (closesOnExec : Bool) : ProcessState :=
  { p with descriptors := ⟨descriptor, opened, closesOnExec⟩ :: (p.close descriptor).descriptors }

def hasEnded (p : ProcessState) : Bool :=
  p.activity matches .ended _

def catch_ (p : ProcessState) (signal now : Nat) : ProcessState :=
  { p with
    caught := if p.caught.contains signal then p.caught else signal :: p.caught
    caughtAt := if p.caught.isEmpty then now else p.caughtAt }

end ProcessState

/-- The program at a path, with arguments and an environment. A file that is open to be written
cannot be run. -/
abbrev Loader :=
  FileTree → (busy : List Location) → Location → String → List String →
    List (String × String) → Except Errno Task

structure Kernel where
  files : FileTree
  log : Option Location
  processes : List ProcessState
  opened : List (Nat × Opened)
  pipes : List (Nat × ByteArray)
  nextPid : Nat
  nextId : Nat
  now : Nat
  relay : Relay.State
  launcherAt : Option Nat
  launcherPid : Nat
  /-- What happened, backwards. -/
  moments : List Moment
  ending : Option (ExitStatus × Nat)
  /-- What had happened when the launcher noticed the end of its child. -/
  noticed : Option (List Moment)

namespace Kernel

/-! ## Times -/

def launcherDelay : Nat := 500

def forkDelay : Nat := 100

def childDelay : Nat := 300

def execDelay : Nat := 500

def deathDelay : Nat := 100

def noticeDelay : Nat := 500

def wakeDelay : Nat := 200

def pipeSize : Nat := 65536

/-! ## Processes -/

def process? (k : Kernel) (pid : Nat) : Option ProcessState :=
  k.processes.find? (·.pid = pid)

def update (k : Kernel) (pid : Nat) (f : ProcessState → ProcessState) : Kernel :=
  { k with processes := k.processes.map fun p => if p.pid = pid then f p else p }

def resume (k : Kernel) (pid : Nat) (task : Task) (delay : Nat) : Kernel :=
  k.update pid fun p => { p with activity := .running task, readyAt := k.now + delay }

def setFiles (k : Kernel) (files : FileTree) : Kernel :=
  let moments := match k.moments with
    | .changed _ :: earlier => earlier
    | moments => moments
  { k with files := files, moments := .changed files :: moments }

def tidy (k : Kernel) : Kernel :=
  let isNamed (id : Nat) : Bool :=
    k.processes.any fun p => p.descriptors.any fun d => d.opened = id
  let opened := k.opened.filter fun (id, _) => isNamed id
  let pipes := k.pipes.filter fun (pipe, _) =>
    opened.any fun (_, o) => o = .pipe pipe false || o = .pipe pipe true
  { k with opened := opened, pipes := pipes }

def addOpened (k : Kernel) (o : Opened) : Kernel × Nat :=
  let k := if 100 < k.opened.length then k.tidy else k
  ({ k with opened := (k.nextId, o) :: k.opened, nextId := k.nextId + 1 }, k.nextId)

def setOpened (k : Kernel) (id : Nat) (o : Opened) : Kernel :=
  { k with opened := k.opened.map fun (i, old) => if i = id then (i, o) else (i, old) }

def busy (k : Kernel) : List Location :=
  k.log.toList ++ k.tidy.opened.filterMap fun (_, o) =>
    match o with
    | .file place _ _ _ true => some place
    | _ => none

def openedOf? (k : Kernel) (p : ProcessState) (descriptor : Nat) : Option (Nat × Opened) :=
  (p.opened? descriptor).bind fun id => (k.opened.lookup id).map (id, ·)

def hasEnd (k : Kernel) (pipe : Nat) (isWriter : Bool) : Bool :=
  k.processes.any fun p => p.descriptors.any fun d =>
    k.opened.lookup d.opened = some (.pipe pipe isWriter)

def pipeContent (k : Kernel) (pipe : Nat) : ByteArray :=
  (k.pipes.lookup pipe).getD .empty

def setPipe (k : Kernel) (pipe : Nat) (content : ByteArray) : Kernel :=
  { k with pipes := (pipe, content) :: k.pipes.filter (·.1 ≠ pipe) }

/-! ## Signals -/

def isIgnoredByDefault (signal : Nat) : Bool :=
  [17, 18, 23, 28].contains signal

def stops (signal : Nat) : Bool :=
  [19, 20, 21, 22].contains signal

def finish (k : Kernel) (pid : Nat) (status : ExitStatus) : Kernel :=
  match k.process? pid with
  | none => k
  | some p =>
    if p.hasEnded then k
    else
      let k := k.update pid fun p =>
        { p with
          activity := .ended status
          readyAt := k.now + deathDelay
          descriptors := []
          isStopped := false }
      let adopted := k.processes.map fun (q : ProcessState) =>
        if q.identity.parent = pid then
          { q with identity := { q.identity with parent := 1 } }
        else q
      let k := { k with
        processes := adopted.filter fun q => !(q.hasEnded && q.identity.parent = 1) }
      if p.identity.parent = k.launcherPid && k.ending.isNone then
        { k with ending := some (status, k.now + noticeDelay) }
      else
        k.update p.identity.parent fun q =>
          if q.disposition 17 = .caught then q.catch_ 17 k.now else q

def affect (k : Kernel) (pid number : Nat) : Kernel :=
  match k.process? pid with
  | none => k
  | some p =>
    if p.hasEnded then k
    else
      match p.disposition number with
      | .ignored => k
      | .caught => k.update pid (·.catch_ number k.now)
      | .default =>
        if isIgnoredByDefault number then k
        else if stops number then k.update pid fun p => { p with isStopped := true }
        else k.finish pid (.signal number)

def signal (k : Kernel) (pid number : Nat) : Kernel :=
  match k.process? pid with
  | none => k
  | some p =>
    if number = 0 || p.hasEnded then k
    else if number = 9 then k.finish pid (.signal number)
    else if number = 18 then
      let k := k.update pid fun p => { p with isStopped := false, held := [] }
      (p.held.reverse ++ [number]).foldl (fun k held => k.affect pid held) k
    else if p.isStopped then
      k.update pid fun p =>
        { p with held := if p.held.contains number then p.held else number :: p.held }
    else if number = 19 then k.update pid fun p => { p with isStopped := true }
    else k.affect pid number

/-- A signal that reaches the launcher is kept if it is one that it passes on. -/
def signalLauncher (k : Kernel) (number : Nat) : Kernel :=
  match [Signal.interrupt, .terminate].find? (·.number = number) with
  | none => k
  | some signal =>
    { k with
      relay := (k.relay.step? (.deliver signal)).getD k.relay
      launcherAt := some (k.launcherAt.getD (k.now + launcherDelay)) }

def send (k : Kernel) (sender : Identity) (target : Int) (number : Nat) : Kernel × Bool :=
  if target = k.launcherPid then (k.signalLauncher number, true)
  else if target = 1 then (k, true)
  else if 0 < target then
    if (k.process? target.toNat).isSome then (k.signal target.toNat number, true) else (k, false)
  else
    let isMeant := fun (p : ProcessState) =>
      if target = 0 then p.identity.group = sender.group
      else if target = -1 then p.pid ≠ sender.pid
      else (p.identity.group : Int) = -target
    let pids := (k.processes.filter fun p => isMeant p && !p.hasEnded).map (·.pid)
    (pids.foldl (fun k pid => k.signal pid number) k, !pids.isEmpty)

def pass (k : Kernel) (child : Nat) (signal : Signal) : Kernel :=
  match k.relay.step? (.pass signal none) with
  | none => k
  | some relay =>
    match relay.passes with
    | [] => k
    | passed :: _ =>
      { k with relay := relay, moments := .passed passed.signal passed.fault :: k.moments }.signal child signal.number

def runLauncher (k : Kernel) : Kernel :=
  let k := { k with launcherAt := none }
  match k.processes.find? fun p => p.identity.parent = k.launcherPid && !p.hasEnded with
  | none => k
  | some child => (k.pass child.pid .interrupt).pass child.pid .terminate

/-! ## Reading and writing -/

def write? (k : Kernel) (id : Nat) (o : Opened) (bytes : ByteArray) :
    Option (Kernel × Option Errno) :=
  match o with
  | .stream s =>
    match k.log with
    | none => some ({ k with moments := .wrote s bytes :: k.moments }, none)
    | some place =>
      match k.files.entry? place with
      | some (.device .full) => some (k, some .noSpace)
      | some (.device (.output s)) =>
        some ({ k with moments := .printed s bytes :: k.moments }, none)
      | _ =>
        some ({ k with
          moments := .wrote s bytes :: k.moments
          files := k.files.append place bytes }, none)
  | .file place offset appends canRead canWrite =>
    if !canWrite then some (k, some .badDescriptor)
    else
      match k.files.entry? place with
      | some (.device .full) => some (k, some .noSpace)
      | some (.device (.output s)) =>
        some ({ k with moments := .printed s bytes :: k.moments }, none)
      | some (.device _) => some (k, none)
      | _ =>
        if appends then some (k.setFiles (k.files.append place bytes), none)
        else
          let k := k.setOpened id (.file place (offset + bytes.size) appends canRead canWrite)
          some (k.setFiles (k.files.writeAt place offset bytes), none)
  | .pipe pipe isWriter =>
    if !isWriter then some (k, some .badDescriptor)
    else if !k.hasEnd pipe false then some (k, some .brokenPipe)
    else
      let content := k.pipeContent pipe
      if pipeSize ≤ content.size then none else some (k.setPipe pipe (content ++ bytes), none)

def read? (k : Kernel) (id : Nat) (o : Opened) (count : Nat) :
    Option (Kernel × Except Errno ByteArray) :=
  match o with
  | .stream _ => some (k, .error .badDescriptor)
  | .file place offset appends canRead canWrite =>
    if !canRead then some (k, .error .badDescriptor)
    else
      match k.files.entry? place with
      | some .directory => some (k, .error .isDirectory)
      | some (.device .null) => some (k, .ok .empty)
      | some (.device (.output _)) => some (k, .ok .empty)
      | some (.device _) => some (k, .ok ⟨Array.replicate count 0⟩)
      | _ =>
        let content := (k.files.content? place).getD .empty
        let bytes := content.extract offset (offset + count)
        let opened : Opened := .file place (offset + bytes.size) appends canRead canWrite
        some (k.setOpened id opened, .ok bytes)
  | .pipe pipe isWriter =>
    if isWriter then some (k, .error .badDescriptor)
    else
      let content := k.pipeContent pipe
      if !content.isEmpty then
        some (k.setPipe pipe (content.extract count content.size), .ok (content.extract 0 count))
      else if k.hasEnd pipe true then none
      else some (k, .ok .empty)

/-- A write has been done, or not; writing to a pipe that nobody reads is a signal as well. -/
def afterWrite (k : Kernel) (pid : Nat) (fault : Option Errno) (next : Option Errno → Task) :
    Kernel :=
  let k := k.resume pid (next fault) 0
  if fault = some .brokenPipe then k.signal pid 13 else k

/-! ## Opening -/

def descriptorPath? (path : String) : Option Nat :=
  if path = "/dev/stdin" then some 0
  else if path = "/dev/stdout" then some 1
  else if path = "/dev/stderr" then some 2
  else if path.startsWith "/dev/fd/" then (path.drop 8).toNat?
  else if path.startsWith "/proc/self/fd/" then (path.drop 14).toNat?
  else none

/-- Opens a path: something new, or once more what a descriptor leads to. -/
def openPath (k : Kernel) (p : ProcessState) (path : String) (access : FileTree.Access) :
    Except Errno (Kernel × Nat) :=
  let openAt (place : Location) : Kernel × Nat :=
    k.addOpened (.file place 0 (access = .append) (access = .read || access = .readWrite)
      (access ≠ .read))
  let again? := (descriptorPath? path).map fun n => (k.openedOf? p n)
  match again? with
  | some none => .error .noEntry
  | some (some (id, .pipe _ _)) => .ok (k, id)
  | some (some (id, .stream _)) =>
    match k.log with
    | none => .ok (k, id)
    | some place =>
      match access, k.files.entry? place with
      | .write, some (.file isExecutable _) =>
        let (k, id) := openAt place
        .ok (k.setFiles (k.files.set place (.file isExecutable .empty)), id)
      | _, _ => .ok (openAt place)
  | some (some (_, .file place _ _ _ _)) =>
    match access, k.files.entry? place with
    | .write, some (.file isExecutable _) =>
      let (k, id) := openAt place
      .ok (k.setFiles (k.files.set place (.file isExecutable .empty)), id)
    | _, _ => .ok (openAt place)
  | none => do
    let (files, place) ← k.files.openFile p.working path access
    let (k, id) := openAt place
    return (if access = .read then k else k.setFiles files, id)

/-! ## Files -/

def change (t : FileTree) (working : Location) : FileChange → Except Errno FileTree
  | .makeDirectory path => do
    let place ← t.find working path
    if (t.entry? place).isSome then throw .alreadyThere
    return t.set place .directory
  | .remove path => do
    let place ← t.find working path
    match t.entry? place with
    | none => throw .noEntry
    | some .directory => throw .isDirectory
    | some _ => return t.erase place
  | .removeDirectory path => do
    let place ← t.find working path
    match t.entry? place with
    | none => throw .noEntry
    | some .directory =>
      if (t.children place).isEmpty then return t.erase place else throw .notEmpty
    | some _ => throw .notDirectory
  | .rename source target => do
    let source ← t.find working source
    let target ← t.find working target
    if (t.entry? source).isNone then throw .noEntry
    if source = target then return t
    if source.isPrefixOf target then throw .invalid
    match t.isDirectory source, t.entry? target with
    | _, none => return t.move source target
    | true, some .directory =>
      if (t.children target).isEmpty then return t.move source target else throw .notEmpty
    | true, some _ => throw .notDirectory
    | false, some .directory => throw .isDirectory
    | false, some _ => return t.move source target
  | .setExecutable path value => do
    let place ← t.find working path
    match t.entry? place with
    | none => throw .noEntry
    | some (.file _ content) => return t.set place (.file value content)
    | some _ => return t

def info (t : FileTree) (working : Location) (path : String) : Except Errno FileInfo := do
  let place ← t.find working path
  match t.entry? place with
  | none => throw .noEntry
  | some .directory => return ⟨true, false, true, 4096⟩
  | some (.file isExecutable content) => return ⟨false, false, isExecutable, content.size⟩
  | some (.tool _) => return ⟨false, false, true, 65536⟩
  | some (.device _) => return ⟨false, true, false, 0⟩

def pathText (place : Location) : String :=
  "/" ++ "/".intercalate place

/-! ## Turns -/

/-- The children of a process that have ended, with the times from which on they can be waited
for. -/
def endedChildren (k : Kernel) (parent : Nat) : List (Nat × ExitStatus × Nat) :=
  k.processes.filterMap fun p =>
    if p.identity.parent = parent then
      match p.activity with
      | .ended status => some (p.pid, status, p.readyAt)
      | _ => none
    else none

def endedChild? (k : Kernel) (parent : Nat) (pid : Option Nat) :
    Option (Nat × ExitStatus × Nat) :=
  let wanted := (k.endedChildren parent).filter fun (child, _) => pid.all (· = child)
  wanted.foldl (fun best c =>
    match best with
    | none => some c
    | some other => if c.2.2 < other.2.2 then some c else best) none

def hasChild (k : Kernel) (parent : Nat) (pid : Option Nat) : Bool :=
  k.processes.any fun p => p.identity.parent = parent && pid.all (· = p.pid)

def readyAt? (k : Kernel) (p : ProcessState) : Option Nat :=
  let atOnce := max k.now p.readyAt
  if p.isStopped then none
  else match p.activity with
  | .running _ => some atOnce
  | .reading pipe _ _ =>
    if !(k.pipeContent pipe).isEmpty || !k.hasEnd pipe true then some atOnce else none
  | .writing pipe _ _ =>
    if (k.pipeContent pipe).size < pipeSize || !k.hasEnd pipe false then some atOnce else none
  | .waiting pid isInterruptible _ =>
    let ended := (k.endedChild? p.pid pid).map fun (_, _, time) => max atOnce time
    let woken :=
      if isInterruptible && !p.caught.isEmpty then some (max atOnce (p.caughtAt + wakeDelay))
      else none
    if !k.hasChild p.pid pid then some atOnce
    else
      match ended, woken with
      | some a, some b => some (min a b)
      | some a, none => some a
      | none, woken => woken
  | .ended _ => none

def answer (load : Loader) (k : Kernel) (p : ProcessState) (task : Task) : Kernel :=
  let pid := p.pid
  let goOn (k : Kernel) (task : Task) : Kernel := k.resume pid task 0
  match task with
  | .exit status => k.finish pid (.code (status % 256))
  | .spend micros next => k.resume pid (next ()) micros
  | .open_ descriptor path access next =>
    match k.openPath p path access with
    | .error e => goOn k (next (some e))
    | .ok (k, id) =>
      goOn (k.update pid fun p => p.assign descriptor id false) (next none)
  | .close descriptor next => goOn (k.update pid fun p => p.close descriptor) (next ())
  | .duplicate source target closesOnExec next =>
    match p.opened? source with
    | none => goOn k (next false)
    | some id => goOn (k.update pid fun p => p.assign target id closesOnExec) (next true)
  | .vacant least next =>
    let used := p.descriptors.map (·.number)
    let free := (List.range (used.length + 1)).find? fun n => !used.contains (least + n)
    goOn k (next (least + free.getD 0))
  | .pipe reader writer next =>
    let pipe := k.nextId
    let k := { k with nextId := k.nextId + 1 }
    let (k, readerId) := k.addOpened (.pipe pipe false)
    let k := k.update pid fun p => p.assign reader readerId false
    let (k, writerId) := k.addOpened (.pipe pipe true)
    goOn (k.update pid fun p => p.assign writer writerId false) (next ())
  | .write descriptor bytes next =>
    match k.openedOf? p descriptor with
    | none => goOn k (next (some .badDescriptor))
    | some (id, o) =>
      match k.write? id o bytes, o with
      | some (k, fault), _ => k.afterWrite pid fault next
      | none, .pipe pipe _ =>
        k.update pid fun p => { p with activity := .writing pipe bytes next, readyAt := k.now }
      | none, _ => goOn k (next none)
  | .read descriptor count next =>
    match k.openedOf? p descriptor with
    | none => goOn k (next (.error .badDescriptor))
    | some (id, o) =>
      match k.read? id o count, o with
      | some (k, result), _ => goOn k (next result)
      | none, .pipe pipe _ =>
        k.update pid fun p => { p with activity := .reading pipe count next, readyAt := k.now }
      | none, _ => goOn k (next (.ok .empty))
  | .fork child next =>
    let childState : ProcessState :=
      { p with
        identity := ⟨k.nextPid, pid, p.identity.group⟩
        activity := .running child
        readyAt := k.now + childDelay
        caught := []
        held := [] }
    let k := { k with processes := k.processes ++ [childState], nextPid := k.nextPid + 1 }
    k.resume pid (next childState.pid) forkDelay
  | .exec path args environment next =>
    match load k.files k.busy p.working path args environment with
    | .error e => goOn k (next e)
    | .ok task =>
      k.update pid fun p =>
        { p with
          activity := .running task
          readyAt := k.now + execDelay
          descriptors := p.descriptors.filter (!·.closesOnExec)
          dispositions := p.dispositions.filter (·.2 = .ignored)
          caught := [] }
  | .wait target isInterruptible next =>
    k.update pid fun p =>
      { p with activity := .waiting target isInterruptible next, readyAt := k.now }
  | .reap next =>
    let ended := (k.endedChildren pid).filter fun (_, _, time) => time ≤ k.now
    let pids := ended.map (·.1)
    let k := { k with processes := k.processes.filter fun q => !pids.contains q.pid }
    goOn k (next (ended.map fun (pid, status, _) => (pid, status)))
  | .kill target signal next =>
    let (k, found) := k.send p.identity target signal
    match k.process? pid with
    | some q =>
      if q.hasEnded then k else goOn k (next (if found then none else some .noProcess))
    | none => k
  | .dispose signal disposition next =>
    goOn (k.update pid fun p =>
      { p with
        dispositions := (signal, disposition) :: p.dispositions.filter (·.1 ≠ signal) }) (next ())
  | .disposition signal next => goOn k (next (p.disposition signal))
  | .caught next => goOn (k.update pid fun p => { p with caught := [] }) (next p.caught.reverse)
  | .identity next => goOn k (next p.identity)
  | .clock next => goOn k (next k.now)
  | .changeDirectory path next =>
    match k.files.find p.working path with
    | .error e => goOn k (next (some e))
    | .ok place =>
      match k.files.entry? place with
      | some .directory => goOn (k.update pid fun p => { p with working := place }) (next none)
      | some _ => goOn k (next (some .notDirectory))
      | none => goOn k (next (some .noEntry))
  | .workingDirectory next => goOn k (next (pathText p.working))
  | .info path next => goOn k (next (info k.files p.working path))
  | .list path next =>
    goOn k <| next do
      let place ← k.files.find p.working path
      match k.files.entry? place with
      | some .directory => return k.files.children place
      | some _ => throw .notDirectory
      | none => throw .noEntry
  | .change c next =>
    match change k.files p.working c with
    | .error e => goOn k (next (some e))
    | .ok files => goOn (k.setFiles files) (next none)

def turn (load : Loader) (k : Kernel) (p : ProcessState) : Kernel :=
  match p.activity with
  | .running task => k.answer load p task
  | .reading pipe count next =>
    match k.read? 0 (.pipe pipe false) count with
    | some (k, result) => k.resume p.pid (next result) 0
    | none => k
  | .writing pipe bytes next =>
    match k.write? 0 (.pipe pipe true) bytes with
    | some (k, fault) => k.afterWrite p.pid fault next
    | none => k
  | .waiting target isInterruptible next =>
    match (k.endedChild? p.pid target).filter fun (_, _, time) => time ≤ k.now with
    | some (pid, status, _) =>
      let k := { k with processes := k.processes.filter (·.pid ≠ pid) }
      k.resume p.pid (next (.ended pid status)) 0
    | none =>
      if isInterruptible && !p.caught.isEmpty then k.resume p.pid (next .interrupted) 0
      else k.resume p.pid (next .nobody) 0
  | .ended _ => k

def first? (k : Kernel) : Option (Nat × ProcessState) :=
  k.processes.foldl (fun best p =>
    match k.readyAt? p, best with
    | none, best => best
    | some time, none => some (time, p)
    | some time, some (other, q) => if time < other then some (time, p) else some (other, q)) none

/-- What is written to a log file is seen at once if the file is an output of the launcher. -/
def showsLog (k : Kernel) : Bool :=
  match k.log.bind k.files.entry? with
  | some (.device (.output _)) => true
  | _ => false

/-- Nothing more will be seen: the launcher has noticed the end of its child, and nobody holds its
outputs. -/
def isOver (k : Kernel) : Bool :=
  k.noticed.isSome &&
    ((k.log.isSome && !k.showsLog) || !k.processes.any fun p => p.descriptors.any fun d =>
      (k.opened.lookup d.opened).any fun o => o matches .stream _)

def advance (k : Kernel) (time : Nat) : Kernel :=
  let k := { k with now := max k.now time }
  match k.ending, k.noticed with
  | some (_, noticedAt), none =>
    if noticedAt < k.now then { k with noticed := some k.moments, moments := [] } else k
  | _, _ => k

/-- One turn, of a process or of the launcher; `none` if nothing is left that could be seen. -/
def step? (load : Loader) (k : Kernel) : Option Kernel :=
  let first := k.first?
  let next :=
    match first, k.launcherAt with
    | none, none => none
    | none, some wake => some (wake, none)
    | some (time, p), none => some (time, some p)
    | some (time, p), some wake => some (if wake ≤ time then (wake, none) else (time, some p))
  next.bind fun (time, p) =>
    let k := k.advance time
    if k.isOver then none
    else
      match p with
      | none => some k.runLauncher
      | some p => some (k.turn load p)

def run (load : Loader) : (fuel : Nat) → Kernel → Kernel
  | 0, k => k
  | fuel + 1, k =>
    match k.step? load with
    | some k => run load fuel k
    | none => k

def outcome (k : Kernel) (pid : Nat) : PanelLauncher.Process :=
  match k.ending with
  | some (status, _) =>
    { pid := pid
      moments := (k.noticed.getD k.moments).reverse
      outcome := .ok status
      aftermath := if k.noticed.isSome then k.moments.reverse else [] }
  | none =>
    { pid := pid
      moments := k.moments.reverse
      outcome := .ok (.signal 9)
      aftermath := [] }

def start (files : FileTree) (log : Option Location) (working : Location) (child : Identity)
    (task : Task) : Kernel :=
  { files := files
    log := log
    processes :=
      [{ identity := child
         activity := .running task
         readyAt := childDelay
         descriptors := [⟨0, 0, false⟩, ⟨1, 1, false⟩, ⟨2, 2, false⟩]
         dispositions := []
         caught := []
         caughtAt := 0
         isStopped := false
         held := []
         working := working }]
    opened :=
      [(0, .file ["dev", "null"] 0 false true false), (1, .stream .stdout), (2, .stream .stderr)]
    pipes := []
    nextPid := child.pid + 1
    nextId := 3
    now := 0
    relay := .started child.pid
    launcherAt := none
    launcherPid := child.parent
    moments := []
    ending := none
    noticed := none }

end Kernel

end PanelLauncher
