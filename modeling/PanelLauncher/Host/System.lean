import PanelLauncher.Host.Kernel
import PanelLauncher.Host.Tool
import PanelLauncher.Launch

/-!
# A system to launch on

A system with a tree of files, a search path and the usual tools. A file that may be run names its
interpreter in its first line. The launcher's child is the first of a group of processes.

This is part of the system for test runs and of nothing else. No theorem is about it.
-/

namespace PanelLauncher

structure Host where
  working : Location
  launcherPid : Nat
  environment : List (String × String)

namespace Host

def directories : List Location :=
  [["bin"], ["boot"], ["dev"], ["dev", "fd"], ["dev", "pts"], ["dev", "shm"], ["etc"], ["home"],
    ["lib"], ["lib64"], ["media"], ["mnt"], ["opt"], ["proc"], ["proc", "self"],
    ["proc", "self", "fd"], ["root"], ["run"], ["sbin"], ["srv"], ["sys"], ["tmp"], ["usr"],
    ["usr", "bin"], ["usr", "include"], ["usr", "lib"], ["usr", "local"], ["usr", "local", "bin"],
    ["usr", "local", "lib"], ["usr", "local", "sbin"], ["usr", "sbin"], ["usr", "share"],
    ["usr", "src"], ["var"], ["var", "cache"], ["var", "lib"], ["var", "log"], ["var", "tmp"]]

def searchPath : List Location :=
  [["usr", "local", "sbin"], ["usr", "local", "bin"], ["usr", "sbin"], ["usr", "bin"], ["sbin"],
    ["bin"]]

def devices : List (Location × Device) :=
  let streams : List (String × String × Device) :=
    [("stdin", "0", .null), ("stdout", "1", .output .stdout), ("stderr", "2", .output .stderr)]
  [(["dev", "null"], .null), (["dev", "zero"], .zero), (["dev", "full"], .full),
    (["dev", "random"], .zero), (["dev", "urandom"], .zero), (["dev", "tty"], .terminal)] ++
    streams.flatMap fun (name, number, device) =>
      [(["dev", name], device), (["dev", "fd", number], device),
        (["proc", "self", "fd", number], device)]

def tree (h : Host) : FileTree :=
  let tools := [["bin"], ["usr", "bin"]].flatMap fun (place : Location) =>
    Tool.names.map fun name => (place ++ [name], Entry.tool name)
  let placed := devices.map fun (place, device) => (place, Entry.device device)
  ⟨(h.working, .directory) :: placed ++ directories.map (·, .directory) ++ tools⟩

def place (h : Host) (path : String) : Location :=
  (FileTree.names path).foldl (fun place name =>
    if name = "." then place else if name = ".." then place.dropLast else place ++ [name])
    (if path.startsWith "/" then [] else h.working)

def makeDirectories (t : FileTree) (place : Location) : FileTree :=
  (List.range place.length).foldl (fun t n =>
    let above := place.take (n + 1)
    if (t.entry? above).isSome then t else t.set above .directory) t

def makeDirectory (h : Host) (t : FileTree) (path : String) : FileTree :=
  makeDirectories t (h.place path)

def writeFile (h : Host) (t : FileTree) (path : String) (isExecutable : Bool)
    (content : ByteArray) : FileTree :=
  let place := h.place path
  (makeDirectories t place.dropLast).set place (.file isExecutable content)

/-! ## Programs -/

def headSize : Nat := 256

/-- The interpreter that a file names in its first line, and the argument behind it. -/
def interpreter? (content : ByteArray) : Option (String × List String) :=
  match (Text.ofBytes (content.extract 0 headSize)).toList with
  | '#' :: '!' :: cs =>
    let isBlank := fun (c : Char) => c = ' ' || c = '\t'
    let line := (cs.takeWhile (· ≠ '\n')).dropWhile isBlank
    let path := line.takeWhile (!isBlank ·)
    let option := (line.drop path.length).dropWhile isBlank
    let option := (option.reverse.dropWhile isBlank).reverse
    let isCut := headSize ≤ content.size && !cs.contains '\n' && path.length = line.length
    if path.isEmpty || isCut then none
    else some (String.ofList path, if option.isEmpty then [] else [String.ofList option])
  | _ => none

def runnable (t : FileTree) (busy : List Location) (working : Location) (path : String) :
    Except Errno Entry := do
  let place ← t.find working path
  let entry ← match t.entry? place with
    | none => throw .noEntry
    | some (.tool name) => pure (.tool name)
    | some (.file true content) => pure (.file true content)
    | some _ => throw .accessDenied
  if busy.contains place then throw .textBusy else return entry

def argumentLimit : Nat := 131071

def argumentsLimit : Nat := 2097152

def fit (args : List String) (environment : List (String × String)) : Bool :=
  let texts := args ++ environment.map fun (name, value) => s!"{name}={value}"
  let sizes := texts.map Text.byteCount
  sizes.all (· ≤ argumentLimit) && sizes.foldl (fun n size => n + size + 9) 0 ≤ argumentsLimit

/-- The program at a path; interpreters of interpreters are followed `depth` times. -/
def loadWithin : (depth : Nat) → Loader
  | depth, t, busy, working, path, args, environment => do
    let entry ← runnable t busy working path
    if !fit args environment then throw .argumentsTooLong
    match entry with
    | .tool name => return Tool.task name args environment
    | .file _ content =>
      match interpreter? content, depth with
      | none, _ => throw .noExec
      | some _, 0 => throw .tooManyLinks
      | some (interpreter, option), depth + 1 =>
        loadWithin depth t busy working interpreter (interpreter :: option ++ path :: args.tail)
          environment
    | _ => throw .accessDenied

def load : Loader := loadWithin 5

def loadFrom (t : FileTree) (busy : List Location) (working : Location) (name : String)
    (args : List String) (environment : List (String × String)) (fault : Errno) :
    List Location → Except Errno Task
  | [] => .error fault
  | place :: places =>
    match load t busy working (Kernel.pathText (place ++ [name])) args environment with
    | .ok task => .ok task
    | .error e =>
      if e = .noEntry || e = .notDirectory then
        loadFrom t busy working name args environment fault places
      else if e = .accessDenied then loadFrom t busy working name args environment e places
      else .error e

/-- The task that a child is started with; its log file, if there is one, is open. -/
def firstTask (h : Host) (t : FileTree) (i : Invocation) : Except IoFault Task :=
  if i.words.any (·.contains '\x00') then .error .nulInArgument
  else
    let busy := i.stdout.toList
    let found :=
      if i.program.isEmpty then .error .noEntry
      else if i.program.contains '/' then
        load t busy h.working i.program i.words h.environment
      else
        loadFrom t busy h.working i.program i.words h.environment .noEntry searchPath
    found.mapError .os

def turnLimit : Nat := 2000000

def spawn (h : Host) (t : FileTree) (i : Invocation) : Except IoFault Process := do
  let task ← h.firstTask t i
  let childPid := h.launcherPid + 1
  let group := if i.leadsGroup then childPid else h.launcherPid
  let k := Kernel.start t i.stdout h.working ⟨childPid, h.launcherPid, group⟩ task
  return (k.run load turnLimit).outcome childPid

def os (h : Host) : Os where
  readText t path := t.readText h.working path
  openLog t path := t.openAppend h.working path
  cloneLog _ := .ok ()
  installHandler _ := .ok ()
  spawn := h.spawn

end Host

end PanelLauncher
