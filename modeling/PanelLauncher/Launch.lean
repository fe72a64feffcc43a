import PanelLauncher.Config.Decode
import PanelLauncher.Host.FileTree
import PanelLauncher.Log.Event
import PanelLauncher.Process

/-!
# A launch

Reading, deriving, preparing, starting, waiting: each stage needs the one before, and the first
that fails ends the launch. What the system answers is a parameter, so that a launch is a function
of the files and of these answers; what it was asked is part of the outcome. The launcher itself
only ever creates an empty log file; all that is added to one comes from the child.
-/

namespace PanelLauncher

structure Os where
  readText : FileTree → (path : String) → Except IoFault String
  openLog : FileTree → (path : String) → Except IoFault Location
  /-- A second handle of the log file, for the other output. -/
  cloneLog : Location → Except IoFault Unit
  installHandler : Signal → Except IoFault Unit
  spawn : FileTree → Invocation → Except IoFault Process

inductive Happening
  | logged (event : Log.Event)
  | output (stream : Stream) (bytes : ByteArray)

inductive Request
  | readText (path : String)
  | openLog (path : String)
  | cloneLog (path : String)
  | installHandler (signal : Signal)
  | spawn (invocation : Invocation)
  | await (pid : Nat)
  deriving DecidableEq, Repr

def Request.error (fault : IoFault) : Request → LaunchError
  | readText path => .configRead path fault
  | openLog path => .logFile path fault
  | cloneLog path => .logFile path fault
  | installHandler _ => .signal fault
  | spawn invocation => .spawn invocation.program fault
  | await _ => .wait fault

structure Call where
  request : Request
  fault : Option IoFault
  deriving DecidableEq, Repr

/-- A launch, or a part of one: what was seen and asked, the files after it, and how it ended. -/
structure Outcome (α : Type) where
  happenings : List Happening
  calls : List Call
  files : FileTree
  result : Except LaunchError α
  /-- What is seen when the launch is over, from those that the child has left behind. -/
  aftermath : List Happening

def Stage (α : Type) : Type :=
  FileTree → Outcome α

/-- What has been done and, unless it failed, what is done next with its result. -/
def Outcome.andThen {α β : Type} (o : Outcome α) (next : α → Stage β) : Outcome β :=
  match o.result with
  | .error e => ⟨o.happenings, o.calls, o.files, .error e, o.aftermath⟩
  | .ok a =>
    let rest := next a o.files
    { happenings := o.happenings ++ rest.happenings
      calls := o.calls ++ rest.calls
      files := rest.files
      result := rest.result
      aftermath := o.aftermath ++ rest.aftermath }

namespace Stage

def done {α : Type} (result : Except LaunchError α) : Stage α := fun files =>
  ⟨[], [], files, result, []⟩

instance : Monad Stage where
  pure a := done (.ok a)
  bind first next := fun files => (first files).andThen next

def files : Stage FileTree := fun files => ⟨[], [], files, .ok files, []⟩

def log (events : List Log.Event) : Stage Unit := fun files =>
  ⟨events.map .logged, [], files, .ok (), []⟩

def ask {α : Type} (request : Request) (answer : Except IoFault α) : Stage α := fun files =>
  let fault := match answer with
    | .error fault => some fault
    | .ok _ => none
  ⟨[], [⟨request, fault⟩], files, answer.mapError request.error, []⟩

def touch (place : Location) : Stage Unit := fun files =>
  ⟨[], [], files.touch place, .ok (), []⟩

end Stage

namespace Launch

def readConfig (os : Os) (path : String) : Stage LaunchConfig := do
  let text ← Stage.ask (.readText path) (os.readText (← Stage.files) path)
  Stage.done ((Config.ofString text).mapError (.configParse path))

def load (os : Os) (files : FileTree) (path : String) : Except LaunchError LaunchConfig :=
  (readConfig os path files).result

/-- The command of a configuration; remarks on it are logged even if it has a gap. -/
def derive (config : LaunchConfig) : Stage LaunchCommand := do
  Stage.log (config.build.advisories.map .advisory)
  Stage.done (config.build.result.mapError .missingField)

def prepare (os : Os) (command : LaunchCommand) : Stage Invocation := do
  match command.logFile with
  | none => return ⟨command.program, command.args, none, none, true⟩
  | some path =>
    let place ← Stage.ask (.openLog path) (os.openLog (← Stage.files) path)
    Stage.touch place
    Stage.ask (.cloneLog path) (os.cloneLog place)
    Stage.log [.redirecting path]
    return ⟨command.program, command.args, some place, some place, true⟩

def installHandlers (os : Os) : Stage Unit := do
  Stage.ask (.installHandler .terminate) (os.installHandler .terminate)
  Stage.ask (.installHandler .interrupt) (os.installHandler .interrupt)

def spawn (os : Os) (invocation : Invocation) : Stage Process := do
  let process ← Stage.ask (.spawn invocation) (os.spawn (← Stage.files) invocation)
  Stage.log [.started process.pid]
  return process

def seen (invocation : Invocation) (pid : Nat) : Moment → List Happening
  | .wrote stream bytes =>
    if (invocation.sink stream).isNone then [.output stream bytes] else []
  | .printed stream bytes => [.output stream bytes]
  | .passed signal fault =>
    (Log.passEvents (.of (.running pid) signal fault)).map .logged
  | .changed _ => []

/-- What a moment does to the files: output goes to the end of the log file, and what the child
does to files on its own account is done. -/
def write (invocation : Invocation) (files : FileTree) : Moment → FileTree
  | .wrote stream bytes =>
    match invocation.sink stream with
    | some place => files.append place bytes
    | none => files
  | .printed _ _ => files
  | .passed _ _ => files
  | .changed files => files

def await (invocation : Invocation) (process : Process) : Stage ExitStatus := fun files =>
  let waited := Stage.ask (.await process.pid) process.outcome
    (process.moments.foldl (write invocation) files)
  { waited with
    happenings := process.moments.flatMap (seen invocation process.pid)
    aftermath := process.aftermath.flatMap (seen invocation process.pid) }

/-- Runs a command. The handlers are there before the child is. -/
def execute (os : Os) (command : LaunchCommand) : Stage ExitStatus := do
  Stage.log [.finalCommand command]
  let invocation ← prepare os command
  installHandlers os
  let process ← spawn os invocation
  await invocation process

/-- A launch as a stage. How the child ends decides on a log line only. -/
def whole (os : Os) (path : String) : Stage Unit := do
  Stage.log [.loading path]
  let config ← readConfig os path
  let command ← derive config
  let status ← execute os command
  Stage.log [.exited status]

end Launch

def launch (os : Os) (files : FileTree) (path : String) : Outcome Unit :=
  Launch.whole os path files

def Outcome.exitStatus (o : Outcome Unit) : UInt8 :=
  match o.result with
  | .ok () => 0
  | .error e => e.exitStatus

/-- Launches one after the other, each on the files that the one before left. -/
def launches (os : Os) : FileTree → List String → List (Outcome Unit)
  | _, [] => []
  | files, path :: paths =>
    let first := launch os files path
    first :: launches os first.files paths

end PanelLauncher
