import PanelLauncher.Session

/-!
# The launcher as a program

Asks the system for the configuration and the log file, and leaves all decisions to `Session.run`.
Programs are not started from here: that question is answered as by a system without processes.
-/

namespace PanelLauncher.Main

/-- The number of a failure; some operations report it with its sign turned. -/
def errnoOfCode (code : UInt32) : Errno :=
  ⟨code.toInt32.toInt.natAbs⟩

def errno : IO.Error → Errno
  | .noFileOrDirectory _ code _ => errnoOfCode code
  | .permissionDenied _ code _ => errnoOfCode code
  | .inappropriateType _ code _ => errnoOfCode code
  | .invalidArgument _ code _ => errnoOfCode code
  | .resourceExhausted _ code _ => errnoOfCode code
  | .otherError code _ => errnoOfCode code
  | _ => ⟨5⟩

def pathFault? (path : String) : Option IoFault :=
  if path.contains '\x00' then some .nulInFileName
  else if path.isEmpty then some (.os .noEntry)
  else none

def readText (path : String) : IO (Except IoFault String) := do
  if let some fault := pathFault? path then return .error fault
  match ← (IO.FS.readBinFile path).toBaseIO with
  | .error e => return .error (.os (errno e))
  | .ok bytes =>
    match String.fromUTF8? bytes with
    | some text => return .ok text
    | none => return .error .notUtf8

def touch (path : String) : IO (Except IoFault Unit) := do
  if let some fault := pathFault? path then return .error fault
  match ← (IO.FS.Handle.mk path .append).toBaseIO with
  | .error e => return .error (.os (errno e))
  | .ok _ => return .ok ()

def logFile? (text : Except IoFault String) : Option String := do
  let config ← (Config.ofString (← text.toOption)).toOption
  (← config.build.result.toOption).logFile

/-- The answers that are known before the launch. -/
def answers (text : Except IoFault String) (log : Except IoFault Unit) : Os where
  readText _ _ := text
  openLog _ path := log.map fun _ => [path]
  cloneLog _ := .ok ()
  installHandler _ := .ok ()
  spawn _ _ := .error (.os .notImplemented)

end PanelLauncher.Main

open PanelLauncher in
def main (args : List String) : IO UInt32 := do
  let text ← match CommandLine.parse args with
    | .error _ => pure (.error (.os .noEntry))
    | .ok path => Main.readText path
  let log ← match Main.logFile? text with
    | none => pure (.ok ())
    | some path => Main.touch path
  let session :=
    Session.run (Main.answers text log) ⟨[]⟩ (← IO.getEnv "RUST_LOG") toString none args
  (← IO.getStdout).write session.stdout
  (← IO.getStderr).write session.stderr
  return session.exitStatus.toUInt32
