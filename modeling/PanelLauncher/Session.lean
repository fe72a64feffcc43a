import PanelLauncher.CommandLine
import PanelLauncher.Launch
import PanelLauncher.Log.Filter

/-!
# A complete run

From the arguments to the exit status: the command line is read, a launch is made, and what
happens is shown on the two outputs. The log goes to standard output, where the child may write too.
-/

namespace PanelLauncher

structure Session where
  stdout : ByteArray
  stderr : ByteArray
  files : FileTree
  exitStatus : UInt8

namespace Session

def shown (filter : Log.Filter) (pidText : Nat → String) (stream : Stream) :
    Happening → ByteArray
  | .logged event =>
    if stream = .stdout && filter.shows event then (Log.line pidText event).toUTF8 else .empty
  | .output other bytes => if other = stream then bytes else .empty

def output (filter : Log.Filter) (pidText : Nat → String) (stream : Stream)
    (happenings : List Happening) : ByteArray :=
  happenings.foldl (fun bytes h => bytes ++ shown filter pidText stream h) .empty

/-- What happens in a launch with a configuration: the report of its failure is included, and what
the child has left behind comes last. -/
def happenings (o : Outcome Unit) : List Happening :=
  match o.result with
  | .ok () => o.happenings ++ o.aftermath
  | .error e => o.happenings ++ .logged (.failed e) :: o.aftermath

def stopped (files : FileTree) (program : Option String) (stop : CommandLine.Stop) : Session :=
  let text := (stop.message (CommandLine.usageName program)).toUTF8
  { stdout := if stop.isRequested then text else .empty
    stderr := if stop.isRequested then .empty else text
    files := files
    exitStatus := stop.exitStatus }

def launched (filter : Log.Filter) (pidText : Nat → String) (o : Outcome Unit) : Session :=
  { stdout := output filter pidText .stdout (happenings o)
    stderr := output filter pidText .stderr (happenings o)
    files := o.files
    exitStatus := o.exitStatus }

/--
The run of a launcher that was started by the name `program` with these arguments. The setting
says which events are shown, `pidText` how process numbers are.
-/
def run (os : Os) (files : FileTree) (setting : Option String) (pidText : Nat → String)
    (program : Option String) (args : List String) : Session :=
  match CommandLine.parse args with
  | .error stop => stopped files program stop
  | .ok path => launched (.ofSetting setting) pidText (launch os files path)

end Session

end PanelLauncher
