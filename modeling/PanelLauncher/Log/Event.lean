import PanelLauncher.Command.Build
import PanelLauncher.Command.Render
import PanelLauncher.Relay

/-!
# What the launcher logs

Every event has a level, the part of the program that it comes from, and a message.
-/

namespace PanelLauncher.Log

inductive Level
  | trace
  | debug
  | info
  | warn
  | error
  deriving DecidableEq, Repr

namespace Level

def name : Level → String
  | trace => "TRACE"
  | debug => "DEBUG"
  | info => "INFO"
  | warn => "WARN"
  | error => "ERROR"

def verbosity : Level → Nat
  | error => 1
  | warn => 2
  | info => 3
  | debug => 4
  | trace => 5

end Level

inductive Target
  | main
  | command
  | invoke
  | signals
  deriving DecidableEq, Repr

def Target.name : Target → String
  | main => "paraevo_launcher"
  | command => "paraevo_launcher::command"
  | invoke => "paraevo_launcher::invoke"
  | signals => "paraevo_launcher::signals"

inductive Event
  | loading (path : String)
  | advisory (advisory : Advisory)
  | finalCommand (command : LaunchCommand)
  | redirecting (path : String)
  | started (pid : Nat)
  | received (signal : Signal)
  | pidOutOfRange (pid : Nat)
  | forwardFailed (signal : Signal) (pid : Nat) (fault : KillFault)
  | childGone
  | exited (status : ExitStatus)
  | failed (error : LaunchError)
  deriving DecidableEq, Repr

namespace Event

def level : Event → Level
  | loading _ => .info
  | advisory (.absentOption .server) => .warn
  | advisory (.absentOption _) => .debug
  | advisory .noAreas => .warn
  | advisory .emptyUserCode => .debug
  | finalCommand _ => .info
  | redirecting _ => .debug
  | started _ => .debug
  | received _ => .info
  | pidOutOfRange _ => .warn
  | forwardFailed _ _ _ => .warn
  | childGone => .debug
  | exited status => if status.success then .info else .warn
  | failed _ => .error

def target : Event → Target
  | loading _ => .main
  | advisory _ => .command
  | finalCommand _ => .invoke
  | redirecting _ => .invoke
  | started _ => .invoke
  | received _ => .signals
  | pidOutOfRange _ => .signals
  | forwardFailed _ _ _ => .signals
  | childGone => .signals
  | exited _ => .main
  | failed _ => .main

def advisoryMessage : Advisory → String
  | .absentOption .server => "No MQTT server in config!"
  | .absentOption o => s!"No MQTT {o.name} in config, using paraevo default"
  | .noAreas => "Area list is empty, paraevo will not report any area"
  | .emptyUserCode => "User code is empty, disarming will not be available"

/-- The message; process numbers are written by `pidText`. -/
def messageWith (pidText : Nat → String) : Event → String
  | loading path => s!"Loading configuration from {path}"
  | advisory a => advisoryMessage a
  | finalCommand command => s!"Final command: {command.render}"
  | redirecting path => s!"Redirecting paraevo output to {path}"
  | started pid => s!"paraevo started with pid Some({pidText pid})"
  | received signal => s!"{signal.description}, forwarding to paraevo"
  | pidOutOfRange pid => s!"Child pid {pidText pid} out of range, cannot forward signal"
  | forwardFailed signal pid fault =>
    s!"Failed to forward {signal.name} to pid {pidText pid}: {fault.message}"
  | childGone => "Child already reaped, nothing to forward"
  | exited status =>
    if status.success then "paraevo exited successfully" else s!"paraevo exited with {status.text}"
  | failed error => error.message

def message : Event → String :=
  messageWith toString

end Event

/-- What one pass of the signal relay logs. -/
def passEvents (pass : Relay.Pass) : List Event :=
  .received pass.signal ::
    match pass.forwarding, pass.fault with
    | .kill target, some fault => [.forwardFailed pass.signal target.toNat fault]
    | .kill _, none => []
    | .outOfRange pid, _ => [.pidOutOfRange pid]
    | .nothing, _ => [.childGone]

end PanelLauncher.Log
