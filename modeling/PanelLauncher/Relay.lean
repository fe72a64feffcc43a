import PanelLauncher.Error

/-!
# Passing signals on to the child

From the installation of its handlers on, the launcher keeps at most one pending notification of
each signal. The child is started when all handlers are there. From then on a pass takes one pending
notification and sends the signal to the child; the launcher is done when it has waited for the
child's exit. Only a child that has not been waited for has a process number.
-/

namespace PanelLauncher

inductive Signal
  | interrupt
  | terminate
  deriving DecidableEq, Repr

namespace Signal

def name : Signal → String
  | interrupt => "SIGINT"
  | terminate => "SIGTERM"

def number : Signal → Nat
  | interrupt => 2
  | terminate => 15

def description : Signal → String
  | interrupt => "SIGINT (Ctrl+C) received"
  | terminate => "SIGTERM received (likely from systemctl)"

end Signal

inductive ExitStatus
  | code (code : Nat)
  | signal (number : Nat)
  deriving DecidableEq, Repr

namespace ExitStatus

def success (s : ExitStatus) : Bool :=
  s = code 0

/-- The names of the signals from one up. -/
def signalNames : Array String :=
  #["SIGHUP", "SIGINT", "SIGQUIT", "SIGILL", "SIGTRAP", "SIGABRT", "SIGBUS", "SIGFPE", "SIGKILL",
    "SIGUSR1", "SIGSEGV", "SIGUSR2", "SIGPIPE", "SIGALRM", "SIGTERM", "SIGSTKFLT", "SIGCHLD",
    "SIGCONT", "SIGSTOP", "SIGTSTP", "SIGTTIN", "SIGTTOU", "SIGURG", "SIGXCPU", "SIGXFSZ",
    "SIGVTALRM", "SIGPROF", "SIGWINCH", "SIGIO", "SIGPWR", "SIGSYS"]

def text : ExitStatus → String
  | code n => s!"exit status: {n}"
  | signal n =>
    match n with
    | 0 => "signal: 0"
    | m + 1 =>
      match signalNames[m]? with
      | some name => s!"signal: {n} ({name})"
      | none => s!"signal: {n}"

end ExitStatus

inductive KillFault
  | notPermitted
  | noSuchProcess
  | invalidSignal
  deriving DecidableEq, Repr

def KillFault.message : KillFault → String
  | notPermitted => "EPERM: Operation not permitted"
  | noSuchProcess => "ESRCH: No such process"
  | invalidSignal => "EINVAL: Invalid argument"

namespace Relay

inductive Forwarding
  | kill (target : Int)
  | outOfRange (pid : Nat)
  | nothing
  deriving DecidableEq, Repr

/-- A signal is sent to the child's own number only, which has to be a positive one of 32 bits. -/
def Forwarding.ofPid : Option Nat → Forwarding
  | none => nothing
  | some pid => if pid < 2147483648 then kill pid else outOfRange pid

inductive Handlers
  | absent
  | terminateOnly
  | both
  deriving DecidableEq, Repr

namespace Handlers

/-- The handler of SIGTERM comes first. -/
def next? : Handlers → Option Handlers
  | absent => some terminateOnly
  | terminateOnly => some both
  | both => none

def catches : Handlers → Signal → Bool
  | absent, _ => false
  | terminateOnly, signal => signal = .terminate
  | both, _ => true

end Handlers

inductive Phase
  | absent
  | running (pid : Nat)
  /-- It has exited, and the launcher has not seen it yet. -/
  | exited (pid : Nat) (status : ExitStatus)
  /-- Waiting for it is over, in vain if there was a fault. -/
  | awaited (status : ExitStatus) (fault : Option IoFault)
  deriving DecidableEq, Repr

def Phase.pid? : Phase → Option Nat
  | running pid => some pid
  | exited pid _ => some pid
  | _ => none

/-- One pass: the notification taken, what was done with it, and how sending failed. -/
structure Pass where
  signal : Signal
  forwarding : Forwarding
  fault : Option KillFault
  deriving DecidableEq, Repr

def Pass.of (phase : Phase) (signal : Signal) (fault : Option KillFault) : Pass :=
  ⟨signal, .ofPid phase.pid?, fault⟩

/-- The relay between two steps; the passes run backwards. -/
structure State where
  handlers : Handlers
  interruptPending : Bool
  terminatePending : Bool
  phase : Phase
  passes : List Pass
  deriving DecidableEq, Repr

def State.init : State := ⟨.absent, false, false, .absent, []⟩

def State.started (pid : Nat) : State := ⟨.both, false, false, .running pid, []⟩

def State.isPending (s : State) : Signal → Bool
  | .interrupt => s.interruptPending
  | .terminate => s.terminatePending

def State.setPending (s : State) (signal : Signal) (value : Bool) : State :=
  match signal with
  | .interrupt => { s with interruptPending := value }
  | .terminate => { s with terminatePending := value }

inductive Action
  | install
  | deliver (signal : Signal)
  | spawn (pid : Nat)
  | exit (status : ExitStatus)
  /-- One pass, with the fault that sending meets if there is a number to send to. -/
  | pass (signal : Signal) (fault : Option KillFault)
  | await (fault : Option IoFault)
  deriving DecidableEq, Repr

/-- The state after an action, which has to be possible. -/
def State.step? (s : State) : Action → Option State
  | .install => s.handlers.next?.map fun handlers => { s with handlers := handlers }
  | .deliver signal => if s.handlers.catches signal then some (s.setPending signal true) else none
  | .spawn pid =>
    match s.handlers, s.phase with
    | .both, .absent => some { s with phase := .running pid }
    | _, _ => none
  | .exit status =>
    match s.phase with
    | .running pid => some { s with phase := .exited pid status }
    | _ => none
  | .pass signal fault =>
    match s.phase with
    | .running _ | .exited _ _ =>
      if s.isPending signal then
        some { s.setPending signal false with passes := .of s.phase signal fault :: s.passes }
      else none
    | _ => none
  | .await fault =>
    match s.phase with
    | .exited _ status => some { s with phase := .awaited status fault }
    | _ => none

def State.run? (s : State) (actions : List Action) : Option State :=
  actions.foldlM State.step? s

end Relay

end PanelLauncher
