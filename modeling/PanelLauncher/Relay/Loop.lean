import PanelLauncher.Relay

/-!
# The relay in the launcher's own steps

A pass is two steps of the launcher: it takes a notification, and only then asks for the child's
number to send the signal to. In between, further signals come in and the child may exit. Whether a
signal is passed on depends on where the launcher stands, and not on what has become of the child.
-/

namespace PanelLauncher.Relay

inductive Position
  | preparing
  | waiting
  /-- It has taken a notification, and has not asked for the child's number yet. -/
  | holding (signal : Signal)
  /-- Waiting for the child is over, or there never will be one. -/
  | done
  deriving DecidableEq, Repr

structure Loop where
  position : Position
  relay : State
  deriving DecidableEq, Repr

inductive Move
  | install
  | deliver (signal : Signal)
  | spawn (pid : Nat)
  | fail
  | exit (status : ExitStatus)
  | take (signal : Signal)
  /-- It sends the signal on, with the fault that this meets if there is a number to send to. -/
  | forward (fault : Option KillFault)
  | await (fault : Option IoFault)
  deriving DecidableEq, Repr

namespace Loop

def init : Loop := ⟨.preparing, .init⟩

def step? (l : Loop) : Move → Option Loop
  | .install =>
    if l.position = .preparing then
      l.relay.handlers.next?.map fun handlers => { l with relay.handlers := handlers }
    else none
  | .deliver signal =>
    if l.relay.handlers.catches signal then
      some { l with relay := l.relay.setPending signal true }
    else none
  | .spawn pid =>
    if l.position = .preparing ∧ l.relay.handlers = .both then
      some ⟨.waiting, { l.relay with phase := .running pid }⟩
    else none
  | .fail => if l.position = .preparing then some { l with position := .done } else none
  | .exit status =>
    match l.relay.phase with
    | .running pid => some { l with relay.phase := .exited pid status }
    | _ => none
  | .take signal =>
    if l.position = .waiting ∧ l.relay.isPending signal then
      some ⟨.holding signal, l.relay.setPending signal false⟩
    else none
  | .forward fault =>
    match l.position with
    | .holding signal =>
      some ⟨.waiting, { l.relay with
        passes := .of l.relay.phase signal fault :: l.relay.passes }⟩
    | _ => none
  | .await fault =>
    match l.position, l.relay.phase with
    | .waiting, .exited _ status => some ⟨.done, { l.relay with phase := .awaited status fault }⟩
    | _, _ => none

def run? (l : Loop) (moves : List Move) : Option Loop :=
  moves.foldlM step? l

end Loop

end PanelLauncher.Relay
