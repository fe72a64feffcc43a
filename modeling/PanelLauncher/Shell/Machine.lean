import PanelLauncher.Host.Task
import PanelLauncher.Shell.Syntax
import PanelLauncher.Text.Bytes

/-!
# A shell at work

What a shell knows between two commands, and how its actions become a task: an action goes on from
a state to another one, and may stop on the way with a halt.

This is part of the system for test runs and of nothing else. No theorem is about it.
-/

namespace PanelLauncher.Shell

structure Variable where
  value : Option String
  isExported : Bool
  isReadOnly : Bool
  deriving DecidableEq, Repr

structure Job where
  /-- Jobs are numbered from zero; the number of one that is done can be given once more. -/
  slot : Nat
  processes : List (Nat × Option ExitStatus)
  isWaitedFor : Bool
  deriving DecidableEq, Repr

structure State where
  name : String
  args : List String
  bindings : List (String × Variable)
  /-- What the variables were that are local to the functions under way. -/
  locals : List (List (String × Option Variable))
  functions : List (String × Script)
  status : Nat
  savedStatus : Option Nat
  pid : Nat
  lastBackground : Option Nat
  jobs : List Job
  aliases : List (String × String)
  /-- Signals that have ended a wait and whose traps have not run. -/
  interrupted : List Nat
  mask : Nat
  options : List Char
  /-- Signals and what to run when they come; zero is the end of the shell. -/
  traps : List (Nat × String)
  documents : List (Nat × Word)
  nextDocument : Nat
  line : Nat
  sourceLine : Nat
  commandName : Option String
  loops : Nat
  functionDepth : Nat
  /-- The status of the latest commands that stand for what they write. -/
  substitutionStatus : Option Nat
  optionOffset : Nat

inductive Halt
  | exit
  | failed
  | ended
  /-- So many loops end; the last of them may go on with its next round. -/
  | leave (loops : Nat) (goesOn : Bool)
  | returned
  deriving DecidableEq, Repr

/-- Goes on from a state, by way of questions to the system. -/
def Action (α : Type) : Type :=
  State → (Except Halt α → State → Task) → Task

namespace Action

instance : Monad Action where
  pure a := fun s k => k (.ok a) s
  bind m f := fun s k => m s fun r s =>
    match r with
    | .ok a => f a s k
    | .error h => k (.error h) s

instance : MonadStateOf State Action where
  get := fun s k => k (.ok s) s
  set s := fun _ k => k (.ok ()) s
  modifyGet f := fun s k =>
    let (a, s) := f s
    k (.ok a) s

instance : MonadExceptOf Halt Action where
  throw h := fun s k => k (.error h) s
  tryCatch m handle := fun s k => m s fun r s =>
    match r with
    | .ok a => k (.ok a) s
    | .error h => handle h s k

instance {α : Type} : Inhabited (Action α) := ⟨throw .exit⟩

def ask {α : Type} (question : (α → Task) → Task) : Action α :=
  fun s k => question fun a => k (.ok a) s

def tell (question : (Unit → Task) → Task) : Action Unit := ask question

def andFinally {α : Type} (m : Action α) (last : Action Unit) : Action α := do
  let result ← tryCatch (Except.ok <$> m) fun h => return .error h
  last
  match result with
  | .ok a => return a
  | .error h => throw h

/-- Lets a part of the state be different during an action. -/
def during {α β : Type} (get : State → β) (set : β → State → State) (value : β) (m : Action α) :
    Action α := do
  let before := get (← MonadState.get)
  modify (set value)
  andFinally m (modify (set before))

/-! ## Status -/

def setStatus (status : Nat) : Action Unit :=
  modify fun s => { s with status := status }

def succeeded : Action Bool := do
  return (← get).status = 0

def hasOption (c : Char) : Action Bool := do
  return (← get).options.contains c

/-! ## Output -/

def writeTo (descriptor : Nat) (text : String) : Action (Option Errno) :=
  if text.isEmpty then return none
  else ask (.write descriptor (Text.toBytes text))

def complain (message : String) : Action Unit := do
  let s ← get
  let command := match s.commandName with
    | none => ""
    | some name => name ++ ": "
  let _ ← writeTo 2 s!"{s.name}: {s.line}: {command}{message}\n"

def fail {α : Type} (message : String) : Action α := do
  complain message
  setStatus 2
  throw .failed

/-! ## Variables -/

def lookUp? (name : String) : Action (Option Variable) := do
  return (← get).bindings.lookup name

def value? (name : String) : Action (Option String) := do
  return (← lookUp? name).bind (·.value)

def putVariable (name : String) (v : Option Variable) : Action Unit :=
  modify fun s =>
    let others := s.bindings.filter (·.1 ≠ name)
    { s with
      bindings := match v with
        | none => others
        | some v => (name, v) :: others }

def assign (name value : String) : Action Unit := do
  let v := ((← get).bindings.lookup name).getD ⟨none, false, false⟩
  if v.isReadOnly then fail s!"{name}: is read only"
  let exports := v.isExported || (← hasOption 'a')
  putVariable name (some { v with value := some value, isExported := exports })
  if name = "OPTIND" then modify fun s => { s with optionOffset := 0 }

def setExported (name : String) : Action Unit := do
  let v := ((← get).bindings.lookup name).getD ⟨none, false, false⟩
  putVariable name (some { v with isExported := true })

def setReadOnly (name : String) : Action Unit := do
  let v := ((← get).bindings.lookup name).getD ⟨none, false, false⟩
  putVariable name (some { v with isReadOnly := true })

def unset (name : String) : Action Unit := do
  match (← get).bindings.lookup name with
  | none => return ()
  | some v =>
    if v.isReadOnly then fail s!"{name}: is read only"
    putVariable name none

def makeLocal (name : String) : Action Unit :=
  modify fun s =>
    match s.locals with
    | [] => s
    | frame :: frames =>
      if (frame.lookup name).isSome then s
      else { s with locals := ((name, s.bindings.lookup name) :: frame) :: frames }

def withLocals {α : Type} (m : Action α) : Action α := do
  modify fun s => { s with locals := [] :: s.locals }
  andFinally m do
    match (← get).locals with
    | [] => return ()
    | frame :: frames =>
      modify fun s => { s with locals := frames }
      frame.forM fun (name, v) => putVariable name v

def environment : Action (List (String × String)) := do
  return (← get).bindings.filterMap fun (name, v) =>
    if v.isExported then v.value.map (name, ·) else none

def homeDirectory : Action (Option String) := value? "HOME"

def separators : Action String := do
  return (← value? "IFS").getD " \t\n"

/-! ## Processes -/

def toTask (m : Action Unit) (s : State) : Task :=
  m s fun _ s => .exit s.status

def fork (child : Action Unit) : Action Nat :=
  fun s k => .fork (child.toTask s) fun pid => k (.ok pid) s

/-- The descriptors from which on a shell keeps its own. -/
def firstOwnDescriptor : Nat := 10

end Action

end PanelLauncher.Shell
