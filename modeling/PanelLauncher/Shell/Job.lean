import PanelLauncher.Shell.Machine
import PanelLauncher.Shell.SignalName

/-!
# Children of a shell

A shell waits for the commands in the foreground one after the other, and takes notice of those in
the background whenever it has waited. How a job ended is kept until its number is needed.

This is part of the system for test runs and of nothing else. No theorem is about it.
-/

namespace PanelLauncher.Shell

namespace Job

def isDone (j : Job) : Bool :=
  j.processes.all (·.2.isSome)

def ending? (j : Job) : Option ExitStatus :=
  j.processes.getLast?.bind (·.2)

def pid? (j : Job) : Option Nat :=
  j.processes.getLast?.map (·.1)

def running (j : Job) : List Nat :=
  (j.processes.filter (·.2.isNone)).map (·.1)

def stateText (j : Job) : String :=
  match if j.isDone then j.ending? else none with
  | none => "Running"
  | some (.code 0) => "Done"
  | some (.code n) => s!"Done({n})"
  | some (.signal n) => SignalName.description n

def line (j : Job) (sign : String) (showsPids : Bool) : String :=
  let pids := j.processes.map fun (pid, _) => if showsPids then s!"{pid} " else ""
  let padded (start : String) (width : Nat) : String :=
    start ++ "".pushn ' ' (if width < 33 then 33 - width else 1)
  let first := pids.headD ""
  let start := s!"[{j.slot + 1}] {sign} {first}{j.stateText}"
  let others := pids.tail.map fun pid =>
    if showsPids then
      let start := "      " ++ pid
      " |\n" ++ padded start start.length
    else " | "
  padded start start.length ++ String.join others ++ "\n"

end Job

namespace Action

def statusOf : ExitStatus → Nat
  | .code n => n
  | .signal n => 128 + n

def note (ended : List (Nat × ExitStatus)) : Action Unit :=
  modify fun s =>
    { s with
      jobs := s.jobs.map fun j =>
        { j with
          processes := j.processes.map fun (pid, ending) => (pid, (ended.lookup pid).or ending) } }

def reap : Action Unit := do
  if (← get).jobs.any (!·.isDone) then note (← ask .reap)

/-- The number of a new job: the first that is free, or whose job is done and was waited for. -/
def takeSlot : Action Nat := do
  let jobs := (← get).jobs
  let isFree (slot : Nat) : Bool :=
    jobs.all fun j => j.slot ≠ slot || (j.isDone && j.isWaitedFor)
  let slot := ((List.range jobs.length).find? isFree).getD jobs.length
  modify fun s => { s with jobs := s.jobs.filter (·.slot ≠ slot) }
  return slot

def reportEnd (status : ExitStatus) : Action Unit :=
  match status with
  | .signal n =>
    if n = 2 || n = 13 then return ()
    else do
      let _ ← writeTo 2 (SignalName.description n ++ "\n")
  | .code _ => return ()

/-- Waits for processes one after the other, and keeps how they end; whether a signal came first. -/
def waitThrough (isInterruptible reports : Bool) : List Nat → Action Bool
  | [] => return false
  | pid :: pids => do
    match ← ask (.wait (some pid) isInterruptible) with
    | .interrupted => return true
    | .nobody => waitThrough isInterruptible reports pids
    | .ended pid status =>
      if reports then reportEnd status
      note [(pid, status)]
      waitThrough isInterruptible reports pids

def await : List Nat → Action Nat
  | [] => return 0
  | [pid] => do
    match ← ask (.wait (some pid) false) with
    | .ended _ status =>
      reportEnd status
      reap
      return statusOf status
    | _ => return 0
  | pid :: pids => do
    let _ ← waitThrough false true [pid]
    await pids

/-- Starts a child that the shell is going to wait for. -/
def forkForeground (child : Action Unit) : Action Nat := do
  let _ ← takeSlot
  fork child

def addJob (slot : Nat) (pids : List Nat) : Action Unit :=
  modify fun s =>
    { s with
      lastBackground := pids.getLast?
      jobs := ⟨slot, pids.map (·, none), false⟩ :: s.jobs }

def markWaitedFor (isMeant : Job → Bool) : Action Unit :=
  modify fun s =>
    { s with jobs := s.jobs.map fun j => if isMeant j then { j with isWaitedFor := true } else j }

def findJob (name : String) : Action Job := do
  let jobs := (← get).jobs
  let orElse (j : Option Job) (complaint : String) : Action Job :=
    match j with
    | some j => return j
    | none => fail complaint
  let key := (name.drop 1).toString
  if key.isEmpty || key = "+" || key = "%" then orElse jobs.head? "No current job"
  else if key = "-" then orElse (jobs[1]?) "No previous job"
  else
    let slot := key.toNat?.map (· - 1)
    orElse (jobs.find? fun j => some j.slot = slot) s!"No such job: {name}"

end Action

end PanelLauncher.Shell
