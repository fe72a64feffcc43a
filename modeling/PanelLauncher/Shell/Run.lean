import PanelLauncher.Shell.Builtin
import PanelLauncher.Shell.Parser
import PanelLauncher.Shell.Redirect

/-!
# Running scripts

A script runs command by command; each leaves a status. Signals that have traps are looked at when
a command has been done. All functions here call each other at most `fuel` deep.

This is part of the system for test runs and of nothing else. No theorem is about it.
-/

namespace PanelLauncher.Shell

namespace Run

/-! ## Programs -/

def commandTime : Nat := 20

def searchPath : Action (List String) := do
  return ((← Action.value? "PATH").getD "").splitOn ":"

def candidates (name : String) : Action (List String) := do
  if name.contains '/' then return [name]
  else
    return (← searchPath).map fun directory =>
      if directory.isEmpty then name else directory ++ "/" ++ name

def firstFile (fault : Errno) : List String → Action (Except Errno String)
  | [] => return .error fault
  | path :: paths => do
    match ← Action.ask (.info path) with
    | .ok info =>
      if info.isDirectory then firstFile .accessDenied paths else return .ok path
    | .error e => firstFile (if e = .noEntry || e = .notDirectory then fault else e) paths

def findProgram (name : String) : Action (Except Errno String) := do
  if name.isEmpty then return .error .noEntry
  firstFile .noEntry (← candidates name)

def faultText (e : Errno) : String :=
  if e = .noEntry || e = .notDirectory then "not found" else e.text

/-- Tries to go on as one of the programs at some paths; else why that failed. -/
def tryPrograms (fault : Errno) (args : List String) (environment : List (String × String)) :
    List String → Action Errno
  | [] => return fault
  | path :: paths => do
    let e ← Action.ask (.exec path args environment)
    let e ←
      if e = .noExec then Action.ask (.exec "/bin/sh" ("/bin/sh" :: path :: args.tail) environment)
      else pure e
    tryPrograms (if e = .noEntry || e = .notDirectory then fault else e) args environment paths

def become (args : List String) : Action Unit := do
  let name := args.headD ""
  let e ← tryPrograms .noEntry args (← Action.environment) (← candidates name)
  Action.complain s!"{name}: {faultText e}"
  let isMissing := [Errno.noEntry, .notDirectory, .nameTooLong, .tooManyLinks].contains e
  Action.setStatus (if isMissing then 127 else 126)
  throw .ended

def hasTraps : Action Bool := do
  return (← get).traps.any fun (_, text) => !text.isEmpty

/-- Makes a fresh child of a shell what children are: without traps, jobs and loops. -/
def beginChild (isBackground isFirst : Bool) : Action Unit := do
  let active := (← get).traps.filter fun (_, text) => !text.isEmpty
  active.forM fun (signal, _) => Builtin.arrange signal none
  modify fun s =>
    { s with jobs := [], loops := 0, savedStatus := none, interrupted := [] }
  if isBackground then
    Action.tell (.dispose 2 .ignored)
    Action.tell (.dispose 3 .ignored)
    if isFirst then
      Action.tell (.close 0)
      let _ ← Action.ask (.open_ 0 "/dev/null" .read)

/-- Runs a program; in the place of the shell, if there is nothing left for that to do. -/
def program (isLast : Bool) (args : List String) : Action Nat := do
  let name := args.headD ""
  let found ← if name.contains '/' then pure (.ok name) else findProgram name
  match found with
  | .error e =>
    Action.complain s!"{name}: {faultText e}"
    return 127
  | .ok _ =>
    if isLast && !(← hasTraps) then
      become args
      return 0
    else
      let pid ← Action.forkForeground (become args)
      Action.await [pid]

/-! ## Words -/

/-- The fields of words; those behind some builtins that assign stay whole. -/
def fields (run : Runner) (words : List Word) : Action (List String) := do
  go [] words
where
  go (found : List String) : List Word → Action (List String)
    | [] => return found
    | w :: ws => do
      let command := (found.filter (· ≠ "command")).headD ""
      let isValue := !found.isEmpty && Builtin.takesAssignments command
      match if isValue then Word.assignment? w else none with
      | some (name, value) =>
        let text ← Word.assigned run value
        go (found ++ [name ++ "=" ++ text]) ws
      | none =>
        let more ← Word.fields run w
        go (found ++ more) ws

/-! ## Descriptions of commands -/

def describe (isLong : Bool) (name : String) : Action Nat := do
  let s ← get
  let say (long short : String) : Action Nat :=
    Builtin.print ((if isLong then long else short) ++ "\n")
  if (Keyword.ofText? name).isSome then say s!"{name} is a shell keyword" name
  else
    match s.aliases.lookup name with
    | some text => say s!"{name} is an alias for {text}" s!"alias {name}={Builtin.quoted text}"
    | none =>
      if (s.functions.lookup name).isSome then say s!"{name} is a shell function" name
      else if Builtin.isBuiltin name then
        let kind := if Builtin.isSpecial name then "special shell builtin" else "shell builtin"
        say s!"{name} is a {kind}" name
      else
        let found ← findProgram name
        match found with
        | .ok path =>
          let info ← Action.ask (.info path)
          if (info.toOption.map (·.isExecutable)).getD false then say s!"{name} is {path}" path
          else
            let _ ← if isLong then Builtin.print s!"{name}: not found\n" else pure 0
            return 127
        | .error _ =>
          let _ ← if isLong then Builtin.print s!"{name}: not found\n" else pure 0
          return 127

def hash (args : List String) : Action Nat :=
  args.foldlM (fun status name => do
    if name.startsWith "-" then return status
    match ← findProgram name with
    | .ok _ => return status
    | .error e =>
      if Builtin.isBuiltin name then return status
      Action.complain s!"{name}: {faultText e}"
      return 1) 0

def trace (assignments : List (String × String)) (fields : List String) : Action Unit := do
  if ← Action.hasOption 'x' then
    let sign := (← Action.value? "PS4").getD "+ "
    let words := assignments.map (fun (name, value) => s!"{name}={value}") ++ fields
    let _ ← Action.writeTo 2 (sign ++ " ".intercalate words ++ "\n")

def checkExit (isTested : Bool) : Action Unit := do
  if !isTested && (← Action.hasOption 'e') && !(← Action.succeeded) then throw .ended

def round (body : Action Unit) : Action Bool :=
  tryCatch (body *> pure true) fun
    | .leave loops goesOn =>
      if 1 < loops then throw (.leave (loops - 1) goesOn) else return goesOn
    | halt => throw halt

/-- A loop of any kind; a jump over more than one loop leaves this one, too. -/
def inLoop (body : Action Unit) : Action Unit := do
  let loops := (← get).loops
  Action.during (·.loops) (fun n s => { s with loops := n }) (loops + 1) body

def jump (args : List String) (goesOn : Bool) : Action Nat := do
  let n ← match args with
    | [] => pure 1
    | arg :: _ => Builtin.number arg
  if n = 0 then Action.fail "Illegal number: 0"
  let loops := (← get).loops
  Action.setStatus 0
  if loops = 0 then return 0 else throw (.leave (min n loops) goesOn)

def replace (source target : Nat) : Action Unit := do
  let _ ← Action.ask (.duplicate source target false)
  Action.tell (.close source)

def named (name : String) (m : Action Nat) : Action Nat :=
  Action.during (·.commandName) (fun n s => { s with commandName := n }) (some name) m

mutual

/-- Runs what has to come before the shell ends, given how it was halted. -/
def finish : (fuel : Nat) → (halt : Option Halt) → Action Unit
  | 0, _ => return ()
  | fuel + 1, halt => do
    if halt = some .exit then
      modify fun s => { s with status := s.savedStatus.getD s.status, savedStatus := none }
    modify fun s => { s with savedStatus := none }
    let s ← get
    match s.traps.lookup 0 with
    | none => return ()
    | some text =>
      set { s with traps := s.traps.filter (·.1 ≠ 0), savedStatus := some s.status }
      let status := s.status
      tryCatch
        (do
          evalText fuel text
          Action.setStatus status)
        fun
        | .exit => modify fun s => { s with status := s.savedStatus.getD status }
        | .failed => return ()
        | .ended => return ()
        | _ => Action.setStatus status

def toEnd : (fuel : Nat) → Action Unit → Action Unit
  | 0, _ => return ()
  | fuel + 1, m => do
    let halt ← tryCatch (m *> pure none) fun h => return some h
    finish fuel halt

def runner : (fuel : Nat) → Runner
  | 0, _ => return ()
  | fuel + 1, body => do
    beginChild false false
    toEnd fuel (run fuel false true body)

def runTraps : (fuel : Nat) → Action Unit
  | 0 => return ()
  | fuel + 1 => do
    let s ← get
    if s.traps.any fun (signal, text) => signal ≠ 0 && !text.isEmpty then
      let came ← Action.ask .caught
      modify fun s => { s with interrupted := [] }
      for signal in (s.interrupted ++ came).mergeSort do
        match (← get).traps.lookup signal with
        | none => pure ()
        | some text =>
          let s ← get
          let status := s.savedStatus.getD s.status
          set { s with savedStatus := some status }
          evalText fuel text
          modify fun t => { t with savedStatus := s.savedStatus, status := status }

def evalText : (fuel : Nat) → (text : String) → Action Unit
  | 0, _ => return ()
  | fuel + 1, text => source fuel false false (Source.ofText text) false

def source : (fuel : Nat) → (isTested isLast : Bool) → Source → (hasRun : Bool) → Action Unit
  | 0, _, _, _, _ => return ()
  | fuel + 1, isTested, isLast, src, hasRun => do
    let s ← get
    let src := { src with nextDocument := s.nextDocument, documents := [], aliases := s.aliases }
    match Parse.next?.run src with
    | .error e =>
      modify fun s => { s with line := e.line, sourceLine := e.line }
      Action.fail e.message
    | .ok (command, next) =>
      if s.options.contains 'v' then
        let text := src.rest.take (src.rest.length - next.rest.length)
        let _ ← Action.writeTo 2 (String.ofList text)
      modify fun s =>
        { s with
          documents := next.documents ++ s.documents
          nextDocument := next.nextDocument
          sourceLine := next.line }
      match command with
      | none => if !hasRun then Action.setStatus 0
      | some .nothing => source fuel isTested isLast next hasRun
      | some script =>
        if !(← Action.hasOption 'n') then
          let atEnd := next.rest.all fun c => c = '\n' || c = ' '
          run fuel isTested (isLast && atEnd) script
        source fuel isTested isLast next true

/-- Runs a script; the last one of a process may take its place. -/
def run : (fuel : Nat) → (isTested isLast : Bool) → Script → Action Unit
  | 0, _, _, _ => throw .ended
  | fuel + 1, isTested, isLast, script => do
    match script with
    | .nothing => return ()
    | .simple line assignments words redirections =>
      Action.tell (.spend commandTime)
      simple fuel isTested isLast line assignments words redirections
      Action.reap
      runTraps fuel
      checkExit isTested
    | .then_ first .nothing => run fuel isTested isLast first
    | .then_ first second =>
      run fuel isTested false first
      run fuel isTested isLast second
    | .andThen first second =>
      run fuel true false first
      if ← Action.succeeded then run fuel isTested isLast second
    | .orElse first second =>
      run fuel true false first
      if !(← Action.succeeded) then run fuel isTested isLast second
    | .negated body =>
      run fuel true false body
      Action.setStatus (if ← Action.succeeded then 1 else 0)
    | .pipeline commands =>
      let _ ← Action.takeSlot
      let pids ← startPipeline fuel isTested false none commands
      Action.setStatus (← Action.await pids)
      runTraps fuel
      checkExit isTested
    | .background line body =>
      modify fun s => { s with line := line }
      let slot ← Action.takeSlot
      let pids ←
        match body with
        | .pipeline commands => startPipeline fuel isTested true none commands
        | body => do
          let pid ← Action.fork do
            beginChild true true
            toEnd fuel (run fuel false true body)
          pure [pid]
      Action.addJob slot pids
      Action.setStatus 0
      runTraps fuel
    | .redirected line body redirections =>
      modify fun s => { s with line := line }
      let rs ← redirections.mapM (Redirecting.ofRedirection (runner fuel))
      let status ← Redirecting.around rs false
        (do
          run fuel isTested false body
          return (← get).status)
        (pure 2)
      Action.setStatus status
      runTraps fuel
    | .subshell line body redirections =>
      modify fun s => { s with line := line }
      let rs ← redirections.mapM (Redirecting.ofRedirection (runner fuel))
      let inside : Action Unit := do
        beginChild false false
        toEnd fuel do
          let _ ← Redirecting.apply false [] rs
          run fuel isTested true body
      if isLast && !(← hasTraps) then
        inside
        throw .ended
      let pid ← Action.forkForeground inside
      Action.setStatus (← Action.await [pid])
      runTraps fuel
      checkExit isTested
    | .ifThen condition positive negative =>
      run fuel true false condition
      if ← Action.succeeded then run fuel isTested isLast positive
      else
        match negative with
        | some negative => run fuel isTested isLast negative
        | none => Action.setStatus 0
    | .loop wanted condition body =>
      inLoop do
        let status ← loop fuel isTested wanted condition body 0
        Action.setStatus status
      runTraps fuel
    | .forEach line name words body =>
      modify fun s => { s with line := line }
      let values ←
        match words with
        | none => pure (← get).args
        | some words => do
          let found ← words.mapM (Word.fields (runner fuel))
          pure found.flatten
      Action.setStatus 0
      inLoop do
        for value in values do
          Action.assign name value
          if !(← round (run fuel isTested false body)) then break
      runTraps fuel
    | .select line subject branches =>
      modify fun s => { s with line := line }
      let text ← Word.single (runner fuel) subject
      match ← findBranch fuel text.toList branches with
      | none => Action.setStatus 0
      | some .nothing => Action.setStatus 0
      | some body => run fuel isTested isLast body
    | .define _ name body =>
      modify fun s =>
        { s with functions := (name, body) :: s.functions.filter (·.1 ≠ name), status := 0 }

def findBranch : (fuel : Nat) → List Char → List (List Word × Script) → Action (Option Script)
  | 0, _, _ => return none
  | _, _, [] => return none
  | fuel + 1, text, (patterns, body) :: branches => do
    let found ← patterns.anyM fun w => do
      return (← Word.pattern (runner fuel) w).fits text
    if found then return some body else findBranch fuel text branches

def loop : (fuel : Nat) → (isTested wanted : Bool) → (condition body : Script) → (status : Nat) →
    Action Nat
  | 0, _, _, _, _, _ => throw .ended
  | fuel + 1, isTested, wanted, condition, body, status => do
    let holds ← tryCatch
      (do
        run fuel true false condition
        return some ((← Action.succeeded) == wanted))
      fun
      | .leave loops goesOn =>
        if 1 < loops then throw (.leave (loops - 1) goesOn)
        else return if goesOn then some false else none
      | halt => throw halt
    match holds with
    | none => return status
    | some false => return status
    | some true =>
      let goesOn ← round (run fuel isTested false body)
      let status := (← get).status
      if goesOn then loop fuel isTested wanted condition body status else return status

/-- Starts the commands of a pipeline, each reading what the one before writes. -/
def startPipeline : (fuel : Nat) → (isTested isBackground : Bool) → (input : Option Nat) →
    List Script → Action (List Nat)
  | 0, _, _, _, _ => return []
  | _, _, _, _, [] => return []
  | fuel + 1, isTested, isBackground, input, command :: commands => do
    let output ←
      if commands.isEmpty then pure none
      else do
        let reader ← Action.ask (.vacant Action.firstOwnDescriptor)
        let writer ← Action.ask (.vacant (reader + 1))
        Action.tell (.pipe reader writer)
        pure (some (reader, writer))
    let pid ← Action.fork do
      beginChild isBackground input.isNone
      match output with
      | none => pure ()
      | some (reader, _) => Action.tell (.close reader)
      match input with
      | none => pure ()
      | some n => replace n 0
      match output with
      | none => pure ()
      | some (_, writer) => replace writer 1
      toEnd fuel (run fuel isTested true command)
    input.forM fun n => Action.tell (.close n)
    output.forM fun (_, writer) => Action.tell (.close writer)
    let pids ← startPipeline fuel isTested isBackground (output.map (·.1)) commands
    return pid :: pids

def simple : (fuel : Nat) → (isTested isLast : Bool) → (line : Nat) →
    List (String × Word) → List Word → List Redirection → Action Unit
  | 0, _, _, _, _, _, _ => throw .ended
  | fuel + 1, isTested, isLast, line, assignments, words, redirections => do
    modify fun s => { s with line := line, substitutionStatus := none }
    let r := runner fuel
    let found ← fields r words
    let rs ← redirections.mapM (Redirecting.ofRedirection r)
    let assignAll (set : String → String → Action Unit) : Action (List (String × String)) :=
      assignments.mapM fun (name, w) => do
        let value ← Word.assigned r w
        set name value
        return (name, value)
    match found with
    | [] =>
      let status ← Redirecting.around rs false
        (do
          let assigned ← assignAll Action.assign
          if !assigned.isEmpty then trace assigned []
          return ((← get).substitutionStatus).getD 0)
        (pure 2)
      Action.setStatus status
    | name :: args =>
      let isSpecial := Builtin.isSpecial name && ((← get).functions.lookup name).isNone
      let call : Action Nat :=
        if isSpecial then do
          let assigned ← assignAll fun name value => do
            Action.assign name value
            if found.head? = some "exec" then Action.setExported name
          trace assigned found
          command fuel isTested isLast name args
        else
          Action.withLocals do
            let assigned ← assignAll fun name value => do
              Action.makeLocal name
              Action.assign name value
              Action.setExported name
            trace assigned found
            command fuel isTested isLast name args
      let lasts := name = "exec" && isSpecial
      let status ← Redirecting.around rs lasts call
        (if isSpecial then do
          Action.setStatus 2
          throw .failed
        else pure 2)
      Action.setStatus status

def command : (fuel : Nat) → (isTested isLast : Bool) → (name : String) → List String → Action Nat
  | 0, _, _, _, _ => throw .ended
  | fuel + 1, isTested, isLast, name, args => do
    match (← get).functions.lookup name with
    | some body => function fuel isTested body args
    | none =>
      if name = "command" then
        match Builtin.isBuiltin name, args with
        | _, [] => return 0
        | _, args => plain fuel isTested isLast args
      else builtinOrProgram fuel isTested isLast (Builtin.isSpecial name) name args

def plain : (fuel : Nat) → (isTested isLast : Bool) → List String → Action Nat
  | 0, _, _, _ => throw .ended
  | fuel + 1, isTested, isLast, args => do
    match args with
    | [] => return 0
    | "-p" :: args => plain fuel isTested isLast args
    | "--" :: args => plain fuel isTested isLast args
    | "-v" :: name :: _ => named "command" (describe false name)
    | "-V" :: name :: _ => named "command" (describe true name)
    | "command" :: args => plain fuel isTested isLast args
    | name :: args => builtinOrProgram fuel isTested isLast false name args

def builtinOrProgram : (fuel : Nat) → (isTested isLast isSpecial : Bool) → (name : String) →
    List String → Action Nat
  | 0, _, _, _, _, _ => throw .ended
  | fuel + 1, isTested, isLast, isSpecial, name, args => do
    let guarded (m : Action Nat) : Action Nat :=
      tryCatch m fun h => if h = .failed && !isSpecial then return 2 else throw h
    match Builtin.simple? name with
    | some builtin => guarded (named name (builtin args))
    | none =>
      if Builtin.isControlling name then guarded (named name (control fuel isTested name args))
      else program isLast (name :: args)

def control : (fuel : Nat) → (isTested : Bool) → (name : String) → List String → Action Nat
  | 0, _, _, _ => throw .ended
  | fuel + 1, isTested, name, args => do
    match name with
    | "eval" =>
      source fuel isTested false (Source.ofText (" ".intercalate args)) false
      return (← get).status
    | "exec" =>
      match if args.head? = some "--" then args.tail else args with
      | [] => return 0
      | args =>
        become args
        return 0
    | "exit" =>
      if let arg :: _ := args then
        let n ← Builtin.number arg
        modify fun s => { s with savedStatus := some n }
      throw .exit
    | "return" =>
      if let arg :: _ := args then
        let n ← Builtin.number arg
        Action.setStatus n
      throw .returned
    | "break" => jump args false
    | "continue" => jump args true
    | "type" =>
      args.foldlM (fun status name => do
        let next ← describe true name
        return max status next) 0
    | "hash" => hash args
    | "." =>
      match args with
      | [] => return 0
      | path :: _ => include_ fuel path
    | _ => return 0

def include_ : (fuel : Nat) → (path : String) → Action Nat
  | 0, _ => throw .ended
  | fuel + 1, path => do
    let found ← if path.contains '/' then pure (.ok path) else findProgram path
    match found with
    | .error _ => Action.fail s!"{path}: not found"
    | .ok file =>
      let descriptor ← Action.ask (.vacant Action.firstOwnDescriptor)
      match ← Action.ask (.open_ descriptor file .read) with
      | some e =>
        let text := if e = .noEntry || e = .notDirectory then "No such file" else e.text
        Action.fail s!"cannot open {file}: {text}"
      | none =>
        let blocks ← Action.readAll descriptor 100000
        Action.tell (.close descriptor)
        let text := Text.ofBytes (blocks.foldl (· ++ ·) .empty)
        Action.during (·.commandName) (fun n s => { s with commandName := n }) (some file) do
          tryCatch (source fuel false false (Source.ofText text) false) fun
            | .returned => return ()
            | halt => throw halt
        return (← get).status

def function : (fuel : Nat) → (isTested : Bool) → Script → List String → Action Nat
  | 0, _, _, _ => throw .ended
  | fuel + 1, isTested, body, args => do
    let s ← get
    set { s with
      args := args, loops := 0, functionDepth := s.functionDepth + 1, optionOffset := 0 }
    Action.andFinally
      (tryCatch (run fuel isTested false body) fun
        | .returned => return ()
        | halt => throw halt)
      (modify fun t =>
        { t with
          args := s.args, loops := s.loops, functionDepth := s.functionDepth
          optionOffset := s.optionOffset })
    return (← get).status

end

end Run

end PanelLauncher.Shell
