import PanelLauncher.Shell.Condition
import PanelLauncher.Shell.Expansion
import PanelLauncher.Shell.Format
import PanelLauncher.Shell.Source

/-!
# Commands of the shell itself

The commands that act on the shell, or that it does without a program. Each gets its arguments and
gives a status.

This is part of the system for test runs and of nothing else. No theorem is about it.
-/

namespace PanelLauncher.Shell

namespace Builtin

def print (text : String) : Action Nat := do
  match ← Action.writeTo 1 text with
  | none => return 0
  | some _ =>
    let command := ((← get).commandName).getD ""
    Action.complain s!"{command}: I/O error"
    return 1

def number (s : String) : Action Nat := do
  match if !s.isEmpty && s.all Char.isDigit then s.toNat? else none with
  | some n => if n ≤ 2147483647 then return n else Action.fail s!"Illegal number: {s}"
  | none => Action.fail s!"Illegal number: {s}"

def takeOptions (known : String) : List String → Action (List Char × List String)
  | [] => return ([], [])
  | arg :: args =>
    match arg.toList with
    | ['-'] => return ([], arg :: args)
    | ['-', '-'] => return ([], args)
    | '-' :: letters => do
      match letters.find? fun c => !known.contains c with
      | some c => Action.fail s!"Illegal option -{c}"
      | none =>
        let (more, rest) ← takeOptions known args
        return (letters ++ more, rest)
    | _ => return ([], arg :: args)

def quoted (s : String) : String :=
  "'" ++ "'\"'\"'".intercalate (s.splitOn "'") ++ "'"

def requireName (name : String) : Action Unit :=
  if Word.isName name then return () else Action.fail s!"{name}: bad variable name"

def splitAssignment (arg : String) : String × Option String :=
  let name := arg.toList.takeWhile (· ≠ '=')
  let rest := arg.toList.drop name.length
  (String.ofList name, if rest.isEmpty then none else some (String.ofList rest.tail))

/-! ## Variables -/

def listMarked (command : String) (isMarked : Variable → Bool) : Action Nat := do
  let marked := (← get).bindings.filter fun (_, v) => isMarked v
  let lines := marked.map fun (name, v) =>
    s!"{command} {name}" ++ (match v.value with
      | none => ""
      | some value => "=" ++ quoted value) ++ "\n"
  print (String.join lines.mergeSort)

def mark (command : String) (isMarked : Variable → Bool) (set : String → Action Unit)
    (args : List String) : Action Nat := do
  let (options, args) ← takeOptions "p" args
  if args.isEmpty || options.contains 'p' then listMarked command isMarked
  else
    args.forM fun arg => do
      let (name, value) := splitAssignment arg
      requireName name
      value.forM (Action.assign name)
      set name
    return 0

def local_ (args : List String) : Action Nat := do
  if (← get).functionDepth = 0 then Action.fail "not in a function"
  args.forM fun arg => do
    let (name, value) := splitAssignment arg
    if name ≠ "-" then
      requireName name
      Action.makeLocal name
      value.forM (Action.assign name)
  return 0

def unset (args : List String) : Action Nat := do
  let (options, args) ← takeOptions "vf" args
  args.forM fun name => do
    if options.contains 'f' then
      modify fun s => { s with functions := s.functions.filter (·.1 ≠ name) }
    else
      requireName name
      Action.unset name
  return 0

def listVariables : Action Nat := do
  let lines := (← get).bindings.filterMap fun (name, v) =>
    v.value.map fun value => s!"{name}={quoted value}\n"
  print (String.join lines.mergeSort)

/-! ## Options and arguments -/

def optionNames : List (Char × String) :=
  [('e', "errexit"), ('f', "noglob"), ('I', "ignoreeof"), ('i', "interactive"), ('m', "monitor"),
    ('n', "noexec"), ('s', "stdin"), ('x', "xtrace"), ('v', "verbose"), ('V', "vi"),
    ('E', "emacs"), ('C', "noclobber"), ('a', "allexport"), ('b', "notify"), ('u', "nounset"),
    ('p', "privileged"), ('l', "nolog"), ('d', "debug")]

def optionLetters : List Char :=
  "efIimnsxvVECabup".toList

def setOption (c : Char) (value : Bool) : Action Unit :=
  modify fun s =>
    let isSet (d : Char) : Bool := if d = c then value else s.options.contains d
    { s with options := (optionNames.map (·.1)).filter isSet }

def listOptions (asCommands : Bool) : Action Nat := do
  let s ← get
  let lines := optionNames.map fun (c, name) =>
    let isSet := s.options.contains c
    let sign := if isSet then "-" else "+"
    if asCommands then s!"set {sign}o {name}\n"
    else name ++ String.ofList (List.replicate (16 - name.length) ' ') ++
      (if isSet then "on\n" else "off\n")
  print ((if asCommands then "" else "Current option settings\n") ++ String.join lines)

def setNamedOption (name : String) (value : Bool) : Action Unit := do
  match optionNames.find? (·.2 = name) with
  | some (c, _) => setOption c value
  | none =>
    let sign := if value then "-" else "+"
    Action.fail s!"Illegal option {sign}o {name}"

/-- Sets options and takes the arguments behind them; `none` if there are no such arguments. -/
def takeSettings : (fuel : Nat) → List String → Action (Option (List String))
  | 0, _ => return none
  | fuel + 1, args => do
    match args with
    | [] => return none
    | arg :: rest =>
      match arg.toList with
      | ['-'] =>
        setOption 'x' false
        setOption 'v' false
        return if rest.isEmpty then none else some rest
      | ['-', '-'] => return some rest
      | sign :: letters =>
        if sign = '-' || sign = '+' then
          let value := sign = '-'
          let takesName := letters.contains 'o'
          letters.forM fun c => do
            if c = 'o' then
              match rest with
              | [] =>
                let _ ← listOptions (!value)
              | name :: _ => setNamedOption name value
            else if optionLetters.contains c then setOption c value
            else Action.fail s!"Illegal option -{c}"
          takeSettings fuel (if takesName then rest.tail else rest)
        else return some args
      | [] => return some args

def refuseControl : Action Unit := do
  if ← Action.hasOption 'm' then
    Action.complain "can't access tty; job control turned off"
    setOption 'm' false

def set_ (args : List String) : Action Nat := do
  if args.isEmpty then listVariables
  else
    let found ← takeSettings (args.length + 1) args
    refuseControl
    match found with
    | none => return 0
    | some args =>
      modify fun s => { s with args := args, optionOffset := 0 }
      return 0

def shift (args : List String) : Action Nat := do
  let n ← match args with
    | [] => pure 1
    | arg :: _ => number arg
  let s ← get
  if s.args.length < n then Action.fail "can't shift that many"
  set { s with args := s.args.drop n }
  return 0

/-- Reads one option from arguments. The index that is kept is that of the next argument; an offset
tells how much has been read of the one before. -/
def getopts (args : List String) : Action Nat := do
  match args with
  | spec :: name :: rest =>
    let s ← get
    let args := if rest.isEmpty then s.args else rest
    let kept := ((← Action.value? "OPTIND").bind String.toNat?).getD 1
    let isStale := args.length + 1 < kept
    let index := if isStale then 0 else kept - 1
    let offset := if isStale || index = 0 then 0 else s.optionOffset
    let isQuiet := spec.startsWith ":"
    let finish (option : Char) (index offset status : Nat) : Action Nat := do
      Action.assign "OPTIND" (toString (index + 1))
      modify fun s => { s with optionOffset := offset }
      requireName name
      Action.assign name (String.ofList [option])
      return status
    let pending := ((args[index - 1]?).getD "").toList.drop offset
    let (cs, index) :=
      if offset = 0 || pending.isEmpty then
        match ((args[index]?).getD "").toList with
        | ['-', '-'] => ([], index + 1)
        | '-' :: c :: cs => (c :: cs, index + 1)
        | _ => ([], index)
      else (pending, index)
    match cs with
    | [] => finish '?' index 0 1
    | c :: cs =>
      let offset := if cs.isEmpty then 0 else ((args[index - 1]?).getD "").length - cs.length
      match if c = ':' then none else spec.toList.findIdx? (· = c) with
      | none =>
        if isQuiet then Action.assign "OPTARG" (String.ofList [c])
        else
          let _ ← Action.writeTo 2 s!"Illegal option -{c}\n"
          Action.unset "OPTARG"
        finish '?' index offset 0
      | some place =>
        if spec.toList[place + 1]? = some ':' then
          match cs, args[index]? with
          | d :: cs, _ =>
            Action.assign "OPTARG" (String.ofList (d :: cs))
            finish c index 0 0
          | [], some value =>
            Action.assign "OPTARG" value
            finish c (index + 1) 0 0
          | [], none =>
            if isQuiet then
              Action.assign "OPTARG" (String.ofList [c])
              finish ':' index 0 0
            else
              let _ ← Action.writeTo 2 s!"No arg for -{c} option\n"
              Action.unset "OPTARG"
              finish '?' index 0 0
        else
          Action.assign "OPTARG" ""
          finish c index offset 0
  | _ => Action.fail "Usage: getopts optstring var [arg...]"

/-! ## Directories -/

def normalPath (current path : String) : String :=
  let start := if path.startsWith "/" then [] else current.splitOn "/"
  let parts := (start ++ path.splitOn "/").filter fun part => part ≠ "" && part ≠ "."
  let kept := parts.foldl (fun kept part =>
    if part = ".." then kept.dropLast else kept ++ [part]) []
  "/" ++ "/".intercalate kept

def currentDirectory : Action String := do
  match ← Action.value? "PWD" with
  | some path => return path
  | none => Action.ask .workingDirectory

def cd (args : List String) : Action Nat := do
  let (_, args) ← takeOptions "LP" args
  let (target, prints) ←
    match args with
    | [] => pure ((← Action.homeDirectory).getD "", false)
    | "-" :: _ => pure ((← Action.value? "OLDPWD").getD "", true)
    | path :: _ => pure (path, false)
  let isFree := target.startsWith "/" || ["." , ".."].contains ((target.splitOn "/").headD "")
  let searched ← if isFree then pure none else Action.value? "CDPATH"
  let searched := searched.getD ""
  let places := if searched.isEmpty then [] else searched.splitOn ":"
  let candidates := places.map fun place =>
    if place.isEmpty then target else below place target
  let found ← candidates.filterM fun path => do
    return ((← Action.ask (.info path)).toOption.map (·.isDirectory)).getD false
  let path := found.headD target
  let current ← currentDirectory
  let place := normalPath current path
  match ← Action.ask (.changeDirectory place) with
  | some _ => Action.fail s!"can't cd to {target}"
  | none =>
    Action.assign "OLDPWD" current
    Action.setExported "OLDPWD"
    Action.assign "PWD" place
    Action.setExported "PWD"
    if prints || path ≠ target then print (place ++ "\n") else return 0
where
  below (place target : String) : String :=
    if place.endsWith "/" then place ++ target else place ++ "/" ++ target

/-! ## Processes -/

def killUsage : String :=
  "Usage: kill [-s sigspec | -signum | -sigspec] [pid | job]... or\nkill -l [exitstatus]"

def listSignals (args : List String) : Action Nat := do
  match args with
  | [] => print ("0\n" ++ String.join (SignalName.all.map (· ++ "\n")))
  | arg :: _ =>
    let n ← number arg
    let n := if 128 < n then n - 128 else n
    match if n = 0 then none else SignalName.ofNumber? n with
    | some name => print (name ++ "\n")
    | none => Action.fail s!"invalid signal number or exit status: {arg}"

def sendTo (signal : Nat) (target : String) : Action Nat := do
  let pid : Int ←
    match target.toList with
    | '%' :: _ =>
      let job ← Action.findJob target
      pure (-((job.processes.headD (0, none)).1 : Int))
    | '-' :: cs => pure (-((← number (String.ofList cs)) : Int))
    | _ => pure ((← number target : Nat) : Int)
  match ← Action.ask (.kill pid signal) with
  | none => return 0
  | some e =>
    Action.complain s!"{e.text}\n"
    return 1

def killOptions : List String → Action (Option Nat × Bool × List String)
  | [] => return (none, false, [])
  | "--" :: args => return (none, false, args)
  | "-l" :: args => do
    let (signal, _, args) ← killOptions args
    return (signal, true, args)
  | "-s" :: name :: args => do
    match SignalName.toNumber? name with
    | some signal =>
      let (later, lists, args) ← killOptions args
      return (some (later.getD signal), lists, args)
    | none => Action.fail s!"invalid signal number or name: {name}"
  | "-s" :: [] => Action.fail "No arg for -s option"
  | arg :: args => do
    match arg.toList with
    | '-' :: c :: _ => Action.fail s!"Illegal option -{c}"
    | _ => return (none, false, arg :: args)

def kill (args : List String) : Action Nat := do
  let first := args.headD ""
  let named :=
    if first.startsWith "-" then SignalName.toNumber? (first.drop 1).toString else none
  let (signal, lists, targets) ←
    match named with
    | some signal => pure (some signal, false, args.tail)
    | none => if first.startsWith "-" then killOptions args else pure (none, false, args)
  if lists && signal.isNone then listSignals targets
  else if lists || targets.isEmpty then Action.fail killUsage
  else
    targets.foldlM (fun status target => do
      let next ← sendTo (signal.getD 15) target
      return max status next) 0

def interruptedStatus : Action Nat := do
  let signals ← Action.ask .caught
  let first := (signals.mergeSort).headD 0
  modify fun s => { s with interrupted := signals }
  return 128 + first

def waitForJob (job : Job) : Action Nat := do
  if ← Action.waitThrough true true job.running then interruptedStatus
  else
    Action.reap
    Action.markWaitedFor (·.slot = job.slot)
    let job := (← get).jobs.find? (·.slot = job.slot)
    return ((job.bind Job.ending?).map Action.statusOf).getD 127

def waitForEach (status : Nat) : List String → Action Nat
  | [] => return status
  | arg :: args => do
    let job ←
      if arg.startsWith "%" then some <$> Action.findJob arg
      else do
        let pid ← number arg
        pure ((← get).jobs.find? (·.pid? = some pid))
    match job with
    | none => waitForEach 127 args
    | some job =>
      let status ← waitForJob job
      if (← get).interrupted.isEmpty then waitForEach status args else return status

def wait (args : List String) : Action Nat := do
  let (_, args) ← takeOptions "" args
  if args.isEmpty then
    let jobs := (← get).jobs
    if ← Action.waitThrough true false (jobs.flatMap Job.running) then interruptedStatus
    else
      Action.reap
      Action.markWaitedFor fun _ => true
      return 0
  else waitForEach 127 args

/-! ## Traps -/

def arrange (signal : Nat) (action : Option String) : Action Unit := do
  if signal ≠ 0 && signal ≠ 9 && signal ≠ 19 then
    let wasIgnored := (← Action.ask (.disposition signal)) = .ignored
    if !wasIgnored || ((← get).traps.lookup signal).isSome then
      Action.tell (.dispose signal (match action with
        | none => .default
        | some "" => .ignored
        | some _ => .caught))
  modify fun s =>
    let others := s.traps.filter (·.1 ≠ signal)
    { s with
      traps := match action with
        | none => others
        | some text => (signal, text) :: others }

def listTraps : Action Nat := do
  let traps := (← get).traps.mergeSort fun a b => a.1 ≤ b.1
  let lines := traps.map fun (signal, text) =>
    let name := (SignalName.ofNumber? signal).getD ""
    s!"trap -- {quoted text} {name}\n"
  print (String.join lines)

def arrangeAll (action : Option String) : List String → Action Nat
  | [] => return 0
  | name :: names => do
    match SignalName.toNumber? name with
    | none =>
      let _ ← Action.writeTo 2 s!"trap: {name}: bad trap\n"
      return 1
    | some signal =>
      arrange signal action
      arrangeAll action names

def trap (args : List String) : Action Nat := do
  let (_, args) ← takeOptions "" args
  match args with
  | [] => listTraps
  | [name] => arrangeAll none [name]
  | text :: names =>
    if text.all Char.isDigit && (SignalName.toNumber? text).isSome then arrangeAll none args
    else arrangeAll (if text = "-" then none else some text) names

/-! ## Reading -/

/-- One line from the standard input, what follows a backslash marked; whether it has an end. -/
def readLine (isRaw : Bool) : (fuel : Nat) → Action (List (Char × Bool) × Bool)
  | 0 => return ([], false)
  | fuel + 1 => do
    let byte ← Action.ask (.read 0 1)
    match (byte.toOption.map ByteArray.toList).getD [] with
    | [] => return ([], false)
    | b :: _ =>
      let c := Format.byteChar b.toNat
      if c = '\n' then return ([], true)
      else if c = '\\' && !isRaw then
        let next ← Action.ask (.read 0 1)
        match (next.toOption.map ByteArray.toList).getD [] with
        | [] => return ([], false)
        | b :: _ =>
          let (rest, isEnded) ← readLine isRaw fuel
          let d := Format.byteChar b.toNat
          return (if d = '\n' then rest else (d, true) :: rest, isEnded)
      else
        let (rest, isEnded) ← readLine isRaw fuel
        return (if c = '\x00' then rest else (c, false) :: rest, isEnded)

def isSeparator (separators : String) (p : Char × Bool) : Bool :=
  !p.2 && separators.contains p.1

def isBlankSeparator (separators : String) (p : Char × Bool) : Bool :=
  isSeparator separators p && (p.1 = ' ' || p.1 = '\t' || p.1 = '\n')

/-- The last field of a line: all that is left, but for separators that only end it. -/
def lastField (separators : String) (cs : List (Char × Bool)) : List (Char × Bool) :=
  let dropBlanks (cs : List (Char × Bool)) :=
    (cs.reverse.dropWhile (isBlankSeparator separators)).reverse
  let kept := dropBlanks cs
  match kept.getLast? with
  | some p =>
    let body := dropBlanks kept.dropLast
    if isSeparator separators p && !(body.any (isSeparator separators)) then body else kept
  | none => []

def cutLine (separators : String) : List String → List (Char × Bool) →
    List (String × List (Char × Bool))
  | [], _ => []
  | [name], cs => [(name, lastField separators cs)]
  | name :: names, cs =>
    let field := cs.takeWhile fun p => !isSeparator separators p
    let rest := (cs.drop field.length).dropWhile (isBlankSeparator separators)
    let rest := match rest with
      | p :: behind => if isSeparator separators p then behind else rest
      | [] => []
    (name, field) :: cutLine separators names (rest.dropWhile (isBlankSeparator separators))

def read (args : List String) : Action Nat := do
  let (isRaw, names) ← readOptions args
  if names.isEmpty then Action.fail "arg count"
  let (line, isEnded) ← readLine isRaw 1000000
  let separators ← Action.separators
  let line := line.dropWhile (isBlankSeparator separators)
  (cutLine separators names line).forM fun (name, field) => do
    requireName name
    Action.assign name
      (Text.ofBytes (Text.toBytes (String.ofList (field.map (·.1)))))
  return if isEnded then 0 else 1
where
  readOptions : List String → Action (Bool × List String)
    | "-r" :: args => do
      let (_, names) ← readOptions args
      return (true, names)
    | "-p" :: _ :: args => readOptions args
    | "--" :: args => return (false, args)
    | arg :: args =>
      match arg.toList with
      | '-' :: c :: _ => Action.fail s!"Illegal option -{c}"
      | _ => return (false, arg :: args)
    | [] => return (false, [])

/-! ## Others -/

def printf (args : List String) : Action Nat := do
  let (_, args) ← takeOptions "" args
  match args with
  | [] => Action.fail "usage: printf format [arg ...]"
  | format :: args =>
    let p := Format.printf format args
    p.complaints.reverse.forM Action.complain
    let written ← print p.text
    return max p.status written

def test (args : List String) : Action Nat := do
  return if ← Condition.value (args.length + 1) args then 0 else 1

def bracket (args : List String) : Action Nat := do
  if args.getLast? = some "]" then test args.dropLast else Action.fail "missing ]"

def octal (n : Nat) : String :=
  let digits := Nat.toDigits 8 n
  String.ofList (List.replicate (4 - digits.length) '0' ++ digits)

def maskSymbols (mask : Nat) : String :=
  let part (shift : Nat) : String :=
    let bits := (mask / shift) % 8
    String.join ((if bits / 4 % 2 = 0 then ["r"] else []) ++
      (if bits / 2 % 2 = 0 then ["w"] else []) ++ (if bits % 2 = 0 then ["x"] else []))
  s!"u={part 64},g={part 8},o={part 1}"

def umask (args : List String) : Action Nat := do
  let (options, args) ← takeOptions "S" args
  let mask := (← get).mask
  match args with
  | [] =>
    print ((if options.contains 'S' then maskSymbols mask else octal mask) ++ "\n")
  | arg :: _ =>
    if arg.toList.all Char.isDigit then
      if arg.toList.all Format.isOctal && arg.length ≤ 4 then
        let n := arg.toList.foldl (fun n c => n * 8 + (c.toNat - '0'.toNat)) 0
        modify fun s => { s with mask := n % 512 }
        return 0
      else Action.fail s!"Illegal number: {arg}"
    else Action.fail s!"Illegal mode: {arg}"

def alias_ (args : List String) : Action Nat := do
  let line (name value : String) : String := s!"{name}={quoted value}\n"
  if args.isEmpty then
    let aliases := (← get).aliases.map fun (name, value) => line name value
    print (String.join aliases.mergeSort)
  else
    args.foldlM (fun status arg => do
      match splitAssignment arg with
      | (name, some value) =>
        modify fun s =>
          { s with aliases := (name, value) :: s.aliases.filter (·.1 ≠ name) }
        return status
      | (name, none) =>
        match (← get).aliases.lookup name with
        | some value =>
          let written ← print (line name value)
          return max status written
        | none =>
          let _ ← Action.writeTo 2 s!"alias: {name} not found\n"
          return 1) 0

def unalias (args : List String) : Action Nat := do
  let (options, args) ← takeOptions "a" args
  if options.contains 'a' then
    modify fun s => { s with aliases := [] }
    return 0
  else
    args.foldlM (fun status name => do
      if ((← get).aliases.lookup name).isNone then
        let _ ← Action.writeTo 2 s!"unalias: {name} not found\n"
        return 1
      modify fun s => { s with aliases := s.aliases.filter (·.1 ≠ name) }
      return status) 0

def showJob (showsPids : Bool) (j : Job) : Action String := do
  let jobs := (← get).jobs
  let sign := if jobs.head? = some j then "+" else if jobs[1]? = some j then "-" else " "
  if j.isDone then modify fun s => { s with jobs := s.jobs.filter (· ≠ j) }
  return j.line sign showsPids

def listJobs (args : List String) : Action Nat := do
  let (options, args) ← takeOptions "lp" args
  if args.isEmpty then Action.reap
  let jobs ← if args.isEmpty then pure (← get).jobs else args.mapM Action.findJob
  if options.getLast? = some 'p' then
    print (String.join (jobs.map fun j => s!"{(j.processes.headD (0, none)).1}\n"))
  else
    let lines ← jobs.mapM (showJob (options.contains 'l'))
    print (String.join lines)

def ulimit (args : List String) : Action Nat := do
  match args with
  | [] => print "unlimited\n"
  | [arg] =>
    match arg.toList with
    | ['-', c] =>
      if "tfdscmlpnvwr".toList.contains c then
        print (if c = 'c' then "0\n" else if c = 'n' then "1024\n" else "unlimited\n")
      else Action.fail s!"Illegal option -{c}"
    | _ => return 0
  | _ => return 0

def simple? : String → Option (List String → Action Nat)
  | ":" | "true" => some fun _ => return 0
  | "false" => some fun _ => return 1
  | "echo" => some fun args => print (Format.echo args)
  | "printf" => some printf
  | "test" => some test
  | "[" => some bracket
  | "export" => some (mark "export" (·.isExported) Action.setExported)
  | "readonly" => some (mark "readonly" (·.isReadOnly) Action.setReadOnly)
  | "local" => some local_
  | "unset" => some unset
  | "set" => some set_
  | "shift" => some shift
  | "getopts" => some getopts
  | "cd" | "chdir" => some cd
  | "pwd" => some fun _ => do print ((← currentDirectory) ++ "\n")
  | "kill" => some kill
  | "wait" => some wait
  | "trap" => some trap
  | "read" => some read
  | "umask" => some umask
  | "alias" => some alias_
  | "unalias" => some unalias
  | "jobs" => some listJobs
  | "ulimit" => some ulimit
  | "times" => some fun _ => print "0m0.000000s 0m0.000000s\n0m0.000000s 0m0.000000s\n"
  | "fg" | "bg" => some fun args => do
    let _ ← Action.findJob (args.headD "%")
    let name := args.headD "(null)"
    Action.fail s!"job {name} not created under job control"
  | _ => none

/-- The builtins whose mistakes end a shell, and whose assignments last. -/
def isSpecial (name : String) : Bool :=
  [".", ":", "break", "continue", "eval", "exec", "exit", "export", "local", "readonly", "return",
    "set", "shift", "times", "trap", "unset"].contains name

/-- The builtins whose arguments are expanded as values if they assign. -/
def takesAssignments (name : String) : Bool :=
  ["export", "readonly", "local", "alias"].contains name

def isControlling (name : String) : Bool :=
  [".", "break", "continue", "eval", "exec", "exit", "return", "command", "type", "hash"].contains
    name

def isBuiltin (name : String) : Bool :=
  isControlling name || (simple? name).isSome

end Builtin

end PanelLauncher.Shell
