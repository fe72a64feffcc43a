import PanelLauncher.Host.Tool.Files
import PanelLauncher.Shell.Condition
import PanelLauncher.Shell.Builtin

/-!
# Programs about processes

Programs that wait, that start other programs, and that tell about themselves.

This is part of the system for test runs and of nothing else. No theorem is about it.
-/

namespace PanelLauncher.Tool

open Program (Usage Arguments)

abbrev Environment := List (String × String)

/-- A time in millionths of a second: a decimal number and perhaps a unit. -/
def duration? (text : String) : Option Nat :=
  let (digits, unit) := match text.toList.reverse with
    | 's' :: cs => (cs.reverse, 1)
    | 'm' :: cs => (cs.reverse, 60)
    | 'h' :: cs => (cs.reverse, 3600)
    | 'd' :: cs => (cs.reverse, 86400)
    | _ => (text.toList, 1)
  let whole := digits.takeWhile Char.isDigit
  let rest := digits.drop whole.length
  let fraction := match rest with
    | '.' :: cs => some cs
    | [] => some []
    | _ => none
  let number (cs : List Char) : Nat :=
    cs.foldl (fun n c => n * 10 + (c.toNat - '0'.toNat)) 0
  match fraction with
  | none => none
  | some cs =>
    if !cs.all Char.isDigit || (whole.isEmpty && cs.isEmpty) then none
    else
      let micros := number ((cs ++ List.replicate 6 '0').take 6)
      some ((number whole * 1000000 + micros) * unit)

def sleep (name : String) (args : List String) : Program Nat := do
  let u := usage name "" []
  let a ← Program.arguments u args
  let times := a.operands.map fun arg => (arg, duration? arg)
  let wrong := times.filter (·.2.isNone)
  wrong.forM fun (arg, _) => Program.complain s!"{name}: invalid time interval '{arg}'"
  if a.operands.isEmpty then u.fail "missing operand"
  else if !wrong.isEmpty then u.tryHelp
  else
    Program.ask (.spend ((times.filterMap (·.2)).foldl (· + ·) 0))
    return 0

def yes (name : String) (args : List String) : Program Nat := do
  let a ← Program.arguments (usage name "" []) args
  let line := (if a.operands.isEmpty then "y" else " ".intercalate a.operands) ++ "\n"
  go (Text.toBytes (String.join (List.replicate 512 line))) Program.blockLimit
where
  go (block : ByteArray) : (fuel : Nat) → Program Nat
    | 0 => return 0
    | fuel + 1 => do
      match ← Program.writeBytes 1 block with
      | none => go block fuel
      | some e =>
        Program.complain s!"{name}: standard output: {e.text}"
        return 1

/-- Goes on as one of the programs at some paths; else why that failed. -/
def tryPaths (fault : Errno) (args : List String) (environment : Environment) :
    List String → Program Errno
  | [] => return fault
  | path :: paths => do
    let e ← Program.ask (.exec path args environment)
    let isMissing := e = .noEntry || e = .notDirectory
    tryPaths (if isMissing then fault else e) args environment paths

def become (args : List String) (environment : Environment) : Program Errno := do
  let name := args.headD ""
  let path := (environment.lookup "PATH").getD "/bin:/usr/bin"
  let paths :=
    if name.contains '/' then [name]
    else (path.splitOn ":").map fun d => if d.isEmpty then name else d ++ "/" ++ name
  tryPaths .noEntry args environment paths

def becomeStatus (e : Errno) : Nat :=
  if e = .noEntry || e = .notDirectory then 127 else 126

def runOther (name label : String) (args : List String) (environment : Environment) :
    Program Nat := do
  let e ← become args environment
  let program := args.headD ""
  Program.complain s!"{name}: {label}'{program}': {e.text}"
  return becomeStatus e

def assignment? (arg : String) : Option (String × String) :=
  let name := arg.toList.takeWhile (· ≠ '=')
  if name.length < arg.length then
    some (String.ofList name, String.ofList (arg.toList.drop (name.length + 1)))
  else none

def environmentText (environment : Environment) : String :=
  unlines (environment.map fun (name, value) => name ++ "=" ++ value)

def env (environment : Environment) (name : String) (args : List String) : Program Nat := do
  let u : Usage :=
    { name := name, letters := "iu:C:S:v0",
      words := [("ignore-environment", 'i'), ("unset", 'u'), ("chdir", 'C'), ("split-string", 'S')]
      stopsEarly := true, status := 125 }
  let a ← Program.arguments u args
  let operands := (((a.value? 'S').map (·.splitOn " ")).getD []).filter (· ≠ "") ++ a.operands
  let (isEmpty, operands) := match operands with
    | "-" :: operands => (true, operands)
    | operands => (a.has 'i', operands)
  let unset := (a.options.filter (·.1 = 'u')).filterMap (·.2)
  let kept := if isEmpty then [] else environment.filter fun (n, _) => !unset.contains n
  let assigned := (operands.takeWhile fun arg => (assignment? arg).isSome).filterMap assignment?
  let environment := assigned.foldl (fun kept (n, v) =>
    if (kept.lookup n).isSome then kept.map fun (m, w) => if m = n then (n, v) else (m, w)
    else kept ++ [(n, v)]) kept
  match a.value? 'C' with
  | none => pure ()
  | some path =>
    match ← Program.ask (.changeDirectory path) with
    | none => pure ()
    | some e =>
      Program.complain s!"{name}: cannot change directory to '{path}': {e.text}"
      Program.exit 125
  match operands.drop assigned.length with
  | [] =>
    let _ ← Program.write 1 (environmentText environment)
    return 0
  | args => runOther name "" args environment

def printenv (environment : Environment) (name : String) (args : List String) : Program Nat := do
  let u := { usage name "0" [("null", '0')] with status := 2 }
  let a ← Program.arguments u args
  if a.operands.isEmpty then
    let _ ← Program.write 1 (environmentText environment)
    return 0
  else
    let found := a.operands.map fun n => environment.lookup n
    let _ ← Program.write 1 (unlines (found.filterMap id))
    return if found.all (·.isSome) then 0 else 1

def nohup (environment : Environment) (name : String) (args : List String) : Program Nat := do
  let u := { usage name "" [] with stopsEarly := true, status := 125 }
  let a ← Program.arguments u args
  if a.operands.isEmpty then u.fail "missing operand"
  else
    Program.ask (.dispose 1 .ignored)
    runOther name "failed to run command " a.operands environment

def nice (environment : Environment) (name : String) (args : List String) : Program Nat := do
  let u := { usage name "n:" [("adjustment", 'n')] with stopsEarly := true, status := 125 }
  let a ← Program.arguments u args
  if a.operands.isEmpty then
    let _ ← Program.write 1 "0\n"
    return 0
  else runOther name "" a.operands environment

def timeout (environment : Environment) (name : String) (args : List String) : Program Nat := do
  let u := { usage name "k:s:v" [("kill-after", 'k'), ("signal", 's'), ("verbose", 'v')] with
    stopsEarly := true, status := 125 }
  let a ← Program.arguments u args
  match a.operands with
  | time :: command :: rest =>
    match duration? time with
    | none => u.fail s!"invalid time interval '{time}'"
    | some micros =>
      let signal := ((a.value? 's').bind Shell.SignalName.toNumber?).getD 15
      let child := runOther name "failed to run command " (command :: rest) environment
      let begun ← Program.ask .clock
      let pid ← Program.ask (.fork child.toTask)
      let clock ← Program.ask (.fork (Program.toTask do
        if micros = 0 then return 0
        Program.ask (.spend micros)
        let _ ← Program.ask (.kill pid signal)
        return 0))
      let waited ← Program.ask (.wait (some pid) false)
      let elapsed := (← Program.ask .clock) - begun
      let _ ← Program.ask (.kill clock 9)
      let _ ← Program.ask (.wait (some clock) false)
      let isOver := micros != 0 && micros ≤ elapsed
      match waited with
      | .ended _ (.code n) => return if isOver then 124 else n
      | .ended _ (.signal n) => return if isOver then (if n = 9 then 137 else 124) else 128 + n
      | _ => return 125
  | _ => u.tryHelp

def xargs (environment : Environment) (name : String) (args : List String) : Program Nat := do
  let u := { usage name "0E:I:L:n:P:rs:tx" [("no-run-if-empty", 'r')] with stopsEarly := true }
  let a ← Program.arguments u args
  match ← Program.content "-" with
  | .error _ => return 1
  | .ok bytes =>
    let text := Text.ofBytes bytes
    let words := (text.splitToList fun c => c = ' ' || c = '\t' || c = '\n').filter (· ≠ "")
    let command := if a.operands.isEmpty then ["echo"] else a.operands
    let count := ((a.value? 'n').bind String.toNat?).getD (words.length + 1)
    let groups : List (List String) :=
      match a.value? 'I' with
      | some mark => (lines text).map fun line => command.map (·.replace mark line)
      | none =>
        if words.isEmpty then (if a.has 'r' then [] else [command])
        else
          (List.range ((words.length + count - 1) / max 1 count)).map fun i =>
            command ++ (words.drop (i * count)).take count
    groups.foldlM (fun status args => do
      let child := runOther name "" args environment
      let pid ← Program.ask (.fork child.toTask)
      match ← Program.ask (.wait (some pid) false) with
      | .ended _ (.code 0) => return status
      | .ended _ (.code n) => return if n = 126 || n = 127 then n else 123
      | _ => return 125) 0

def say (text : String) : Program Nat := do
  let _ ← Program.write 1 (text ++ "\n")
  return 0

def uname (name : String) (args : List String) : Program Nat := do
  let a ← Program.arguments (usage name "asnrvmpio" [("kernel-name", 's'), ("machine", 'm')]) args
  say (if a.has 'm' then "x86_64" else if a.has 'o' then "GNU/Linux" else "Linux")

def id_ (name : String) (args : List String) : Program Nat := do
  let u := usage name "agGnruzZ" [("user", 'u'), ("group", 'g'), ("name", 'n')]
  let a ← Program.arguments u args
  if a.has 'u' || a.has 'g' || a.has 'G' then say (if a.has 'n' then "root" else "0")
  else say "uid=0(root) gid=0(root) groups=0(root)"

def which (environment : Environment) (args : List String) : Program Nat := do
  let directories := ((environment.lookup "PATH").getD "").splitOn ":"
  if args.isEmpty then return 1
  else
    args.foldlM (fun status name => do
      let paths := if name.contains '/' then [name] else directories.map (below · name)
      let found ← paths.filterM fun path => do
        match ← Program.ask (.info path) with
        | .ok info => return !info.isDirectory && info.isExecutable
        | .error _ => return false
      match found with
      | [] => return 1
      | path :: _ =>
        let _ ← Program.write 1 (path ++ "\n")
        return status) 0

/-! ## Expressions -/

def exprLevels : List (List String) :=
  [["|"], ["&"], ["<", "<=", "=", "==", "!=", ">=", ">"], ["+", "-"], ["*", "/", "%"], [":"]]

/-- What `expr` complains about, with the status that it ends with. -/
abbrev ExprResult := Except (String × Nat)

def exprHolds (s : String) : Bool :=
  s ≠ "" && s.toInt? ≠ some 0

def exprApply (operator a b : String) : ExprResult String := do
  let number (s : String) : ExprResult Int :=
    match s.toInt? with
    | some n => return n
    | none => throw ("non-integer argument", 2)
  let ofBool (p : Bool) : String := if p then "1" else "0"
  let compare (numbers : Int → Int → Bool) (texts : String → String → Bool) : String :=
    match a.toInt?, b.toInt? with
    | some m, some n => ofBool (numbers m n)
    | _, _ => ofBool (texts a b)
  match operator with
  | "|" => return if exprHolds a then a else if exprHolds b then b else "0"
  | "&" => return if exprHolds a && exprHolds b then a else "0"
  | "<" => return compare (· < ·) (· < ·)
  | "<=" => return compare (· ≤ ·) (· ≤ ·)
  | "=" | "==" => return compare (· = ·) (· = ·)
  | "!=" => return compare (· ≠ ·) (· ≠ ·)
  | ">=" => return compare (· ≥ ·) (· ≥ ·)
  | ">" => return compare (· > ·) (· > ·)
  | ":" =>
    match (Regex.Expr.ofString false b).matchStart? false [] a.toList with
    | some (n, captured) =>
      return if b.contains '(' then String.ofList ((captured.lookup 1).getD []) else toString n
    | none => return if b.contains '(' then "" else "0"
  | _ =>
    let m ← number a
    let n ← number b
    match operator with
    | "+" => return toString (m + n)
    | "-" => return toString (m - n)
    | "*" => return toString (m * n)
    | _ =>
      if n = 0 then throw ("division by zero", 2)
      else return toString (if operator = "/" then m.tdiv n else m.tmod n)

mutual

def exprValue : (fuel : Nat) → (levels : List (List String)) → List String →
    ExprResult (String × List String)
  | 0, _, _ => throw ("syntax error", 2)
  | fuel + 1, [], args =>
    match args with
    | [] => throw ("syntax error: missing argument", 2)
    | "(" :: rest => do
      let (value, rest) ← exprValue fuel exprLevels rest
      match rest with
      | ")" :: rest => return (value, rest)
      | other :: _ => throw (s!"syntax error: expecting ')' instead of '{other}'", 2)
      | [] => throw (s!"syntax error: expecting ')' after '{value}'", 2)
    | "length" :: text :: rest => return (toString text.length, rest)
    | "+" :: word :: rest => return (word, rest)
    | word :: rest => return (word, rest)
  | fuel + 1, level :: tighter, args => do
    let (first, rest) ← exprValue fuel tighter args
    exprRest fuel level tighter first rest

def exprRest : (fuel : Nat) → (level : List String) → (tighter : List (List String)) →
    (first : String) → List String → ExprResult (String × List String)
  | 0, _, _, first, args => return (first, args)
  | fuel + 1, level, tighter, first, args => do
    match args with
    | operator :: rest =>
      if level.contains operator then
        if rest.isEmpty then throw (s!"syntax error: missing argument after '{operator}'", 2)
        let (second, rest) ← exprValue fuel tighter rest
        exprRest fuel level tighter (← exprApply operator first second) rest
      else return (first, args)
    | [] => return (first, [])

end

def expr (name : String) (args : List String) : Program Nat := do
  let u := { usage name "" [] with status := 2 }
  let args := if args.head? = some "--" then args.tail else args
  if args.isEmpty then u.fail "missing operand"
  else
    match exprValue (16 * (args.length + 1)) exprLevels args with
    | .error (message, status) =>
      Program.complain s!"{name}: {message}"
      return status
    | .ok (value, []) =>
      let _ ← Program.write 1 (value ++ "\n")
      return if exprHolds value then 0 else 1
    | .ok (_, other :: _) =>
      Program.complain s!"{name}: syntax error: unexpected argument '{other}'"
      return 2

end PanelLauncher.Tool
