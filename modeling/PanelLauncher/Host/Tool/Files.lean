import PanelLauncher.Host.Tool.Text

/-!
# Programs about files

Programs that list, make, move and remove files and directories, and those that take paths apart.

This is part of the system for test runs and of nothing else. No theorem is about it.
-/

namespace PanelLauncher.Tool

open Program (Usage Arguments)

def below (directory name : String) : String :=
  if directory.endsWith "/" then directory ++ name else directory ++ "/" ++ name

def each (operands : List String) (act : String → Program Bool) : Program Nat :=
  operands.foldlM (fun status path => do
    return if ← act path then status else 1) 0

def isDirectory (path : String) : Program Bool := do
  return ((← Program.ask (.info path)).toOption.map (·.isDirectory)).getD false

def ls (name : String) (args : List String) : Program Nat := do
  let u := { usage name "aAbBcCdfFgGhHiIklLmnNopqQrRsStTuUvwxXZ1"
    [("all", 'a'), ("almost-all", 'A'), ("directory", 'd'), ("reverse", 'r')] with status := 2 }
  let a ← Program.arguments u args
  let operands := if a.operands.isEmpty then ["."] else a.operands
  let known ← operands.mapM fun path => do
    return (path, ← Program.ask (.info path))
  known.forM fun (path, info) =>
    match info with
    | .error e => Program.complain s!"{name}: cannot access '{path}': {e.text}"
    | .ok _ => return ()
  let present := known.filterMap fun (path, info) => info.toOption.map (path, ·)
  let order (names : List String) : List String :=
    let sorted := names.mergeSort
    if a.has 'r' then sorted.reverse else sorted
  let listed (info : FileInfo) : Bool := info.isDirectory && !a.has 'd'
  let plain := order ((present.filter fun (_, info) => !listed info).map (·.1))
  let _ ← Program.write 1 (unlines plain)
  let directories := order ((present.filter fun (_, info) => listed info).map (·.1))
  let mut isFirst := plain.isEmpty
  for path in directories do
    let names := ((← Program.ask (.list path)).toOption).getD []
    let names :=
      if a.has 'a' then "." :: ".." :: names
      else if a.has 'A' then names
      else names.filter (!·.startsWith ".")
    let title := if 1 < operands.length then s!"{path}:\n" else ""
    let _ ← Program.write 1 ((if isFirst then "" else "\n") ++ title ++ unlines (order names))
    isFirst := false
  return if known.all fun (_, info) => info.toOption.isSome then 0 else 2

def ancestors (path : String) : List String :=
  let root := if path.startsWith "/" then "/" else ""
  let names := FileTree.names path
  (List.range names.length).map fun n => root ++ "/".intercalate (names.take (n + 1))

def mkdir (name : String) (args : List String) : Program Nat := do
  let u := usage name "m:pvZ" [("parents", 'p'), ("mode", 'm'), ("verbose", 'v')]
  let a ← Program.arguments u args
  if a.operands.isEmpty then u.fail "missing operand"
  else
    let make (path : String) : Program Bool := do
      match ← Program.ask (.change (.makeDirectory path)) with
      | none => return true
      | some e =>
        Program.complain s!"{name}: cannot create directory '{path}': {e.text}"
        return false
    each a.operands fun path => do
      if a.has 'p' then
        (ancestors path).foldlM (fun succeeded part => do
          if !succeeded then return false
          else if ← isDirectory part then return true
          else make part) true
      else make path

def rmdir (name : String) (args : List String) : Program Nat := do
  let u := usage name "pv" [("parents", 'p'), ("verbose", 'v')]
  let a ← Program.arguments u args
  if a.operands.isEmpty then u.fail "missing operand"
  else
    each a.operands fun path => do
      match ← Program.ask (.change (.removeDirectory path)) with
      | none => return true
      | some e =>
        Program.complain s!"{name}: failed to remove '{path}': {e.text}"
        return false

def removeTree (name : String) : (fuel : Nat) → (path : String) → Program Bool
  | 0, _ => return false
  | fuel + 1, path => do
    let result ←
      if ← isDirectory path then do
        let names := ((← Program.ask (.list path)).toOption).getD []
        names.forM fun n => do
          let _ ← removeTree name fuel (below path n)
        Program.ask (.change (.removeDirectory path))
      else Program.ask (.change (.remove path))
    match result with
    | none => return true
    | some e =>
      Program.complain s!"{name}: cannot remove '{path}': {e.text}"
      return false

def rm (name : String) (args : List String) : Program Nat := do
  let u := usage name "dfiIrRv" [("force", 'f'), ("recursive", 'r'), ("verbose", 'v')]
  let a ← Program.arguments u args
  if a.operands.isEmpty then
    if a.has 'f' then return 0 else u.fail "missing operand"
  else
    each a.operands fun path => do
      match ← Program.ask (.info path) with
      | .error e =>
        if a.has 'f' && (e = .noEntry || e = .notDirectory) then return true
        Program.complain s!"{name}: cannot remove '{path}': {e.text}"
        return false
      | .ok info =>
        if info.isDirectory && !(a.has 'r' || a.has 'R') then
          Program.complain s!"{name}: cannot remove '{path}': {Errno.isDirectory.text}"
          return false
        else removeTree name 100 path

def touch (name : String) (args : List String) : Program Nat := do
  let u := usage name "acd:fhmr:t:" [("no-create", 'c'), ("date", 'd'), ("reference", 'r')]
  let a ← Program.arguments u args
  match a.value? 'd' with
  | some date =>
    if !(date.any Char.isDigit) && date ∉ ["now", "today", "yesterday", "tomorrow", ""] then
      Program.complain s!"{name}: invalid date format '{date}'"
      return 1
  | none => pure ()
  if a.operands.isEmpty then u.fail "missing file operand"
  else
    each a.operands fun path => do
      match ← Program.ask (.info path) with
      | .ok _ => return true
      | .error _ =>
        if a.has 'c' then return true
        let descriptor ← Program.ask (.vacant 3)
        match ← Program.ask (.open_ descriptor path .append) with
        | none =>
          Program.ask (.close descriptor)
          return true
        | some e =>
          Program.complain s!"{name}: cannot touch '{path}': {e.text}"
          return false

/-- Sources and the place that they go to: the last operand, or a path inside of it. -/
def withTarget (u : Usage) (operands : List String)
    (act : (source target : String) → Program Bool) : Program Nat := do
  match operands with
  | [] => u.fail "missing file operand"
  | [single] => u.fail s!"missing destination file operand after '{single}'"
  | operands =>
    let target := operands.getLastD ""
    let sources := operands.dropLast
    let inside ← isDirectory target
    if 1 < sources.length && !inside then
      Program.complain s!"{u.name}: target '{target}': {Errno.notDirectory.text}"
      return 1
    each sources fun source => do
      let base := (FileTree.names source).getLastD source
      act source (if inside then below target base else target)

def mv (name : String) (args : List String) : Program Nat := do
  let u := usage name "bfinuvT" [("force", 'f'), ("no-clobber", 'n'), ("verbose", 'v')]
  let a ← Program.arguments u args
  withTarget u a.operands fun source target => do
    match ← Program.ask (.info source) with
    | .error e =>
      Program.complain s!"{name}: cannot stat '{source}': {e.text}"
      return false
    | .ok _ =>
      match ← Program.ask (.change (.rename source target)) with
      | none => return true
      | some e =>
        Program.complain s!"{name}: cannot move '{source}' to '{target}': {e.text}"
        return false

def copyTree (name : String) (isRecursive : Bool) : (fuel : Nat) → (source target : String) →
    Program Bool
  | 0, _, _ => return false
  | fuel + 1, source, target => do
    match ← Program.ask (.info source) with
    | .error e =>
      Program.complain s!"{name}: cannot stat '{source}': {e.text}"
      return false
    | .ok info =>
      if info.isDirectory then
        if !isRecursive then
          Program.complain s!"{name}: -r not specified; omitting directory '{source}'"
          return false
        else
          let _ ← Program.ask (.change (.makeDirectory target))
          let names := ((← Program.ask (.list source)).toOption).getD []
          names.foldlM (fun succeeded n => do
            let next ← copyTree name isRecursive fuel (below source n) (below target n)
            return succeeded && next) true
      else
        match ← Program.content source with
        | .error e =>
          Program.complain s!"{name}: cannot open '{source}' for reading: {e.text}"
          return false
        | .ok bytes =>
          let existed := ((← Program.ask (.info target)).toOption).isSome
          let descriptor ← Program.ask (.vacant 3)
          match ← Program.ask (.open_ descriptor target .write) with
          | some e =>
            Program.complain s!"{name}: cannot create regular file '{target}': {e.text}"
            return false
          | none =>
            let _ ← Program.writeBytes descriptor bytes
            Program.ask (.close descriptor)
            if info.isExecutable && !existed then
              let _ ← Program.ask (.change (.setExecutable target true))
            return true

def cp (name : String) (args : List String) : Program Nat := do
  let u := usage name "abdfHilLnpPrRsuvxT" [("recursive", 'r'), ("archive", 'a'), ("force", 'f')]
  let a ← Program.arguments u args
  let isRecursive := a.has 'r' || a.has 'R' || a.has 'a'
  withTarget u a.operands fun source target => copyTree name isRecursive 100 source target

def chmod (name : String) (args : List String) : Program Nat := do
  let u := { usage name "cfRv" [("recursive", 'R')] with stopsEarly := true }
  match args with
  | [] => u.fail "missing operand"
  | [mode] => u.fail s!"missing operand after '{mode}'"
  | mode :: paths =>
    let value : Option Bool :=
      if mode.any Char.isDigit then some (mode.any fun c => ['1', '3', '5', '7'].contains c)
      else if mode.contains 'x' then some (!mode.contains '-')
      else none
    each paths fun path => do
      match ← Program.ask (.info path) with
      | .error e =>
        Program.complain s!"{name}: cannot access '{path}': {e.text}"
        return false
      | .ok _ =>
        value.forM fun value => do
          let _ ← Program.ask (.change (.setExecutable path value))
        return true

/-! ## Paths -/

def withoutSlashes (path : String) : String :=
  let kept := (path.toList.reverse.dropWhile (· = '/')).reverse
  if kept.isEmpty && !path.isEmpty then "/" else String.ofList kept

def lastName (path : String) : String :=
  let path := withoutSlashes path
  if path = "/" then path else (path.splitOn "/").getLastD ""

def directoryName (path : String) : String :=
  let path := withoutSlashes path
  if path = "/" then path
  else
    match (path.splitOn "/").dropLast with
    | [] => "."
    | parts =>
      let kept := "/".intercalate parts
      if kept.isEmpty then "/" else withoutSlashes kept

def basename (name : String) (args : List String) : Program Nat := do
  let u := { usage name "as:z" [("multiple", 'a'), ("suffix", 's')] with stopsEarly := true }
  let a ← Program.arguments u args
  let trimmed (path suffix : String) : String :=
    let base := lastName path
    if base ≠ suffix && base.endsWith suffix then
      String.ofList (base.toList.take (base.length - suffix.length))
    else base
  match a.operands with
  | [] => u.fail "missing operand"
  | paths =>
    if a.has 'a' || a.has 's' then
      let _ ← Program.write 1 (unlines (paths.map (trimmed · ((a.value? 's').getD ""))))
      return 0
    else
      match paths with
      | path :: suffix :: extra :: _ =>
        let _ := path ++ suffix
        u.fail s!"extra operand '{extra}'"
      | path :: rest =>
        let _ ← Program.write 1 (trimmed path (rest.headD "") ++ "\n")
        return 0
      | [] => return 0

def dirname (name : String) (args : List String) : Program Nat := do
  let u := usage name "z" [("zero", 'z')]
  let a ← Program.arguments u args
  if a.operands.isEmpty then u.fail "missing operand"
  else
    let _ ← Program.write 1 (unlines (a.operands.map directoryName))
    return 0

def pwd (name : String) (args : List String) : Program Nat := do
  let _ ← Program.arguments (usage name "LP" [("logical", 'L'), ("physical", 'P')]) args
  let _ ← Program.write 1 ((← Program.ask .workingDirectory) ++ "\n")
  return 0

def absolute (working path : String) : String :=
  let parts := (if path.startsWith "/" then [] else FileTree.names working) ++ FileTree.names path
  let kept := parts.foldl (fun kept part =>
    if part = "." then kept else if part = ".." then kept.dropLast else kept ++ [part]) []
  "/" ++ "/".intercalate kept

def realpath (name : String) (args : List String) : Program Nat := do
  let u := usage name "eLmPqsz" [("canonicalize-existing", 'e'), ("quiet", 'q')]
  let a ← Program.arguments u args
  if a.operands.isEmpty then u.fail "missing operand"
  else
    each a.operands fun path => do
      let parent ← Program.ask (.info (directoryName path))
      match parent with
      | .error e =>
        Program.complain s!"{name}: {path}: {e.text}"
        return false
      | .ok _ =>
        let working ← Program.ask .workingDirectory
        let _ ← Program.write 1 (absolute working path ++ "\n")
        return true

/-- No file here is a link, so that there is nothing to read. -/
def readlink (name : String) (args : List String) : Program Nat := do
  let u := usage name "efmnqsvz" [("canonicalize", 'f')]
  let a ← Program.arguments u args
  if a.operands.isEmpty then u.fail "missing operand"
  else if a.has 'f' || a.has 'e' || a.has 'm' then
    each a.operands fun path => do
      let working ← Program.ask .workingDirectory
      let _ ← Program.write 1 (absolute working path ++ "\n")
      return true
  else return 1

end PanelLauncher.Tool
