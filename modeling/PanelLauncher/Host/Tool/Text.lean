import PanelLauncher.Host.Program
import PanelLauncher.Host.Tool.Regex
import PanelLauncher.Shell.Format

/-!
# Programs about text

Programs that read files or their standard input and write some of it in some order.

This is part of the system for test runs and of nothing else. No theorem is about it.
-/

namespace PanelLauncher.Tool

open Program (Usage Arguments)

def usage (name letters : String) (words : List (String × Char)) : Usage :=
  { name := name, letters := letters, words := words, stopsEarly := false, status := 1 }

def lines (s : String) : List String :=
  let parts := s.splitOn "\n"
  if parts.getLast? = some "" then parts.dropLast else parts

def unlines (ls : List String) : String :=
  String.join (ls.map (· ++ "\n"))

def inputs (operands : List String) : List String :=
  if operands.isEmpty then ["-"] else operands

/-- Reads enough of files one after the other; the status tells whether that went well. -/
def eachInputUntil (isEnough : ByteArray → Bool) (operands : List String)
    (failed : (path : String) → Errno → Program Unit)
    (act : (path : String) → String → Program Unit) : Program Nat :=
  (inputs operands).foldlM (fun status path => do
    match ← Program.contentUntil isEnough path with
    | .ok bytes =>
      act path (Text.ofBytes bytes)
      return status
    | .error e =>
      failed path e
      return 1) 0

def eachInput (operands : List String) (failed : (path : String) → Errno → Program Unit)
    (act : (path : String) → String → Program Unit) : Program Nat :=
  eachInputUntil (fun _ => false) operands failed act

def copyFrom (name : String) (path : String) (descriptor : Nat) : (fuel : Nat) → Program Nat
  | 0 => return 0
  | fuel + 1 => do
    match ← Program.ask (.read descriptor 65536) with
    | .error e =>
      Program.complain s!"{name}: {path}: {e.text}"
      if e = .badDescriptor then Program.complain s!"{name}: closing standard input: {e.text}"
      return 1
    | .ok bytes =>
      if bytes.isEmpty then return 0
      match ← Program.writeBytes 1 bytes with
      | none => copyFrom name path descriptor fuel
      | some e =>
        Program.complain s!"{name}: write error: {e.text}"
        Program.exit 1

def cat (name : String) (args : List String) : Program Nat := do
  let a ← Program.arguments (usage name "AbeEnstTuv"
    [("show-all", 'A'), ("number-nonblank", 'b'), ("show-ends", 'E'), ("number", 'n'),
      ("squeeze-blank", 's'), ("show-tabs", 'T'), ("show-nonprinting", 'v')]) args
  if a.has 'n' || a.has 'E' || a.has 'b' || a.has 'A' || a.has 's' then
    let failed (path : String) (e : Errno) : Program Unit :=
      Program.complain s!"{name}: {path}: {e.text}"
    eachInput a.operands failed fun _ text => do
      let shown := (lines text).mapIdx fun i line =>
        let number :=
          if a.has 'n' || a.has 'b' then
            let digits := toString (i + 1)
            String.ofList (List.replicate (6 - digits.length) ' ') ++ digits ++ "\t"
          else ""
        number ++ line ++ (if a.has 'E' || a.has 'A' then "$" else "")
      let _ ← Program.write 1 (unlines shown)
  else
    (inputs a.operands).foldlM (fun status path => do
      if path = "-" then return max status (← copyFrom name path 0 Program.blockLimit)
      let descriptor ← Program.ask (.vacant 3)
      match ← Program.ask (.open_ descriptor path .read) with
      | some e =>
        Program.complain s!"{name}: {path}: {e.text}"
        return 1
      | none =>
        let next ← copyFrom name path descriptor Program.blockLimit
        Program.ask (.close descriptor)
        return max status next) 0

def count (u : Usage) (what value : String) : Program (Char × Nat) := do
  let (sign, digits) := match value.toList with
    | '-' :: cs => ('-', cs)
    | '+' :: cs => ('+', cs)
    | cs => (' ', cs)
  match if digits.isEmpty then none else (String.ofList digits).toNat? with
  | some n => return (sign, n)
  | none =>
    Program.complain s!"{u.name}: invalid number of {what}: '{value}'"
    Program.exit 1

/-- An old spelling of the option for a number of lines: the number itself behind a hyphen. -/
def withCount : List String → List String
  | arg :: args =>
    match arg.toList with
    | '-' :: c :: cs =>
      if c.isDigit then "-n" :: String.ofList (c :: cs) :: args else arg :: args
    | _ => arg :: args
  | [] => []

def cannotOpen (name path : String) (e : Errno) : Program Unit :=
  if e = .isDirectory then Program.complain s!"{name}: error reading '{path}': {e.text}"
  else Program.complain s!"{name}: cannot open '{path}' for reading: {e.text}"

def heading (a : Arguments) (path : String) : String :=
  if a.has 'q' || (a.operands.length ≤ 1 && !a.has 'v') then ""
  else
    let label := if path = "-" then "standard input" else path
    s!"==> {label} <==\n"

def head (name : String) (args : List String) : Program Nat := do
  let u := usage name "c:n:qvz" [("lines", 'n'), ("bytes", 'c'), ("quiet", 'q'), ("verbose", 'v')]
  let a ← Program.arguments u (withCount args)
  let (isBytes, sign, n) ←
    match a.value? 'c', a.value? 'n' with
    | some value, _ => do
      let (sign, n) ← count u "bytes" value
      pure (true, sign, n)
    | none, some value => do
      let (sign, n) ← count u "lines" value
      pure (false, sign, n)
    | none, none => pure (false, ' ', 10)
  let isEnough (bytes : ByteArray) : Bool :=
    if sign = '-' then false
    else if isBytes then n ≤ bytes.size
    else n ≤ bytes.foldl (fun count b => if b = 10 then count + 1 else count) 0
  eachInputUntil isEnough a.operands (cannotOpen name) fun path text => do
    let body :=
      if isBytes then
        let bytes := Text.toBytes text
        Text.ofBytes (bytes.extract 0 (if sign = '-' then bytes.size - n else n))
      else
        let parts := text.splitOn "\n"
        let total := (lines text).length
        let kept := if sign = '-' then total - n else n
        "\n".intercalate (parts.take kept) ++
          (if 0 < kept && kept < parts.length then "\n" else "")
    let _ ← Program.write 1 (heading a path ++ body)

def tail (name : String) (args : List String) : Program Nat := do
  let u := usage name "c:n:fqsvz"
    [("lines", 'n'), ("bytes", 'c'), ("quiet", 'q'), ("verbose", 'v'), ("follow", 'f')]
  let a ← Program.arguments u (withCount args)
  let (isBytes, sign, n) ←
    match a.value? 'c', a.value? 'n' with
    | some value, _ => do
      let (sign, n) ← count u "bytes" value
      pure (true, sign, n)
    | none, some value => do
      let (sign, n) ← count u "lines" value
      pure (false, sign, n)
    | none, none => pure (false, ' ', 10)
  eachInput a.operands (cannotOpen name) fun path text => do
    let from_ (total : Nat) : Nat := if sign = '+' then n - 1 else total - n
    let body :=
      if isBytes then
        let bytes := Text.toBytes text
        Text.ofBytes (bytes.extract (from_ bytes.size) bytes.size)
      else
        let skipped := from_ (lines text).length
        "\n".intercalate ((text.splitOn "\n").drop skipped)
    let _ ← Program.write 1 (heading a path ++ body)

def padLeft (width n : Nat) : String :=
  let digits := toString n
  String.ofList (List.replicate (width - digits.length) ' ') ++ digits

def isBlankByte (b : UInt8) : Bool :=
  b = 32 || (9 ≤ b && b ≤ 13)

def measures (bytes : ByteArray) : List Nat :=
  let bs := bytes.toList
  let starts := bs.foldl (fun (n, wasBlank) b =>
    (if wasBlank && !isBlankByte b then n + 1 else n, isBlankByte b)) (0, true)
  [(bs.filter (· = 10)).length, starts.1, bytes.size]

def wc (name : String) (args : List String) : Program Nat := do
  let u := usage name "clmwL" [("lines", 'l'), ("words", 'w'), ("bytes", 'c'), ("chars", 'm')]
  let a ← Program.arguments u args
  let all := !(a.has 'l' || a.has 'w' || a.has 'c' || a.has 'm')
  let wanted := [all || a.has 'l', all || a.has 'w', all || a.has 'c' || a.has 'm']
  let select (ns : List Nat) : List Nat := ((ns.zip wanted).filter (·.2)).map (·.1)
  let results ← (inputs a.operands).mapM fun path => do
    match ← Program.content path with
    | .ok bytes => return (path, some (measures bytes))
    | .error e =>
      Program.complain s!"{name}: {path}: {e.text}"
      return (path, none)
  let found := results.filterMap fun (path, ns) => ns.map (path, ·)
  let total := found.foldl (fun sums (_, ns) => List.zipWith (· + ·) sums ns) [0, 0, 0]
  let isAlone := a.operands.length ≤ 1 && (select total).length = 1
  let width :=
    if isAlone then 1
    else if a.operands.isEmpty || a.operands.contains "-" then 7
    else (toString (total.getLastD 0)).length
  let show_ (ns : List Nat) (label : String) : String :=
    " ".intercalate ((select ns).map (padLeft width)) ++ label ++ "\n"
  let rows := found.map fun (path, ns) =>
    show_ ns (if a.operands.isEmpty then "" else " " ++ path)
  let last := if 1 < a.operands.length then show_ total " total" else ""
  let _ ← Program.write 1 (String.join rows ++ last)
  return if results.all (·.2.isSome) then 0 else 1

def tee (name : String) (args : List String) : Program Nat := do
  let a ← Program.arguments (usage name "aip" [("append", 'a'), ("ignore-interrupts", 'i')]) args
  let opened ← a.operands.mapM fun path => do
    let descriptor ← Program.ask (.vacant 3)
    match ← Program.ask (.open_ descriptor path (if a.has 'a' then .append else .write)) with
    | none => return some descriptor
    | some e =>
      Program.complain s!"{name}: {path}: {e.text}"
      return none
  copy (1 :: opened.filterMap id) Program.blockLimit
  return if opened.all (·.isSome) then 0 else 1
where
  copy (targets : List Nat) : (fuel : Nat) → Program Unit
    | 0 => return ()
    | fuel + 1 => do
      match ← Program.ask (.read 0 65536) with
      | .error _ => return ()
      | .ok bytes =>
        if bytes.isEmpty then return ()
        targets.forM fun target => do
          let _ ← Program.writeBytes target bytes
        copy targets fuel

def leadingNumber (s : String) : Int :=
  match s.toList.dropWhile (fun c => c = ' ' || c = '\t') with
  | '-' :: cs => -(Int.ofNat (digits cs))
  | cs => Int.ofNat (digits cs)
where
  digits (cs : List Char) : Nat :=
    (cs.takeWhile Char.isDigit).foldl (fun n c => n * 10 + (c.toNat - '0'.toNat)) 0

def sort (name : String) (args : List String) : Program Nat := do
  let u := { usage name "bcdfgihk:mno:rst:uVz"
    [("reverse", 'r'), ("unique", 'u'), ("numeric-sort", 'n')] with status := 2 }
  let a ← Program.arguments u args
  let texts ← (inputs a.operands).mapM fun path => do
    match ← Program.content path with
    | .ok bytes => return lines (Text.ofBytes bytes)
    | .error e =>
      Program.complain s!"{name}: cannot read: {path}: {e.text}"
      Program.exit 2
  let before (x y : String) : Bool :=
    if a.has 'n' then
      let m := leadingNumber x
      let n := leadingNumber y
      m < n || (m = n && x ≤ y)
    else x ≤ y
  let sorted := texts.flatten.mergeSort before
  let sorted := if a.has 'r' then sorted.reverse else sorted
  let sorted :=
    if a.has 'u' then
      sorted.foldr (fun x ys => if ys.head? = some x then ys else x :: ys) []
    else sorted
  let _ ← Program.write 1 (unlines sorted)
  return 0

def runs (ls : List String) : List (Nat × String) :=
  ls.foldr (fun x rs =>
    match rs with
    | (n, y) :: rest => if x = y then (n + 1, y) :: rest else (1, x) :: rs
    | [] => [(1, x)]) []

def uniq (name : String) (args : List String) : Program Nat := do
  let a ← Program.arguments (usage name "cdfisuwz"
    [("count", 'c'), ("repeated", 'd'), ("unique", 'u')]) args
  eachInput (a.operands.take 1) (fun path e => Program.complain s!"{name}: {path}: {e.text}")
    fun _ text => do
      let kept := (runs (lines text)).filter fun (n, _) =>
        (!a.has 'd' || 1 < n) && (!a.has 'u' || n = 1)
      let shown := kept.map fun (n, line) =>
        if a.has 'c' then padLeft 7 n ++ " " ++ line else line
      let _ ← Program.write 1 (unlines shown)

def listHolds (list : String) (n : Nat) : Bool :=
  (list.splitOn ",").any fun part =>
    match part.splitOn "-" with
    | [single] => single.toNat? = some n
    | [low, high] => (low.toNat?.getD 1) ≤ n && (high.toNat?.all fun high => n ≤ high)
    | _ => false

def cut (name : String) (args : List String) : Program Nat := do
  let u := usage name "b:c:d:f:ns" [("bytes", 'b'), ("characters", 'c'), ("delimiter", 'd'),
    ("fields", 'f'), ("only-delimited", 's')]
  let a ← Program.arguments u args
  let positions := (a.value? 'c').or (a.value? 'b')
  let separator := (a.value? 'd').getD "\t"
  match positions, a.value? 'f' with
  | none, none => u.fail "you must specify a list of bytes, characters, or fields"
  | some list, _ =>
    eachInput a.operands (fun path e => Program.complain s!"{name}: {path}: {e.text}")
      fun _ text => do
        let shown := (lines text).map fun line =>
          let bytes := (Text.toBytes line).toList
          let kept := (bytes.mapIdx fun i b => (i + 1, b)).filter fun (i, _) => listHolds list i
          Text.ofBytes ⟨(kept.map (·.2)).toArray⟩
        let _ ← Program.write 1 (unlines shown)
  | none, some list =>
    eachInput a.operands (fun path e => Program.complain s!"{name}: {path}: {e.text}")
      fun _ text => do
        let shown := (lines text).filterMap fun line =>
          match line.splitOn separator with
          | [_] => if a.has 's' then none else some line
          | fields =>
            let kept := (fields.mapIdx fun i f => (i + 1, f)).filter fun (i, _) => listHolds list i
            some (separator.intercalate (kept.map (·.2)))
        let _ ← Program.write 1 (unlines shown)

def charSet : (fuel : Nat) → List Char → List Char
  | 0, _ => []
  | _, [] => []
  | fuel + 1, '[' :: ':' :: cs =>
    let name := cs.takeWhile Char.isLower
    match cs.drop name.length, Shell.CharClass.ofName? (String.ofList name) with
    | ':' :: ']' :: rest, some k =>
      ((List.range 128).map Char.ofNat).filter k.contains ++ charSet fuel rest
    | _, _ => '[' :: ':' :: charSet fuel cs
  | fuel + 1, '\\' :: cs =>
    let (c, rest) := Shell.Format.escape cs
    c :: charSet fuel rest
  | fuel + 1, c :: '-' :: d :: rest =>
    (List.range (d.toNat + 1 - c.toNat)).map (fun n => Char.ofNat (c.toNat + n)) ++
      charSet fuel rest
  | fuel + 1, c :: cs => c :: charSet fuel cs

def tr (name : String) (args : List String) : Program Nat := do
  let u := { usage name "cCdst" [("complement", 'c'), ("delete", 'd'), ("squeeze-repeats", 's')]
    with stopsEarly := true }
  let a ← Program.arguments u args
  let set (s : String) : List Char := charSet (s.length + 1) s.toList
  match a.operands with
  | [] => u.fail "missing operand"
  | first :: rest =>
    if rest.isEmpty && !a.has 'd' && !a.has 's' then
      Program.complain s!"{name}: missing operand after '{first}'"
      Program.complain "Two strings must be given when translating."
      u.tryHelp
    else
      let source := set first
      let target := set (rest.headD "")
      let isMeant (c : Char) : Bool := source.contains c != (a.has 'c' || a.has 'C')
      let translate (c : Char) : Char :=
        if a.has 'd' || target.isEmpty || !isMeant c then c
        else
          match source.findIdx? (· = c) with
          | some i => (target[i]?).getD (target.getLastD c)
          | none => target.getLastD c
      let squeezed (c : Char) : Bool :=
        a.has 's' && (if rest.isEmpty then isMeant c else target.contains c)
      match ← Program.content "-" with
      | .error e =>
        Program.complain s!"{name}: read error: {e.text}"
        return 1
      | .ok bytes =>
        let cs := (Text.ofBytes bytes).toList.filter fun c => !(a.has 'd' && isMeant c)
        let cs := cs.map translate
        let kept := cs.foldl (fun kept c =>
          if squeezed c && kept.head? = some c then kept else c :: kept) []
        let _ ← Program.write 1 (String.ofList kept.reverse)
        return 0

def tac (name : String) (args : List String) : Program Nat := do
  let a ← Program.arguments (usage name "brs:" []) args
  eachInput a.operands (cannotOpen name) fun _ text => do
    let _ ← Program.write 1 (unlines (lines text).reverse)

def rev (name : String) (args : List String) : Program Nat := do
  let a ← Program.arguments (usage name "" []) args
  eachInput a.operands (cannotOpen name) fun _ text => do
    let shown := (lines text).map fun line => String.ofList line.toList.reverse
    let _ ← Program.write 1 (unlines shown)

def grep (isExtended isFixed : Bool) (name : String) (args : List String) : Program Nat := do
  let u := { usage name "EFGPce:hHilnoqsvwxm:" [("ignore-case", 'i'), ("count", 'c'),
    ("quiet", 'q'), ("invert-match", 'v'), ("line-number", 'n'), ("extended-regexp", 'E'),
    ("fixed-strings", 'F'), ("regexp", 'e'), ("only-matching", 'o')] with status := 2 }
  let a ← Program.arguments u args
  let patterns := (a.options.filter (·.1 = 'e')).filterMap (·.2)
  let (patterns, files) := match patterns, a.operands with
    | [], pattern :: files => ([pattern], files)
    | patterns, files => (patterns, files)
  if patterns.isEmpty then
    Program.complain s!"Usage: {name} [OPTION]... PATTERNS [FILE]..."
    u.tryHelp
  else
    let foldsCase := a.has 'i'
    let asExtended := (isExtended || a.has 'E') && !a.has 'G'
    let expressions := (patterns.flatMap (·.splitOn "\n")).map fun p =>
      if isFixed || a.has 'F' then Regex.Expr.sequence (p.toList.map .char)
      else Regex.Expr.ofString asExtended p
    let fits (line : String) : Bool :=
      expressions.any (fun e => e.search foldsCase (a.has 'x') line) != a.has 'v'
    let results ← (inputs files).mapM fun path => do
      match ← Program.content path with
      | .error e =>
        if !a.has 's' then Program.complain s!"{name}: {path}: {e.text}"
        return none
      | .ok bytes =>
        let numbered := (lines (Text.ofBytes bytes)).mapIdx fun i line => (i + 1, line)
        let found := numbered.filter fun (_, line) => fits line
        let label := if 1 < files.length && !a.has 'h' || a.has 'H' then path ++ ":" else ""
        if a.has 'q' then pure ()
        else if a.has 'l' then
          let _ ← Program.write 1 (if found.isEmpty then "" else path ++ "\n")
        else if a.has 'c' then
          let _ ← Program.write 1 s!"{label}{found.length}\n"
        else
          let shown := found.map fun (n, line) =>
            label ++ (if a.has 'n' then s!"{n}:" else "") ++ line
          let _ ← Program.write 1 (unlines shown)
        return some (!found.isEmpty)
    let anyFound := results.any (· = some true)
    return if results.any (·.isNone) && !(a.has 'q' && anyFound) then 2
      else if anyFound then 0 else 1

def echo (args : List String) : Program Nat := do
  let options := args.takeWhile fun arg =>
    match arg.toList with
    | '-' :: c :: cs => (c :: cs).all fun c => c = 'n' || c = 'e' || c = 'E'
    | _ => false
  let words := args.drop options.length
  let letters := options.flatMap String.toList
  let escapes := (letters.filter fun c => c = 'e' || c = 'E').getLast? = some 'e'
  let text := (" ".intercalate words).toList
  let ending := if letters.contains 'n' then [] else ['\n']
  let (body, goesOn) :=
    if escapes then Shell.Format.unescape (text.length + 1) text else (text, true)
  let _ ← Program.write 1 (String.ofList (if goesOn then body ++ ending else body))
  return 0

def printf (name : String) (args : List String) : Program Nat := do
  match args with
  | [] => (usage name "" []).fail "missing operand"
  | format :: args =>
    let p := Shell.Format.printf format args
    p.complaints.reverse.forM fun message => Program.complain s!"{name}: {message}"
    let _ ← Program.write 1 p.text
    return min p.status 1

def seq (name : String) (args : List String) : Program Nat := do
  let u := { usage name "f:s:w" [("separator", 's'), ("equal-width", 'w')] with stopsEarly := true }
  let isNumber (arg : String) : Bool :=
    (arg.startsWith "-") && ((arg.drop 1).toString.toNat?).isSome
  let a ← if (args.head?.map isNumber).getD false then pure ⟨[], args⟩ else Program.arguments u args
  let numbers ← a.operands.mapM fun arg => do
    match arg.toInt? with
    | some n => return n
    | none => u.fail s!"invalid floating point argument: '{arg}'"
  let separator := (a.value? 's').getD "\n"
  let list (first step last : Int) : Program Nat := do
    if step = 0 then u.fail "invalid Zero increment value: '0'"
    else
      let total := ((last - first).tdiv step + 1).toNat
      let isEmpty := (0 < step && last < first) || (step < 0 && first < last)
      let terms := (List.range (if isEmpty then 0 else total)).map fun (n : Nat) =>
        toString (first + step * (n : Int))
      let _ ← Program.write 1 (if terms.isEmpty then "" else separator.intercalate terms ++ "\n")
      return 0
  match numbers with
  | [] => u.fail "missing operand"
  | [last] => list 1 1 last
  | [first, last] => list first 1 last
  | [first, step, last] => list first step last
  | _ =>
    let extra := (a.operands[3]?).getD ""
    u.fail s!"extra operand '{extra}'"

end PanelLauncher.Tool
