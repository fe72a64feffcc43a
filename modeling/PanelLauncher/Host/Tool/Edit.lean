import PanelLauncher.Host.Tool.Text

/-!
# Editing text line by line

A small editor of streams: every line goes through a list of instructions, each of which may be
meant for some lines only.

This is part of the system for test runs and of nothing else. No theorem is about it.
-/

namespace PanelLauncher.Tool.Edit

open Program (Usage Arguments)

inductive Address
  | number (n : Nat)
  | last
  | pattern (e : Regex.Expr)

inductive Operation
  | print
  | delete
  | quit
  | number
  | substitute (e : Regex.Expr) (replacement : List Char) (isGlobal prints foldsCase : Bool)
  | append (text : String)
  | insert (text : String)
  | change (text : String)

structure Instruction where
  first : Option Address
  last : Option Address
  isNegated : Bool
  operation : Operation

/-! ## Reading -/

/-- The text up to a delimiter that no backslash precedes, and the rest behind it. -/
def upTo (delimiter : Char) : List Char → Option (List Char × List Char)
  | [] => none
  | '\\' :: c :: cs =>
    (upTo delimiter cs).map fun (text, rest) =>
      (if c = delimiter then c :: text else '\\' :: c :: text, rest)
  | c :: cs =>
    if c = delimiter then some ([], cs)
    else (upTo delimiter cs).map fun (text, rest) => (c :: text, rest)

def address? (isExtended : Bool) (cs : List Char) : Option (Address × List Char) :=
  match cs with
  | '$' :: cs => some (.last, cs)
  | '/' :: cs =>
    (upTo '/' cs).map fun (text, rest) =>
      (.pattern (.ofString isExtended (String.ofList text)), rest)
  | cs =>
    let digits := cs.takeWhile Char.isDigit
    if digits.isEmpty then none
    else (String.ofList digits).toNat?.map fun n => (.number n, cs.drop digits.length)

def addedText (cs : List Char) : String :=
  let cs := cs.dropWhile fun c => c = ' ' || c = '\\' || c = '\n'
  String.ofList cs

def operation? (isExtended : Bool) (cs : List Char) : Option (Operation × List Char) :=
  match cs with
  | 'p' :: cs => some (.print, cs)
  | 'd' :: cs => some (.delete, cs)
  | 'q' :: cs => some (.quit, cs)
  | '=' :: cs => some (.number, cs)
  | 'a' :: cs => some (.append (addedText cs), [])
  | 'i' :: cs => some (.insert (addedText cs), [])
  | 'c' :: cs => some (.change (addedText cs), [])
  | 's' :: delimiter :: cs => do
    let (pattern, cs) ← upTo delimiter cs
    let (replacement, cs) ← upTo delimiter cs
    let flags := cs.takeWhile fun c => "gpIi".toList.contains c
    let e := Regex.Expr.ofString isExtended (String.ofList pattern)
    return (.substitute e replacement (flags.contains 'g') (flags.contains 'p')
      (flags.contains 'i' || flags.contains 'I'), cs.drop flags.length)
  | _ => none

def instructions? (isExtended : Bool) : (fuel : Nat) → List Char → Option (List Instruction)
  | 0, _ => some []
  | fuel + 1, cs =>
    match cs.dropWhile fun c => c = ' ' || c = ';' || c = '\n' with
    | [] => some []
    | cs => do
      let (first, cs) := match address? isExtended cs with
        | some (a, cs) => (some a, cs)
        | none => (none, cs)
      let (last, cs) := match cs with
        | ',' :: behind =>
          match address? isExtended behind with
          | some (a, cs) => (some a, cs)
          | none => (none, cs)
        | cs => (none, cs)
      let cs := cs.dropWhile (· = ' ')
      let (isNegated, cs) := match cs with
        | '!' :: cs => (true, cs.dropWhile (· = ' '))
        | cs => (false, cs)
      let (operation, cs) ← operation? isExtended cs
      let rest ← instructions? isExtended fuel cs
      return ⟨first, last, isNegated, operation⟩ :: rest

/-! ## Working -/

def Address.isAt (a : Address) (line : String) (n total : Nat) : Bool :=
  match a with
  | number m => m = n
  | last => n = total
  | pattern e => e.search false false line

/-- Whether an instruction is meant for a line, and whether it is for the next one, too. -/
def Instruction.covers (i : Instruction) (isOpen : Bool) (line : String) (n total : Nat) :
    Bool × Bool :=
  let (isMeant, staysOpen) := match i.first, i.last with
    | none, _ => (true, false)
    | some a, none => (a.isAt line n total, false)
    | some a, some b =>
      if isOpen then (true, !b.isAt line n total)
      else if a.isAt line n total then
        (true, match b with
          | .number m => n < m
          | .last => n < total
          | .pattern _ => true)
      else (false, false)
  (isMeant != i.isNegated, staysOpen)

def replacementText (matched : List Char) (captured : List (Nat × List Char)) :
    List Char → List Char
  | [] => []
  | '&' :: cs => matched ++ replacementText matched captured cs
  | '\\' :: 'n' :: cs => '\n' :: replacementText matched captured cs
  | '\\' :: c :: cs =>
    let text := if c.isDigit then (captured.lookup (c.toNat - '0'.toNat)).getD [] else [c]
    text ++ replacementText matched captured cs
  | c :: cs => c :: replacementText matched captured cs

structure Progress where
  line : String
  written : List String
  appended : List String
  isDeleted : Bool
  isLast : Bool

def Operation.apply (o : Operation) (n : Nat) (p : Progress) : Progress :=
  match o with
  | print => { p with written := p.line :: p.written }
  | delete => { p with isDeleted := true }
  | quit => { p with isLast := true }
  | number => { p with written := toString n :: p.written }
  | append text => { p with appended := text :: p.appended }
  | insert text => { p with written := text :: p.written }
  | change text => { p with written := text :: p.written, isDeleted := true }
  | substitute e replacement isGlobal prints foldsCase =>
    let (line, found) := e.replace foldsCase isGlobal
      (fun matched captured => replacementText matched captured replacement)
      (p.line.length + 1) [] p.line.toList
    let line := String.ofList line
    { p with line := line, written := if prints && found then line :: p.written else p.written }

/-- One line through the instructions, each with whether its range is open. -/
def applyAll (n total : Nat) : List (Instruction × Bool) → Progress →
    List (Instruction × Bool) × Progress
  | [], p => ([], p)
  | (i, isOpen) :: rest, p =>
    if p.isDeleted || p.isLast then ((i, isOpen) :: rest, p)
    else
      let (isMeant, staysOpen) := i.covers isOpen p.line n total
      let p := if isMeant then i.operation.apply n p else p
      let (rest, p) := applyAll n total rest p
      ((i, staysOpen) :: rest, p)

def run (isQuiet : Bool) (total : Nat) : (n : Nat) → List (Instruction × Bool) → List String →
    List String
  | _, _, [] => []
  | n, instructions, line :: lines =>
    let (instructions, p) := applyAll n total instructions ⟨line, [], [], false, false⟩
    let own := if p.isDeleted || isQuiet then [] else [p.line]
    let shown := p.written.reverse ++ own ++ p.appended.reverse
    if p.isLast then shown else shown ++ run isQuiet total (n + 1) instructions lines

def edit (name : String) (args : List String) : Program Nat := do
  let u := usage name "bf:e:Enrsuz" [("quiet", 'n'), ("silent", 'n'), ("expression", 'e'),
    ("regexp-extended", 'E')]
  let a ← Program.arguments u args
  let given := (a.options.filter (·.1 = 'e')).filterMap (·.2)
  let (scripts, files) := match given, a.operands with
    | [], script :: files => ([script], files)
    | scripts, files => (scripts, files)
  if scripts.isEmpty then
    Program.complain s!"Usage: {name} [OPTION]... [input-file]..."
    Program.exit 1
  else
    let text := ("\n".intercalate scripts).toList
    match instructions? (a.has 'E' || a.has 'r') (text.length + 1) text with
    | none =>
      Program.complain s!"{name}: -e expression #1, char 1: unknown command"
      return 1
    | some instructions =>
      let results ← (inputs files).mapM fun path => do
        match ← Program.content path with
        | .ok bytes => return (lines (Text.ofBytes bytes), true)
        | .error e =>
          Program.complain s!"{name}: can't read {path}: {e.text}"
          return ([], false)
      let all := results.flatMap (·.1)
      let shown := run (a.has 'n') all.length 1 (instructions.map (·, false)) all
      let _ ← Program.write 1 (unlines shown)
      return if results.all (·.2) then 0 else 2

end PanelLauncher.Tool.Edit
