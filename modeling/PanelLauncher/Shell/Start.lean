import PanelLauncher.Shell.Run

/-!
# A shell from its start to its end

A shell reads its options, takes over the variables that it is given, and runs a script: a file,
the text behind an option, or its standard input.

This is part of the system for test runs and of nothing else. No theorem is about it.
-/

namespace PanelLauncher.Shell

structure Request where
  /-- The script is the first operand. -/
  isText : Bool
  readsInput : Bool
  operands : List String

namespace Request

def read : (fuel : Nat) → List String → Action Request
  | 0, args => return ⟨false, false, args⟩
  | _, [] => return ⟨false, false, []⟩
  | fuel + 1, arg :: args => do
    match arg.toList with
    | ['-'] => return ⟨false, false, args⟩
    | ['-', '-'] => return ⟨false, false, args⟩
    | sign :: letters =>
      if sign = '-' || sign = '+' then
        let isOn := sign = '-'
        let takesName := letters.contains 'o'
        for c in letters do
          if c = 'o' then
            match args with
            | [] =>
              let _ ← Builtin.listOptions (!isOn)
            | name :: _ => Builtin.setNamedOption name isOn
          else if c = 'c' || c = 'l' then pure ()
          else if Builtin.optionLetters.contains c then Builtin.setOption c isOn
          else Action.fail s!"Illegal option -{c}"
        let rest ← read fuel (if takesName then args.tail else args)
        return { rest with
          isText := rest.isText || letters.contains 'c'
          readsInput := rest.readsInput || (isOn && letters.contains 's') }
      else return ⟨false, false, arg :: args⟩
    | [] => return ⟨false, false, arg :: args⟩

end Request

def runLimit : Nat := 10000000

/-- Runs a text from beginning to end, then what has to come before the shell ends. -/
def runWhole (isLast : Bool) (text : String) : Action Unit :=
  Run.toEnd runLimit (Run.source runLimit false isLast (Source.ofText text) false)

def readScript (path : String) : Action String := do
  let descriptor ← Action.ask (.vacant Action.firstOwnDescriptor)
  let blocks : Except Errno (List ByteArray) ←
    match ← Action.ask (.open_ descriptor path .read) with
    | some e => pure (.error e)
    | none => do
      let blocks ← Action.readAll descriptor 100000
      Action.tell (.close descriptor)
      pure (.ok blocks)
  match blocks with
  | .ok blocks => return Text.ofBytes (blocks.foldl (· ++ ·) .empty)
  | .error e =>
    let text := if e = .noEntry || e = .notDirectory then "No such file" else e.text
    Action.fail s!"cannot open {path}: {text}"

def main (args : List String) : Action Unit := do
  let request ← Request.read (args.length + 1) args
  let begin_ (name : Option String) (operands : List String) : Action Unit :=
    modify fun s => { s with name := name.getD s.name, args := operands }
  match request.isText, request.operands with
  | true, [] => Action.fail "-c requires an argument"
  | true, text :: operands =>
    begin_ operands.head? operands.tail
    runWhole true text
  | false, operands =>
    if operands.isEmpty || request.readsInput then
      begin_ none operands
      Builtin.setOption 's' true
      let blocks ← Action.readAll 0 100000
      runWhole false (Text.ofBytes (blocks.foldl (· ++ ·) .empty))
    else
      let path := operands.headD ""
      let text ← readScript path
      begin_ (some path) operands.tail
      runWhole false text

def ownVariables (parent : Nat) (working : String) : List (String × Variable) :=
  let plain (name value : String) : String × Variable := (name, ⟨some value, false, false⟩)
  [plain "IFS" " \t\n", plain "OPTIND" "1", plain "PPID" (toString parent), plain "PS1" "# ",
    plain "PS2" "> ", plain "PS4" "+ ", ("PWD", ⟨some working, true, false⟩),
    plain "PATH" "/usr/local/sbin:/usr/local/bin:/usr/sbin:/usr/bin:/sbin:/bin"]

def startVariables (environment : List (String × String)) (parent : Nat) (working : String) :
    List (String × Variable) :=
  let taken := environment.filter fun (name, _) =>
    Word.isName name && name ∉ ["IFS", "OPTIND", "PPID"]
  let given := taken.map fun (name, value) =>
    let value := if name = "PWD" then working else value
    (name, (⟨some value, true, false⟩ : Variable))
  let own := (ownVariables parent working).filter fun (name, _) => (given.lookup name).isNone
  given ++ own

def State.start (name : String) (environment : List (String × String)) (identity : Identity)
    (working : String) : State :=
  { name := name
    args := []
    bindings := startVariables environment identity.parent working
    locals := []
    functions := []
    status := 0
    savedStatus := none
    pid := identity.pid
    lastBackground := none
    jobs := []
    aliases := []
    interrupted := []
    mask := 18
    options := []
    traps := []
    documents := []
    nextDocument := 1
    line := 0
    sourceLine := 0
    commandName := none
    loops := 0
    functionDepth := 0
    substitutionStatus := none
    optionOffset := 0 }

def task (args : List String) (environment : List (String × String)) : Task :=
  .identity fun identity => .workingDirectory fun working =>
    (main args.tail).toTask (State.start (args.headD "sh") environment identity working)

end PanelLauncher.Shell
