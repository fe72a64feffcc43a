import PanelLauncher.Host.Task
import PanelLauncher.Text.Bytes

/-!
# Writing programs

Programs are written step by step; each step asks the system something and goes on with the answer.
Programs of the system read their options alike: letters behind a hyphen, words behind two.

This is part of the system for test runs and of nothing else. No theorem is about it.
-/

namespace PanelLauncher

/-- A part of a program: what it does, up to a result that the rest goes on with. -/
def Program (α : Type) : Type := (α → Task) → Task

namespace Program

instance : Monad Program where
  pure a := fun k => k a
  bind m f := fun k => m fun a => f a k

def ask {α : Type} (question : (α → Task) → Task) : Program α := question

def exit {α : Type} (status : Nat) : Program α := fun _ => .exit status

instance {α : Type} : Inhabited (Program α) := ⟨exit 0⟩

def toTask (m : Program Nat) : Task := m .exit

def writeBytes (descriptor : Nat) (bytes : ByteArray) : Program (Option Errno) :=
  if bytes.isEmpty then pure none else ask (.write descriptor bytes)

def write (descriptor : Nat) (text : String) : Program (Option Errno) :=
  writeBytes descriptor (Text.toBytes text)

def complain (text : String) : Program Unit := do
  let _ ← write 2 (text ++ "\n")

/-- What can be read from a descriptor until it is enough, after what has been found so far. -/
def readUntil (isEnough : ByteArray → Bool) (descriptor : Nat) :
    (fuel : Nat) → (found : ByteArray) → Program (Except Errno ByteArray)
  | 0, found => pure (.ok found)
  | fuel + 1, found => do
    if isEnough found then return .ok found
    match ← ask (.read descriptor 65536) with
    | .error e => return .error e
    | .ok bytes =>
      if bytes.isEmpty then return .ok found
      else readUntil isEnough descriptor fuel (found ++ bytes)

def blockLimit : Nat := 10000

def contentUntil (isEnough : ByteArray → Bool) (path : String) :
    Program (Except Errno ByteArray) := do
  if path = "-" then readUntil isEnough 0 blockLimit .empty
  else
    let descriptor ← ask (.vacant 3)
    match ← ask (.open_ descriptor path .read) with
    | some e => return .error e
    | none =>
      let result ← readUntil isEnough descriptor blockLimit .empty
      ask (.close descriptor)
      return result

def content (path : String) : Program (Except Errno ByteArray) :=
  contentUntil (fun _ => false) path

/-! ## Options -/

structure Usage where
  name : String
  /-- The letters of the options; a colon follows those that take a value. -/
  letters : String
  words : List (String × Char)
  /-- Options can only be in front of the other arguments. -/
  stopsEarly : Bool
  status : Nat

structure Arguments where
  options : List (Char × Option String)
  operands : List String

def Arguments.has (a : Arguments) (c : Char) : Bool :=
  a.options.any (·.1 = c)

def Arguments.value? (a : Arguments) (c : Char) : Option String :=
  (a.options.reverse.lookup c).join

namespace Usage

def tryHelp {α : Type} (u : Usage) : Program α := do
  complain s!"Try '{u.name} --help' for more information."
  exit u.status

def fail {α : Type} (u : Usage) (message : String) : Program α := do
  complain s!"{u.name}: {message}"
  u.tryHelp

def takesValue? (u : Usage) (c : Char) : Option Bool :=
  let behind := u.letters.toList.dropWhile (· ≠ c)
  if c = ':' || behind.isEmpty then none else some (behind[1]? = some ':')

def readLetters (u : Usage) : List Char → List String →
    Program (List (Char × Option String) × List String)
  | [], args => return ([], args)
  | c :: cs, args => do
    match u.takesValue? c with
    | none => u.fail s!"invalid option -- '{c}'"
    | some false =>
      let (more, rest) ← readLetters u cs args
      return ((c, none) :: more, rest)
    | some true =>
      match cs, args with
      | [], [] => u.fail s!"option requires an argument -- '{c}'"
      | [], value :: rest => return ([(c, some value)], rest)
      | cs, args => return ([(c, some (String.ofList cs))], args)

def readWord (u : Usage) (arg : String) (args : List String) :
    Program ((Char × Option String) × List String) := do
  let name := arg.toList.takeWhile (· ≠ '=')
  let value := arg.toList.drop (name.length + 1)
  let hasValue := name.length < arg.length
  match u.words.lookup (String.ofList (name.drop 2)) with
  | none => u.fail s!"unrecognized option '{arg}'"
  | some c =>
    if u.takesValue? c = some true then
      if hasValue then return ((c, some (String.ofList value)), args)
      else
        match args with
        | [] => u.fail s!"option '{arg}' requires an argument"
        | value :: rest => return ((c, some value), rest)
    else return ((c, none), args)

def read (u : Usage) : (fuel : Nat) → List String → Program Arguments
  | 0, args => return ⟨[], args⟩
  | _, [] => return ⟨[], []⟩
  | fuel + 1, arg :: args => do
    if arg = "--" then return ⟨[], args⟩
    else if arg.startsWith "--" then
      let (option, rest) ← u.readWord arg args
      let a ← u.read fuel rest
      return { a with options := option :: a.options }
    else if arg.startsWith "-" && arg ≠ "-" then
      let (options, rest) ← u.readLetters (arg.toList.drop 1) args
      let a ← u.read fuel rest
      return { a with options := options ++ a.options }
    else if u.stopsEarly then return ⟨[], arg :: args⟩
    else
      let a ← u.read fuel args
      return { a with operands := arg :: a.operands }

end Usage

def arguments (u : Usage) (args : List String) : Program Arguments :=
  u.read (args.length + 1) args

end Program

end PanelLauncher
