import PanelLauncher.Shell.Arithmetic
import PanelLauncher.Shell.Job
import PanelLauncher.Shell.Pattern

/-!
# Expansion of words

Parameters, commands and arithmetic in a word are replaced by what they stand for. The result is
cut into fields at separators that come from an expansion outside of quotes, and fields that hold
a pattern are replaced by the names of the files that fit.

This is part of the system for test runs and of nothing else. No theorem is about it.
-/

namespace PanelLauncher.Shell

inductive Glyph
  /-- A character; a separator ends a field only if it `splits`. -/
  | char (c : Char) (isQuoted splits : Bool)
  /-- Quotes were here: the field counts, even if it is empty. -/
  | mark
  /-- One argument ends and the next begins; an empty one counts if the end is `isHard`. -/
  | gap (isHard : Bool)
  deriving DecidableEq, Repr

namespace Glyph

def ofText (s : String) (isQuoted splits : Bool) : List Glyph :=
  s.toList.map (.char · isQuoted splits)

def text (gs : List Glyph) : String :=
  String.ofList <| gs.filterMap fun g =>
    match g with
    | .char c _ _ => some c
    | _ => none

def pattern (gs : List Glyph) : Pattern :=
  gs.filterMap fun g =>
    match g with
    | .char c isQuoted _ => some (c, isQuoted)
    | _ => none

end Glyph

structure Mode where
  isFull : Bool
  /-- The word stands between the braces of an expansion outside of quotes. -/
  isNested : Bool
  deriving DecidableEq, Repr

/-- How a child of a shell runs the commands whose output a word asks for, up to its end. -/
abbrev Runner := Script → Action Unit

namespace Action

def readAll (descriptor : Nat) : (fuel : Nat) → Action (List ByteArray)
  | 0 => return []
  | fuel + 1 => do
    match ← ask (.read descriptor 65536) with
    | .error _ => return []
    | .ok bytes => if bytes.isEmpty then return [] else return bytes :: (← readAll descriptor fuel)

def outputOf (run : Runner) (body : Script) : Action String := do
  let reader ← ask (.vacant firstOwnDescriptor)
  let writer ← ask (.vacant (reader + 1))
  tell (.pipe reader writer)
  let pid ← forkForeground do
    tell (.close reader)
    let _ ← ask (.duplicate writer 1 false)
    tell (.close writer)
    run body
  tell (.close writer)
  let blocks ← readAll reader 100000
  tell (.close reader)
  let status ← await [pid]
  modify fun s => { s with substitutionStatus := some status }
  let text := Text.ofBytes (blocks.foldl (· ++ ·) .empty)
  let cs := (text.toList.filter (· ≠ '\x00')).reverse.dropWhile (· = '\n')
  return String.ofList cs.reverse

end Action

namespace Parameter

def text : Parameter → String
  | named name => name
  | argument n => toString n
  | argumentCount => "#"
  | lastStatus => "?"
  | ownPid => "$"
  | lastBackground => "!"
  | options => "-"
  | arguments true => "*"
  | arguments false => "@"

def joint : Action String := do
  return String.ofList ((← Action.separators).toList.take 1)

def value? (p : Parameter) : Action (Option String) := do
  let s ← get
  match p with
  | named name => Action.value? name
  | argument 0 => return some s.name
  | argument (n + 1) => return s.args[n]?
  | argumentCount => return some (toString s.args.length)
  | lastStatus => return some (toString s.status)
  | ownPid => return some (toString s.pid)
  | lastBackground => return s.lastBackground.map toString
  | options => return some (String.ofList s.options.reverse)
  | arguments _ => return some ((← joint).intercalate s.args)

def glyphs (m : Mode) (p : Parameter) (isQuoted : Bool) (value : String) :
    Action (List Glyph) := do
  let s ← get
  match p with
  | arguments joined =>
    if m.isFull && (!isQuoted || !joined) then
      let parts := s.args.map fun arg => Glyph.ofText arg isQuoted (!isQuoted)
      return ([Glyph.gap isQuoted] : List Glyph).intercalate parts
    else return Glyph.ofText value isQuoted (m.isFull && !isQuoted)
  | _ => return Glyph.ofText value isQuoted (m.isFull && !isQuoted)

def demand (p : Parameter) : Action String := do
  match ← p.value? with
  | some value => return value
  | none =>
    if ← Action.hasOption 'u' then Action.fail s!"{p.text}: parameter not set" else return ""

end Parameter

mutual

def Piece.glyphs (run : Runner) (m : Mode) : Piece → Action (List Glyph)
  | .char c isQuoted => return [.char c isQuoted (m.isNested && m.isFull && !isQuoted)]
  | .quotes => return [.mark]
  | .parameter p isQuoted => do
    let value ← p.demand
    p.glyphs m isQuoted value
  | .length p isQuoted => do
    let value ← p.demand
    return Glyph.ofText (toString (Text.byteCount value)) isQuoted (m.isFull && !isQuoted)
  | .fallback p kind emptyIsNone word isQuoted => do
    let value := (← p.value?).filter fun value => !(emptyIsNone && value.isEmpty)
    let inWord : Mode := { m with isNested := !isQuoted }
    match value, kind with
    | some _, .alternative => Word.glyphs run inWord word
    | none, .alternative => return []
    | some value, _ => p.glyphs m isQuoted value
    | none, .value => Word.glyphs run inWord word
    | none, .assign => do
      let gs ← Word.glyphs run ⟨false, false⟩ word
      match p with
      | .named name => Action.assign name (Glyph.text gs)
      | p => Action.fail s!"{p.text}: bad variable name"
      p.glyphs m isQuoted (Glyph.text gs)
    | none, .complain => do
      let gs ← Word.glyphs run ⟨false, false⟩ word
      let message :=
        if word.isEmpty then
          if emptyIsNone then "parameter not set or null" else "parameter not set"
        else Glyph.text gs
      Action.fail s!"{p.text}: {message}"
  | .trim p atEnd isLongest pattern isQuoted => do
    let value ← p.demand
    let gs ← Word.glyphs run ⟨false, false⟩ pattern
    let trimmed := (Glyph.pattern gs).trim atEnd isLongest value.toList
    return Glyph.ofText (String.ofList trimmed) isQuoted (m.isFull && !isQuoted)
  | .command body isQuoted => do
    return Glyph.ofText (← Action.outputOf run body) isQuoted (m.isFull && !isQuoted)
  | .arithmetic expression isQuoted => do
    let gs ← Word.glyphs run ⟨false, false⟩ expression
    let n ← Arithmetic.value (Glyph.text gs)
    return Glyph.ofText (toString n.toInt) isQuoted (m.isFull && !isQuoted)
  | .malformed => Action.fail "Bad substitution"

def Word.glyphs (run : Runner) (m : Mode) : List Piece → Action (List Glyph)
  | [] => return []
  | p :: ps => do
    let first ← p.glyphs run m
    return first ++ (← Word.glyphs run m ps)

end

/-! ## Home directories -/

def homeOf (name : String) : Action (Option String) :=
  if name.isEmpty then Action.homeDirectory
  else return if name = "root" then some "/root" else none

def namePrefix (isEnd : Char → Bool) (w : Word) : List Char :=
  (w.takeWhile fun p => (p.bareChar?).any (!isEnd ·)).filterMap Piece.bareChar?

def Word.withHome (isEnd : Char → Bool) (w : Word) : Action Word := do
  match w with
  | .char '~' false :: rest =>
    let name := namePrefix isEnd rest
    let behind := rest.drop name.length
    let ends := match behind with
      | [] => true
      | p :: _ => p.bareChar?.isSome
    if !ends then return w
    else
      match ← homeOf (String.ofList name) with
      | some home => return Word.ofText home.toList ++ behind
      | none => return w
  | w => return w

def Word.atColons : Word → List Word
  | [] => [[]]
  | .char ':' false :: ps => [] :: atColons ps
  | p :: ps =>
    match atColons ps with
    | [] => [[p]]
    | first :: rest => (p :: first) :: rest

def Word.withHomes (w : Word) : Action Word := do
  let isEnd (c : Char) : Bool := c = '/' || c = ':'
  let parts ← w.atColons.mapM (Word.withHome isEnd)
  return ([Piece.char ':' false] : Word).intercalate parts

/-! ## Fields -/

structure Splitting where
  fields : List (List Glyph)
  current : List Glyph
  /-- The separators that are going by may still be joined by one that is no blank. -/
  mayPass : Bool
  isBetween : Bool
  endsHard : Bool

namespace Splitting

def close (s : Splitting) : Splitting :=
  { s with fields := s.current.reverse :: s.fields, current := [] }

def add (s : Splitting) (g : Glyph) : Splitting :=
  { s with current := g :: s.current, isBetween := false, endsHard := false }

/-- A separator goes by; those that are blank end a field only if there is one. -/
def separate (s : Splitting) (isBlank : Bool) : Splitting :=
  if s.isBetween then
    if isBlank then s
    else if s.mayPass then { s with mayPass := false }
    else { s.close with mayPass := false, isBetween := true, endsHard := false }
  else if s.current.isEmpty && isBlank then s
  else { s.close with mayPass := isBlank, isBetween := true, endsHard := false }

def step (separators : String) (s : Splitting) (g : Glyph) : Splitting :=
  match g with
  | .char c _ true =>
    if separators.contains c then s.separate (c = ' ' || c = '\t' || c = '\n') else s.add g
  | .char _ _ false => s.add g
  | .mark => s.add g
  | .gap true => { s.close with isBetween := false, endsHard := true }
  | .gap false => s.separate true

def fieldsOf (separators : String) (gs : List Glyph) : List (List Glyph) :=
  let s := gs.foldl (step separators) ⟨[], [], false, false, false⟩
  let s := if s.endsHard || !s.current.isEmpty then s.close else s
  s.fields.reverse

end Splitting

/-! ## Names of files -/

def Pattern.parts : Pattern → List Pattern
  | [] => [[]]
  | ('/', _) :: cs => [] :: parts cs
  | c :: cs =>
    match parts cs with
    | [] => [[c]]
    | first :: rest => (c :: first) :: rest

/-- The names in a directory that fit; a name with a dot in front asks for that dot. -/
def Pattern.namesIn (p : Pattern) (directory : String) : Action (List String) := do
  let path := if directory.isEmpty then "." else directory
  match ← Action.ask (.list path) with
  | .error _ => return []
  | .ok names =>
    let all := if (p.head?.map (·.1)) = some '.' then "." :: ".." :: names else names
    return all.filter fun name =>
      p.fits name.toList && (!name.startsWith "." || (p.head?.map (·.1)) = some '.')

def Pattern.pathsBehind (path : String) : List Pattern → Action (List String)
  | [] => return []
  | [p] => do
    if p.isGeneral then return (← p.namesIn path).map (path ++ ·)
    else
      let name := path ++ String.ofList (p.map (·.1))
      match ← Action.ask (.info name) with
      | .ok _ => return [name]
      | .error _ => return []
  | p :: ps => do
    let names ← if p.isGeneral then p.namesIn path else pure [String.ofList (p.map (·.1))]
    let found ← names.mapM fun name => pathsBehind (path ++ name ++ "/") ps
    return found.flatten

def expandField (gs : List Glyph) : Action (List String) := do
  let p := Glyph.pattern gs
  if !p.isGeneral || (← Action.hasOption 'f') then return [Glyph.text gs]
  else
    match ← Pattern.pathsBehind "" p.parts with
    | [] => return [Glyph.text gs]
    | paths => return paths.mergeSort

namespace Word

def fields (run : Runner) (w : Word) : Action (List String) := do
  let w ← w.withHome (· = '/')
  let gs ← Word.glyphs run ⟨true, false⟩ w
  let found ← (Splitting.fieldsOf (← Action.separators) gs).mapM expandField
  return found.flatten

/-- The one text that a word becomes where it is not cut. -/
def single (run : Runner) (w : Word) : Action String := do
  let w ← w.withHome (· = '/')
  return Glyph.text (← Word.glyphs run ⟨false, false⟩ w)

def assigned (run : Runner) (w : Word) : Action String := do
  let w ← w.withHomes
  return Glyph.text (← Word.glyphs run ⟨false, false⟩ w)

def pattern (run : Runner) (w : Word) : Action Pattern := do
  let w ← w.withHome (· = '/')
  return Glyph.pattern (← Word.glyphs run ⟨false, false⟩ w)

def document (run : Runner) (w : Word) : Action String := do
  return Glyph.text (← Word.glyphs run ⟨false, false⟩ w)

end Word

end PanelLauncher.Shell
