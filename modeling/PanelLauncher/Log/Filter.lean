import PanelLauncher.Log.Event
import PanelLauncher.Log.Pattern
import PanelLauncher.Text.Quoted

/-!
# Which events are shown, and how

A filter is a list of directives, separated by commas: a level for all events, or a target with an
optional level, either with conditions between brackets. A directive concerns the targets whose
names begin with its own; of several the most specific decides. A filter that cannot be read is as
good as none.
-/

namespace PanelLauncher.Log

/-- The least severe level that a directive lets through; `none` lets nothing through. -/
abbrev Threshold := Option Level

/-- A field that a directive asks for, and whether it asks for a value of it. -/
structure FieldCondition where
  name : String
  hasValue : Bool
  deriving DecidableEq, Repr

structure Directive where
  target : Option String
  span : Option String
  field : Option FieldCondition
  threshold : Threshold
  deriving DecidableEq, Repr

structure Filter where
  directives : List Directive
  deriving DecidableEq, Repr

namespace Threshold

def ofNumber? : Nat → Option Threshold
  | 0 => some none
  | 1 => some (some .error)
  | 2 => some (some .warn)
  | 3 => some (some .info)
  | 4 => some (some .debug)
  | 5 => some (some .trace)
  | _ => none

def ofName? (s : String) : Option Threshold :=
  match s.toLower with
  | "off" => some none
  | "error" => some (some .error)
  | "warn" => some (some .warn)
  | "info" => some (some .info)
  | "debug" => some (some .debug)
  | "trace" => some (some .trace)
  | _ => none

def readNumber? (s : String) : Option Nat :=
  match s.toList with
  | '+' :: cs => Literal.readNat? 10 cs
  | cs => Literal.readNat? 10 cs

def ofString? (s : String) : Option Threshold :=
  match (readNumber? s).bind ofNumber? with
  | some t => some t
  | none => ofName? s

def everything : Threshold := some .trace

/-- The threshold behind an equals sign, where nothing stands for everything. -/
def ofLevelText? (s : String) : Option Threshold :=
  if s.isEmpty then some everything else ofString? s

def admits (t : Threshold) (level : Level) : Bool :=
  t.any fun least => level.verbosity ≤ least.verbosity

end Threshold

namespace FieldCondition

def ofString? (s : String) : Option FieldCondition :=
  let name := s.toList.takeWhile (· ≠ '=')
  match s.toList.drop name.length with
  | [] => if name.isEmpty then none else some ⟨String.ofList name, false⟩
  | _ :: rest =>
    if isFieldValue (rest.takeWhile (· ≠ '=')) then some ⟨String.ofList name, true⟩ else none

end FieldCondition

namespace Directive

def slice (start stop : Nat) (cs : List Char) : String :=
  String.ofList (go 0 cs)
where
  go (offset : Nat) : List Char → List Char
    | [] => []
    | c :: cs =>
      if stop ≤ offset then []
      else if start ≤ offset then c :: go (offset + c.utf8Size) cs
      else go (offset + c.utf8Size) cs

/-- What has been read of a directive, with the offset where a part begins that is not complete. -/
inductive Reading
  | start
  | levelOrTarget (start : Nat)
  | span (start : Nat)
  | field (start : Nat)
  | fields
  | conditions
  | level (start : Nat)
  deriving DecidableEq, Repr

def everything : Directive := ⟨none, none, none, .everything⟩

def isStart (c : Char) : Bool :=
  c = '-' || c = ':' || c = '_' || Text.isAlphanumeric c

/--
Reads one more character, which lies at a byte offset; the parts are cut out by `cut`. A bracket
opens conditions, an equals sign behind the target or the conditions a level.
-/
def step? (cut : Nat → Nat → String) (offset : Nat) (c : Char) :
    Reading × Directive → Option (Reading × Directive)
  | (.start, d) =>
    if c = '[' then some (.span (offset + 1), d)
    else if isStart c then some (.levelOrTarget offset, d)
    else none
  | (.levelOrTarget start, d) =>
    if c = '=' then some (.level (offset + 1), { d with target := some (cut start offset) })
    else if c = '[' then some (.span (offset + 1), { d with target := some (cut start offset) })
    else some (.levelOrTarget start, d)
  | (.span start, d) =>
    if c = ']' then some (.conditions, { d with span := some (cut start offset) })
    else if c = '{' then
      let name := cut start offset
      some (.field (offset + 1), { d with span := if name.isEmpty then none else some name })
    else some (.span start, d)
  | (.field start, d) =>
    if c = '}' then
      (FieldCondition.ofString? (cut start offset)).map fun f =>
        (.fields, { d with field := some f })
    else some (.field start, d)
  | (.fields, d) => if c = ']' then some (.conditions, d) else none
  | (.conditions, d) => if c = '=' then some (.level (offset + 1), d) else none
  | (.level start, d) => some (.level start, d)

def steps? (cut : Nat → Nat → String) (offset : Nat) (r : Reading × Directive) :
    List Char → Option (Reading × Directive)
  | [] => some r
  | c :: cs => (step? cut offset c r).bind fun r => steps? cut (offset + c.utf8Size) r cs

def finish? (rest : Nat → String) : Reading × Directive → Option Directive
  | (.levelOrTarget start, d) =>
    match Threshold.ofString? (rest start) with
    | some threshold => some { d with threshold }
    | none => some { d with target := some (rest start) }
  | (.level start, d) =>
    (Threshold.ofLevelText? (rest start)).map fun t => { d with threshold := t }
  | (.conditions, d) => some d
  | _ => none

/--
Reads one directive. Blanks around it do not begin or end it, but they are not taken off: offsets
count from behind the blanks in front, and parts are cut out of the text with all its blanks.
-/
def ofString? (s : String) : Option Directive :=
  let cs := s.toList
  let body := ((cs.dropWhile Text.isBlank).reverse.dropWhile Text.isBlank).reverse
  (steps? (slice · · cs) 0 (.start, everything) body).bind
    (finish? fun start => slice start s.utf8ByteSize cs)

/-- A directive on spans or on values of fields says nothing on events, which lie in no span. -/
def isOnEvents (d : Directive) : Bool :=
  d.span.isNone && !d.field.any (·.hasValue)

def messageField : String := "message"

def concerns (d : Directive) (target : Target) : Bool :=
  d.isOnEvents && (d.target.all fun name => name.toList.isPrefixOf target.name.toList) &&
    d.field.all (·.name = messageField)

/-- The more of a target a directive names, and then the more fields, the more it counts. -/
def weight (d : Directive) : Nat :=
  let fields := if d.field.isSome then 1 else 0
  match d.target with
  | some name => 2 * (name.utf8ByteSize + 1) + fields
  | none => fields

end Directive

namespace Filter

def default : Filter := ⟨[{ Directive.everything with threshold := some .info }]⟩

def errorsOnly : Filter := ⟨[{ Directive.everything with threshold := some .error }]⟩

def ofString? (s : String) : Option Filter :=
  let parts := (s.splitOn ",").filter (!·.isEmpty)
  (parts.mapM Directive.ofString?).map fun directives =>
    if directives.isEmpty then errorsOnly else ⟨directives⟩

def ofSetting (setting : Option String) : Filter :=
  (setting.bind ofString?).getD default

def deciding? (f : Filter) (target : Target) : Option Directive :=
  f.directives.foldl (fun best d =>
    if d.concerns target && best.all (·.weight ≤ d.weight) then some d else best) none

def shows (f : Filter) (e : Event) : Bool :=
  (f.deciding? e.target).any (·.threshold.admits e.level)

end Filter

/-- Characters that could steer a terminal are written by their codes. -/
def shownChar (c : Char) : List Char :=
  match c with
  | '\x1b' => "\\x1b".toList
  | '\x07' => "\\x07".toList
  | '\x08' => "\\x08".toList
  | '\x0c' => "\\x0c".toList
  | '\x7f' => "\\x7f".toList
  | c =>
    if 0x80 ≤ c.toNat ∧ c.toNat ≤ 0x9f then
      "\\u".toList ++ '{' :: Text.hexDigits c.toNat ++ ['}']
    else [c]

def line (pidText : Nat → String) (e : Event) : String :=
  let level := e.level.name
  let padded := "".pushn ' ' (5 - level.length) ++ level
  let message := String.ofList ((e.messageWith pidText).toList.flatMap shownChar)
  s!"{padded} {e.target.name}: {message}\n"

end PanelLauncher.Log
