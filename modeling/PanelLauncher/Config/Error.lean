import PanelLauncher.Text.Quoted
import PanelLauncher.Yaml.Error
import PanelLauncher.Yaml.Value

/-!
# Documents that are no configuration

Why a well-formed document is refused, and where. The place is that of the innermost value that
was being read when the fault was found.
-/

namespace PanelLauncher.Config

open Yaml

inductive Expected
  | launchConfig
  | mqttConfig
  | areaConfig
  | list
  | path
  | fieldName
  | anything
  deriving DecidableEq, Repr

inductive Found
  | value (value : Value)
  | sequence
  | mapping
  deriving DecidableEq, Repr

inductive ShapeCause
  | wrongType (found : Found) (expected : Expected)
  | wrongSpelling (text : String) (kind : CoreTag)
  | duplicateField (name : String)
  | noScalar
  | localTag
  | tooDeep
  | tooManyAliases
  deriving DecidableEq, Repr

inductive Path
  | root
  | item (parent : Path) (index : Nat)
  | entry (parent : Path) (key : String)
  | unnamed (parent : Path)
  deriving DecidableEq, Repr

/-- A fault with the place that belongs to it, once it is known. -/
structure ShapeError where
  cause : ShapeCause
  path : Option Path
  mark : Option Mark
  deriving DecidableEq, Repr

namespace Expected

def text : Expected → String
  | launchConfig => "struct LaunchConfig"
  | mqttConfig => "struct MqttConfig"
  | areaConfig => "struct AreaConfig"
  | list => "a sequence"
  | path => "path string"
  | fieldName => "field identifier"
  | anything => "any value"

end Expected

namespace Found

def integerText (n : Int) : String :=
  String.ofList (Number.integerText n)

def text : Found → String
  | value .null => "unit value"
  | value (.bool true) => "boolean `true`"
  | value (.bool false) => "boolean `false`"
  | value (.number (.int n _)) => s!"integer `{integerText n}`"
  | value (.number (.float x)) =>
    s!"floating point `{String.ofList (x.text Number.messageFormat)}`"
  | value (.wide n) =>
    let width := if n < 0 then "i128" else "u128"
    s!"integer `{integerText n}` as {width}"
  | value (.text s) => s!"string {Text.quoted s}"
  | sequence => "sequence"
  | mapping => "map"

end Found

def kindText : CoreTag → String
  | .bool => "a boolean"
  | .int => "an integer"
  | .float => "a float"
  | .null => "null"

namespace ShapeCause

def message : ShapeCause → String
  | wrongType found expected => s!"invalid type: {found.text}, expected {expected.text}"
  | wrongSpelling text kind =>
    s!"invalid value: string {Text.quoted text}, expected {kindText kind}"
  | duplicateField name => s!"duplicate field `{name}`"
  | noScalar => "data did not match any variant of untagged enum Scalar"
  | localTag => "untagged and internally tagged enums do not support enum input"
  | tooDeep => "recursion limit exceeded"
  | tooManyAliases => "repetition limit exceeded"

end ShapeCause

namespace Path

mutual

/-- A path in messages; the root alone is a dot. -/
def text : Path → String
  | root => "."
  | item parent index => s!"{text parent}[{index}]"
  | entry parent key => stem parent ++ key
  | unnamed parent => stem parent ++ "?"

def stem : Path → String
  | root => ""
  | item parent index => s!"{text parent}[{index}]."
  | entry parent key => stem parent ++ key ++ "."
  | unnamed parent => stem parent ++ "?" ++ "."

end

end Path

namespace ShapeError

def ofCause (cause : ShapeCause) : ShapeError :=
  ⟨cause, none, none⟩

/-- Gives a fault its place unless it has one, or is one that belongs to no value. -/
def placeAt (path : Path) (mark : Mark) (e : ShapeError) : ShapeError :=
  match e.mark, e.cause with
  | some _, _ => e
  | none, .tooManyAliases => e
  | none, _ => { e with path := some path, mark := some mark }

def message (e : ShapeError) : String :=
  let text :=
    match e.path with
    | none => e.cause.message
    | some .root => e.cause.message
    | some path => s!"{path.text}: {e.cause.message}"
  match e.mark with
  | some mark => mark.locate text
  | none => text

end ShapeError

inductive ParseError
  | syntaxFault (e : SyntaxError)
  | shape (e : ShapeError)
  deriving DecidableEq, Repr

def ParseError.message : ParseError → String
  | syntaxFault e => e.message
  | shape e => e.message

end PanelLauncher.Config
