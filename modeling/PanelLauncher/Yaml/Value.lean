import PanelLauncher.Number.Literal
import PanelLauncher.Yaml.Tag.Basic

/-!
# What a scalar stands for

A plain scalar without a tag is null, a boolean, a number or a text, by its spelling; a quoted one
is a text. The core tags force a kind on any scalar that has a spelling of that kind.
-/

namespace PanelLauncher.Yaml

inductive Value
  | null
  | bool (value : Bool)
  | number (value : Number)
  /-- An integer beyond 64 bits that 128 bits hold. -/
  | wide (value : Int)
  | text (value : String)
  deriving DecidableEq, Repr

namespace Value

def isNullText (s : String) : Bool :=
  s = "~" || s = "null" || s = "Null" || s = "NULL"

def readBool? (s : String) : Option Bool :=
  if s = "true" ∨ s = "True" ∨ s = "TRUE" then some true
  else if s = "false" ∨ s = "False" ∨ s = "FALSE" then some false
  else none

def ofInt? (n : Int) : Option Value :=
  if h : -9223372036854775808 ≤ n ∧ n < 18446744073709551616 then some (.number (.int n h))
  else if -170141183460469231731687303715884105728 ≤ n ∧
      n < 340282366920938463463374607431768211456 then some (.wide n)
  else none

def readInt? (s : String) : Option Value :=
  (Literal.readInteger? s.toList).bind ofInt?

def readFloat? (s : String) : Option Value :=
  (Literal.readFloat? s.toList).map fun x => .number (.float x)

def ofPlain (s : String) : Value :=
  if s.isEmpty ∨ isNullText s then .null
  else match readBool? s with
    | some b => .bool b
    | none =>
      match readInt? s with
      | some value => value
      | none =>
        if Literal.hasLeadingZero (Literal.splitSign s.toList).2 then .text s
        else (readFloat? s).getD (.text s)

end Value

inductive CoreTag
  | bool
  | int
  | float
  | null
  deriving DecidableEq, Repr

namespace CoreTag

def tag : CoreTag → Tag
  | bool => .ofString "tag:yaml.org,2002:bool"
  | int => .ofString "tag:yaml.org,2002:int"
  | float => .ofString "tag:yaml.org,2002:float"
  | null => .ofString "tag:yaml.org,2002:null"

def ofTag? (t : Tag) : Option CoreTag :=
  [bool, int, float, null].find? (·.tag = t)

def read? (kind : CoreTag) (s : String) : Option Value :=
  match kind with
  | bool => (Value.readBool? s).map .bool
  | int => Value.readInt? s
  | float => Value.readFloat? s
  | null => if Value.isNullText s then some .null else none

end CoreTag

/-- What a scalar stands for, or the core tag that does not fit it. -/
def Value.ofScalar (tag : Option Tag) (isPlain : Bool) (s : String) : Except CoreTag Value :=
  match tag with
  | none => .ok (if isPlain then .ofPlain s else .text s)
  | some tag =>
    match CoreTag.ofTag? tag with
    | some kind =>
      match kind.read? s with
      | some value => .ok value
      | none => .error kind
    | none => .ok (if tag.isLocal && isPlain then .ofPlain s else .text s)

end PanelLauncher.Yaml
