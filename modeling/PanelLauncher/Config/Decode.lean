import PanelLauncher.Config.Basic
import PanelLauncher.Config.Error
import PanelLauncher.Yaml.Document

/-!
# Reading a configuration from a document

Each structure of a configuration has a table of its fields; a mapping is read entry by entry
against it. Unknown keys are passed over with their values, a known key may come once. Aliases are
followed as they are met, but not without bound.
-/

namespace PanelLauncher.Config

open Yaml

/-- Where a value is read: its document, its path, how much deeper collections may be nested. -/
structure Place where
  document : Document
  path : Path
  depth : Nat

/-- Reading counts the aliases that it follows. -/
abbrev Decode := StateT Nat (Except ShapeError)

namespace Decode

def aliasesPerEvent : Nat := 100

def nesting : Nat := 128

def fail {α : Type} (cause : ShapeCause) : Decode α :=
  throw (.ofCause cause)

/-- A fault found by `x` that has no place yet gets this one. -/
def placed {α : Type} (path : Path) (mark : Mark) (x : Decode α) : Decode α :=
  fun jumps => (x jumps).mapError (.placeAt path mark)

def follow (d : Document) (node : Node) : Decode Node :=
  match node with
  | .reference _ anchor => do
    let jumps ← get
    set (jumps + 1)
    if d.eventCount * aliasesPerEvent < jumps + 1 then fail .tooManyAliases
    else return (d.target? anchor).getD node
  | node => return node

def descend (p : Place) (mark : Mark) : Decode Place :=
  match p.depth with
  | 0 => throw ⟨.tooDeep, none, some mark⟩
  | depth + 1 => return { p with depth }

def valueOf (tag : Option Tag) (isPlain : Bool) (s : String) : Decode Value :=
  match Value.ofScalar tag isPlain s with
  | .ok value => return value
  | .error kind => fail (.wrongSpelling s kind)

def wrongType {α : Type} (expected : Expected) : Node → Decode α
  | .scalar _ tag isPlain s => do
    fail (.wrongType (.value (← valueOf tag isPlain s)) expected)
  | .sequence _ _ _ => fail (.wrongType .sequence expected)
  | .mapping _ _ _ => fail (.wrongType .mapping expected)
  | .reference _ _ => fail .tooManyAliases

/-- An empty plain scalar, which stands for an empty collection. -/
def isNothing : Node → Bool
  | .scalar _ _ isPlain s => isPlain && s.isEmpty
  | _ => false

def textOf (expected : Expected) (p : Place) (node : Node) : Decode String := do
  let node ← follow p.document node
  placed p.path node.mark <|
    match node with
    | .scalar _ _ _ s => return s
    | node => wrongType expected node

/-- A null is an absent value; `!!null` on anything that is no null is a fault. -/
def isAbsent : Node → Decode Bool
  | .scalar _ tag isPlain s =>
    if !isPlain then return false
    else match tag with
      | none => return s.isEmpty || Value.isNullText s
      | some tag =>
        if CoreTag.ofTag? tag = some .null then
          if Value.isNullText s then return true else fail (.wrongSpelling s .null)
        else return false
  | _ => return false

def optional {α : Type} (read : Place → Node → Decode α) (p : Place) (node : Node) :
    Decode (Option α) := do
  let node ← follow p.document node
  if ← isAbsent node then return none
  else some <$> read p node

/-! ## Collections -/

def list {α : Type} (read : Place → Node → Decode α) (p : Place) (node : Node) :
    Decode (List α) := do
  let node ← follow p.document node
  placed p.path node.mark <|
    match node with
    | .sequence mark _ items => do
      let inner ← descend p mark
      items.zipIdx.mapM fun (item, i) => read { inner with path := .item p.path i } item
    | node => if isNothing node then return [] else wrongType .list node

def entryPlace (p : Place) (key : Node) : Place :=
  match key with
  | .scalar _ _ _ s => { p with path := .entry p.path s }
  | _ => { p with path := .unnamed p.path }

structure Field (σ : Type) where
  name : String
  read : Place → Node → σ → Decode σ

/-- Takes the entries of a mapping into a structure; `seen` are the fields that have a value. -/
def fields {σ : Type} (table : List (Field σ)) (p : Place) :
    List String → σ → List (Node × Node) → Decode σ
  | _, s, [] => return s
  | seen, s, (key, value) :: entries => do
    let name ← textOf .fieldName p key
    match table.find? (·.name = name) with
    | none => fields table p seen s entries
    | some field =>
      if seen.contains name then fail (.duplicateField name)
      else fields table p (name :: seen) (← field.read (entryPlace p key) value s) entries

def record {σ : Type} (expected : Expected) (table : List (Field σ)) (empty : σ) (p : Place)
    (node : Node) : Decode σ := do
  let node ← follow p.document node
  placed p.path node.mark <|
    match node with
    | .mapping mark _ entries => do fields table (← descend p mark) [] empty entries
    | node => if isNothing node then return empty else wrongType expected node

/-! ## Scalars -/

def refuseLocalTag (tag : Option Tag) : Decode Unit :=
  if tag.any Tag.isForeign then fail .localTag else return ()

def scalarValue (tag : Option Tag) (isPlain : Bool) (s : String) : Decode (Option Scalar) := do
  match ← valueOf tag isPlain s with
  | .null => return none
  | .bool b => return some (.bool b)
  | .number n => return some (.number n)
  | .wide n => fail (.wrongType (.value (.wide n)) .anything)
  | .text s => return some (.text s)

/--
The scalar that a node is, or none if it is something else. Nodes below it are read too, since a
fault in one of them is found first.
-/
def content (d : Document) : (depth : Nat) → Path → Node → Decode (Option Scalar)
  | depth, path, node => do
    let node ← follow d node
    placed path node.mark do
      match node with
      | .scalar _ tag isPlain s =>
        refuseLocalTag tag
        scalarValue tag isPlain s
      | .sequence mark tag items =>
        refuseLocalTag tag
        match depth with
        | 0 => throw ⟨.tooDeep, none, some mark⟩
        | depth + 1 =>
          items.zipIdx.forM fun (item, i) => discard <| content d depth (.item path i) item
          return none
      | .mapping mark tag entries =>
        refuseLocalTag tag
        match depth with
        | 0 => throw ⟨.tooDeep, none, some mark⟩
        | depth + 1 =>
          entries.forM fun (key, value) => do
            discard <| content d depth path key
            discard <| content d depth (entryPlace ⟨d, path, depth⟩ key).path value
          return none
      | .reference _ _ => fail .tooManyAliases

/-- A scalar. That a node is none is a fault of the collection around it. -/
def scalar (p : Place) (node : Node) : Decode Scalar := do
  match ← content p.document p.depth p.path node with
  | some s => return s
  | none => fail .noScalar

/-! ## The structures of a configuration -/

def mqttFields : List (Field MqttConfig) :=
  [ ⟨"server", fun p n c => return { c with server := ← optional scalar p n }⟩,
    ⟨"port", fun p n c => return { c with port := ← optional scalar p n }⟩,
    ⟨"topic", fun p n c => return { c with topic := ← optional scalar p n }⟩,
    ⟨"login", fun p n c => return { c with login := ← optional scalar p n }⟩,
    ⟨"password", fun p n c => return { c with password := ← optional scalar p n }⟩,
    ⟨"retain", fun p n c => return { c with retain := ← optional scalar p n }⟩ ]

def mqtt : Place → Node → Decode MqttConfig :=
  record .mqttConfig mqttFields .empty

def areaFields : List (Field AreaConfig) :=
  [ ⟨"num", fun p n c => return { c with num := ← optional scalar p n }⟩,
    ⟨"zones", fun p n c => return { c with zones := ← optional (list scalar) p n }⟩ ]

def area : Place → Node → Decode AreaConfig :=
  record .areaConfig areaFields .empty

def launchFields : List (Field LaunchConfig) :=
  [ ⟨"binary_path", fun p n c =>
      return { c with binaryPath := ← optional (textOf .path) p n }⟩,
    ⟨"verbose", fun p n c => return { c with verbose := ← optional scalar p n }⟩,
    ⟨"daemon", fun p n c => return { c with daemon := ← optional scalar p n }⟩,
    ⟨"device", fun p n c => return { c with device := ← optional scalar p n }⟩,
    ⟨"mqtt", fun p n c => return { c with mqtt := ← optional mqtt p n }⟩,
    ⟨"areas", fun p n c => return { c with areas := ← optional (list area) p n }⟩,
    ⟨"user_code", fun p n c => return { c with userCode := ← optional scalar p n }⟩,
    ⟨"status_period", fun p n c => return { c with statusPeriod := ← optional scalar p n }⟩,
    ⟨"log_file", fun p n c => return { c with logFile := ← optional (textOf .path) p n }⟩ ]

def launch : Place → Node → Decode LaunchConfig :=
  record .launchConfig launchFields .empty

def run {α : Type} (read : Place → Node → Decode α) (empty : α) (d : Document) :
    Except ShapeError α :=
  match d.root with
  | none => .ok empty
  | some root => (read ⟨d, .root, nesting⟩ root).run' 0

end Decode

/-- Reads a text; a fault of the text comes before any fault of what it says. -/
def read {α : Type} (decode : Place → Node → Decode α) (empty : α) (s : String) :
    Except ParseError α :=
  match Document.ofString s with
  | .error e => .error (.syntaxFault e)
  | .ok d => (Decode.run decode empty d).mapError .shape

def ofString (s : String) : Except ParseError LaunchConfig :=
  read Decode.launch .empty s

def scalarsOfString (s : String) : Except ParseError (List Scalar) :=
  read (Decode.list Decode.scalar) [] s

end PanelLauncher.Config
