import PanelLauncher.Yaml.Node
import PanelLauncher.Yaml.Token.Lexer

/-!
# From tokens to a document

The grammar of documents over tokens, by recursive descent. A text holds at most one document. An
anchor gets the number of distinct names known before it, so a name given again can take a number
that a later anchor takes as well; the node that begins last keeps it.
-/

namespace PanelLauncher.Yaml

structure Reading where
  tokens : List Token
  expansions : List (String × Tag)
  names : List (String × Nat)
  /-- Anchored nodes by number, each with the count of anchors before it. -/
  anchored : List (Nat × Nat × Node)
  anchorCount : Nat

abbrev Read := StateT Reading (Except SyntaxError)

namespace Read

def peek : Read Token := do
  match (← get).tokens with
  | t :: _ => return t
  | [] => return ⟨.streamEnd, .start, .start⟩

def skip : Read Unit :=
  modify fun s => { s with tokens := s.tokens.drop 1 }

def fail {α : Type} (cause : SyntaxCause) : Read α := do
  throw ⟨cause, (← peek).start⟩

def emptyScalar (mark : Mark) : Node :=
  .scalar mark none true ""

structure Properties where
  anchor : Option String
  tag : Option Tag
  mark : Mark

def expandTag (handle : String) (suffix : Tag) : Read Tag := do
  if handle.isEmpty then return suffix
  else match (← get).expansions.lookup handle with
    | some expansion => return expansion.append suffix
    | none => fail .undefinedHandle

def readAnchor : Read (Option String) := do
  match (← peek).kind with
  | .anchor name => skip; return some name
  | _ => return none

def readTag : Read (Option (String × Tag)) := do
  match (← peek).kind with
  | .tag handle suffix => skip; return some (handle, suffix)
  | _ => return none

def readProperties : Read Properties := do
  let mark := (← peek).start
  let first ← readAnchor
  let written ← readTag
  let anchor ← if first.isNone && written.isSome then readAnchor else pure first
  let tag ← written.mapM fun (handle, suffix) => expandTag handle suffix
  return ⟨anchor, tag, mark⟩

def beginAnchor (anchor : Option String) : Read (Option (Nat × Nat)) :=
  anchor.mapM fun name => do
    let s ← get
    let number := s.names.length
    set { s with
      names := (name, number) :: s.names.filter (·.1 != name)
      anchorCount := s.anchorCount + 1 }
    return (number, s.anchorCount)

/-- Keeps an anchored node unless one that began later has its number. -/
def endAnchor (anchor : Option (Nat × Nat)) (node : Node) : Read Unit := do
  match anchor with
  | none => return ()
  | some (number, turn) =>
    let s ← get
    if (s.anchored.lookup number).all (·.1 < turn) then
      set { s with anchored := (number, turn, node) :: s.anchored }

mutual

/-- A node. Block collections count only if `inBlock`, an unindented sequence if `bareEntries`. -/
def node (inBlock bareEntries : Bool) : Nat → Read Node
  | 0 => fail .missingContent
  | fuel + 1 => do
    let t ← peek
    if let .reference name := t.kind then
      skip
      match (← get).names.lookup name with
      | some number => return .reference t.start number
      | none => throw ⟨.unknownAnchor, t.start⟩
    let p ← readProperties
    let anchor ← beginAnchor p.anchor
    let result ← content inBlock bareEntries p fuel
    endAnchor anchor result
    return result

def content (inBlock bareEntries : Bool) (p : Properties) : Nat → Read Node
  | 0 => fail .missingContent
  | fuel + 1 => do
    match (← peek).kind with
    | .scalar isPlain text =>
      skip
      return .scalar p.mark p.tag isPlain text
    | .flowSequenceStart => skip; return .sequence p.mark p.tag (← flowItems true fuel)
    | .flowMappingStart => skip; return .mapping p.mark p.tag (← flowEntries true fuel)
    | .blockSequenceStart =>
      if inBlock then skip; return .sequence p.mark p.tag (← blockItems fuel)
      else empty p
    | .blockMappingStart =>
      if inBlock then skip; return .mapping p.mark p.tag (← blockEntries fuel)
      else empty p
    | .blockEntry =>
      if bareEntries then return .sequence p.mark p.tag (← bareItems fuel)
      else empty p
    | _ => empty p
where
  empty (p : Properties) : Read Node :=
    if p.anchor.isSome || p.tag.isSome then return .scalar p.mark p.tag true ""
    else fail .missingContent

/-- A node, or an empty scalar at `mark` if one of the tokens that satisfy `ends` comes next. -/
def nodeUnless (ends : TokenKind → Bool) (inBlock bareEntries : Bool) (mark : Mark) :
    Nat → Read Node
  | 0 => fail .missingContent
  | fuel + 1 => do
    if ends (← peek).kind then return emptyScalar mark
    else node inBlock bareEntries fuel

def blockItems : Nat → Read (List Node)
  | 0 => fail .missingDash
  | fuel + 1 => do
    let t ← peek
    match t.kind with
    | .blockEntry =>
      skip
      let item ← nodeUnless (fun k => k matches .blockEntry | .blockEnd) true false t.stop fuel
      return item :: (← blockItems fuel)
    | .blockEnd => skip; return []
    | _ => fail .missingDash

def bareItems : Nat → Read (List Node)
  | 0 => fail .missingDash
  | fuel + 1 => do
    let t ← peek
    match t.kind with
    | .blockEntry =>
      skip
      let item ← nodeUnless (fun k => k matches .blockEntry | .key | .value | .blockEnd)
        true false t.stop fuel
      return item :: (← bareItems fuel)
    | _ => return []

def blockEntries : Nat → Read (List (Node × Node))
  | 0 => fail .missingKey
  | fuel + 1 => do
    let t ← peek
    match t.kind with
    | .key =>
      skip
      let key ← nodeUnless (fun k => k matches .key | .value | .blockEnd) true true t.stop fuel
      let v ← peek
      if v.kind matches .value then
        skip
        let value ← nodeUnless (fun k => k matches .key | .value | .blockEnd) true true v.stop fuel
        return (key, value) :: (← blockEntries fuel)
      else return (key, emptyScalar v.start) :: (← blockEntries fuel)
    | .blockEnd => skip; return []
    | _ => fail .missingKey

/-- The items of a flow sequence and its end; a single pair is a mapping of its own. -/
def flowItems (isFirst : Bool) : Nat → Read (List Node)
  | 0 => fail .unclosedSequence
  | fuel + 1 => do
    if (← peek).kind matches .flowSequenceEnd then skip; return []
    if !isFirst then
      if (← peek).kind matches .flowEntry then skip else fail .unclosedSequence
    let t ← peek
    match t.kind with
    | .flowSequenceEnd => skip; return []
    | .key =>
      skip
      let pair ← flowPair fuel
      return .mapping t.start none [pair] :: (← flowItems false fuel)
    | _ =>
      let item ← node false false fuel
      return item :: (← flowItems false fuel)

/-- A key and its value inside a flow sequence. The token behind an empty key is passed over. -/
def flowPair : Nat → Read (Node × Node)
  | 0 => fail .unclosedSequence
  | fuel + 1 => do
    let t ← peek
    let key ←
      if t.kind matches .value | .flowEntry | .flowSequenceEnd then
        skip
        pure (emptyScalar t.stop)
      else node false false fuel
    if (← peek).kind matches .value then skip else return (key, emptyScalar (← peek).start)
    let value ← nodeUnless (fun k => k matches .flowEntry | .flowSequenceEnd) false false
      (← peek).start fuel
    return (key, value)

/-- The entries of a flow mapping and its end; a lone node is a key without a value. -/
def flowEntries (isFirst : Bool) : Nat → Read (List (Node × Node))
  | 0 => fail .unclosedMapping
  | fuel + 1 => do
    if (← peek).kind matches .flowMappingEnd then skip; return []
    if !isFirst then
      if (← peek).kind matches .flowEntry then skip else fail .unclosedMapping
    match (← peek).kind with
    | .flowMappingEnd => skip; return []
    | .key =>
      skip
      let ends : TokenKind → Bool := fun k => k matches .value | .flowEntry | .flowMappingEnd
      let key ← nodeUnless ends false false (← peek).start fuel
      if (← peek).kind matches .value then
        skip
        let value ← nodeUnless (fun k => k matches .flowEntry | .flowMappingEnd) false false
          (← peek).start fuel
        return (key, value) :: (← flowEntries false fuel)
      else
        let mark := (← peek).start
        return (key, emptyScalar mark) :: (← flowEntries false fuel)
    | _ =>
      let key ← node false false fuel
      let mark := (← peek).start
      return (key, emptyScalar mark) :: (← flowEntries false fuel)

end

def defaultExpansions : List (String × Tag) :=
  [("!", .ofString "!"), ("!!", .ofString "tag:yaml.org,2002:")]

/-- The directives before a document: one version that is understood, one tag line per handle. -/
def directives (hasVersion : Bool) : Nat → Read Unit
  | 0 => fail .badDirective
  | fuel + 1 => do
    match (← peek).kind with
    | .versionDirective major minor =>
      if hasVersion || major ≠ 1 || (minor ≠ 1 && minor ≠ 2) then fail .badDirective
      skip
      directives true fuel
    | .tagDirective handle expansion =>
      if ((← get).expansions.lookup handle).isSome then fail .badDirective
      modify fun s => { s with expansions := (handle, expansion) :: s.expansions }
      skip
      directives hasVersion fuel
    | _ => modify fun s => { s with expansions := s.expansions ++ defaultExpansions }

def skipDocumentEnds : Nat → Read Unit
  | 0 => return ()
  | fuel + 1 => do
    if (← peek).kind matches .documentEnd then
      skip
      skipDocumentEnds fuel

def root (fuel : Nat) : Read (Option Node) := do
  if (← peek).kind matches .streamEnd then return none
  let kind := (← peek).kind
  let isImplicit := !(kind matches .versionDirective .. | .tagDirective .. | .documentStart)
  directives false fuel
  let result ←
    if isImplicit then node true false fuel
    else
      if (← peek).kind matches .documentStart then skip else fail .missingDocumentStart
      let ends : TokenKind → Bool := fun k =>
        k matches .versionDirective .. | .tagDirective .. | .documentStart | .documentEnd |
          .streamEnd
      nodeUnless ends true false (← peek).start fuel
  skipDocumentEnds fuel
  match (← peek).kind with
  | .streamEnd => return some result
  | .versionDirective .. | .tagDirective .. | .documentStart => fail .secondDocument
  | _ => fail .missingDocumentStart

end Read

def Document.ofString (s : String) : Except SyntaxError Document := do
  let tokens ← Token.ofString s
  let fuel := 6 * tokens.length + 16
  let (root, final) ← (Read.root fuel).run ⟨tokens, [], [], [], 0⟩
  let anchored := final.anchored.map fun (number, _, node) => (number, node)
  return ⟨root, anchored, (root.map Node.eventCount).getD 1⟩

end PanelLauncher.Yaml
