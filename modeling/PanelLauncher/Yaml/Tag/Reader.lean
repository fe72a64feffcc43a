import PanelLauncher.Number.Literal
import PanelLauncher.Yaml.Error
import PanelLauncher.Yaml.Tag.Basic

/-!
# Tags and directives as written

A tag is a handle and a suffix, or a whole identifier between angle brackets. Handles are
introduced by directives at the beginning of a document. An escaped character has the form of one
to four bytes, whether or not there is a character of that code.
-/

namespace PanelLauncher.Yaml

def isUriChar (c : Char) : Bool :=
  isWordChar c || [';', '/', '?', ':', '@', '&', '=', '+', '$', '.', '%', '!', '~', '*', '\'',
    '(', ')'].contains c

/-- Inside angle brackets and directives some punctuation of flow collections may stand as well. -/
def isVerbatimChar (c : Char) : Bool :=
  isUriChar c || c = ',' || c = '[' || c = ']'

def escapedByte? : List Char → Option (UInt8 × List Char)
  | '%' :: a :: b :: cs =>
    match Literal.digitValue? 16 a, Literal.digitValue? 16 b with
    | some a, some b => some ((a * 16 + b).toUInt8, cs)
    | _, _ => none
  | _ => none

def followers? (b : UInt8) : Option Nat :=
  if b &&& 0x80 = 0 then some 0
  else if b &&& 0xE0 = 0xC0 then some 1
  else if b &&& 0xF0 = 0xE0 then some 2
  else if b &&& 0xF8 = 0xF0 then some 3
  else none

def continuationBytes? : Nat → List Char → Option (List UInt8 × List Char)
  | 0, cs => some ([], cs)
  | n + 1, cs =>
    (escapedByte? cs).bind fun (b, cs) =>
      if b &&& 0xC0 = 0x80 then
        (continuationBytes? n cs).map fun (bs, cs) => (b :: bs, cs)
      else none

/-- The bytes of a character written as one to four escaped bytes. -/
def escapedChar? (cs : List Char) : Option (List UInt8 × List Char) :=
  (escapedByte? cs).bind fun (b, cs) =>
    (followers? b).bind fun n =>
      (continuationBytes? n cs).map fun (bs, cs) => (b :: bs, cs)

def unescapeUri? : Nat → List Char → Option (List UInt8)
  | _, [] => some []
  | 0, _ => none
  | fuel + 1, c :: cs =>
    if c = '%' then
      (escapedChar? (c :: cs)).bind fun (bs, cs) => (unescapeUri? fuel cs).map (bs ++ ·)
    else (unescapeUri? fuel cs).map (String.utf8EncodeChar c ++ ·)

def readUri (p : Char → Bool) (c : Cursor) : Except SyntaxError (List UInt8 × Cursor) :=
  let (written, c') := c.takeWhile p
  match unescapeUri? written.length written with
  | some uri => .ok (uri, c')
  | none => .error ⟨.badTag, c.mark⟩

def readHandle (c : Cursor) : Except SyntaxError (List Char × Cursor) :=
  match c.rest with
  | '!' :: _ =>
    let (name, c') := (c.skip 1).takeWhile isWordChar
    match c'.rest with
    | '!' :: _ => .ok ('!' :: name ++ ['!'], c'.skip 1)
    | _ => .ok ('!' :: name, c')
  | _ => .error ⟨.badTag, c.mark⟩

def isClosedHandle (handle : List Char) : Bool :=
  2 ≤ handle.length && handle.getLast? = some '!'

/-- The handle and the suffix of a tag, which ends at a blank, or at a comma in flow collections. -/
def readTag (inFlow : Bool) (c : Cursor) : Except SyntaxError ((String × Tag) × Cursor) := do
  let (tag, c') ← match c.rest with
    | '!' :: '<' :: _ => do
      let (uri, c') ← readUri isVerbatimChar (c.skip 2)
      match c'.rest with
      | '>' :: _ =>
        if uri.isEmpty then throw ⟨.badTag, c.mark⟩ else pure (("", Tag.ofBytes uri), c'.skip 1)
      | _ => throw ⟨.badTag, c.mark⟩
    | _ => do
      let (handle, c') ← readHandle c
      let (uri, c'') ← readUri isUriChar c'
      if isClosedHandle handle then
        if uri.isEmpty then throw ⟨.badTag, c.mark⟩
        else pure ((String.ofList handle, Tag.ofBytes uri), c'')
      else
        let suffix := Tag.ofBytes ((handle.drop 1).flatMap String.utf8EncodeChar ++ uri)
        pure (if suffix.bytes.isEmpty then ("", Tag.ofString "!") else ("!", suffix), c'')
  if isGap c'.rest || (inFlow && c'.rest.head? = some ',') then return (tag, c')
  else throw ⟨.badTag, c'.mark⟩

inductive Directive
  | version (major minor : Nat)
  | tag (handle : String) (expansion : Tag)

/-- A version number has at most nine digits. -/
def readVersionNumber (c : Cursor) : Except SyntaxError (Nat × Cursor) :=
  let (digits, c') := c.takeWhile Char.isDigit
  match Literal.readNat? 10 digits with
  | some n => if digits.length ≤ 9 then .ok (n, c') else .error ⟨.badDirective, c.mark⟩
  | none => .error ⟨.badDirective, c.mark⟩

def readVersion (c : Cursor) : Except SyntaxError (Directive × Cursor) := do
  let (major, c) ← readVersionNumber (c.skipWhile isBlank)
  match c.rest with
  | '.' :: _ =>
    let (minor, c) ← readVersionNumber (c.skip 1)
    return (.version major minor, c)
  | _ => throw ⟨.badDirective, c.mark⟩

def readTagDirective (c : Cursor) : Except SyntaxError (Directive × Cursor) := do
  let (handle, c) ← readHandle (c.skipWhile isBlank)
  if !isClosedHandle handle && handle != ['!'] then throw ⟨.badDirective, c.mark⟩
  if !(c.rest.head?.any isBlank) then throw ⟨.badDirective, c.mark⟩
  let c := c.skipWhile isBlank
  let (expansion, c') ← readUri isVerbatimChar c
  if expansion.isEmpty || !isGap c'.rest then throw ⟨.badDirective, c.mark⟩
  return (.tag (String.ofList handle) (Tag.ofBytes expansion), c')

def readDirective (c : Cursor) : Except SyntaxError (Directive × Cursor) := do
  let (name, c') := (c.skip 1).takeWhile isWordChar
  if name.isEmpty || !isGap c'.rest then throw ⟨.badDirective, c'.mark⟩
  let (directive, c') ←
    if name = "YAML".toList then readVersion c'
    else if name = "TAG".toList then readTagDirective c'
    else throw ⟨.badDirective, c.mark⟩
  let c' := c'.skipToLineEnd
  if isLineEnd c'.rest then return (directive, c'.skipLineEnd)
  else throw ⟨.badDirective, c'.mark⟩

end PanelLauncher.Yaml
