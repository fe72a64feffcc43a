import PanelLauncher.Yaml.Error
import PanelLauncher.Yaml.Scalar.Gap

/-!
# Block scalars

A scalar introduced by `|` or `>` consists of the indented lines below its header. The header may
fix the indentation and say what becomes of the line ends at the end of the text.
-/

namespace PanelLauncher.Yaml

inductive Chomping
  | strip
  | clip
  | keep
  deriving DecidableEq, Repr

structure BlockHeader where
  chomping : Chomping
  increment : Option Nat

namespace BlockHeader

def chomping? : List Char → Option Chomping
  | '+' :: _ => some .keep
  | '-' :: _ => some .strip
  | _ => none

def increment? : List Char → Option Nat
  | c :: _ => if c.isDigit then some (c.toNat - '0'.toNat) else none
  | [] => none

/-- Reads the indicators; an increment of zero is refused. -/
def read (c : Cursor) : Except SyntaxError (BlockHeader × Cursor) := do
  let (header, c') : BlockHeader × Cursor :=
    match chomping? c.rest with
    | some chomping =>
      match increment? (c.skip 1).rest with
      | some n => (⟨chomping, some n⟩, c.skip 2)
      | none => (⟨chomping, none⟩, c.skip 1)
    | none =>
      match increment? c.rest with
      | some n =>
        match chomping? (c.skip 1).rest with
        | some chomping => (⟨chomping, some n⟩, c.skip 2)
        | none => (⟨.clip, some n⟩, c.skip 1)
      | none => (⟨.clip, none⟩, c)
  if header.increment = some 0 then throw ⟨.badBlockHeader, c.mark⟩
  let c' := c'.skipToLineEnd
  if isLineEnd c'.rest then return (header, c'.skipLineEnd)
  else throw ⟨.badBlockHeader, c'.mark⟩

end BlockHeader

def skipIndentation (indent : Option Nat) (c : Cursor) : Cursor :=
  go c.rest c.mark
where
  go : List Char → Mark → Cursor
    | ' ' :: cs, m =>
      if indent.all (m.column < ·) then go cs (m.after ' ') else ⟨' ' :: cs, m⟩
    | cs, m => ⟨cs, m⟩

structure EmptyLines where
  breaks : List Char
  widest : Nat
  cursor : Cursor

def readEmptyLines (indent : Option Nat) :
    Nat → (breaks : List Char) → (widest : Nat) → Cursor → Except SyntaxError EmptyLines
  | 0, breaks, widest, c => .ok ⟨breaks, widest, c⟩
  | fuel + 1, breaks, widest, c =>
    let c := skipIndentation indent c
    let widest := max widest c.mark.column
    if indent.all (c.mark.column < ·) && c.rest.head? = some '\t' then
      .error ⟨.tabInIndentation, c.mark⟩
    else
      match c.lineEnd? with
      | some (b, c) => readEmptyLines indent fuel (b :: breaks) widest c
      | none => .ok ⟨breaks, widest, c⟩

/-- What joins a line of text to the one before: nothing yet, or a line end. -/
structure BlockText where
  text : List Char
  lineEnd : List Char
  /-- The last line begins with a blank, so that it is not folded. -/
  isIndented : Bool

def readBlockLines (isLiteral : Bool) (chomping : Chomping) (indent : Nat) :
    Nat → BlockText → EmptyLines → Except SyntaxError (List Char × Cursor)
  | fuel + 1, block, empties =>
    let c := empties.cursor
    if c.mark.column = indent ∧ c.rest ≠ [] then do
      let isIndented := c.rest.head?.any isBlank
      let joint :=
        if !isLiteral && block.lineEnd = ['\n'] && !block.isIndented && !isIndented then
          if empties.breaks.isEmpty then [' '] else []
        else block.lineEnd
      let (line, c) := c.takeWhile (!isBreak ·)
      let (lineEnd, c) :=
        match c.lineEnd? with
        | some (b, c) => ([b], c)
        | none => ([], c)
      let text := line.reverse ++ (empties.breaks ++ (joint ++ block.text))
      let empties ← readEmptyLines (some indent) (fuel + 1) [] 0 c
      readBlockLines isLiteral chomping indent fuel ⟨text, lineEnd, isIndented⟩ empties
    else .ok (finish block empties, c)
  | 0, block, empties => .ok (finish block empties, empties.cursor)
where
  finish (block : BlockText) (empties : EmptyLines) : List Char :=
    match chomping with
    | .strip => block.text
    | .clip => block.lineEnd ++ block.text
    | .keep => empties.breaks ++ (block.lineEnd ++ block.text)

/--
Reads a block scalar from behind its `|` or `>`, backwards. The enclosing collection begins at the
column `parent`; lines of the scalar are indented more, by the header's increment or as far as the
first line of text is.
-/
def readBlockScalar (isLiteral : Bool) (parent : Option Nat) (c : Cursor) :
    Except SyntaxError (List Char × Cursor) := do
  let (header, c) ← BlockHeader.read c
  let fixed := header.increment.map (· + parent.getD 0)
  let empties ← readEmptyLines fixed (c.rest.length + 1) [] 0 c
  let least := match parent with
    | some column => column + 1
    | none => 1
  let indent := fixed.getD (max empties.widest least)
  readBlockLines isLiteral header.chomping indent (c.rest.length + 1) ⟨[], [], false⟩ empties

end PanelLauncher.Yaml
