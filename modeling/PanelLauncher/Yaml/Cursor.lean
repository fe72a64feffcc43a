/-!
# Places in a text

A cursor is what is left of a text together with the place where that begins. A line ends with a
line feed, a carriage return, both in that order, or one of the three separators of Unicode.
-/

namespace PanelLauncher.Yaml

/-- A place in a text, counted from zero: bytes before it, its line, characters before it there. -/
structure Mark where
  offset : Nat
  line : Nat
  column : Nat
  deriving DecidableEq, Repr

namespace Mark

def start : Mark := ⟨0, 0, 0⟩

def after (m : Mark) (c : Char) : Mark :=
  ⟨m.offset + c.utf8Size, m.line, m.column + 1⟩

def nextLine (m : Mark) (width : Nat) : Mark :=
  ⟨m.offset + width, m.line + 1, 0⟩

end Mark

def isBreak (c : Char) : Bool :=
  c = '\n' || c = '\r' || c = '\u0085' || c = '\u2028' || c = '\u2029'

def isBlank (c : Char) : Bool :=
  c = ' ' || c = '\t'

def isWordChar (c : Char) : Bool :=
  c.isAlphanum || c = '_' || c = '-'

/-- Characters that may stand in a text at all; the rest are controls and two non-characters. -/
def isAllowed (c : Char) : Bool :=
  let n := c.toNat
  n == 0x09 || n == 0x0A || n == 0x0D || (0x20 ≤ n && n ≤ 0x7E) || n == 0x85 ||
    (0xA0 ≤ n && n ≤ 0xD7FF) || (0xE000 ≤ n && n ≤ 0xFFFD) || 0x10000 ≤ n

def isGap : List Char → Bool
  | [] => true
  | c :: _ => isBlank c || isBreak c

def isLineEnd : List Char → Bool
  | [] => true
  | c :: _ => isBreak c

/-- Three dots or three hyphens stand here as a word of their own. -/
def isDocumentMarker : List Char → Bool
  | '-' :: '-' :: '-' :: cs => isGap cs
  | '.' :: '.' :: '.' :: cs => isGap cs
  | _ => false

structure Cursor where
  rest : List Char
  mark : Mark

namespace Cursor

def ofString (s : String) : Cursor :=
  ⟨s.toList, .start⟩

def skipWhile (p : Char → Bool) (c : Cursor) : Cursor :=
  go c.rest c.mark
where
  go : List Char → Mark → Cursor
    | [], m => ⟨[], m⟩
    | c :: cs, m => if p c then go cs (m.after c) else ⟨c :: cs, m⟩

def skip (n : Nat) (c : Cursor) : Cursor :=
  go n c.rest c.mark
where
  go : Nat → List Char → Mark → Cursor
    | n + 1, c :: cs, m => go n cs (m.after c)
    | _, cs, m => ⟨cs, m⟩

def takeWhile (p : Char → Bool) (c : Cursor) : List Char × Cursor :=
  (c.rest.takeWhile p, c.skipWhile p)

/--
The line end that comes next, as the character that a text keeps of it: line feeds stand for all
but the two separators that end a line or a paragraph.
-/
def lineEnd? (c : Cursor) : Option (Char × Cursor) :=
  match c.rest with
  | '\r' :: '\n' :: cs => some ('\n', ⟨cs, c.mark.nextLine 2⟩)
  | '\u2028' :: cs => some ('\u2028', ⟨cs, c.mark.nextLine 3⟩)
  | '\u2029' :: cs => some ('\u2029', ⟨cs, c.mark.nextLine 3⟩)
  | b :: cs => if isBreak b then some ('\n', ⟨cs, c.mark.nextLine b.utf8Size⟩) else none
  | [] => none

def skipLineEnd (c : Cursor) : Cursor :=
  match c.lineEnd? with
  | some (_, c') => c'
  | none => c

def skipToLineEnd (c : Cursor) : Cursor :=
  let c := c.skipWhile isBlank
  match c.rest with
  | '#' :: _ => c.skipWhile (!isBreak ·)
  | _ => c

end Cursor

end PanelLauncher.Yaml
