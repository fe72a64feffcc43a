import PanelLauncher.Number.Literal
import PanelLauncher.Yaml.Error
import PanelLauncher.Yaml.Scalar.Gap

/-!
# Quoted and plain scalars

Scalars that may run over several lines, whose line ends are folded. Between single quotes a
quote is doubled; between double quotes a backslash begins an escape; a plain scalar ends at
punctuation, at a comment and where the indentation falls back.
-/

namespace PanelLauncher.Yaml

def readSingleQuoted (text : List Char) (gap : Gap) :
    List Char → Mark → Except SyntaxError (List Char × Cursor)
  | [], m => .error ⟨.unclosedQuote, m⟩
  | '\r' :: '\n' :: cs, m => readSingleQuoted text (gap.addLineEnd '\n') cs (m.nextLine 2)
  | c :: cs, m =>
    if isBreak c then
      readSingleQuoted text (gap.addLineEnd (keptLineEnd c)) cs (m.nextLine c.utf8Size)
    else if isBlank c then readSingleQuoted text (gap.addBlank c) cs (m.after c)
    else if m.column = 0 ∧ isDocumentMarker (c :: cs) then .error ⟨.unclosedQuote, m⟩
    else if c = '\'' then
      match cs with
      | '\'' :: cs =>
        readSingleQuoted ('\'' :: (gap.folded ++ text)) .empty cs ((m.after c).after c)
      | cs => .ok (gap.folded ++ text, ⟨cs, m.after c⟩)
    else readSingleQuoted (c :: (gap.folded ++ text)) .empty cs (m.after c)

def escaped? : Char → Option Char
  | '0' => some '\x00'
  | 'a' => some '\x07'
  | 'b' => some '\x08'
  | 't' => some '\t'
  | '\t' => some '\t'
  | 'n' => some '\n'
  | 'v' => some '\x0b'
  | 'f' => some '\x0c'
  | 'r' => some '\r'
  | 'e' => some '\x1b'
  | ' ' => some ' '
  | '"' => some '"'
  | '/' => some '/'
  | '\\' => some '\\'
  | 'N' => some '\u0085'
  | '_' => some '\u00a0'
  | 'L' => some '\u2028'
  | 'P' => some '\u2029'
  | _ => none

def codeLength? : Char → Option Nat
  | 'x' => some 2
  | 'u' => some 4
  | 'U' => some 8
  | _ => none

/--
Reads to the closing double quote. The text runs backwards; `code` is a character code being
read, as the digits still to come and the value so far.
-/
def readDoubleQuoted (text : List Char) (gap : Gap) (code : Option (Nat × Nat)) :
    List Char → Mark → Except SyntaxError (List Char × Cursor)
  | [], m => .error ⟨.unclosedQuote, m⟩
  | c :: cs, m =>
    match code with
    | some (left, value) =>
      match Literal.digitValue? 16 c with
      | none => .error ⟨.badEscape, m⟩
      | some digit =>
        let value := value * 16 + digit
        if 1 < left then readDoubleQuoted text gap (some (left - 1, value)) cs (m.after c)
        else if value.isValidChar then
          readDoubleQuoted (Char.ofNat value :: text) gap none cs (m.after c)
        else .error ⟨.badEscape, m⟩
    | none =>
      if isBreak c then
        match c, cs with
        | '\r', '\n' :: cs =>
          readDoubleQuoted text (gap.addLineEnd '\n') none cs (m.nextLine 2)
        | c, cs =>
          readDoubleQuoted text (gap.addLineEnd (keptLineEnd c)) none cs (m.nextLine c.utf8Size)
      else if isBlank c then readDoubleQuoted text (gap.addBlank c) none cs (m.after c)
      else if m.column = 0 ∧ isDocumentMarker (c :: cs) then .error ⟨.unclosedQuote, m⟩
      else if c = '"' then .ok (gap.folded ++ text, ⟨cs, m.after c⟩)
      else if c = '\\' then
        let text := gap.folded ++ text
        let m := m.after c
        match cs with
        | [] => .error ⟨.badEscape, m⟩
        | '\r' :: '\n' :: cs => readDoubleQuoted text (.lines none []) none cs (m.nextLine 2)
        | e :: cs =>
          if isBreak e then
            readDoubleQuoted text (.lines none []) none cs (m.nextLine e.utf8Size)
          else match escaped? e, codeLength? e with
            | some e', _ => readDoubleQuoted (e' :: text) .empty none cs (m.after e)
            | none, some n => readDoubleQuoted text .empty (some (n, 0)) cs (m.after e)
            | none, none => .error ⟨.badEscape, m⟩
      else readDoubleQuoted (c :: (gap.folded ++ text)) .empty none cs (m.after c)

def isFlowIndicator (c : Char) : Bool :=
  c = ',' || c = '[' || c = ']' || c = '{' || c = '}'

structure Plain where
  text : List Char
  stop : Mark
  /-- Line ends were read behind it, so that a key may follow. -/
  endsLine : Bool
  cursor : Cursor

/-- Reads a plain scalar; outside flow collections its lines are indented by at least `indent`. -/
def readPlain (inFlow : Bool) (indent : Nat) (text : List Char) (gap : Gap) (stop : Mark) :
    List Char → Mark → Except SyntaxError Plain
  | [], m => .ok ⟨text, stop, gap.hasLineEnd, [], m⟩
  | '\r' :: '\n' :: cs, m =>
    readPlain inFlow indent text (gap.addLineEnd '\n') stop cs (m.nextLine 2)
  | c :: cs, m =>
    if isBreak c then
      readPlain inFlow indent text (gap.addLineEnd (keptLineEnd c)) stop cs
        (m.nextLine c.utf8Size)
    else if isBlank c then
      if gap.hasLineEnd ∧ m.column < indent ∧ c = '\t' then .error ⟨.tabInIndentation, m⟩
      else readPlain inFlow indent text (gap.addBlank c) stop cs (m.after c)
    else
      let followsGap := !gap.isEmpty
      if followsGap && ((!inFlow && decide (m.column < indent)) || c = '#' ||
          (m.column = 0 && isDocumentMarker (c :: cs))) then
        .ok ⟨text, stop, gap.hasLineEnd, c :: cs, m⟩
      else if inFlow && c = ':' && (cs.head?.any fun d => isFlowIndicator d || d = '?') then
        .error ⟨.ambiguousColon, m⟩
      else if (c = ':' && isGap cs) || (inFlow && isFlowIndicator c) then
        .ok ⟨text, stop, gap.hasLineEnd, c :: cs, m⟩
      else readPlain inFlow indent (c :: (gap.folded ++ text)) .empty (m.after c) cs (m.after c)

end PanelLauncher.Yaml
