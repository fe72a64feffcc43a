import PanelLauncher.Yaml.Scalar.Block
import PanelLauncher.Yaml.Scalar.Flow
import PanelLauncher.Yaml.Tag.Reader
import PanelLauncher.Yaml.Token

/-!
# From characters to tokens

Tokens are found one after the other. Two things are known only later: that a node was a mapping's
key, when the colon behind it is met, and that a block collection has ended, when the indentation
falls back. A node that may turn out a key is remembered together with its place among the tokens;
it has to be met by its colon on the same line and within 1024 bytes.
-/

namespace PanelLauncher.Yaml

/-- A node that becomes a key if a colon follows. -/
structure KeyCandidate where
  /-- It stands where only a key can, so that a missing colon is an error. -/
  isRequired : Bool
  position : Nat
  mark : Mark

structure Lexer where
  cursor : Cursor
  /-- The tokens found so far, backwards, and their number. -/
  tokens : List Token
  count : Nat
  columns : List Nat
  /-- The key candidate outside of flow collections and of each open one, the innermost first. -/
  candidates : List (Option KeyCandidate)
  keyAllowed : Bool

namespace Lexer

def init (s : String) : Lexer where
  cursor := .ofString s
  tokens := []
  count := 0
  columns := []
  candidates := [none]
  keyAllowed := true

def inFlow (s : Lexer) : Bool :=
  1 < s.candidates.length

def mark (s : Lexer) : Mark :=
  s.cursor.mark

def push (s : Lexer) (kind : TokenKind) (cursor : Cursor) : Lexer :=
  { s with
    tokens := ⟨kind, s.mark, cursor.mark⟩ :: s.tokens, count := s.count + 1, cursor }

def pushChars (s : Lexer) (kind : TokenKind) (n : Nat) : Lexer :=
  s.push kind (s.cursor.skip n)

/-- Puts a token of no width behind the first `position` tokens. -/
def insert (s : Lexer) (position : Nat) (kind : TokenKind) (mark : Mark) : Lexer :=
  let later := s.count - position
  { s with
    tokens := s.tokens.take later ++ ⟨kind, mark, mark⟩ :: s.tokens.drop later
    count := s.count + 1 }

def openBlock (s : Lexer) (column position : Nat) (kind : TokenKind) (mark : Mark) : Lexer :=
  if s.inFlow then s
  else if s.columns.head?.all (· < column) then
    { s.insert position kind mark with columns := column :: s.columns }
  else s

/-- Ends the block collections that are indented more than `column`; all of them for `none`. -/
def closeBlocks (s : Lexer) (column : Option Nat) : Lexer :=
  if s.inFlow then s
  else
    let closed := s.columns.takeWhile fun c => column.all (· < c)
    closed.foldl (fun s _ => s.push .blockEnd s.cursor)
      { s with columns := s.columns.drop closed.length }

def refuseRequired (candidate : Option KeyCandidate) : Except SyntaxError Unit :=
  match candidate with
  | some key => if key.isRequired then .error ⟨.missingColon, key.mark⟩ else .ok ()
  | none => .ok ()

def dropCandidate (s : Lexer) : Except SyntaxError Lexer := do
  refuseRequired s.candidates.head?.join
  return { s with candidates := none :: s.candidates.drop 1 }

def saveCandidate (s : Lexer) : Except SyntaxError Lexer := do
  if s.keyAllowed then
    let isRequired := !s.inFlow && s.columns.head? = some s.mark.column
    let s ← s.dropCandidate
    return { s with candidates := some ⟨isRequired, s.count, s.mark⟩ :: s.candidates.drop 1 }
  else return s

/-- The innermost key candidate, unless it is too far behind the cursor for a colon. -/
def nearCandidate? (s : Lexer) : Except SyntaxError (Option KeyCandidate) :=
  match s.candidates.head?.join with
  | some key =>
    if key.mark.line < s.mark.line || key.mark.offset + 1024 < s.mark.offset then do
      refuseRequired (some key)
      return none
    else return some key
  | none => return none

def skipSpace (s : Lexer) : Nat → Lexer
  | 0 => s
  | fuel + 1 =>
    let c := s.cursor
    let c := if c.mark.column = 0 && c.rest.head? = some '\ufeff' then c.skip 1 else c
    let tabsCount := s.inFlow || !s.keyAllowed
    let c := c.skipWhile fun d => d = ' ' || (tabsCount && d = '\t')
    let c := if c.rest.head? = some '#' then c.skipWhile (!isBreak ·) else c
    match c.lineEnd? with
    | some (_, c) =>
      skipSpace { s with cursor := c, keyAllowed := s.keyAllowed || !s.inFlow } fuel
    | none => { s with cursor := c }

def takeStreamEnd (s : Lexer) : Except SyntaxError Lexer := do
  let m := s.mark
  let m := if m.column = 0 then m else ⟨m.offset, m.line + 1, 0⟩
  let s ← ({ s with cursor := ⟨[], m⟩ }.closeBlocks none).dropCandidate
  return s.push .streamEnd s.cursor

def takeDirective (s : Lexer) : Except SyntaxError Lexer := do
  let s ← (s.closeBlocks none).dropCandidate
  let (directive, c) ← readDirective s.cursor
  let kind := match directive with
    | .version major minor => .versionDirective major minor
    | .tag handle expansion => .tagDirective handle expansion
  return { s.push kind c with keyAllowed := false }

def takeDocumentMarker (s : Lexer) (kind : TokenKind) : Except SyntaxError Lexer := do
  let s ← (s.closeBlocks none).dropCandidate
  return { s.pushChars kind 3 with keyAllowed := false }

def takeFlowStart (s : Lexer) (kind : TokenKind) : Except SyntaxError Lexer := do
  let s ← s.saveCandidate
  return { s.pushChars kind 1 with candidates := none :: s.candidates, keyAllowed := true }

def takeFlowEnd (s : Lexer) (kind : TokenKind) : Except SyntaxError Lexer := do
  let s ← s.dropCandidate
  let candidates := if s.inFlow then s.candidates.drop 1 else s.candidates
  return { s.pushChars kind 1 with candidates, keyAllowed := false }

def takeFlowEntry (s : Lexer) : Except SyntaxError Lexer := do
  let s ← s.dropCandidate
  return { s.pushChars .flowEntry 1 with keyAllowed := true }

def takeBlockEntry (s : Lexer) : Except SyntaxError Lexer := do
  if !s.inFlow && !s.keyAllowed then throw ⟨.misplacedEntry, s.mark⟩
  let s ← (s.openBlock s.mark.column s.count .blockSequenceStart s.mark).dropCandidate
  return { s.pushChars .blockEntry 1 with keyAllowed := true }

def takeKey (s : Lexer) : Except SyntaxError Lexer := do
  if !s.inFlow && !s.keyAllowed then throw ⟨.misplacedKey, s.mark⟩
  let s ← (s.openBlock s.mark.column s.count .blockMappingStart s.mark).dropCandidate
  return { s.pushChars .key 1 with keyAllowed := !s.inFlow }

def takeValue (s : Lexer) : Except SyntaxError Lexer := do
  match ← s.nearCandidate? with
  | some key =>
    let s := (s.insert key.position .key key.mark).openBlock key.mark.column key.position
      .blockMappingStart key.mark
    return { s.pushChars .value 1 with
      candidates := none :: s.candidates.drop 1, keyAllowed := false }
  | none =>
    if !s.inFlow && !s.keyAllowed then throw ⟨.misplacedValue, s.mark⟩
    else
      let s := s.openBlock s.mark.column s.count .blockMappingStart s.mark
      return { s.pushChars .value 1 with
        candidates := none :: s.candidates.drop 1, keyAllowed := !s.inFlow }

def takeAnchor (s : Lexer) (kind : String → TokenKind) : Except SyntaxError Lexer := do
  let s ← s.saveCandidate
  let (name, c) := (s.cursor.skip 1).takeWhile isWordChar
  let isEnd := isGap c.rest || c.rest.head?.any fun d =>
    ['?', ':', ',', ']', '}', '%', '@', '`'].contains d
  if name.isEmpty || !isEnd then throw ⟨.badAnchorName, s.mark⟩
  return { s.push (kind (String.ofList name)) c with keyAllowed := false }

def takeTag (s : Lexer) : Except SyntaxError Lexer := do
  let s ← s.saveCandidate
  let ((handle, suffix), c) ← readTag s.inFlow s.cursor
  return { s.push (.tag handle suffix) c with keyAllowed := false }

def takeBlockScalar (s : Lexer) (isLiteral : Bool) : Except SyntaxError Lexer := do
  let s ← s.dropCandidate
  let (text, c) ← readBlockScalar isLiteral s.columns.head? (s.cursor.skip 1)
  return { s.push (.scalar false (String.ofList text.reverse)) c with keyAllowed := true }

def takeQuoted (s : Lexer) (isDouble : Bool) : Except SyntaxError Lexer := do
  let s ← s.saveCandidate
  let c := s.cursor.skip 1
  let (text, c) ←
    if isDouble then readDoubleQuoted [] .empty none c.rest c.mark
    else readSingleQuoted [] .empty c.rest c.mark
  return { s.push (.scalar false (String.ofList text.reverse)) c with keyAllowed := false }

def takePlain (s : Lexer) : Except SyntaxError Lexer := do
  let s ← s.saveCandidate
  let indent := match s.columns with
    | column :: _ => column + 1
    | [] => 0
  let plain ← readPlain s.inFlow indent [] .empty s.mark s.cursor.rest s.mark
  let token : Token := ⟨.scalar true (String.ofList plain.text.reverse), s.mark, plain.stop⟩
  return { s with
    tokens := token :: s.tokens, count := s.count + 1, cursor := plain.cursor
    keyAllowed := plain.endsLine }

def isPlainStart (inFlow : Bool) : List Char → Bool
  | [] => false
  | c :: cs =>
    if c = '-' then !cs.head?.any isBlank
    else if c = '?' || c = ':' then !inFlow && !isGap cs
    else !(isBlank c || isBreak c || [',', '[', ']', '{', '}', '#', '&', '*', '!', '|', '>', '\'',
      '"', '%', '@', '`'].contains c)

def takeToken (s : Lexer) : Except SyntaxError Lexer :=
  let atLineStart := s.mark.column = 0
  match s.cursor.rest with
  | [] => s.takeStreamEnd
  | c :: cs =>
    if atLineStart && c = '%' then s.takeDirective
    else if atLineStart && isDocumentMarker (c :: cs) then
      s.takeDocumentMarker (if c = '-' then .documentStart else .documentEnd)
    else if c = '[' then s.takeFlowStart .flowSequenceStart
    else if c = '{' then s.takeFlowStart .flowMappingStart
    else if c = ']' then s.takeFlowEnd .flowSequenceEnd
    else if c = '}' then s.takeFlowEnd .flowMappingEnd
    else if c = ',' then s.takeFlowEntry
    else if c = '-' && isGap cs then s.takeBlockEntry
    else if c = '?' && (s.inFlow || isGap cs) then s.takeKey
    else if c = ':' && (s.inFlow || isGap cs) then s.takeValue
    else if c = '*' then s.takeAnchor .reference
    else if c = '&' then s.takeAnchor .anchor
    else if c = '!' then s.takeTag
    else if c = '|' && !s.inFlow then s.takeBlockScalar true
    else if c = '>' && !s.inFlow then s.takeBlockScalar false
    else if c = '\'' then s.takeQuoted false
    else if c = '"' then s.takeQuoted true
    else if isPlainStart s.inFlow (c :: cs) then s.takePlain
    else .error ⟨.badToken, s.mark⟩

/-- Finds the next token; white space before it, of at most `lines` lines, decides what ends. -/
def next (s : Lexer) (lines : Nat) : Except SyntaxError Lexer :=
  let s := s.skipSpace lines
  (s.closeBlocks (some s.mark.column)).takeToken

def isDone (s : Lexer) : Bool :=
  match s.tokens with
  | ⟨.streamEnd, _, _⟩ :: _ => true
  | _ => false

def run (s : Lexer) : Nat → Except SyntaxError (List Token)
  | 0 => .error ⟨.badToken, s.mark⟩
  | fuel + 1 => do
    let s ← s.next (fuel + 1)
    if s.isDone then return s.tokens.reverse else s.run fuel

end Lexer

def forbidden? : List Char → Mark → Option Mark
  | [], _ => none
  | c :: cs, m =>
    if isAllowed c then forbidden? cs (if c = '\n' then m.nextLine 1 else m.after c) else some m

def Token.ofString (s : String) : Except SyntaxError (List Token) :=
  match forbidden? s.toList .start with
  | some m => .error ⟨.forbiddenCharacter, m⟩
  | none => (Lexer.init s).run (s.length + 2)

end PanelLauncher.Yaml
