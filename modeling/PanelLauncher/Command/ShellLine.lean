/-!
# A line of a shell, read by the rules for words

A shell text is cut into words, operators and comments, one character after the other. Inside a word
single quotes and a backslash take every meaning from a character, double quotes most meanings; the
quotes are removed and what they did is kept with each character. A number right before a
redirection says what is redirected. Where an expansion begins is seen from its first character;
how far it reaches is not looked at.
-/

namespace PanelLauncher.ShellLine

/-- What quoting leaves of a character's meaning: all, expansions only, or none. -/
inductive Quoting
  | bare
  | soft
  | hard
  deriving DecidableEq, Repr

structure Glyph where
  char : Char
  quoting : Quoting
  deriving DecidableEq, Repr

def Glyph.isActive (g : Glyph) : Bool :=
  match g.quoting with
  | .bare => ['$', '`', '~', '*', '?', '[', '#'].contains g.char
  | .soft => ['$', '`'].contains g.char
  | .hard => false

/-- A word; quotes make one even where no character is left. -/
structure Word where
  glyphs : List Glyph
  hasQuotes : Bool
  deriving DecidableEq, Repr

inductive Operator
  | newline
  | semicolon
  | caseEnd
  | background
  | andThen
  | pipe
  | orElse
  | openParen
  | closeParen
  | readFrom
  | hereText
  | hereIndented
  | openBoth
  | copyFrom
  | writeTo
  | appendTo
  | overwrite
  | copyTo
  deriving DecidableEq, Repr

namespace Operator

def ofChar? : Char → Option Operator
  | '\n' => some newline
  | ';' => some semicolon
  | '&' => some background
  | '|' => some pipe
  | '(' => some openParen
  | ')' => some closeParen
  | '<' => some readFrom
  | '>' => some writeTo
  | _ => none

def extend? : Operator → Char → Option Operator
  | semicolon, ';' => some caseEnd
  | background, '&' => some andThen
  | pipe, '|' => some orElse
  | readFrom, '<' => some hereText
  | hereText, '-' => some hereIndented
  | readFrom, '>' => some openBoth
  | readFrom, '&' => some copyFrom
  | writeTo, '>' => some appendTo
  | writeTo, '|' => some overwrite
  | writeTo, '&' => some copyTo
  | _, _ => none

end Operator

inductive Token
  | word (w : Word)
  | operator (op : Operator)
  | number (n : Nat)
  | comment
  deriving DecidableEq, Repr

namespace Word

def empty : Word := ⟨[], false⟩

def add (w : Word) (c : Char) (quoting : Quoting) : Word :=
  { w with glyphs := ⟨c, quoting⟩ :: w.glyphs }

def quoted (w : Word) : Word :=
  { w with hasQuotes := true }

def reverse (w : Word) : Word :=
  { w with glyphs := w.glyphs.reverse }

def text (w : Word) : String :=
  String.ofList (w.glyphs.map (·.char))

def number? (w : Word) : Option Nat :=
  let chars := w.glyphs.map (·.char)
  if !chars.isEmpty && chars.all Char.isDigit then
    some (chars.foldl (fun n c => n * 10 + (c.toNat - '0'.toNat)) 0)
  else none

def isInert (w : Word) : Bool :=
  w.glyphs.all (!·.isActive)

def isBare (w : Word) : Bool :=
  !w.hasQuotes && w.glyphs.all (·.quoting = .bare)

end Word

/-- What has been begun outside of quotes; the characters of a word run backwards. -/
inductive Begun
  | nothing
  | word (w : Word)
  | operator (op : Operator)
  deriving DecidableEq, Repr

namespace Begun

def finish : Begun → List Token
  | nothing => []
  | word w => [.word w.reverse]
  | operator op => [.operator op]

/-- What ends before an operator; bare digits before a redirection are its number. -/
def finishBefore (op : Operator) (b : Begun) : List Token :=
  match b with
  | word w =>
    if (op = .readFrom || op = .writeTo) && w.isBare then
      match w.reverse.number? with
      | some n => [.number n]
      | none => b.finish
    else b.finish
  | b => b.finish

def toWord : Begun → List Token × Word
  | nothing => ([], .empty)
  | word w => ([], w)
  | operator op => ([.operator op], .empty)

end Begun

/-- Where reading stands: outside of quotes, behind a backslash, inside of quotes, or in a comment. -/
inductive Reader
  | plain (b : Begun)
  | escaped (b : Begun)
  | single (w : Word)
  | double (w : Word)
  | doubleEscaped (w : Word)
  | comment
  deriving DecidableEq, Repr

namespace Reader

def startOrAdd (b : Begun) (c : Char) : List Token × Reader :=
  let (ts, w) := b.toWord
  if c = '\'' then (ts, single w.quoted)
  else if c = '"' then (ts, double w.quoted)
  else if c = '\\' then ([], escaped b)
  else if c = ' ' ∨ c = '\t' then (b.finish, plain .nothing)
  else
    match Operator.ofChar? c with
    | some op => (b.finishBefore op, plain (.operator op))
    | none =>
      match b with
      | .word _ => (ts, plain (.word (w.add c .bare)))
      | _ => if c = '#' then (ts, comment) else (ts, plain (.word (w.add c .bare)))

/-- A backslash between double quotes takes the meaning of these characters only. -/
def isSoftEscape (c : Char) : Bool :=
  c = '$' || c = '`' || c = '"' || c = '\\'

def step : Reader → Char → List Token × Reader
  | plain (.operator op), c =>
    match op.extend? c with
    | some op => ([], plain (.operator op))
    | none => startOrAdd (.operator op) c
  | plain b, c => startOrAdd b c
  | escaped b, c =>
    if c = '\n' then ([], plain b)
    else
      let (ts, w) := b.toWord
      (ts, plain (.word (w.quoted.add c .hard)))
  | single w, c => ([], if c = '\'' then plain (.word w) else single (w.add c .hard))
  | double w, c =>
    ([], if c = '"' then plain (.word w)
      else if c = '\\' then doubleEscaped w
      else double (w.add c .soft))
  | doubleEscaped w, c =>
    ([], if c = '\n' then double w
      else if isSoftEscape c then double (w.add c .hard)
      else double ((w.add '\\' .hard).add c .hard))
  | comment, c => if c = '\n' then ([.comment], plain (.operator .newline)) else ([], comment)

def finish : Reader → Option (List Token)
  | plain b => some b.finish
  | escaped b =>
    let (ts, w) := b.toWord
    some (ts ++ [.word (w.add '\\' .hard).reverse])
  | comment => some [.comment]
  | _ => none

def tokens (r : Reader) : List Char → Option (List Token)
  | [] => r.finish
  | c :: cs =>
    let (ts, next) := r.step c
    (next.tokens cs).map (ts ++ ·)

end Reader

def Token.ofString? (s : String) : Option (List Token) :=
  Reader.tokens (.plain .nothing) s.toList

inductive RedirectionKind
  | read
  | write
  | append
  | both
  | copy
  deriving DecidableEq, Repr

structure Redirection where
  kind : RedirectionKind
  descriptor : Nat
  target : Word
  deriving DecidableEq, Repr

/-- What an operator of redirection does, and the descriptor it concerns if none is named. A text
that is to follow on further lines is not one of them. -/
def Operator.redirection? : Operator → Option (RedirectionKind × Nat)
  | readFrom => some (.read, 0)
  | copyFrom => some (.copy, 0)
  | openBoth => some (.both, 0)
  | writeTo => some (.write, 1)
  | overwrite => some (.write, 1)
  | appendTo => some (.append, 1)
  | copyTo => some (.copy, 1)
  | _ => none

structure SimpleCommand where
  words : List Word
  redirections : List Redirection
  deriving DecidableEq, Repr

namespace SimpleCommand

def addWord (w : Word) (c : SimpleCommand) : SimpleCommand :=
  { c with words := w :: c.words }

def addRedirection (r : Redirection) (c : SimpleCommand) : SimpleCommand :=
  { c with redirections := r :: c.redirections }

def ofTokens? : List Token → Option SimpleCommand
  | [] => some ⟨[], []⟩
  | .comment :: ts => ofTokens? ts
  | .word w :: ts => (ofTokens? ts).map (addWord w)
  | .number n :: .operator op :: .word w :: ts =>
    op.redirection?.bind fun (kind, _) => (ofTokens? ts).map (addRedirection ⟨kind, n, w⟩)
  | .operator op :: .word w :: ts =>
    op.redirection?.bind fun (kind, n) => (ofTokens? ts).map (addRedirection ⟨kind, n, w⟩)
  | _ => none

def ofString? (s : String) : Option SimpleCommand :=
  (Token.ofString? s).bind ofTokens?

end SimpleCommand

inductive Target
  | inherited (descriptor : Nat)
  | file (path : String) (kind : RedirectionKind)
  deriving DecidableEq, Repr

abbrev Descriptors := Nat → Option Target

namespace Descriptors

def inherited : Descriptors := fun n => some (.inherited n)

def set (d : Descriptors) (n : Nat) (target : Option Target) : Descriptors :=
  fun m => if m = n then target else d m

/-- The descriptors after a redirection; a copy leads to what its source leads to by then. -/
def redirect? (d : Descriptors) (r : Redirection) : Option Descriptors :=
  match r.kind with
  | .copy =>
    if r.target.text = "-" then some (d.set r.descriptor none)
    else do
      let target ← d (← r.target.number?)
      return d.set r.descriptor (some target)
  | kind => some (d.set r.descriptor (some (.file r.target.text kind)))

end Descriptors

/-- What the descriptors of a command lead to; its redirections are made from left to right. -/
def SimpleCommand.descriptors? (c : SimpleCommand) : Option Descriptors :=
  c.redirections.foldlM Descriptors.redirect? .inherited

end PanelLauncher.ShellLine
