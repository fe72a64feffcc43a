import PanelLauncher.Command.ShellLine

/-!
# What a shell runs for a line

Where a command begins, two kinds of words are not its name: the reserved words, of which the
grammar of a shell is made, and assignments to variables, which may stand in front of the name.
Either is what it is only if it has been written without quotes.
-/

namespace PanelLauncher.ShellLine

/-- The words that no simple command begins with. -/
def reservedWords : List String :=
  ["!", String.singleton '{', String.singleton '}', "case", "do", "done", "elif", "else", "esac",
    "fi", "for", "if", "in", "then", "until", "while"]

/-! ## Names of variables -/

def isNameStart (c : Char) : Bool :=
  c.isAlpha || c = '_'

def isNameChar (c : Char) : Bool :=
  c.isAlphanum || c = '_'

def isName : List Char → Bool
  | [] => false
  | c :: cs => isNameStart c && cs.all isNameChar

/-- Glyphs that go on with a name up to an equals sign, all of them bare. -/
def endsName : List Glyph → Bool
  | [] => false
  | g :: gs => g.quoting = .bare && (g.char = '=' || isNameChar g.char && endsName gs)

namespace Word

def isReserved (w : Word) : Bool :=
  w.isBare && reservedWords.contains w.text

/-- A name and an equals sign, both bare, and any value. Quotes with nothing between them leave
nothing to be seen here. -/
def isAssignment (w : Word) : Bool :=
  match w.glyphs with
  | [] => false
  | g :: gs => g.quoting = .bare && isNameStart g.char && endsName gs

end Word

def Token.isReserved : Token → Bool
  | word w => w.isReserved
  | _ => false

/-- A simple command as it is run: the variables set for it, then its name and its arguments. -/
structure Execution where
  assignments : List Word
  words : List Word
  redirections : List Redirection
  deriving DecidableEq, Repr

namespace Execution

def ofTokens? (ts : List Token) : Option Execution :=
  if ts.head?.any Token.isReserved then none
  else (SimpleCommand.ofTokens? ts).map fun c =>
    { assignments := c.words.takeWhile Word.isAssignment
      words := c.words.dropWhile Word.isAssignment
      redirections := c.redirections }

def ofString? (s : String) : Option Execution :=
  (Token.ofString? s).bind ofTokens?

end Execution

end PanelLauncher.ShellLine
