import PanelLauncher.Shell.Syntax

/-!
# The text of a script while it is read

A script is read command by command. A backslash at the end of a line joins it with the next one.
The texts that redirections read follow the line on which they are announced; they get numbers.

This is part of the system for test runs and of nothing else. No theorem is about it.
-/

namespace PanelLauncher.Shell

inductive Keyword
  | bang
  | case_
  | do_
  | done
  | elif
  | else_
  | esac
  | fi
  | for_
  | if_
  | in_
  | then_
  | until_
  | while_
  | openBrace
  | closeBrace
  deriving DecidableEq, Repr

namespace Keyword

def all : List Keyword :=
  [bang, case_, do_, done, elif, else_, esac, fi, for_, if_, in_, then_, until_, while_, openBrace,
    closeBrace]

def text : Keyword → String
  | bang => "!"
  | case_ => "case"
  | do_ => "do"
  | done => "done"
  | elif => "elif"
  | else_ => "else"
  | esac => "esac"
  | fi => "fi"
  | for_ => "for"
  | if_ => "if"
  | in_ => "in"
  | then_ => "then"
  | until_ => "until"
  | while_ => "while"
  | openBrace => String.singleton '{'
  | closeBrace => String.singleton '}'

def ofText? (s : String) : Option Keyword :=
  all.find? (·.text = s)

def endsList : Keyword → Bool
  | do_ | done | elif | else_ | esac | fi | then_ | closeBrace => true
  | _ => false

end Keyword

inductive RedirectionKind
  | file (direction : Direction)
  | copy
  /-- A text of the script, whose lines may lose the tabs in front. -/
  | document (stripsTabs : Bool)
  deriving DecidableEq, Repr

inductive Token
  | endOfFile
  | newline
  | semicolon
  | background
  | andThen
  | orElse
  | pipe
  | openParen
  | closeParen
  | endBranch
  | redirection (descriptor : Nat) (kind : RedirectionKind)
  | keyword (k : Keyword)
  | word (w : Word)

namespace Token

def name : Token → String
  | endOfFile => "end of file"
  | newline => "newline"
  | semicolon => "\";\""
  | background => "\"&\""
  | andThen => "\"&&\""
  | orElse => "\"||\""
  | pipe => "\"|\""
  | openParen => "\"(\""
  | closeParen => "\")\""
  | endBranch => "\";;\""
  | redirection _ _ => "redirection"
  | keyword k => "\"" ++ k.text ++ "\""
  | word _ => "word"

def endsList : Token → Bool
  | endOfFile | closeParen | endBranch => true
  | keyword k => k.endsList
  | _ => false

end Token

structure PendingDocument where
  number : Nat
  delimiter : String
  stripsTabs : Bool
  isLiteral : Bool
  deriving Repr

structure Source where
  rest : List Char
  line : Nat
  pushed : Option Token
  pending : List PendingDocument
  documents : List (Nat × Word)
  nextDocument : Nat
  aliases : List (String × String)
  /-- The aliases whose texts are being read, and how much is left behind those. -/
  openAliases : List (String × Nat)

structure ScriptError where
  line : Nat
  message : String
  deriving DecidableEq, Repr

def Source.ofText (s : String) : Source :=
  ⟨s.toList, 1, none, [], [], 0, [], []⟩

def Source.alias? (s : Source) (name : String) : Option String :=
  if s.openAliases.any fun (n, left) => n = name && left < s.rest.length then none
  else s.aliases.lookup name

def Source.openAlias (s : Source) (name text : String) : Source :=
  { s with
    rest := text.toList ++ ' ' :: s.rest
    openAliases := (name, s.rest.length) :: s.openAliases }

abbrev Parse := StateT Source (Except ScriptError)

namespace Parse

def fail {α : Type} (message : String) : Parse α := do
  throw ⟨(← get).line, "Syntax error: " ++ message⟩

/-- Takes joined lines apart no more: the rest behind them, and the line where it is. -/
def joinLines : Nat → List Char → Nat × List Char
  | line, '\\' :: '\n' :: cs => joinLines (line + 1) cs
  | line, cs => (line, cs)

def peek : Parse (Option Char) := do
  let s ← get
  let (line, rest) := joinLines s.line s.rest
  set { s with line := line, rest := rest }
  return rest.head?

def peekRaw : Parse (Option Char) := do
  return (← get).rest.head?

def skip : Parse Unit :=
  modify fun s =>
    match s.rest with
    | [] => s
    | c :: cs => { s with rest := cs, line := if c = '\n' then s.line + 1 else s.line }

/-- Passes over one character, which counts as no line even if it ends one. -/
def skipUncounted : Parse Unit :=
  modify fun s => { s with rest := s.rest.drop 1 }

def accept (c : Char) : Parse Bool := do
  if (← peek) = some c then
    skip
    return true
  else return false

def takeWhile (p : Char → Bool) : (fuel : Nat) → Parse (List Char)
  | 0 => return []
  | fuel + 1 => do
    match ← peek with
    | some c =>
      if p c then
        skip
        return c :: (← takeWhile p fuel)
      else return []
    | none => return []

def takeSingleQuoted : (fuel : Nat) → Parse (List Char)
  | 0 => fail "Unterminated quoted string"
  | fuel + 1 => do
    match ← peekRaw with
    | none => fail "Unterminated quoted string"
    | some '\'' =>
      skip
      return []
    | some c =>
      skip
      return c :: (← takeSingleQuoted fuel)

def skipComment : (fuel : Nat) → Parse Unit
  | 0 => return ()
  | fuel + 1 => do
    match ← peekRaw with
    | none => return ()
    | some '\n' => return ()
    | some _ =>
      skip
      skipComment fuel

/-- The commands between backquotes, whose backslashes have been taken away where they can be. -/
def takeBackquoted (isQuoted : Bool) : (fuel : Nat) → Parse (List Char)
  | 0 => fail "EOF in backquote substitution"
  | fuel + 1 => do
    match ← peek with
    | none => fail "EOF in backquote substitution"
    | some '`' =>
      skip
      return []
    | some '\\' =>
      skip
      match ← peekRaw with
      | none => fail "EOF in backquote substitution"
      | some c =>
        skip
        let isMeant := c = '\\' || c = '`' || c = '$' || (isQuoted && c = '"')
        let rest ← takeBackquoted isQuoted fuel
        return if isMeant then c :: rest else '\\' :: c :: rest
    | some c =>
      skip
      return c :: (← takeBackquoted isQuoted fuel)

/-! ## Announced texts -/

def splitLine (cs : List Char) : List Char × List Char :=
  let line := cs.takeWhile (· ≠ '\n')
  (line, (cs.drop line.length).drop 1)

def isContinued (line : List Char) : Bool :=
  (line.reverse.takeWhile (· = '\\')).length % 2 = 1

def documentText (d : PendingDocument) : (fuel : Nat) → (isFollowing : Bool) → List Char →
    List Char × List Char
  | 0, _, cs => (cs, [])
  | _, _, [] => ([], [])
  | fuel + 1, isFollowing, cs =>
    let (line, rest) := splitLine cs
    let line := if d.stripsTabs && !isFollowing then line.dropWhile (· = '\t') else line
    if !isFollowing && String.ofList line = d.delimiter then ([], rest)
    else
      let isFollowed := !d.isLiteral && isContinued line
      let (text, behind) := documentText d fuel isFollowed rest
      let ending := if rest.isEmpty && cs.getLast? ≠ some '\n' then [] else ['\n']
      (line ++ ending ++ text, behind)

end Parse

end PanelLauncher.Shell
