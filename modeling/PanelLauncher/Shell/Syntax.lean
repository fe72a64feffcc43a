/-!
# Scripts

A script is a list of commands; the words of a command are made of characters and expansions. Of
every piece of a word it is known whether it stands between quotes.

This is part of the system for test runs and of nothing else. No theorem is about it.
-/

namespace PanelLauncher.Shell

inductive Parameter
  | named (name : String)
  | argument (index : Nat)
  | argumentCount
  | lastStatus
  | ownPid
  | lastBackground
  | options
  | arguments (joined : Bool)
  deriving DecidableEq, Repr

inductive Fallback
  | value
  | assign
  | complain
  | alternative
  deriving DecidableEq, Repr

inductive Direction
  | read
  | write
  /-- Writes even if files are not to be overwritten. -/
  | overwrite
  | append
  | readWrite
  deriving DecidableEq, Repr

mutual

inductive Piece
  | char (c : Char) (isQuoted : Bool)
  /-- Quotes are here, perhaps around nothing. -/
  | quotes
  | parameter (p : Parameter) (isQuoted : Bool)
  | length (p : Parameter) (isQuoted : Bool)
  /-- A value or, without one, what a word says; an empty value counts as none if asked for. -/
  | fallback (p : Parameter) (kind : Fallback) (emptyIsNone : Bool) (word : List Piece)
      (isQuoted : Bool)
  | trim (p : Parameter) (atEnd isLongest : Bool) (pattern : List Piece) (isQuoted : Bool)
  | command (body : Script) (isQuoted : Bool)
  | arithmetic (expression : List Piece) (isQuoted : Bool)
  /-- Braces that hold no expansion. -/
  | malformed

inductive Script
  | nothing
  | simple (line : Nat) (assignments : List (String × List Piece)) (words : List (List Piece))
      (redirections : List Redirection)
  | pipeline (commands : List Script)
  | negated (body : Script)
  | andThen (first second : Script)
  | orElse (first second : Script)
  | then_ (first second : Script)
  | background (line : Nat) (body : Script)
  | redirected (line : Nat) (body : Script) (redirections : List Redirection)
  | subshell (line : Nat) (body : Script) (redirections : List Redirection)
  | ifThen (condition positive : Script) (negative : Option Script)
  | loop (wanted : Bool) (condition body : Script)
  | forEach (line : Nat) (name : String) (words : Option (List (List Piece))) (body : Script)
  | select (line : Nat) (subject : List Piece) (branches : List (List (List Piece) × Script))
  | define (line : Nat) (name : String) (body : Script)

inductive Redirection
  | file (descriptor : Nat) (direction : Direction) (target : List Piece)
  /-- The descriptor gets the meaning of another one, or none. -/
  | copy (descriptor : Nat) (target : List Piece)
  | document (descriptor : Nat) (number : Nat)

end

abbrev Word := List Piece

namespace Piece

instance : Inhabited Piece := ⟨quotes⟩

def bareChar? : Piece → Option Char
  | char c false => some c
  | _ => none

end Piece

namespace Script

instance : Inhabited Script := ⟨nothing⟩

end Script

namespace Word

def bareText? (w : Word) : Option String :=
  (w.mapM Piece.bareChar?).map String.ofList

def ofBareText (s : String) : Word :=
  s.toList.map (.char · false)

def ofText (cs : List Char) : Word :=
  cs.map (.char · true)

def isNameStart (c : Char) : Bool :=
  c.isAlpha || c = '_'

def isNameChar (c : Char) : Bool :=
  c.isAlphanum || c = '_'

def isName (s : String) : Bool :=
  match s.toList with
  | [] => false
  | c :: cs => isNameStart c && cs.all isNameChar

def assignment? (w : Word) : Option (String × Word) :=
  let isInName := fun (p : Piece) => (p.bareChar?).any isNameChar
  let name := String.ofList ((w.takeWhile isInName).filterMap Piece.bareChar?)
  match w.dropWhile isInName with
  | .char '=' false :: value => if isName name then some (name, value) else none
  | _ => none

end Word

end PanelLauncher.Shell
