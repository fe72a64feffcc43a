import PanelLauncher.Command.Basic

/-!
# The shell line of a command

A command is shown as the line that a shell would run it by. A word of harmless characters is
written as it is; any other is put between single quotes, and a quote inside leaves the quotes,
stands behind a backslash, and enters them again.
-/

namespace PanelLauncher

/-- A character that means nothing to a shell, wherever it stands in a word. -/
def isPlainChar (c : Char) : Bool :=
  c.isAlphanum || ['_', '-', '.', '/', ',', '=', ':', '@', '%', '+'].contains c

def quoteChar (c : Char) : List Char :=
  if c = '\'' then ['\'', '\\', '\'', '\''] else [c]

def shellQuote (word : List Char) : List Char :=
  if !word.isEmpty && word.all isPlainChar then word
  else '\'' :: word.flatMap quoteChar ++ ['\'']

namespace LaunchCommand

def words (c : LaunchCommand) : List String :=
  c.program :: c.args

def redirection (logFile : Option String) : List Char :=
  match logFile with
  | none => []
  | some path => " >> ".toList ++ shellQuote path.toList ++ " 2>&1".toList

def line (c : LaunchCommand) : List Char :=
  shellQuote c.program.toList ++ c.args.flatMap (fun arg => ' ' :: shellQuote arg.toList) ++
    redirection c.logFile

/-- The shell line of a command. -/
def render (c : LaunchCommand) : String :=
  String.ofList c.line

end LaunchCommand

end PanelLauncher
