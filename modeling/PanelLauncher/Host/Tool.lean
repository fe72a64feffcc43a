import PanelLauncher.Host.Tool.Edit
import PanelLauncher.Host.Tool.Processes
import PanelLauncher.Shell.Start

/-!
# The programs of a system

Programs that a system has from the start, known by their names. Each is a function of its
arguments, the first of which is what it was called, and of its environment.

This is part of the system for test runs and of nothing else. No theorem is about it.
-/

namespace PanelLauncher.Tool

/-- A condition of `test`, which complains on its own account. -/
def condition (name : String) (args : List String) (environment : Environment) : Task :=
  .identity fun identity =>
    let state := Shell.State.start name environment identity "/"
    Shell.Action.toTask (do
      let status ← tryCatch (Shell.Builtin.test args) fun _ => return 2
      Shell.Action.setStatus status) { state with commandName := none }

def program? (tool name : String) (args : List String) (environment : Environment) :
    Option (Program Nat) :=
  match tool with
  | "true" => some (return 0)
  | "false" => some (return 1)
  | "echo" => some (echo args)
  | "printf" => some (printf name args)
  | "cat" => some (cat name args)
  | "head" => some (head name args)
  | "tail" => some (tail name args)
  | "wc" => some (wc name args)
  | "tee" => some (tee name args)
  | "sort" => some (sort name args)
  | "uniq" => some (uniq name args)
  | "cut" => some (cut name args)
  | "tr" => some (tr name args)
  | "tac" => some (tac name args)
  | "rev" => some (rev name args)
  | "grep" => some (grep false false name args)
  | "egrep" => some (grep true false name args)
  | "fgrep" => some (grep false true name args)
  | "sed" => some (Edit.edit name args)
  | "seq" => some (seq name args)
  | "ls" => some (ls name args)
  | "mkdir" => some (mkdir name args)
  | "rmdir" => some (rmdir name args)
  | "rm" => some (rm name args)
  | "touch" => some (touch name args)
  | "mv" => some (mv name args)
  | "cp" => some (cp name args)
  | "chmod" => some (chmod name args)
  | "basename" => some (basename name args)
  | "dirname" => some (dirname name args)
  | "pwd" => some (pwd name args)
  | "realpath" => some (realpath name args)
  | "readlink" => some (readlink name args)
  | "sleep" => some (sleep name args)
  | "yes" => some (yes name args)
  | "env" => some (env environment name args)
  | "printenv" => some (printenv environment name args)
  | "nohup" => some (nohup environment name args)
  | "nice" => some (nice environment name args)
  | "timeout" => some (timeout environment name args)
  | "xargs" => some (xargs environment name args)
  | "uname" => some (uname name args)
  | "whoami" => some (say "root")
  | "arch" => some (say "x86_64")
  | "id" => some (id_ name args)
  | "which" => some (which environment args)
  | "expr" => some (expr name args)
  | "sync" => some (return 0)
  | _ => none

def names : List String :=
  ["sh", "dash", "bash", "test", "[", "true", "false", "echo", "printf", "cat", "head", "tail",
    "wc", "tee", "sort", "uniq", "cut", "tr", "tac", "rev", "grep", "egrep", "fgrep", "sed", "seq",
    "ls", "mkdir", "rmdir", "rm", "touch", "mv", "cp", "chmod", "basename", "dirname", "pwd", "realpath",
    "readlink", "sleep", "yes", "env", "printenv", "nohup", "nice", "timeout", "xargs", "uname",
    "whoami", "arch", "id", "which", "expr", "sync"]

def task (tool : String) (args : List String) (environment : Environment) : Task :=
  let name := args.headD tool
  match tool with
  | "sh" | "dash" | "bash" => Shell.task args environment
  | "test" => condition name args.tail environment
  | "[" =>
    if args.tail.getLast? = some "]" then condition name args.tail.dropLast environment
    else Program.toTask do
      Program.complain s!"{name}: missing ']'"
      return 2
  | tool =>
    match program? tool name args.tail environment with
    | some program => program.toTask
    | none => .exit 127

end PanelLauncher.Tool
