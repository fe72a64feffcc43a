/-!
# Commands

A command is what the system is asked to run: a program, its arguments, and the file, if any, that
its output is appended to.
-/

namespace PanelLauncher

structure LaunchCommand where
  program : String
  args : List String
  /-- Takes standard output and standard error both. -/
  logFile : Option String
  deriving DecidableEq, Repr

end PanelLauncher
