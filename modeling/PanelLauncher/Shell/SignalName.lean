/-!
# Names of signals

How scripts name signals, and what is said of a process that one has ended.

This is part of the system for test runs and of nothing else. No theorem is about it.
-/

namespace PanelLauncher.Shell.SignalName

/-- The names of the signals from one on; two have none but their number. -/
def all : List String :=
  ["HUP", "INT", "QUIT", "ILL", "TRAP", "ABRT", "BUS", "FPE", "KILL", "USR1", "SEGV", "USR2",
    "PIPE", "ALRM", "TERM", "STKFLT", "CHLD", "CONT", "STOP", "TSTP", "TTIN", "TTOU", "URG", "XCPU",
    "XFSZ", "VTALRM", "PROF", "WINCH", "IO", "PWR", "SYS", "32", "33", "RTMIN"] ++
    (List.range 15).map (fun n => s!"RTMIN+{n + 1}") ++
    (List.range 14).map (fun n => s!"RTMAX-{14 - n}") ++ ["RTMAX"]

def ofNumber? (n : Nat) : Option String :=
  if n = 0 then some "EXIT" else all[n - 1]?

def toNumber? (s : String) : Option Nat :=
  if !s.isEmpty && s.all Char.isDigit then s.toNat?.filter (· < 65)
  else if s.toUpper = "EXIT" then some 0
  else (all.findIdx? (· = s.toUpper)).map (· + 1)

def description : Nat → String
  | 1 => "Hangup"
  | 3 => "Quit"
  | 4 => "Illegal instruction"
  | 5 => "Trace/breakpoint trap"
  | 6 => "Aborted"
  | 7 => "Bus error"
  | 8 => "Floating point exception"
  | 9 => "Killed"
  | 10 => "User defined signal 1"
  | 11 => "Segmentation fault"
  | 12 => "User defined signal 2"
  | 14 => "Alarm clock"
  | 15 => "Terminated"
  | 16 => "Stack fault"
  | 24 => "CPU time limit exceeded"
  | 25 => "File size limit exceeded"
  | 26 => "Virtual timer expired"
  | 27 => "Profiling timer expired"
  | 29 => "I/O possible"
  | 30 => "Power failure"
  | 31 => "Bad system call"
  | n => if 34 ≤ n then s!"Real-time signal {n - 34}" else s!"Unknown signal {n}"

end PanelLauncher.Shell.SignalName
