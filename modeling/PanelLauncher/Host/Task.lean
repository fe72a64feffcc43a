import PanelLauncher.Host.FileTree
import PanelLauncher.Relay

/-!
# What a process asks of the system

A task is a tree of questions: a process asks the system for something and goes on as the answer
says, until it exits. Files and streams are named by descriptors, other processes by their numbers.
Time counts in millionths of a second.

This is part of the system for test runs and of nothing else. No theorem is about it.
-/

namespace PanelLauncher

inductive Disposition
  | default
  | ignored
  | caught
  deriving DecidableEq, Repr

structure FileInfo where
  isDirectory : Bool
  isDevice : Bool
  isExecutable : Bool
  size : Nat
  deriving DecidableEq, Repr

inductive FileChange
  | makeDirectory (path : String)
  | remove (path : String)
  | removeDirectory (path : String)
  | rename (source target : String)
  | setExecutable (path : String) (value : Bool)
  deriving DecidableEq, Repr

inductive Waited
  | ended (pid : Nat) (status : ExitStatus)
  | nobody
  | interrupted

structure Identity where
  pid : Nat
  parent : Nat
  group : Nat
  deriving DecidableEq, Repr

inductive Task
  | exit (status : Nat)
  | spend (micros : Nat) (next : Unit → Task)
  | open_ (descriptor : Nat) (path : String) (access : FileTree.Access)
      (next : Option Errno → Task)
  | close (descriptor : Nat) (next : Unit → Task)
  | duplicate (source target : Nat) (closesOnExec : Bool) (next : Bool → Task)
  /-- Asks for the smallest descriptor from `least` on that means nothing. -/
  | vacant (least : Nat) (next : Nat → Task)
  | pipe (reader writer : Nat) (next : Unit → Task)
  | write (descriptor : Nat) (bytes : ByteArray) (next : Option Errno → Task)
  | read (descriptor count : Nat) (next : Except Errno ByteArray → Task)
  | fork (child : Task) (next : Nat → Task)
  | exec (path : String) (args : List String) (environment : List (String × String))
      (next : Errno → Task)
  /-- Waits for a child, or for any; a caught signal may end the waiting. -/
  | wait (pid : Option Nat) (isInterruptible : Bool) (next : Waited → Task)
  /-- Takes notice of all children that have ended, without waiting. -/
  | reap (next : List (Nat × ExitStatus) → Task)
  /-- Sends a signal; zero and negative targets are groups. -/
  | kill (target : Int) (signal : Nat) (next : Option Errno → Task)
  | dispose (signal : Nat) (disposition : Disposition) (next : Unit → Task)
  | disposition (signal : Nat) (next : Disposition → Task)
  | caught (next : List Nat → Task)
  | identity (next : Identity → Task)
  | clock (next : Nat → Task)
  | changeDirectory (path : String) (next : Option Errno → Task)
  | workingDirectory (next : String → Task)
  | info (path : String) (next : Except Errno FileInfo → Task)
  | list (path : String) (next : Except Errno (List String) → Task)
  | change (change : FileChange) (next : Option Errno → Task)

namespace Task

instance : Inhabited Task := ⟨exit 0⟩

def put (descriptor : Nat) (bytes : ByteArray) (next : Task) : Task :=
  if bytes.isEmpty then next else .write descriptor bytes fun _ => next

end Task

end PanelLauncher
