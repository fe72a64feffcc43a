import PanelLauncher.Host.FileTree
import PanelLauncher.Relay

/-!
# Child processes

A child as the launcher sees it: what it is started with, its number, what happens while it runs,
and how it ends.
-/

namespace PanelLauncher

/-- What a child is started with. An output that has a file is appended to it; one that has none is
that of the launcher. -/
structure Invocation where
  program : String
  args : List String
  stdout : Option Location
  stderr : Option Location
  leadsGroup : Bool
  deriving DecidableEq, Repr

namespace Invocation

def words (i : Invocation) : List String :=
  i.program :: i.args

def sink (i : Invocation) : Stream → Option Location
  | .stdout => i.stdout
  | .stderr => i.stderr

end Invocation

inductive Moment
  /-- The child writes to an output that it got from the launcher. -/
  | wrote (stream : Stream) (bytes : ByteArray)
  /-- The child writes to an output of the launcher that was opened by its name. -/
  | printed (stream : Stream) (bytes : ByteArray)
  | passed (signal : Signal) (fault : Option KillFault)
  /-- The child changes files on its own account; these are the files afterwards. -/
  | changed (files : FileTree)

structure Process where
  pid : Nat
  moments : List Moment
  outcome : Except IoFault ExitStatus
  /-- What those that the child leaves behind still do with the outputs once the launcher has
  returned. It may still be seen, but it is not written to the files that the launch leaves. -/
  aftermath : List Moment

end PanelLauncher
