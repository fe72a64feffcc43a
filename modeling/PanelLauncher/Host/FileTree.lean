import PanelLauncher.Error

/-!
# Files and directories

A tree of files as far as a launch can see it: contents, directories, and which files may be run.
A path is resolved part by part from the working directory or from the root.
-/

namespace PanelLauncher

inductive Stream
  | stdout
  | stderr
  deriving DecidableEq, Repr

/-- Files that hold nothing of what is written to them. -/
inductive Device
  | null
  | zero
  | full
  | terminal
  | output (stream : Stream)
  deriving DecidableEq, Repr

inductive Entry
  | directory
  | file (isExecutable : Bool) (content : ByteArray)
  | tool (name : String)
  | device (device : Device)

def Entry.isDirectory : Entry → Bool
  | directory => true
  | _ => false

/-- A place in the tree: the names on the way from the root. -/
abbrev Location := List String

structure FileTree where
  entries : List (Location × Entry)

namespace FileTree

/-- What is at a place; the root is always a directory. -/
def entry? (t : FileTree) (place : Location) : Option Entry :=
  if place.isEmpty then some .directory else t.entries.lookup place

def set (t : FileTree) (place : Location) (entry : Entry) : FileTree :=
  ⟨(place, entry) :: t.entries.filter (·.1 != place)⟩

def content? (t : FileTree) (place : Location) : Option ByteArray :=
  match t.entry? place with
  | some (.file _ content) => some content
  | some (.device _) => some .empty
  | _ => none

def touch (t : FileTree) (place : Location) : FileTree :=
  match t.entry? place with
  | none => t.set place (.file false .empty)
  | some _ => t

def append (t : FileTree) (place : Location) (bytes : ByteArray) : FileTree :=
  match t.entry? place with
  | some (.file isExecutable content) => t.set place (.file isExecutable (content ++ bytes))
  | _ => t

/-- Content with bytes written over what stands from an offset on; a gap before it gets zeros. -/
def overwrite (content : ByteArray) (offset : Nat) (bytes : ByteArray) : ByteArray :=
  let gap : ByteArray := ⟨Array.replicate (offset - content.size) 0⟩
  content.extract 0 offset ++ gap ++ bytes ++ content.extract (offset + bytes.size) content.size

def writeAt (t : FileTree) (place : Location) (offset : Nat) (bytes : ByteArray) : FileTree :=
  match t.entry? place with
  | some (.file isExecutable content) =>
    t.set place (.file isExecutable (overwrite content offset bytes))
  | _ => t

def erase (t : FileTree) (place : Location) : FileTree :=
  ⟨t.entries.filter (·.1 != place)⟩

/-- The tree in which what is at a place, and all below it, is at another place. -/
def move (t : FileTree) (source target : Location) : FileTree :=
  let others := t.entries.filter fun (place, _) => !(target.isPrefixOf place)
  ⟨others.map fun (place, entry) =>
    if source.isPrefixOf place then (target ++ place.drop source.length, entry)
    else (place, entry)⟩

def children (t : FileTree) (place : Location) : List String :=
  let below := t.entries.filter fun (p, _) =>
    p.length = place.length + 1 && place.isPrefixOf p
  (below.filterMap (·.1.getLast?)).mergeSort

/-! ## Paths -/

def isDirectory (t : FileTree) (place : Location) : Bool :=
  (t.entry? place).any Entry.isDirectory

/-- The place that the parts of a path lead to; all but the last have to be directories. -/
def walk (t : FileTree) : Location → List String → Except Errno Location
  | place, [] => .ok place
  | place, part :: parts =>
    match t.entry? place with
    | none => .error .noEntry
    | some entry =>
      if !entry.isDirectory then .error .notDirectory
      else if part.utf8ByteSize > 255 then .error .nameTooLong
      else if part = "." then walk t place parts
      else if part = ".." then walk t place.dropLast parts
      else walk t (place ++ [part]) parts

def names (path : String) : List String :=
  (path.splitOn "/").filter (· ≠ "")

/-- A path that ends in a slash has to lead to a directory. -/
def parts (path : String) : List String :=
  if path.endsWith "/" then names path ++ ["."] else names path

def locate (t : FileTree) (working : Location) (path : String) (parts : List String) :
    Except Errno Location :=
  if path.isEmpty then .error .noEntry
  else if path.utf8ByteSize ≥ 4096 then .error .nameTooLong
  else t.walk (if path.startsWith "/" then [] else working) parts

def find (t : FileTree) (working : Location) (path : String) : Except Errno Location :=
  t.locate working path (parts path)

/-- Finds a place for a program that names it by a text, which may hold zero characters. -/
def resolve (t : FileTree) (working : Location) (path : String) : Except IoFault Location :=
  if path.contains '\x00' then .error .nulInFileName else (t.find working path).mapError .os

def readText (t : FileTree) (working : Location) (path : String) : Except IoFault String := do
  let place ← t.resolve working path
  match t.entry? place with
  | none => .error (.os .noEntry)
  | some .directory => .error (.os .isDirectory)
  | some (.tool _) => .error .notUtf8
  | some (.device .terminal) => .error (.os .noDevice)
  | some (.device _) => .ok ""
  | some (.file _ content) =>
    match String.fromUTF8? content with
    | some s => .ok s
    | none => .error .notUtf8

inductive Access
  | read
  | write
  /-- As `write`, but not a file that is there already. -/
  | create
  | append
  | readWrite
  deriving DecidableEq, Repr

/-- Opens what a path leads to: the place, and the tree, where the file may be new or emptied. -/
def openFile (t : FileTree) (working : Location) (path : String) (access : Access) :
    Except Errno (FileTree × Location) :=
  if access = .read then do
    let place ← t.find working path
    match t.entry? place with
    | none => .error .noEntry
    | some (.device .terminal) => .error .noDevice
    | some _ => .ok (t, place)
  else do
    let place ← t.locate working path (names path)
    match t.entry? place with
    | some .directory => .error .isDirectory
    | some (.file isExecutable _) =>
      if path.endsWith "/" then .error .isDirectory
      else if access = .create then .error .alreadyThere
      else if access = .write then .ok (t.set place (.file isExecutable .empty), place)
      else .ok (t, place)
    | some entry =>
      if path.endsWith "/" then .error .isDirectory
      else if entry matches .device .terminal then .error .noDevice
      else .ok (t, place)
    | none =>
      if path.endsWith "/" then .error .isDirectory
      else .ok (t.set place (.file false .empty), place)

def openAppend (t : FileTree) (working : Location) (path : String) : Except IoFault Location :=
  if path.contains '\x00' then .error .nulInFileName
  else ((t.openFile working path .append).map (·.2)).mapError .os

end FileTree

end PanelLauncher
