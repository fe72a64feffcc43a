/-!
# Tags

A tag names the type of a node. It is written with escaped bytes, which need not make up a text,
and goes up to its first zero byte, if it has one.
-/

namespace PanelLauncher.Yaml

structure Tag where
  bytes : List UInt8
  deriving DecidableEq, Repr

namespace Tag

def ofBytes (bytes : List UInt8) : Tag :=
  ⟨bytes.takeWhile (· ≠ 0)⟩

def ofString (s : String) : Tag :=
  ofBytes (s.toList.flatMap String.utf8EncodeChar)

def append (expansion suffix : Tag) : Tag :=
  ⟨expansion.bytes ++ suffix.bytes⟩

/-- A tag of the document's own begins with an exclamation mark. -/
def isLocal (t : Tag) : Bool :=
  t.bytes.head? = some 0x21

/-- A tag of the document's own that is a text gives a node a type that no configuration has. -/
def isForeign (t : Tag) : Bool :=
  t.isLocal && (String.fromUTF8? ⟨t.bytes.toArray⟩).isSome

end Tag

end PanelLauncher.Yaml
