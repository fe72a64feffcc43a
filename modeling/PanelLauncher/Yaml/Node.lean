import PanelLauncher.Yaml.Cursor
import PanelLauncher.Yaml.Tag.Basic

/-!
# Documents as trees

A document is a tree of scalars, sequences and mappings. An alias stands for a node that was given
an anchor; aliases may lie inside the node that they stand for, so they stay as they are.
-/

namespace PanelLauncher.Yaml

/-- A node with the place where it, its tag or its anchor begins. -/
inductive Node
  | scalar (mark : Mark) (tag : Option Tag) (isPlain : Bool) (text : String)
  | sequence (mark : Mark) (tag : Option Tag) (items : List Node)
  | mapping (mark : Mark) (tag : Option Tag) (entries : List (Node × Node))
  | reference (mark : Mark) (anchor : Nat)

namespace Node

instance : Inhabited Node := ⟨reference .start 0⟩

def mark : Node → Mark
  | scalar m _ _ _ => m
  | sequence m _ _ => m
  | mapping m _ _ => m
  | reference m _ => m

mutual

/-- How many events tell of a node: one for a scalar or alias, two and its parts for others. -/
def eventCount : Node → Nat
  | scalar _ _ _ _ => 1
  | sequence _ _ items => 2 + itemEvents items
  | mapping _ _ entries => 2 + entryEvents entries
  | reference _ _ => 1

def itemEvents : List Node → Nat
  | [] => 0
  | n :: ns => eventCount n + itemEvents ns

def entryEvents : List (Node × Node) → Nat
  | [] => 0
  | (k, v) :: es => eventCount k + eventCount v + entryEvents es

end

end Node

structure Document where
  root : Option Node
  anchored : List (Nat × Node)
  eventCount : Nat

def Document.target? (d : Document) (anchor : Nat) : Option Node :=
  d.anchored.lookup anchor

end PanelLauncher.Yaml
