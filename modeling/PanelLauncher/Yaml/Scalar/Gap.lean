import PanelLauncher.Yaml.Cursor

/-!
# White space inside a scalar

Blanks between two words of a scalar are kept. Line ends between them are folded: one becomes a
space, of more the first is dropped; blanks around line ends are dropped.
-/

namespace PanelLauncher.Yaml

/-- White space read since the last word. The lists run backwards. -/
inductive Gap
  | blanks (read : List Char)
  /-- Line ends; the first is absent if it was escaped. -/
  | lines (first : Option Char) (more : List Char)

namespace Gap

def empty : Gap := blanks []

def isEmpty : Gap → Bool
  | blanks [] => true
  | _ => false

def hasLineEnd : Gap → Bool
  | blanks _ => false
  | lines _ _ => true

def addBlank (c : Char) : Gap → Gap
  | blanks read => blanks (c :: read)
  | lines first more => lines first more

def addLineEnd (c : Char) : Gap → Gap
  | blanks _ => lines (some c) []
  | lines first more => lines first (c :: more)

def folded : Gap → List Char
  | blanks read => read
  | lines (some '\n') [] => [' ']
  | lines (some '\n') more => more
  | lines first more => more ++ first.toList

end Gap

def keptLineEnd (c : Char) : Char :=
  if c = '\u2028' ∨ c = '\u2029' then c else '\n'

end PanelLauncher.Yaml
