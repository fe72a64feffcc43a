import PanelLauncher.Yaml.Cursor
import PanelLauncher.Yaml.Tag.Basic

/-!
# Tokens

The words and punctuation of a document. The beginnings and ends of block collections, which a
text shows by indentation only, are tokens too.
-/

namespace PanelLauncher.Yaml

inductive TokenKind
  | streamEnd
  | versionDirective (major minor : Nat)
  | tagDirective (handle : String) (expansion : Tag)
  | documentStart
  | documentEnd
  | blockSequenceStart
  | blockMappingStart
  | blockEnd
  | flowSequenceStart
  | flowSequenceEnd
  | flowMappingStart
  | flowMappingEnd
  | blockEntry
  | flowEntry
  | key
  | value
  | reference (name : String)
  | anchor (name : String)
  | tag (handle : String) (suffix : Tag)
  | scalar (isPlain : Bool) (text : String)
  deriving DecidableEq, Repr

structure Token where
  kind : TokenKind
  start : Mark
  stop : Mark
  deriving DecidableEq, Repr

end PanelLauncher.Yaml
