import PanelLauncher.Yaml.Cursor

/-!
# What makes a text no document

The causes for which a text is refused before anything is made of its content, each found at a
place in the text.
-/

namespace PanelLauncher.Yaml

inductive SyntaxCause
  | forbiddenCharacter
  | badToken
  | missingColon
  | misplacedEntry
  | misplacedKey
  | misplacedValue
  | badDirective
  | badAnchorName
  | badTag
  | badBlockHeader
  | tabInIndentation
  | unclosedQuote
  | badEscape
  | ambiguousColon
  | missingContent
  | missingDash
  | missingKey
  | unclosedSequence
  | unclosedMapping
  | undefinedHandle
  | missingDocumentStart
  | unknownAnchor
  | secondDocument
  deriving DecidableEq, Repr

structure SyntaxError where
  cause : SyntaxCause
  mark : Mark
  deriving DecidableEq, Repr

/-- What is said of a cause. It is not said what was being read, nor where that began. A document
marker within quotes gets the text of a quote that is not closed. -/
def SyntaxCause.message : SyntaxCause → String
  | forbiddenCharacter => "control characters are not allowed"
  | badToken => "found character that cannot start any token"
  | missingColon => "could not find expected ':'"
  | misplacedEntry => "block sequence entries are not allowed in this context"
  | misplacedKey => "mapping keys are not allowed in this context"
  | misplacedValue => "mapping values are not allowed in this context"
  | badDirective => "found an unknown or malformed directive"
  | badAnchorName => "did not find expected alphabetic or numeric character"
  | badTag => "did not find expected tag"
  | badBlockHeader => "did not find expected comment or line break"
  | tabInIndentation => "found a tab character where an indentation space is expected"
  | unclosedQuote => "found unexpected end of stream"
  | badEscape => "found unknown escape character"
  | ambiguousColon => "found unexpected ':'"
  | missingContent => "did not find expected node content"
  | missingDash => "did not find expected '-' indicator"
  | missingKey => "did not find expected key"
  | unclosedSequence => "did not find expected ',' or ']'"
  | unclosedMapping => "did not find expected ',' or '" ++ String.singleton '}' ++ "'"
  | undefinedHandle => "found undefined tag handle"
  | missingDocumentStart => "did not find expected <document start>"
  | unknownAnchor => "unknown anchor"
  | secondDocument => "deserializing from YAML containing more than one document is not supported"

def Mark.text (m : Mark) : String :=
  s!"line {m.line + 1} column {m.column + 1}"

/-- A message with its place, which is left out at the very beginning of the text. -/
def Mark.locate (m : Mark) (message : String) : String :=
  if m.line = 0 ∧ m.column = 0 then message else s!"{message} at {m.text}"

/-- The text of the cause with the place of the mistake, and without the place where its context
began. -/
def SyntaxError.message (e : SyntaxError) : String :=
  match e.cause with
  | .secondDocument => e.cause.message
  | cause => e.mark.locate cause.message

end PanelLauncher.Yaml
