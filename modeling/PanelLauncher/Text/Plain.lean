/-!
# Texts without control sequences

What a terminal would take for control sequences is left out of a text, and so are the controls
that are no white space. A sequence begins with an escape character; which characters belong to it
depends on those before.
-/

namespace PanelLauncher.Text

inductive SequencePart
  | outside
  | escape
  | escapeIntermediate
  | controlEntry
  | controlParameter
  | controlIntermediate
  | controlIgnored
  | deviceEntry
  | deviceParameter
  | deviceIntermediate
  | deviceIgnored
  | deviceText
  | systemText
  | ignoredText
  deriving DecidableEq, Repr

namespace SequencePart

def afterEscape (c : Char) : SequencePart :=
  if c = '[' then controlEntry
  else if c = ']' then systemText
  else if c = 'P' then deviceEntry
  else if c = 'X' ∨ c = '^' ∨ c = '_' then ignoredText
  else if ' ' ≤ c ∧ c ≤ '/' then escapeIntermediate
  else if '0' ≤ c ∧ c ≤ '~' then outside
  else escape

/-- The last byte of the oldest terminals' string terminator, as part of a character. -/
def hasTerminatorByte (c : Char) : Bool :=
  0x80 ≤ c.toNat && (String.utf8EncodeChar c).contains 0x9c

def next (part : SequencePart) (c : Char) : SequencePart :=
  if c = '\x1b' then escape
  else if c = '\x18' ∨ c = '\x1a' then outside
  else
    let isIntermediate := ' ' ≤ c && c ≤ '/'
    let isParameter := '0' ≤ c && c ≤ ';'
    let isMarker := '<' ≤ c && c ≤ '?'
    let isFinal := '@' ≤ c && c ≤ '~'
    match part with
    | outside => outside
    | escape => afterEscape c
    | escapeIntermediate => if '0' ≤ c ∧ c ≤ '~' then outside else escapeIntermediate
    | controlEntry =>
      if isIntermediate then controlIntermediate
      else if isParameter || isMarker then controlParameter
      else if isFinal then outside
      else controlEntry
    | controlParameter =>
      if isIntermediate then controlIntermediate
      else if isMarker then controlIgnored
      else if isFinal then outside
      else controlParameter
    | controlIntermediate =>
      if isParameter || isMarker then controlIgnored
      else if isFinal then outside
      else controlIntermediate
    | controlIgnored => if isFinal then outside else controlIgnored
    | deviceEntry =>
      if isIntermediate then deviceIntermediate
      else if isParameter || isMarker then deviceParameter
      else if isFinal then deviceText
      else deviceEntry
    | deviceParameter =>
      if isIntermediate then deviceIntermediate
      else if isMarker then deviceIgnored
      else if isFinal then deviceText
      else deviceParameter
    | deviceIntermediate =>
      if isParameter || isMarker then deviceIgnored
      else if isFinal then deviceText
      else deviceIntermediate
    | deviceIgnored => deviceIgnored
    | deviceText => if hasTerminatorByte c then outside else deviceText
    | systemText => if c = '\x07' then outside else systemText
    | ignoredText => if hasTerminatorByte c then outside else ignoredText

/-- The sequences in which white space that is no blank is shown and ends the sequence. -/
def yieldsToSpace : SequencePart → Bool
  | escape | escapeIntermediate => true
  | controlEntry | controlParameter | controlIntermediate | controlIgnored => true
  | _ => false

end SequencePart

def isControlSpace (c : Char) : Bool :=
  c = '\t' || c = '\n' || c = '\x0c' || c = '\r'

def isHiddenControl (c : Char) : Bool :=
  (c < ' ' && !isControlSpace c) || c = '\x7f'

def plainFrom (part : SequencePart) : List Char → List Char
  | [] => []
  | c :: cs =>
    if part = .outside && c ≠ '\x1b' then
      if isHiddenControl c then plainFrom .outside cs else c :: plainFrom .outside cs
    else if part.yieldsToSpace && isControlSpace c then c :: plainFrom .outside cs
    else plainFrom (part.next c) cs

def plain (s : String) : String :=
  String.ofList (plainFrom .outside s.toList)

end PanelLauncher.Text
