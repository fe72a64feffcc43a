import PanelLauncher.Number.Literal
import PanelLauncher.Text.Alphanumeric

/-!
# Values in a directive

A directive may ask for the value of a field: a boolean, a number, or a pattern in the usual
notation of regular expressions. Only whether the value can be read matters here. Patterns are read
without tables of letters, so classes that would need one, letters whose case is not to matter, and
borders of words are refused unless the pattern turns to single bytes.
-/

namespace PanelLauncher.Log

structure PatternMode where
  ignoresCase : Bool
  isUnicode : Bool
  isSpaced : Bool
  deriving DecidableEq, Repr

namespace PatternMode

def initial : PatternMode := ⟨false, true, false⟩

/-- Characters can be compared: case matters, or it is that of single bytes. -/
def comparesCharacters (m : PatternMode) : Bool :=
  !(m.ignoresCase && m.isUnicode)

def switch? (m : PatternMode) (value : Bool) : Char → Option PatternMode
  | 'i' => some { m with ignoresCase := value }
  | 'u' => some { m with isUnicode := value }
  | 'x' => some { m with isSpaced := value }
  | c => if ['m', 's', 'U', 'R'].contains c then some m else none

def skip (m : PatternMode) (cs : List Char) : List Char :=
  if m.isSpaced then go false cs else cs
where
  go (inComment : Bool) : List Char → List Char
    | [] => []
    | c :: cs =>
      if inComment then go (c ≠ '\n') cs
      else if c = '#' then go true cs
      else if Text.isBlank c then go false cs
      else c :: cs

end PatternMode

namespace Pattern

def isMeta (c : Char) : Bool :=
  "\\.+*?()|[]{}^$#&-~".contains c

/-- A backslash takes the meaning from every ASCII character but letters, digits and angles. -/
def isEscapable (c : Char) : Bool :=
  isMeta c || (c.toNat < 0x80 && !c.isAlphanum && c ≠ '<' && c ≠ '>')

/-- What stands between brackets, or one escape: a character, a set, or a place in the text. -/
inductive Item
  | literal (c : Char)
  | set
  | place

def ofCode? (code : Nat) : Option Char :=
  if h : code.isValidChar then some (Char.ofNatAux code h) else none

def takeCode? (m : PatternMode) : (count : Nat) → Nat → List Char → Option (Nat × List Char)
  | 0, code, cs => some (code, cs)
  | count + 1, code, cs =>
    match m.skip cs with
    | [] => none
    | c :: cs =>
      (Literal.digitValue? 16 c).bind fun digit => takeCode? m count (code * 16 + digit) cs

def takeEscape? (m : PatternMode) : List Char → Option (Item × List Char)
  | [] => none
  | c :: cs =>
    let code? (count : Nat) : Option (Item × List Char) :=
      (takeCode? m count 0 cs).bind fun (code, rest) =>
        (ofCode? code).bind fun d =>
          if !m.isUnicode && 0x80 ≤ code then none else some (.literal d, m.skip rest)
    if c = 'x' then code? 2
    else if c = 'u' then code? 4
    else if c = 'U' then code? 8
    else if ['d', 's', 'w'].contains c then if m.isUnicode then none else some (.set, cs)
    else if isEscapable c then some (.literal c, cs)
    else if ['a', 'f', 't', 'n', 'r', 'v'].contains c then some (.literal ' ', cs)
    else if c = 'A' ∨ c = 'z' then some (.place, cs)
    else if ['b', 'B', '<', '>'].contains c then
      if m.isUnicode || (c = 'b' && cs.head? = some '{') then none else some (.place, cs)
    else none

def takeItem? (m : PatternMode) : List Char → Option (Item × List Char)
  | [] => none
  | '\\' :: cs => takeEscape? m cs
  | c :: cs => if !m.isUnicode && 0x80 ≤ c.toNat then none else some (.literal c, cs)

def takeNamedSet? : List Char → Option (List Char)
  | '[' :: ':' :: cs =>
    let cs := if cs.head? = some '^' then cs.drop 1 else cs
    let name := cs.takeWhile (· ≠ ':')
    let names := ["alnum", "alpha", "ascii", "blank", "cntrl", "digit", "graph", "lower", "print",
      "punct", "space", "upper", "word", "xdigit"]
    match cs.drop name.length with
    | ':' :: ']' :: rest => if names.contains (String.ofList name) then some rest else none
    | _ => none
  | _ => none

def openBrackets? (m : PatternMode) (cs : List Char) : Option (List Char) :=
  let cs := m.skip cs
  let isNegated := cs.head? = some '^'
  let cs := if isNegated then m.skip (cs.drop 1) else cs
  let rest := hyphens cs
  let rest :=
    if rest.length = cs.length && rest.head? = some ']' then m.skip (rest.drop 1) else rest
  if rest.isEmpty || (isNegated && !m.isUnicode) then none else some rest
where
  hyphens : List Char → List Char
    | '-' :: cs => hyphens cs
    | cs => m.skip cs

/-- What follows a set between brackets, `depth` of which are open. -/
def takeBrackets? (m : PatternMode) : (fuel : Nat) → (depth : Nat) → List Char →
    Option (List Char)
  | 0, _, _ => none
  | _, 0, cs => some cs
  | fuel + 1, depth + 1, cs =>
    let cs := m.skip cs
    match takeNamedSet? cs with
    | some rest => takeBrackets? m fuel (depth + 1) rest
    | none =>
      match cs with
      | [] => none
      | '[' :: rest => (openBrackets? m rest).bind (takeBrackets? m fuel (depth + 2))
      | ']' :: rest => takeBrackets? m fuel depth rest
      | '&' :: '&' :: rest => takeBrackets? m fuel (depth + 1) rest
      | '-' :: '-' :: rest => takeBrackets? m fuel (depth + 1) rest
      | '~' :: '~' :: rest => takeBrackets? m fuel (depth + 1) rest
      | cs => do
        let (first, rest) ← takeItem? m cs
        let rest := m.skip rest
        let isRange := match rest with
          | '-' :: behind =>
            let behind := m.skip behind
            behind.head? ≠ some ']' && behind.head? ≠ some '-'
          | _ => false
        if isRange then
          let (last, rest) ← takeItem? m (m.skip (rest.drop 1))
          match first, last with
          | .literal a, .literal b =>
            if a ≤ b then takeBrackets? m fuel (depth + 1) rest else none
          | _, _ => none
        else
          match first with
          | .place => none
          | _ => takeBrackets? m fuel (depth + 1) rest

def takeName? (cs : List Char) : Option (List Char × List Char) :=
  let name := cs.takeWhile (· ≠ '>')
  match name, cs.drop name.length with
  | c :: more, _ :: rest =>
    let isFirst := c = '_' || (Text.isAlphanumeric c && !c.isDigit)
    let isFurther := fun (d : Char) => ['_', '.', '[', ']'].contains d || Text.isAlphanumeric d
    if isFirst && more.all isFurther then some (name, rest) else none
  | _, _ => none

def takeSwitches? (m : PatternMode) (isOff : Bool) (seen : List Char) :
    List Char → Option (PatternMode × List Char)
  | [] => none
  | c :: cs =>
    if c = ':' ∨ c = ')' then
      if seen.head? = some '-' then none else some (m, c :: cs)
    else if seen.contains c then none
    else if c = '-' then takeSwitches? m true ('-' :: seen) cs
    else (m.switch? (!isOff) c).bind fun m => takeSwitches? m isOff (c :: seen) cs

/-- Reading a pattern: the mode, the modes outside of the open groups, and the names of groups. -/
structure Reading where
  mode : PatternMode
  outer : List PatternMode
  names : List (List Char)
  canRepeat : Bool

def openGroup? (r : Reading) (cs : List Char) : Option (Reading × List Char) :=
  let inside : Reading := { r with outer := r.mode :: r.outer, canRepeat := false }
  let named (cs : List Char) : Option (Reading × List Char) :=
    (takeName? cs).bind fun (name, rest) =>
      if r.names.contains name then none
      else some ({ inside with names := name :: r.names }, rest)
  match r.mode.skip cs with
  | '?' :: 'P' :: '<' :: cs => named cs
  | '?' :: '<' :: '=' :: _ => none
  | '?' :: '<' :: '!' :: _ => none
  | '?' :: '<' :: cs => named cs
  | '?' :: cs =>
    (takeSwitches? r.mode false [] cs).bind fun (mode, rest) =>
      match rest with
      | ')' :: rest =>
        if rest.length + 1 = cs.length then none
        else some ({ r with mode := mode, canRepeat := false }, rest)
      | rest => some ({ inside with mode := mode }, rest.drop 1)
  | cs => some (inside, cs)

/-- Whether a pattern can be read from here to its end. -/
def isReadableFrom : (fuel : Nat) → Reading → List Char → Bool
  | 0, _, _ => false
  | fuel + 1, r, cs =>
    let repeatable := { r with canRepeat := true }
    match r.mode.skip cs with
    | [] => r.outer.isEmpty
    | '(' :: cs =>
      match openGroup? r cs with
      | some (r, cs) => isReadableFrom fuel r cs
      | none => false
    | ')' :: cs =>
      match r.outer with
      | mode :: outer => isReadableFrom fuel { repeatable with mode := mode, outer := outer } cs
      | [] => false
    | '|' :: cs => isReadableFrom fuel { r with canRepeat := false } cs
    | '[' :: cs =>
      r.mode.comparesCharacters &&
        match (openBrackets? r.mode cs).bind (takeBrackets? r.mode (2 * cs.length + 2) 1) with
        | some cs => isReadableFrom fuel repeatable cs
        | none => false
    | '{' :: _ => false
    | '\\' :: cs =>
      match takeEscape? r.mode cs with
      | some (.literal _, cs) =>
        r.mode.comparesCharacters && isReadableFrom fuel repeatable cs
      | some (_, cs) => isReadableFrom fuel repeatable cs
      | none => false
    | c :: cs =>
      if c = '?' ∨ c = '*' ∨ c = '+' then
        let cs := if cs.head? = some '?' then cs.drop 1 else cs
        r.canRepeat && isReadableFrom fuel r cs
      else if c = '.' then r.mode.isUnicode && isReadableFrom fuel repeatable cs
      else if c = '^' ∨ c = '$' then isReadableFrom fuel repeatable cs
      else r.mode.comparesCharacters && isReadableFrom fuel repeatable cs

def isReadable (cs : List Char) : Bool :=
  isReadableFrom (cs.length + 1) ⟨.initial, [], [], false⟩ cs

end Pattern

def isNumber (cs : List Char) : Bool :=
  let unsigned := (Literal.splitSign cs).2
  (Literal.readDecimal? unsigned).isSome ||
    ["inf", "infinity", "nan"].contains (String.ofList unsigned).toLower

def isFieldValue (cs : List Char) : Bool :=
  isNumber cs || Pattern.isReadable cs

end PanelLauncher.Log
