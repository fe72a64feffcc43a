import PanelLauncher.Shell.Source

/-!
# Reading commands

A script is read as commands are needed, so that those in front of a mistake have run when it is
found. Every function here may call the others at most `fuel` deep; a fuel that is a multiple of
the length of the text is enough, since each round of calls takes a character.

This is part of the system for test runs and of nothing else. No theorem is about it.
-/

namespace PanelLauncher.Shell

inductive Context
  | bare
  | braced
  | double
  /-- Between the braces of an expansion that stands between double quotes. -/
  | doubleBraced
  | document
  | arithmetic
  deriving DecidableEq, Repr

def Context.isQuoted : Context → Bool
  | bare | braced => false
  | _ => true

def Context.inBraces (c : Context) : Context :=
  if c.isQuoted then .doubleBraced else .braced

def isDelimiter (c : Char) : Bool :=
  " \t\n<>&|;()".toList.contains c

def Parameter.special? : Char → Option Parameter
  | '#' => some .argumentCount
  | '?' => some .lastStatus
  | '$' => some .ownPid
  | '!' => some .lastBackground
  | '-' => some .options
  | '@' => some (.arguments false)
  | '*' => some (.arguments true)
  | c => if c.isDigit then some (.argument (c.toNat - '0'.toNat)) else none

namespace Parse

def takeName : Parse String := do
  return String.ofList (← takeWhile Word.isNameChar ((← get).rest.length + 1))

def takeNumber : Parse Nat := do
  let digits ← takeWhile Char.isDigit ((← get).rest.length + 1)
  return digits.foldl (fun n c => n * 10 + (c.toNat - '0'.toNat)) 0

/-- Everything that a parse does is done on another text, whose lines are counted from one. -/
def within {α : Type} (text : List Char) (p : Parse α) : Parse α := do
  let outer ← get
  set { outer with rest := text, line := 1, pushed := none, pending := [] }
  let result ← p
  let inner ← get
  set { outer with documents := inner.documents, nextDocument := inner.nextDocument }
  return result

def escape (c : Context) (next : Char) : List Piece :=
  let isMeant :=
    !c.isQuoted || next = '\\' || next = '\x60' || next = '$' ||
      (next = '"' && c ≠ .document) || (next = '}' && c = .doubleBraced)
  if isMeant then [.char next true] else [.char '\\' true, .char next true]

def takeDelimiter : (fuel : Nat) → (inQuotes isQuoted : Bool) → Parse (List Char × Bool)
  | 0, _, isQuoted => return ([], isQuoted)
  | fuel + 1, inQuotes, isQuoted => do
    match ← peek with
    | none =>
      if inQuotes then fail "Unterminated quoted string" else return ([], isQuoted)
    | some c =>
      if !inQuotes && isDelimiter c then return ([], isQuoted)
      else
        skip
        if c = '"' then takeDelimiter fuel (!inQuotes) true
        else if c = '\'' && !inQuotes then
          let quoted ← takeSingleQuoted ((← get).rest.length + 1)
          let (rest, _) ← takeDelimiter fuel inQuotes true
          return (quoted ++ rest, true)
        else if c = '\\' then
          match ← peekRaw with
          | none => return (['\\'], true)
          | some next =>
            skip
            let (rest, _) ← takeDelimiter fuel inQuotes true
            let keeps := inQuotes && !"\\\x60$\"".toList.contains next
            return (if keeps then '\\' :: next :: rest else next :: rest, true)
        else
          let (rest, isQuoted) ← takeDelimiter fuel inQuotes isQuoted
          return (c :: rest, isQuoted)

def redirectionKind (c : Char) : Parse RedirectionKind := do
  if c = '>' then
    if ← accept '>' then return .file .append
    else if ← accept '|' then return .file .overwrite
    else if ← accept '&' then return .copy
    else return .file .write
  else if ← accept '<' then
    return .document (← accept '-')
  else if ← accept '&' then return .copy
  else if ← accept '>' then return .file .readWrite
  else return .file .read

def operator? (c : Char) : Option (Parse Token) :=
  if c = '&' then some do return if ← accept '&' then .andThen else .background
  else if c = '|' then some do return if ← accept '|' then .orElse else .pipe
  else if c = ';' then some do return if ← accept ';' then .endBranch else .semicolon
  else if c = '(' then some (return .openParen)
  else if c = ')' then some (return .closeParen)
  else if c = '\n' then some (return .newline)
  else if c = '<' || c = '>' then
    some do return .redirection (if c = '<' then 0 else 1) (← redirectionKind c)
  else none

def put (t : Token) : Parse Unit :=
  modify fun s => { s with pushed := some t }

/-- Complains about a token, and says what should stand there. -/
def unexpected {α : Type} (t : Token) (wanted : Option String) : Parse α :=
  fail <| t.name ++ " unexpected" ++
    match wanted with
    | none => ""
    | some name => " (expecting " ++ name ++ ")"

def toKeyword (t : Token) : Token :=
  match t with
  | .word w =>
    match (Word.bareText? w).bind Keyword.ofText? with
    | some k => .keyword k
    | none => t
  | t => t

def isReservedName (name : String) : Bool :=
  [".", ":", "break", "continue", "eval", "exec", "exit", "export", "readonly", "return", "set",
    "shift", "times", "trap", "unset"].contains name

mutual

/-- The pieces of a word up to the end of what surrounds them, which is passed over. -/
def pieces : (fuel : Nat) → (c : Context) → (inner : Bool) → (parens : Nat) → Parse (List Piece)
  | 0, _, _, _ => return []
  | fuel + 1, c, inner, parens => do
    let add (first : List Piece) : Parse (List Piece) := do
      return first ++ (← pieces fuel c inner parens)
    match ← peek with
    | none =>
      match c with
      | .bare | .document => return []
      | .braced => fail ("Missing '" ++ String.singleton '}' ++ "'")
      | .double | .doubleBraced => fail "Unterminated quoted string"
      | .arithmetic => fail "Missing '))'"
    | some char =>
      if c = .bare && isDelimiter char then return []
      else
        skip
        if char = '\\' then
          match ← peekRaw with
          | none => add [.char '\\' true]
          | some next =>
            skip
            add (escape c next)
        else if char = '\'' && !c.isQuoted then
          let quoted ← takeSingleQuoted ((← get).rest.length + 1)
          add (.quotes :: Word.ofText quoted)
        else if char = '"' && !c.isQuoted then
          let quoted ← pieces fuel .double false 0
          match quoted with
          | [.parameter (.arguments false) true] => add quoted
          | _ => add (.quotes :: quoted)
        else if char = '"' && c = .double then return []
        else if char = '"' && c = .doubleBraced then pieces fuel c (!inner) parens
        else if char = '$' then add (← expansion fuel c)
        else if char = '\x60' then
          let text ← takeBackquoted c.isQuoted ((← get).rest.length + 1)
          add [.command (← within text (backquoted fuel)) c.isQuoted]
        else if char = '}' && (c = .braced || (c = .doubleBraced && !inner)) then return []
        else if char = '(' && c = .arithmetic then
          return .char '(' true :: (← pieces fuel c inner (parens + 1))
        else if char = ')' && c = .arithmetic then
          if 0 < parens then return .char ')' true :: (← pieces fuel c inner (parens - 1))
          else if ← accept ')' then return []
          else add [.char ')' true]
        else add [.char char c.isQuoted]

def expansion : (fuel : Nat) → (c : Context) → Parse (List Piece)
  | 0, _ => return []
  | fuel + 1, c => do
    match ← peek with
    | none => return [.char '$' c.isQuoted]
    | some '(' =>
      skip
      if ← accept '(' then
        return [.arithmetic (← pieces fuel .arithmetic false 0) c.isQuoted]
      else
        let outer ← get
        set { outer with pending := [] }
        let body ← list fuel false true
        let t ← token fuel false false
        match t with
        | .closeParen => pure ()
        | t => unexpected t (some Token.closeParen.name)
        readDocuments fuel
        modify fun s => { s with pending := outer.pending, pushed := none }
        return [.command body c.isQuoted]
    | some '{' =>
      skip
      return [← braces fuel c]
    | some char =>
      if Word.isNameStart char then return [.parameter (.named (← takeName)) c.isQuoted]
      else
        match Parameter.special? char with
        | some p =>
          skip
          return [.parameter p c.isQuoted]
        | none => return [.char '$' c.isQuoted]

def braces : (fuel : Nat) → (c : Context) → Parse Piece
  | 0, _ => return .malformed
  | fuel + 1, c => do
    let malformed : Parse Piece := do
      let _ ← pieces fuel c.inBraces false 0
      return .malformed
    match ← peek with
    | none => malformed
    | some char =>
      if Word.isNameStart char then braceOperator fuel c (.named (← takeName))
      else if char.isDigit then braceOperator fuel c (.argument (← takeNumber))
      else if char = '}' then malformed
      else
        skip
        match Parameter.special? char with
        | none => malformed
        | some p => if p = .argumentCount then braceCount fuel c else braceOperator fuel c p

/-- What stands behind a number sign: a parameter whose length is meant, or an operator. -/
def braceCount : (fuel : Nat) → (c : Context) → Parse Piece
  | 0, _ => return .malformed
  | fuel + 1, c => do
    let closed (p : Parameter) : Parse Piece := do
      if ← accept '}' then return .length p c.isQuoted
      else
        let _ ← pieces fuel c.inBraces false 0
        return .malformed
    match ← peek with
    | none => braceOperator fuel c .argumentCount
    | some char =>
      if Word.isNameStart char then closed (.named (← takeName))
      else if char.isDigit then closed (.argument (← takeNumber))
      else
        let before ← get
        skip
        match Parameter.special? char, ← peek with
        | some p, some '}' =>
          skip
          return .length p c.isQuoted
        | _, _ =>
          set before
          braceOperator fuel c .argumentCount

def braceOperator : (fuel : Nat) → (c : Context) → (p : Parameter) → Parse Piece
  | 0, _, _ => return .malformed
  | fuel + 1, c, p => do
    let emptyIsNone ← accept ':'
    let operator ← peek
    skipUncounted
    let fallback (kind : Fallback) : Parse Piece := do
      return .fallback p kind emptyIsNone (← pieces fuel c.inBraces false 0) c.isQuoted
    let trim (char : Char) (atEnd : Bool) : Parse Piece := do
      let isLongest ← accept char
      return .trim p atEnd isLongest (← pieces fuel .braced false 0) c.isQuoted
    match operator, emptyIsNone with
    | some '}', false => return .parameter p c.isQuoted
    | some '-', _ => fallback .value
    | some '+', _ => fallback .alternative
    | some '?', _ => fallback .complain
    | some '=', _ => fallback .assign
    | some '#', false => trim '#' false
    | some '%', false => trim '%' true
    | _, _ =>
      let _ ← pieces fuel c.inBraces false 0
      return .malformed

def backquoted : (fuel : Nat) → Parse Script
  | 0 => return .nothing
  | fuel + 1 => do
    let body ← list fuel false true
    match ← token fuel false false with
    | .endOfFile => return body
    | t => unexpected t none

def readDocuments : (fuel : Nat) → Parse Unit
  | 0 => return ()
  | fuel + 1 => do
    match (← get).pending with
    | [] => return ()
    | d :: pending =>
      let s ← get
      let (text, rest) := documentText d (s.rest.length + 1) false s.rest
      let lines := ((s.rest.take (s.rest.length - rest.length)).filter (· = '\n')).length
      set { s with pending := pending, rest := rest, line := s.line + lines }
      let word ←
        if d.isLiteral then pure (Word.ofText text)
        else within text (pieces fuel .document false 0)
      modify fun s => { s with documents := (d.number, word) :: s.documents }
      readDocuments fuel

def freshToken : (fuel : Nat) → Parse Token
  | 0 => return .endOfFile
  | fuel + 1 => do
    match ← peek with
    | none => return .endOfFile
    | some c =>
      if c = ' ' || c = '\t' then
        skip
        freshToken fuel
      else if c = '#' then
        skipComment ((← get).rest.length + 1)
        freshToken fuel
      else
        match operator? c with
        | some rest =>
          skip
          rest
        | none =>
          let word ← pieces fuel .bare false 0
          match word, ← peek with
          | [.char d false], some c =>
            if d.isDigit && (c = '<' || c = '>') then
              skip
              return .redirection (d.toNat - '0'.toNat) (← redirectionKind c)
            else return .word word
          | _, _ => return .word word

/-- The next token; keywords and newlines may have no meaning of their own. -/
def token : (fuel : Nat) → (skipsNewlines findsKeywords : Bool) → Parse Token
  | 0, _, _ => return .endOfFile
  | fuel + 1, skipsNewlines, findsKeywords => do
    let pushed := (← get).pushed
    let t ←
      match pushed with
      | some t =>
        modify fun s => { s with pushed := none }
        pure t
      | none => freshToken fuel
    match t with
    | .newline =>
      if skipsNewlines then
        readDocuments fuel
        token fuel true findsKeywords
      else return t
    | t =>
      if !findsKeywords then return t
      else
        match toKeyword t, pushed with
        | .word w, none =>
          let s ← get
          match (Word.bareText? w).bind fun name => (s.alias? name).map (name, ·) with
          | some (name, text) =>
            set (s.openAlias name text)
            token fuel skipsNewlines true
          | none => return .word w
        | t, _ => return t

def demand : (fuel : Nat) → (skipsNewlines : Bool) → Keyword → Parse Unit
  | 0, _, _ => return ()
  | fuel + 1, skipsNewlines, k => do
    let t ← token fuel skipsNewlines true
    match t with
    | .keyword found => if found = k then return () else unexpected t (some (Token.keyword k).name)
    | t => unexpected t (some (Token.keyword k).name)

/-- Commands up to the end of a line, at the top of a script, or to a token that ends a list. -/
def list : (fuel : Nat) → (isTop mayEnd : Bool) → Parse Script
  | 0, _, _ => return .nothing
  | fuel + 1, isTop, mayEnd => do
    let t ← token fuel (!isTop) true
    match t with
    | .newline =>
      readDocuments fuel
      return .nothing
    | .endOfFile =>
      readDocuments fuel
      put t
      return .nothing
    | t =>
      put t
      if mayEnd && !isTop && t.endsList then return .nothing
      else
        let line := (← get).line
        let first ← andOr fuel
        let t ← token fuel false false
        match t with
        | .endOfFile =>
          readDocuments fuel
          put t
          return first
        | .newline =>
          put t
          return .then_ first (← list fuel isTop true)
        | .semicolon => return .then_ first (← list fuel isTop true)
        | .background => return .then_ (.background line first) (← list fuel isTop true)
        | t =>
          if isTop then unexpected t none
          else
            put t
            return first

def andOr : (fuel : Nat) → Parse Script
  | 0 => return .nothing
  | fuel + 1 => do
    andOrRest fuel (← pipeline fuel)

def andOrRest : (fuel : Nat) → Script → Parse Script
  | 0, first => return first
  | fuel + 1, first => do
    let next : Parse Script := do
      let t ← token fuel true true
      put t
      pipeline fuel
    match ← token fuel false false with
    | .andThen => andOrRest fuel (.andThen first (← next))
    | .orElse => andOrRest fuel (.orElse first (← next))
    | t =>
      put t
      return first

def pipeline : (fuel : Nat) → Parse Script
  | 0 => return .nothing
  | fuel + 1 => do
    let t ← token fuel false true
    let isNegated ←
      match t with
      | .keyword .bang =>
        let t ← token fuel false true
        put t
        pure true
      | t =>
        put t
        pure false
    let commands ← pipelineCommands fuel
    let body := match commands with
      | [body] => body
      | commands => .pipeline commands
    return if isNegated then .negated body else body

def pipelineCommands : (fuel : Nat) → Parse (List Script)
  | 0 => return []
  | fuel + 1 => do
    let first ← command fuel
    match ← token fuel false false with
    | .pipe =>
      let t ← token fuel true true
      put t
      return first :: (← pipelineCommands fuel)
    | t =>
      put t
      return [first]

def command : (fuel : Nat) → Parse Script
  | 0 => return .nothing
  | fuel + 1 => do
    let t ← token fuel false false
    let line := (← get).line
    match t with
    | .keyword .if_ => redirected fuel line (← conditional fuel)
    | .keyword .while_ => redirected fuel line (← loop fuel true)
    | .keyword .until_ => redirected fuel line (← loop fuel false)
    | .keyword .for_ => redirected fuel line (← forEach fuel line)
    | .keyword .case_ => redirected fuel line (← select fuel line)
    | .keyword .openBrace =>
      let body ← list fuel false false
      demand fuel false .closeBrace
      redirected fuel line body
    | .openParen =>
      let body ← list fuel false false
      match ← token fuel false false with
      | .closeParen => return .subshell line body (← redirections fuel)
      | t => unexpected t (some Token.closeParen.name)
    | .word _ =>
      put t
      simple fuel line true [] [] []
    | .redirection _ _ =>
      put t
      simple fuel line true [] [] []
    | t => unexpected t none

def redirected : (fuel : Nat) → (line : Nat) → Script → Parse Script
  | 0, _, body => return body
  | fuel + 1, line, body => do
    match ← redirections fuel with
    | [] => return body
    | rs => return .redirected line body rs

def redirections : (fuel : Nat) → Parse (List Redirection)
  | 0 => return []
  | fuel + 1 => do
    match ← token fuel false true with
    | .redirection descriptor kind =>
      let first ← redirection fuel descriptor kind
      return first :: (← redirections fuel)
    | t =>
      put t
      return []

def redirection : (fuel : Nat) → (descriptor : Nat) → RedirectionKind → Parse Redirection
  | 0, descriptor, _ => return .document descriptor 0
  | fuel + 1, descriptor, kind => do
    match kind with
    | .document stripsTabs =>
      let _ ← takeWhile (fun c => c = ' ' || c = '\t') ((← get).rest.length + 1)
      match ← peek with
      | some c =>
        if isDelimiter c then unexpected (← freshToken fuel) none
      | none => unexpected .endOfFile none
      let (delimiter, isQuoted) ← takeDelimiter ((← get).rest.length + 1) false false
      let s ← get
      let number := s.nextDocument
      let announced : PendingDocument :=
        ⟨number, String.ofList delimiter, stripsTabs, isQuoted⟩
      set { s with nextDocument := number + 1, pending := s.pending ++ [announced] }
      return .document descriptor number
    | .file direction => return .file descriptor direction (← target fuel)
    | .copy => return .copy descriptor (← target fuel)

def target : (fuel : Nat) → Parse Word
  | 0 => return []
  | fuel + 1 => do
    match ← token fuel false false with
    | .word w => return w
    | t => unexpected t none

/-- A command of assignments, words and redirections, what has been read of it backwards. -/
def simple : (fuel : Nat) → (line : Nat) → (mayAssign : Bool) → List (String × Word) →
    List Word → List Redirection → Parse Script
  | 0, _, _, _, _, _ => return .nothing
  | fuel + 1, line, mayAssign, assignments, words, rs => do
    match ← token fuel false false with
    | .word w =>
      match if mayAssign then Word.assignment? w else none with
      | some a => simple fuel line mayAssign (a :: assignments) words rs
      | none => simple fuel line false assignments (w :: words) rs
    | .redirection descriptor kind =>
      simple fuel line mayAssign assignments words ((← redirection fuel descriptor kind) :: rs)
    | t =>
      match t, words with
      | .openParen, [w] =>
        if assignments.isEmpty && rs.isEmpty then definition fuel w
        else
          put t
          return .simple line assignments.reverse words.reverse rs.reverse
      | t, _ =>
        put t
        return .simple line assignments.reverse words.reverse rs.reverse

def definition : (fuel : Nat) → Word → Parse Script
  | 0, _ => return .nothing
  | fuel + 1, w => do
    match ← token fuel false false with
    | .closeParen => pure ()
    | t => unexpected t (some Token.closeParen.name)
    match Word.bareText? w with
    | none => fail "Bad function name"
    | some name =>
      if !Word.isName name || isReservedName name then fail "Bad function name"
      else
        let line := (← get).line
        let t ← token fuel true true
        put t
        return .define line name (← command fuel)

def conditional : (fuel : Nat) → Parse Script
  | 0 => return .nothing
  | fuel + 1 => do
    let condition ← list fuel false false
    demand fuel false .then_
    let positive ← list fuel false false
    match ← token fuel false false with
    | .keyword .elif => return .ifThen condition positive (some (← conditional fuel))
    | .keyword .else_ =>
      let negative ← list fuel false false
      demand fuel false .fi
      return .ifThen condition positive (some negative)
    | t =>
      put t
      demand fuel false .fi
      return .ifThen condition positive none

def loop : (fuel : Nat) → (wanted : Bool) → Parse Script
  | 0, _ => return .nothing
  | fuel + 1, wanted => do
    let condition ← list fuel false false
    demand fuel false .do_
    let body ← list fuel false false
    demand fuel false .done
    return .loop wanted condition body

def forEach : (fuel : Nat) → (line : Nat) → Parse Script
  | 0, _ => return .nothing
  | fuel + 1, line => do
    let t ← token fuel false false
    let name ←
      match t with
      | .word w =>
        match Word.bareText? w with
        | some name => if Word.isName name then pure name else fail "Bad for loop variable"
        | none => fail "Bad for loop variable"
      | _ => fail "Bad for loop variable"
    let t ← token fuel true true
    let values ←
      match t with
      | .keyword .in_ => some <$> forWords fuel
      | .semicolon => pure none
      | t =>
        put t
        pure none
    demand fuel true .do_
    let body ← list fuel false false
    demand fuel false .done
    return .forEach line name values body

def forWords : (fuel : Nat) → Parse (List Word)
  | 0 => return []
  | fuel + 1 => do
    match ← token fuel false false with
    | .word w => return w :: (← forWords fuel)
    | .newline => return []
    | .semicolon => return []
    | t => unexpected t none

def select : (fuel : Nat) → (line : Nat) → Parse Script
  | 0, _ => return .nothing
  | fuel + 1, line => do
    let subject ←
      match ← token fuel false false with
      | .word w => pure w
      | t => unexpected t (some "word")
    demand fuel true .in_
    return .select line subject (← branches fuel)

def branches : (fuel : Nat) → Parse (List (List Word × Script))
  | 0 => return []
  | fuel + 1 => do
    match ← token fuel true true with
    | .keyword .esac => return []
    | t =>
      let t ←
        match t with
        | .openParen => token fuel false false
        | t => pure t
      let ps ← patterns fuel t
      let body ← list fuel false true
      match ← token fuel true true with
      | .keyword .esac => return [(ps, body)]
      | .endBranch => return (ps, body) :: (← branches fuel)
      | t => unexpected t (some Token.endBranch.name)

/-- The patterns in front of a parenthesis, the first token of which is given. -/
def patterns : (fuel : Nat) → Token → Parse (List Word)
  | 0, _ => return []
  | fuel + 1, t => do
    let first : Word := match t with
      | .word w => w
      | .keyword k => Word.ofBareText k.text
      | _ => []
    match ← token fuel false false with
    | .pipe => return first :: (← patterns fuel (← token fuel false false))
    | .closeParen => return [first]
    | t => unexpected t (some Token.closeParen.name)

end

def depth (s : Source) : Nat :=
  32 * (s.aliases.foldl (fun n (_, text) => n + text.length) s.rest.length + 8)

def next? : Parse (Option Script) := do
  let fuel := depth (← get)
  match ← token fuel false true with
  | .endOfFile => return none
  | .newline =>
    readDocuments fuel
    return some .nothing
  | t =>
    put t
    return some (← list fuel true true)

end Parse

end PanelLauncher.Shell
