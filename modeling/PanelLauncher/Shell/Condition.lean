import PanelLauncher.Shell.Arithmetic

/-!
# Conditions

The conditions of `test`: properties of texts, numbers and files, joined by operators. A word is an
operator only where one can stand.

This is part of the system for test runs and of nothing else. No theorem is about it.
-/

namespace PanelLauncher.Shell.Condition

inductive Kind
  | unary
  | binary
  | conjunction
  | disjunction
  | negation
  | openParen
  | closeParen
  deriving DecidableEq, Repr

def kind? (word : String) : Option Kind :=
  if ["-r", "-w", "-x", "-e", "-f", "-d", "-c", "-b", "-p", "-u", "-g", "-k", "-s", "-t", "-z",
    "-n", "-h", "-O", "-G", "-L", "-S"].contains word then some .unary
  else if ["=", "!=", "<", ">", "-eq", "-ne", "-ge", "-gt", "-le", "-lt", "-nt", "-ot",
    "-ef"].contains word then some .binary
  else
    match word with
    | "!" => some .negation
    | "-a" => some .conjunction
    | "-o" => some .disjunction
    | "(" => some .openParen
    | ")" => some .closeParen
    | _ => none

def operator? : List String → Option Kind
  | [] => none
  | word :: rest =>
    match kind? word, rest with
    | some .unary, [] => none
    | some .unary, [_] => some .unary
    | some .unary, next :: _ => if kind? next = some .binary then none else some .unary
    | some .openParen, [] => none
    | kind, _ => kind

/-- The words that a condition has not come to yet; the first is the current one. -/
abbrev Reading := StateT (List String) Action

def fail {α : Type} (operator message : String) : Reading α :=
  StateT.lift <| Action.fail <|
    if operator.isEmpty then message else s!"{operator}: {message}"

def advance : Reading Unit := modify List.tail

def number (text : String) : Action Int := do
  let body := text.toList.dropWhile Arithmetic.isBlank
  let (isNegative, body) := match body with
    | '-' :: cs => (true, cs)
    | '+' :: cs => (false, cs)
    | cs => (false, cs)
  let digits := body.takeWhile Char.isDigit
  let rest := body.drop digits.length
  let n : Nat := digits.foldl (fun n c => n * 10 + (c.toNat - '0'.toNat)) 0
  if digits.isEmpty || !(rest.all Arithmetic.isBlank) || 9223372036854775807 < n then
    Action.fail s!"Illegal number: {text}"
  else return if isNegative then -(n : Int) else n

def info? (path : String) : Action (Option FileInfo) := do
  return (← Action.ask (.info path)).toOption

def unary (operator word : String) : Action Bool := do
  match operator with
  | "-n" => return !word.isEmpty
  | "-z" => return word.isEmpty
  | "-t" =>
    let _ ← number word
    return false
  | _ =>
    match ← info? word with
    | none => return false
    | some info =>
      match operator with
      | "-d" => return info.isDirectory
      | "-f" => return !info.isDirectory && !info.isDevice
      | "-c" => return info.isDevice
      | "-x" => return info.isExecutable
      | "-s" => return 0 < info.size
      | "-e" | "-r" | "-w" | "-O" | "-G" => return true
      | _ => return false

def binary (operator a b : String) : Action Bool := do
  match operator with
  | "=" => return a = b
  | "!=" => return a ≠ b
  | "<" => return a < b
  | ">" => return b < a
  | "-nt" | "-ot" => return false
  | "-ef" => return a = b && (← info? a).isSome
  | _ =>
    let m ← number a
    let n ← number b
    match operator with
    | "-eq" => return m = n
    | "-ne" => return m ≠ n
    | "-lt" => return m < n
    | "-le" => return m ≤ n
    | "-gt" => return m > n
    | _ => return m ≥ n

mutual

def disjunction : (fuel : Nat) → Reading Bool
  | 0 => return false
  | fuel + 1 => do
    let first ← conjunction fuel
    if operator? ((← get).drop 1) = some .disjunction then
      advance
      advance
      let second ← disjunction fuel
      return first || second
    else return first

def conjunction : (fuel : Nat) → Reading Bool
  | 0 => return false
  | fuel + 1 => do
    let first ← negation fuel
    if operator? ((← get).drop 1) = some .conjunction then
      advance
      advance
      let second ← conjunction fuel
      return first && second
    else return first

def negation : (fuel : Nat) → Reading Bool
  | 0 => return false
  | fuel + 1 => do
    match ← get with
    | words =>
      if operator? words = some .negation then
        if words.length > 1 then
          advance
          return !(← negation fuel)
        else return true
      else primary fuel

/-- A condition without an operator around it; its last word stays the current one. -/
def primary : (fuel : Nat) → Reading Bool
  | 0 => return false
  | fuel + 1 => do
    match ← get with
    | [] => return false
    | word :: rest =>
      match operator? (word :: rest) with
      | some .openParen =>
        advance
        if operator? rest = some .closeParen then return false
        else
          let value ← disjunction fuel
          advance
          if operator? (← get) = some .closeParen then return value
          else fail "" "closing paren expected"
      | some .unary =>
        advance
        match rest with
        | [] => fail word "argument expected"
        | operand :: _ => StateT.lift (unary word operand)
      | _ =>
        match rest with
        | operator :: behind =>
          if operator? rest = some .binary then
            advance
            advance
            match behind with
            | [] => fail operator "argument expected"
            | operand :: _ => StateT.lift (binary operator word operand)
          else return !word.isEmpty
        | [] => return !word.isEmpty

end

/-- The value of a condition of at most four words is that of a part, depending on their number. -/
def value : (fuel : Nat) → List String → Action Bool
  | 0, _ => return false
  | _, [] => return false
  | fuel + 1, words => do
    let plain (words : List String) : Action Bool := do
      let (result, rest) ← (disjunction (8 * (words.length + 1))).run words
      match rest with
      | word :: _ :: _ => Action.fail s!"{word}: unexpected operator"
      | _ => return result
    let inParens := words.head? = some "(" && words.getLast? = some ")"
    let isNegated := words.head? = some "!"
    match words with
    | [a, operator, b] =>
      if kind? operator = some .binary then binary operator a b
      else if inParens then plain [operator]
      else if isNegated then return !(← value fuel [operator, b])
      else plain words
    | [_, b, c, _] =>
      if inParens then plain [b, c]
      else if isNegated then return !(← value fuel words.tail)
      else plain words
    | words => plain words

end PanelLauncher.Shell.Condition
