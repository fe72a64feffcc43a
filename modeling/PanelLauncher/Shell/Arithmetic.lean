import PanelLauncher.Shell.Machine

/-!
# Arithmetic of a script

Expressions over words of 64 bits that wrap around, with the operators of the language C but for
those that count a variable up or down. A variable holds a number, not an expression.

This is part of the system for test runs and of nothing else. No theorem is about it.
-/

namespace PanelLauncher.Shell.Arithmetic

/-- An operator between two values; those of a smaller level bind tighter. -/
inductive Operator
  | times
  | divide
  | remainder
  | plus
  | minus
  | shiftLeft
  | shiftRight
  | less
  | lessEqual
  | greater
  | greaterEqual
  | equal
  | notEqual
  | bitAnd
  | bitXor
  | bitOr
  deriving DecidableEq, Repr

namespace Operator

def all : List Operator :=
  [times, divide, remainder, plus, minus, shiftLeft, shiftRight, less, lessEqual, greater,
    greaterEqual, equal, notEqual, bitAnd, bitXor, bitOr]

def text : Operator → String
  | times => "*"
  | divide => "/"
  | remainder => "%"
  | plus => "+"
  | minus => "-"
  | shiftLeft => "<<"
  | shiftRight => ">>"
  | less => "<"
  | lessEqual => "<="
  | greater => ">"
  | greaterEqual => ">="
  | equal => "=="
  | notEqual => "!="
  | bitAnd => "&"
  | bitXor => "^"
  | bitOr => "|"

def level : Operator → Nat
  | times | divide | remainder => 0
  | plus | minus => 1
  | shiftLeft | shiftRight => 2
  | less | lessEqual | greater | greaterEqual => 3
  | equal | notEqual => 4
  | bitAnd => 5
  | bitXor => 6
  | bitOr => 7

def assigns (o : Operator) : Bool :=
  o ∉ [less, lessEqual, greater, greaterEqual, equal, notEqual]

def levels : Nat := 8

def result? (o : Operator) (a b : Int64) : Option Int64 :=
  let ofBool (p : Bool) : Int64 := if p then 1 else 0
  match o with
  | times => some (a * b)
  | divide => if b = 0 then none else some (a / b)
  | remainder => if b = 0 then none else some (a % b)
  | plus => some (a + b)
  | minus => some (a - b)
  | shiftLeft => some (a <<< b)
  | shiftRight => some (a >>> b)
  | less => some (ofBool (a < b))
  | lessEqual => some (ofBool (a ≤ b))
  | greater => some (ofBool (b < a))
  | greaterEqual => some (ofBool (b ≤ a))
  | equal => some (ofBool (a = b))
  | notEqual => some (ofBool (a ≠ b))
  | bitAnd => some (a &&& b)
  | bitXor => some (a ^^^ b)
  | bitOr => some (a ||| b)

end Operator

inductive Token
  | number (n : Int64)
  | name (s : String)
  | operator (o : Operator)
  | assign (o : Option Operator)
  | and
  | or
  | not
  | complement
  | question
  | colon
  | openParen
  | closeParen
  | unknown
  deriving DecidableEq, Repr

inductive Expr
  | number (n : Int64)
  | name (s : String)
  | binary (o : Operator) (a b : Expr)
  | negate (a : Expr)
  | not (a : Expr)
  | complement (a : Expr)
  | and (a b : Expr)
  | or (a b : Expr)
  | choose (condition a b : Expr)
  | assign (name : String) (o : Option Operator) (a : Expr)
  deriving Repr

/-! ## Numbers -/

def digit? (base : Nat) (c : Char) : Option Nat :=
  let value :=
    if c.isDigit then c.toNat - '0'.toNat
    else if 'a' ≤ c && c ≤ 'z' then c.toNat - 'a'.toNat + 10
    else if 'A' ≤ c && c ≤ 'Z' then c.toNat - 'A'.toNat + 10
    else base
  if value < base then some value else none

def digits (base : Nat) (cs : List Char) : Nat × List Char :=
  let found := cs.takeWhile fun c => (digit? base c).isSome
  (found.foldl (fun n c => n * base + (digit? base c).getD 0) 0, cs.drop found.length)

def natural (cs : List Char) : Nat × List Char :=
  match cs with
  | '0' :: x :: c :: rest =>
    if (x = 'x' || x = 'X') && (digit? 16 c).isSome then digits 16 (c :: rest)
    else digits 8 cs
  | '0' :: _ => digits 8 cs
  | cs => digits 10 cs

def isBlank (c : Char) : Bool :=
  c = ' ' || (9 ≤ c.toNat && c.toNat ≤ 13)

def largest : Int := 9223372036854775807

/-- The number that a text is, if it is one of 64 bits; blanks around it mean nothing. -/
def ofText? (s : String) : Option Int64 :=
  let cs := s.toList.dropWhile isBlank
  let (isNegative, cs) := match cs with
    | '-' :: cs => (true, cs)
    | '+' :: cs => (false, cs)
    | cs => (false, cs)
  let (n, rest) := natural cs
  let value : Int := if isNegative then -(n : Int) else n
  if !(rest.all isBlank) then none
  else if value > largest || value < -largest - 1 then none
  else if !cs.isEmpty && rest.length = cs.length then none
  else some (Int64.ofInt value)

/-! ## Tokens -/

def after? (s : String) (cs : List Char) : Option (List Char) :=
  if s.toList.isPrefixOf cs then some (cs.drop s.length) else none

/-- The texts of the tokens that have but one, longer ones first. -/
def fixedTokens : List (String × Token) :=
  let assigning := Operator.all.filter Operator.assigns
  let byLength (n : Nat) := (Operator.all.filter (·.text.length = n)).map fun o =>
    (o.text, Token.operator o)
  assigning.map (fun o => (o.text ++ "=", Token.assign (some o))) ++
    [("&&", Token.and), ("||", Token.or)] ++ byLength 2 ++ [("=", Token.assign none)] ++
    byLength 1 ++
    [("!", Token.not), ("~", .complement), ("?", .question), (":", .colon), ("(", .openParen),
      (")", .closeParen)]

def tokens : (fuel : Nat) → List Char → List Token
  | 0, _ => []
  | _, [] => []
  | fuel + 1, c :: cs =>
    if c = ' ' || c = '\t' || c = '\n' then tokens fuel cs
    else if c.isDigit then
      let (n, rest) := natural (c :: cs)
      .number (Int64.ofInt (min n largest)) :: tokens fuel rest
    else if Word.isNameStart c then
      let name := (c :: cs).takeWhile Word.isNameChar
      .name (String.ofList name) :: tokens fuel ((c :: cs).drop name.length)
    else
      let found := fixedTokens.findSome? fun (s, t) => (after? s (c :: cs)).map (t, ·)
      match found with
      | some (t, rest) => t :: tokens fuel rest
      | none => [.unknown]

/-! ## Expressions -/

abbrev Parse := StateT (List Token) (Except String)

def peek : Parse (Option Token) := do
  return (← get).head?

def skip : Parse Unit := modify List.tail

def accept (t : Token) : Parse Bool := do
  if (← peek) = some t then
    skip
    return true
  else return false

mutual

def primary : (fuel : Nat) → Parse Expr
  | 0 => throw "expecting primary"
  | fuel + 1 => do
    let t ← peek
    skip
    match t with
    | some (.number n) => return .number n
    | some (.name s) => return .name s
    | some .openParen =>
      let e ← assignment fuel
      if ← accept .closeParen then return e else throw "expecting ')'"
    | some (.operator .plus) => primary fuel
    | some (.operator .minus) => return .negate (← primary fuel)
    | some .not => return .not (← primary fuel)
    | some .complement => return .complement (← primary fuel)
    | _ => throw "expecting primary"

/-- Values joined by operators of a level or a smaller one, the levels counted from one. -/
def binary : (fuel : Nat) → (level : Nat) → Parse Expr
  | 0, _ => throw "expecting primary"
  | fuel + 1, 0 => primary fuel
  | fuel + 1, level + 1 => do
    let first ← binary fuel level
    binaryRest fuel level first

def binaryRest : (fuel : Nat) → (level : Nat) → Expr → Parse Expr
  | 0, _, first => return first
  | fuel + 1, level, first => do
    match ← peek with
    | some (.operator o) =>
      if o.level = level then
        skip
        let second ← binary fuel level
        binaryRest fuel level (.binary o first second)
      else return first
    | _ => return first

def conjunction : (fuel : Nat) → Parse Expr
  | 0 => throw "expecting primary"
  | fuel + 1 => do
    let first ← binary fuel Operator.levels
    if ← accept .and then return .and first (← conjunction fuel) else return first

def disjunction : (fuel : Nat) → Parse Expr
  | 0 => throw "expecting primary"
  | fuel + 1 => do
    let first ← conjunction fuel
    if ← accept .or then return .or first (← disjunction fuel) else return first

def choice : (fuel : Nat) → Parse Expr
  | 0 => throw "expecting primary"
  | fuel + 1 => do
    let condition ← disjunction fuel
    if ← accept .question then
      let a ← assignment fuel
      if ← accept .colon then return .choose condition a (← choice fuel)
      else throw "expecting ':'"
    else return condition

def assignment : (fuel : Nat) → Parse Expr
  | 0 => throw "expecting primary"
  | fuel + 1 => do
    match ← get with
    | .name s :: .assign o :: rest =>
      set rest
      return .assign s o (← assignment fuel)
    | _ => choice fuel

end

def Expr.ofString (s : String) : Except String Expr :=
  let ts := tokens (s.length + 1) s.toList
  match (assignment (16 * (ts.length + 1))).run ts with
  | .error message => .error message
  | .ok (e, []) => .ok e
  | .ok _ => .error "expecting EOF"

/-! ## Values -/

def failWith {α : Type} (text message : String) : Action α :=
  Action.fail s!"arithmetic expression: {message}: \"{text}\""

def lookUp (name : String) : Action Int64 := do
  let s ← get
  match s.bindings.lookup name, s.options.contains 'u' with
  | none, true => Action.fail s!"{name}: parameter not set"
  | v, _ =>
    let value := (v.bind (·.value)).getD ""
    match ofText? value with
    | some n => return n
    | none => Action.fail s!"Illegal number: {value}"

def Expr.eval (text : String) : Expr → Action Int64
  | .number n => return n
  | .name s => lookUp s
  | .binary o a b => do
    let a ← a.eval text
    let b ← b.eval text
    match o.result? a b with
    | some n => return n
    | none => failWith text "division by zero"
  | .negate a => return -(← a.eval text)
  | .not a => return if (← a.eval text) = 0 then 1 else 0
  | .complement a => return ~~~(← a.eval text)
  | .and a b => do
    if (← a.eval text) = 0 then return 0
    return if (← b.eval text) = 0 then 0 else 1
  | .or a b => do
    if (← a.eval text) ≠ 0 then return 1
    return if (← b.eval text) = 0 then 0 else 1
  | .choose condition a b => do
    if (← condition.eval text) ≠ 0 then a.eval text else b.eval text
  | .assign target o a => do
    let value ← a.eval text
    let value ← match o with
      | none => pure value
      | some o =>
        match o.result? (← lookUp target) value with
        | some n => pure n
        | none => failWith text "division by zero"
    Action.assign target (toString value.toInt)
    return value

def value (text : String) : Action Int64 := do
  match Expr.ofString text with
  | .ok e => e.eval text
  | .error message => failWith text message

end PanelLauncher.Shell.Arithmetic
