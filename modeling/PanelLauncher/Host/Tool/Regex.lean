import PanelLauncher.Shell.Pattern

/-!
# Regular expressions

The basic and the extended notation: in the basic one, the operators for groups, repetition and
choice follow a backslash. A search tries every beginning, and longer repetitions first.

This is part of the system for test runs and of nothing else. No theorem is about it.
-/

namespace PanelLauncher.Regex

open Shell (BracketItem CharClass)

inductive Expr
  | char (c : Char)
  | any
  | set (isNegated : Bool) (items : List BracketItem)
  | start
  | finish
  | group (number : Nat) (e : Expr)
  | sequence (es : List Expr)
  | choice (a b : Expr)
  | repeated (e : Expr) (low : Nat) (high : Option Nat)
  deriving Repr

/-! ## Reading -/

def bracketItems? : (fuel : Nat) → (isFirst : Bool) → List Char →
    Option (List BracketItem × List Char)
  | 0, _, _ => none
  | _, _, [] => none
  | fuel + 1, isFirst, c :: cs =>
    if c = ']' && !isFirst then some ([], cs)
    else
      let rest (item : BracketItem) (cs : List Char) :=
        (bracketItems? fuel false cs).map fun (items, cs) => (item :: items, cs)
      let named := match c, cs with
        | '[', ':' :: cs =>
          let name := cs.takeWhile Char.isLower
          match cs.drop name.length, CharClass.ofName? (String.ofList name) with
          | ':' :: ']' :: cs, some k => some (BracketItem.class_ k, cs)
          | _, _ => none
        | _, _ => none
      match named, cs with
      | some (item, cs), _ => rest item cs
      | none, '-' :: d :: behind =>
        if d = ']' then rest (.range c c) cs else rest (.range c d) behind
      | none, cs => rest (.range c c) cs

def bounds? (close : List Char) (cs : List Char) : Option (Nat × Option Nat × List Char) :=
  let number (ds : List Char) := ds.foldl (fun n c => n * 10 + (c.toNat - '0'.toNat)) 0
  let low := cs.takeWhile Char.isDigit
  let rest := cs.drop low.length
  let (high, rest) := match rest with
    | ',' :: rest =>
      let high := rest.takeWhile Char.isDigit
      (if high.isEmpty then none else some (number high), rest.drop high.length)
    | rest => (some (number low), rest)
  if close.isPrefixOf rest then some (number low, high, rest.drop close.length) else none

inductive Operator
  | openGroup
  | closeGroup
  | choice
  | star
  | plus
  | question
  | openBounds

def operator? (isExtended : Bool) (cs : List Char) : Option (Operator × List Char) :=
  let ofChar (c : Char) : Option Operator :=
    match c with
    | '(' => some .openGroup
    | ')' => some .closeGroup
    | '|' => some .choice
    | '+' => some .plus
    | '?' => some .question
    | '{' => some .openBounds
    | _ => none
  match cs with
  | '*' :: rest => some (.star, rest)
  | '\\' :: c :: rest => if isExtended then none else (ofChar c).map (·, rest)
  | c :: rest => if isExtended then (ofChar c).map (·, rest) else none
  | [] => none

def Expr.groups : Expr → Nat
  | group _ e => e.groups + 1
  | sequence es => es.attach.foldl (fun n ⟨e, _⟩ => n + e.groups) 0
  | choice a b => a.groups + b.groups
  | repeated e _ _ => e.groups
  | _ => 0

mutual

/-- Sequences joined by choices, in which groups are numbered from `n` on. -/
def choices : (fuel : Nat) → (isExtended : Bool) → (n : Nat) → List Char → Expr × List Char
  | 0, _, _, cs => (.sequence [], cs)
  | fuel + 1, isExtended, n, cs =>
    let (es, rest) := sequence fuel isExtended true n cs
    match operator? isExtended rest with
    | some (.choice, rest) =>
      let first := Expr.sequence es
      let (second, rest) := choices fuel isExtended (n + first.groups) rest
      (.choice first second, rest)
    | _ => (.sequence es, rest)

def sequence : (fuel : Nat) → (isExtended isFirst : Bool) → (n : Nat) → List Char →
    List Expr × List Char
  | 0, _, _, _, cs => ([], cs)
  | _, _, _, _, [] => ([], [])
  | fuel + 1, isExtended, isFirst, n, c :: cs =>
    match operator? isExtended (c :: cs) with
    | some (.closeGroup, _) => ([], c :: cs)
    | some (.choice, _) => ([], c :: cs)
    | op =>
      let atEnd := cs.isEmpty || (operator? isExtended cs).any fun (op, _) =>
        match op with
        | .closeGroup | .choice => true
        | _ => false
      let (item, rest) := match op, c, cs with
        | some (.openGroup, rest), _, _ =>
          let (inner, rest) := choices fuel isExtended (n + 1) rest
          match operator? isExtended rest with
          | some (.closeGroup, rest) => (Expr.group n inner, rest)
          | _ => (.group n inner, rest)
        | some (.star, rest), _, _ => (.char '*', rest)
        | _, '[', '^' :: body =>
          match bracketItems? (body.length + 1) true body with
          | some (items, rest) => (.set true items, rest)
          | none => (.char '[', cs)
        | _, '[', body =>
          match bracketItems? (body.length + 1) true body with
          | some (items, rest) => (.set false items, rest)
          | none => (.char '[', cs)
        | _, '.', _ => (.any, cs)
        | _, '^', _ => (if isFirst || isExtended then .start else .char '^', cs)
        | _, '$', _ => (if atEnd || isExtended then .finish else .char '$', cs)
        | _, '\\', d :: rest => (.char d, rest)
        | _, _, _ => (.char c, cs)
      let (item, rest) := repeats fuel isExtended item rest
      let (items, rest) := sequence fuel isExtended false (n + item.groups) rest
      (item :: items, rest)

def repeats : (fuel : Nat) → (isExtended : Bool) → Expr → List Char → Expr × List Char
  | 0, _, e, cs => (e, cs)
  | fuel + 1, isExtended, e, cs =>
    match operator? isExtended cs with
    | some (.star, rest) => repeats fuel isExtended (.repeated e 0 none) rest
    | some (.plus, rest) => repeats fuel isExtended (.repeated e 1 none) rest
    | some (.question, rest) => repeats fuel isExtended (.repeated e 0 (some 1)) rest
    | some (.openBounds, rest) =>
      match bounds? (if isExtended then ['}'] else ['\\', '}']) rest with
      | some (low, high, rest) => repeats fuel isExtended (.repeated e low high) rest
      | none => (e, cs)
    | _ => (e, cs)

end

def Expr.ofString (isExtended : Bool) (s : String) : Expr :=
  (choices (8 * (s.length + 1)) isExtended 1 s.toList).1

/-! ## Matching -/

/-- Where a match stands: what has been passed, backwards, and what is left. -/
structure Place where
  passed : List Char
  rest : List Char
  captured : List (Nat × List Char)

mutual

/-- The places after an expression, the preferred one first. -/
def Expr.places (foldsCase : Bool) : (fuel : Nat) → Expr → Place → List Place
  | 0, _, _ => []
  | fuel + 1, e, p =>
    let single (accepts : Char → Bool) : List Place :=
      match p.rest with
      | c :: cs =>
        if accepts c || (foldsCase && (accepts c.toLower || accepts c.toUpper)) then
          [{ p with passed := c :: p.passed, rest := cs }]
        else []
      | [] => []
    match e with
    | .char c => single (· = c)
    | .any => single fun _ => true
    | .set isNegated items => single fun c => items.any (·.contains c) != isNegated
    | .start => if p.passed.isEmpty then [p] else []
    | .finish => if p.rest.isEmpty then [p] else []
    | .group n inner =>
      (Expr.places foldsCase fuel inner p).map fun q =>
        let taken := q.passed.take (q.passed.length - p.passed.length)
        { q with captured := (n, taken.reverse) :: q.captured }
    | .sequence es => sequencePlaces foldsCase fuel es p
    | .choice a b => Expr.places foldsCase fuel a p ++ Expr.places foldsCase fuel b p
    | .repeated inner low high =>
      let more :=
        if high = some 0 then []
        else
          (Expr.places foldsCase fuel inner p).flatMap fun q =>
            if q.rest.length < p.rest.length then
              Expr.places foldsCase fuel (.repeated inner (low - 1) (high.map (· - 1))) q
            else []
      if low = 0 then more ++ [p] else more

def sequencePlaces (foldsCase : Bool) : (fuel : Nat) → List Expr → Place → List Place
  | 0, _, _ => []
  | _, [], p => [p]
  | fuel + 1, e :: es, p =>
    (Expr.places foldsCase fuel e p).flatMap (sequencePlaces foldsCase fuel es)

end

/-- The longest match at the beginning of a text: how long it is, and the texts of the groups. -/
def Expr.matchStart? (foldsCase : Bool) (e : Expr) (passed cs : List Char) :
    Option (Nat × List (Nat × List Char)) :=
  let places := e.places foldsCase (100 * (cs.length + 10)) ⟨passed, cs, []⟩
  let found := places.map fun q => (cs.length - q.rest.length, q.captured)
  found.foldl (fun best next =>
    match best with
    | none => some next
    | some (n, _) => if n < next.1 then some next else best) none

def Expr.search (foldsCase isWhole : Bool) (e : Expr) (s : String) : Bool :=
  let cs := s.toList
  (List.range (if isWhole then 1 else cs.length + 1)).any fun n =>
    match e.matchStart? foldsCase (cs.take n).reverse (cs.drop n) with
    | some (length, _) => !isWhole || length = cs.length
    | none => false

def Expr.replace (foldsCase isGlobal : Bool) (e : Expr)
    (text : List Char → List (Nat × List Char) → List Char) :
    (fuel : Nat) → (passed cs : List Char) → List Char × Bool
  | 0, _, cs => (cs, false)
  | fuel + 1, passed, cs =>
    match e.matchStart? foldsCase passed cs with
    | none =>
      match cs with
      | [] => ([], false)
      | c :: cs =>
        let (rest, found) := Expr.replace foldsCase isGlobal e text fuel (c :: passed) cs
        (c :: rest, found)
    | some (n, captured) =>
      let new := text (cs.take n) captured
      let rest := cs.drop n
      if !isGlobal then (new ++ rest, true)
      else if n = 0 then
        match cs with
        | [] => (new, true)
        | c :: cs =>
          (new ++ c :: (Expr.replace foldsCase true e text fuel (c :: passed) cs).1, true)
      else
        let behind := (cs.take n).reverse ++ passed
        if rest.isEmpty then (new, true)
        else (new ++ (Expr.replace foldsCase true e text fuel behind rest).1, true)

end PanelLauncher.Regex
