/-!
# Patterns

In a pattern an asterisk stands for any characters, a question mark for one, and brackets for one
of those listed. Quoted characters stand for themselves.

This is part of the system for test runs and of nothing else. No theorem is about it.
-/

namespace PanelLauncher.Shell

inductive CharClass
  | alnum
  | alpha
  | blank
  | cntrl
  | digit
  | graph
  | lower
  | print
  | punct
  | space
  | upper
  | xdigit
  deriving DecidableEq, Repr

namespace CharClass

def ofName? : String → Option CharClass
  | "alnum" => some alnum
  | "alpha" => some alpha
  | "blank" => some blank
  | "cntrl" => some cntrl
  | "digit" => some digit
  | "graph" => some graph
  | "lower" => some lower
  | "print" => some print
  | "punct" => some punct
  | "space" => some space
  | "upper" => some upper
  | "xdigit" => some xdigit
  | _ => none

def contains (k : CharClass) (c : Char) : Bool :=
  let isGraph := 0x21 ≤ c.toNat && c.toNat ≤ 0x7e
  match k with
  | alnum => c.isAlphanum
  | alpha => c.isAlpha
  | blank => c = ' ' || c = '\t'
  | cntrl => c.toNat < 0x20 || c.toNat = 0x7f
  | digit => c.isDigit
  | graph => isGraph
  | lower => c.isLower
  | print => isGraph || c = ' '
  | punct => isGraph && !c.isAlphanum
  | space => c = ' ' || (9 ≤ c.toNat && c.toNat ≤ 13)
  | upper => c.isUpper
  | xdigit => c.isDigit || ('a' ≤ c && c ≤ 'f') || ('A' ≤ c && c ≤ 'F')

end CharClass

inductive BracketItem
  | range (low high : Char)
  | class_ (k : CharClass)
  deriving DecidableEq, Repr

def BracketItem.contains (item : BracketItem) (c : Char) : Bool :=
  match item with
  | range low high => low ≤ c && c ≤ high
  | class_ k => k.contains c

inductive PatternAtom
  | char (c : Char)
  | any
  | many
  | oneOf (isNegated : Bool) (items : List BracketItem)
  deriving DecidableEq, Repr

namespace PatternAtom

def accepts (p : PatternAtom) (c : Char) : Bool :=
  match p with
  | char d => c = d
  | any => true
  | many => false
  | oneOf isNegated items => items.any (·.contains c) != isNegated

def matchesAll : List PatternAtom → List Char → Bool
  | [], cs => cs.isEmpty
  | many :: ps, cs => (List.range (cs.length + 1)).any fun n => matchesAll ps (cs.drop n)
  | _ :: _, [] => false
  | p :: ps, c :: cs => p.accepts c && matchesAll ps cs

end PatternAtom

/-- A pattern: its characters, and which of them are quoted. -/
abbrev Pattern := List (Char × Bool)

namespace Pattern

def className? (cs : Pattern) : Option (CharClass × Pattern) :=
  match cs with
  | ('[', _) :: (':', _) :: rest =>
    let name := rest.takeWhile fun (c, _) => c.isLower
    match rest.drop name.length, CharClass.ofName? (String.ofList (name.map (·.1))) with
    | (':', _) :: (']', _) :: rest, some k => some (k, rest)
    | _, _ => none
  | _ => none

def bracketItems? : (fuel : Nat) → (isFirst : Bool) → Pattern →
    Option (List BracketItem × Pattern)
  | 0, _, _ => none
  | _, _, [] => none
  | fuel + 1, isFirst, (c, isQuoted) :: cs =>
    if c = ']' && !isQuoted && !isFirst then some ([], cs)
    else
      match className? ((c, isQuoted) :: cs) with
      | some (k, rest) =>
        (bracketItems? fuel false rest).map fun (items, rest) => (.class_ k :: items, rest)
      | none =>
        match cs with
        | ('-', false) :: (d, isQuoted) :: rest =>
          if d = ']' && !isQuoted then
            (bracketItems? fuel false cs).map fun (items, rest) => (.range c c :: items, rest)
          else
            (bracketItems? fuel false rest).map fun (items, rest) => (.range c d :: items, rest)
        | cs => (bracketItems? fuel false cs).map fun (items, rest) => (.range c c :: items, rest)

def atoms : (fuel : Nat) → Pattern → List PatternAtom
  | 0, _ => []
  | _, [] => []
  | fuel + 1, (c, true) :: cs => .char c :: atoms fuel cs
  | fuel + 1, ('*', false) :: cs => .many :: atoms fuel cs
  | fuel + 1, ('?', false) :: cs => .any :: atoms fuel cs
  | fuel + 1, ('[', false) :: cs =>
    let (isNegated, body) := match cs with
      | ('!', false) :: body => (true, body)
      | body => (false, body)
    match bracketItems? (body.length + 1) true body with
    | some (items, rest) => .oneOf isNegated items :: atoms fuel rest
    | none => .char '[' :: atoms fuel cs
  | fuel + 1, ('\\', false) :: (c, _) :: cs => .char c :: atoms fuel cs
  | fuel + 1, (c, false) :: cs => .char c :: atoms fuel cs

def fits (p : Pattern) (cs : List Char) : Bool :=
  PatternAtom.matchesAll (atoms p.length p) cs

/-- Whether a pattern could be the name of more than one file. -/
def isGeneral (p : Pattern) : Bool :=
  p.any fun (c, isQuoted) => !isQuoted && (c = '*' || c = '?' || c = '[')

def trim (p : Pattern) (atEnd isLongest : Bool) (cs : List Char) : List Char :=
  let n := cs.length
  let counts := List.range (n + 1)
  let found := (if isLongest then counts.reverse else counts).find? fun k =>
    p.fits (if atEnd then cs.drop (n - k) else cs.take k)
  match found with
  | none => cs
  | some k => if atEnd then cs.take (n - k) else cs.drop k

end Pattern

end PanelLauncher.Shell
