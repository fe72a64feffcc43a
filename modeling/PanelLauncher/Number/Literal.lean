import PanelLauncher.Number.Basic

/-!
# Number literals

What a text means as a number: an integer in one of four radices, or a float. Decimal digits with
a superfluous leading zero are no number, so that codes such as `007` keep their text.
-/

namespace PanelLauncher.Literal

def digitValue? (radix : Nat) (c : Char) : Option Nat :=
  let value :=
    if '0' ≤ c ∧ c ≤ '9' then some (c.toNat - '0'.toNat)
    else if 'a' ≤ c ∧ c ≤ 'z' then some (c.toNat - 'a'.toNat + 10)
    else if 'A' ≤ c ∧ c ≤ 'Z' then some (c.toNat - 'A'.toNat + 10)
    else none
  value.filter (· < radix)

def readDigits? (radix : Nat) (value : Nat) : List Char → Option Nat
  | [] => some value
  | c :: cs => (digitValue? radix c).bind fun d => readDigits? radix (value * radix + d) cs

def readNat? (radix : Nat) : List Char → Option Nat
  | [] => none
  | cs => readDigits? radix 0 cs

def hasLeadingZero : List Char → Bool
  | '0' :: c :: cs => (c :: cs).all Char.isDigit
  | _ => false

def splitSign : List Char → Bool × List Char
  | '-' :: cs => (true, cs)
  | '+' :: cs => (false, cs)
  | cs => (false, cs)

def readUnsigned? : List Char → Option Nat
  | '0' :: 'x' :: cs => readNat? 16 cs
  | '0' :: 'o' :: cs => readNat? 8 cs
  | '0' :: 'b' :: cs => readNat? 2 cs
  | cs => if hasLeadingZero cs then none else readNat? 10 cs

/-- An integer of any size: a sign, then decimal digits or `0x`, `0o`, `0b` and digits. -/
def readInteger? (cs : List Char) : Option Int :=
  let (negative, unsigned) := splitSign cs
  (readUnsigned? unsigned).map fun n => if negative then -(n : Int) else n

def leadingDigits (cs : List Char) : List Char :=
  cs.takeWhile Char.isDigit

def afterDigits (cs : List Char) : List Char :=
  cs.dropWhile Char.isDigit

/-- The exponent part of a decimal: nothing, or `e`, an optional sign and digits. -/
def readExponent? : List Char → Option Int
  | [] => some 0
  | c :: cs =>
    if c = 'e' ∨ c = 'E' then
      let (negative, digits) := splitSign cs
      (readNat? 10 digits).map fun n => if negative then -(n : Int) else n
    else none

/-- A decimal without sign: digits around an optional point, at least one, and an exponent. -/
def readDecimal? (cs : List Char) : Option Decimal :=
  let whole := leadingDigits cs
  let (fraction, rest) :=
    match afterDigits cs with
    | '.' :: rest => (leadingDigits rest, afterDigits rest)
    | rest => ([], rest)
  (readNat? 10 (whole ++ fraction)).bind fun digits =>
    (readExponent? rest).map fun exponent => ⟨digits, exponent - fraction.length⟩

def readFinite? (cs : List Char) : Option Binary64 :=
  let (negative, unsigned) := splitSign cs
  ((readDecimal? unsigned).bind Decimal.magnitude?).map (.finite negative)

/-- A float: digits, an infinity with an optional sign, or a NaN without one. -/
def readFloat? (cs : List Char) : Option Binary64 :=
  let (negative, unsigned) := splitSign cs
  if [".inf".toList, ".Inf".toList, ".INF".toList].contains unsigned then
    some (.infinite negative)
  else if [".nan".toList, ".NaN".toList, ".NAN".toList].contains cs then some .nan
  else readFinite? cs

end PanelLauncher.Literal
