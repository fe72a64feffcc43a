import PanelLauncher.Number.Decimal

/-!
# Numbers of a configuration and their texts

A number is an integer of 64 bits, signed or unsigned, or a binary64 float. Its text keeps the
kind: integers are plain digits, a float always shows a point, an exponent or a leading dot.
-/

namespace PanelLauncher

/-- A number as a configuration holds it; an integer is one of 64 bits, with or without a sign. -/
inductive Number
  | int (value : Int) (inRange : -9223372036854775808 ≤ value ∧ value < 18446744073709551616)
  | float (value : Binary64)
  deriving DecidableEq, Repr

namespace Decimal

def positional (d : Decimal) : List Char :=
  let digits := digitChars d.digits
  let point := d.point
  if digits.length ≤ point then
    digits ++ List.replicate (point.toNat - digits.length) '0' ++ ['.', '0']
  else if 0 < point then
    digits.take point.toNat ++ '.' :: digits.drop point.toNat
  else
    '0' :: '.' :: List.replicate (-point).toNat '0' ++ digits

def scientific (d : Decimal) : List Char :=
  let exponent := (toString (d.point - 1)).toList
  match digitChars d.digits with
  | [] => []
  | [digit] => digit :: 'e' :: exponent
  | digit :: digits => digit :: '.' :: digits ++ 'e' :: exponent

end Decimal

structure FloatFormat where
  isPositional : Int → Bool
  nan : List Char
  infinity : List Char

namespace Binary64

def sign (negative : Bool) : List Char :=
  if negative then ['-'] else []

/-- The text of a float: the shortest digits that read back, laid out as the format says. -/
def text (format : FloatFormat) : Binary64 → List Char
  | nan => format.nan
  | infinite negative => sign negative ++ format.infinity
  | finite negative magnitude =>
    let d := magnitude.shortest
    sign negative ++ if format.isPositional d.point then d.positional else d.scientific

end Binary64

namespace Number

/-- Configuration floats: an exponent from `1e16` up and below `0.00001`. -/
def configFormat : FloatFormat where
  isPositional point := decide (-5 < point ∧ point ≤ 16)
  nan := ['.', 'n', 'a', 'n']
  infinity := ['.', 'i', 'n', 'f']

/-- Floats inside an error message: never an exponent. -/
def messageFormat : FloatFormat where
  isPositional _ := true
  nan := ['N', 'a', 'N']
  infinity := ['i', 'n', 'f']

def integerText (n : Int) : List Char :=
  Binary64.sign (decide (n < 0)) ++ Decimal.digitChars n.natAbs

def text : Number → List Char
  | int value _ => integerText value
  | float value => value.text configFormat

end Number

end PanelLauncher
