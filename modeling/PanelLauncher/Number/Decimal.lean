import PanelLauncher.Number.Binary64

/-!
# Decimals and magnitudes

A decimal is a natural number times a power of ten. Reading takes a decimal to the nearest
magnitude; writing takes a magnitude to the shortest decimal that reads back as it.
-/

namespace PanelLauncher

structure Decimal where
  digits : Nat
  exponent : Int
  deriving DecidableEq, Repr

namespace Decimal

def digitChars (n : Nat) : List Char :=
  Nat.toDigits 10 n

/-- The position of the decimal point, counted from before the first digit. -/
def point (d : Decimal) : Int :=
  (digitChars d.digits).length + d.exponent

/--
The magnitude nearest to a decimal, `none` beyond the greatest one. Decimals that are far outside
the range are settled by the position of their point, so that no huge power is computed.
-/
def magnitude? (d : Decimal) : Option Magnitude :=
  if d.digits = 0 then some .zero
  else if 310 < d.point then none
  else if d.point < -330 then some .zero
  else if 0 ≤ d.exponent then
    Magnitude.ofRatio? (d.digits * Nat.pow 10 d.exponent.toNat * Magnitude.one) 1
  else
    Magnitude.ofRatio? (d.digits * Magnitude.one) (Nat.pow 10 (-d.exponent).toNat)

def trimmed (d : Decimal) : Decimal :=
  go d.digits d.digits d.exponent
where
  go : Nat → Nat → Int → Decimal
    | 0, digits, exponent => ⟨digits, exponent⟩
    | fuel + 1, digits, exponent =>
      if digits ≠ 0 ∧ digits % 10 = 0 then go fuel (digits / 10) (exponent + 1)
      else ⟨digits, exponent⟩

end Decimal

namespace Magnitude

/-- So many decimal places hold the leading digits of every magnitude. -/
def places : Nat := 350

def scaled (x : Magnitude) : Nat :=
  x.units * Nat.pow 10 places / one

/-- How far `n` units of `10 ^ (-places)` are from the magnitude, in parts of `2 ^ (-1074)`. -/
def distance (x : Magnitude) (n : Nat) : Nat :=
  let exact := x.units * Nat.pow 10 places
  (exact - n * one) + (n * one - exact)

def exactDecimal (x : Magnitude) : Decimal :=
  ⟨x.units * Nat.pow 5 1074, -1074⟩

def dropped (x : Magnitude) (width : Nat) : Nat :=
  (Decimal.digitChars x.scaled).length - width

/-- The decimals that keep `width` digits of the magnitude are a grid. -/
def gridPoint (x : Magnitude) (width n : Nat) : Decimal :=
  ⟨n, x.dropped width - places⟩

def below (x : Magnitude) (width : Nat) : Nat :=
  x.scaled / Nat.pow 10 (x.dropped width)

def prefersAbove (x : Magnitude) (width : Nat) : Bool :=
  let spacing := Nat.pow 10 (x.dropped width)
  let lower := x.distance (x.below width * spacing)
  let upper := x.distance ((x.below width + 1) * spacing)
  upper < lower || (upper == lower && x.below width % 2 == 1)

/--
The decimal of at most `width` digits, one of the two neighbours of the magnitude on that grid,
that reads back as the magnitude; the nearer one if both do, and of two equally near the even one.
-/
def onGrid? (x : Magnitude) (width : Nat) : Option Decimal :=
  let lower := x.gridPoint width (x.below width)
  let upper := x.gridPoint width (x.below width + 1)
  if lower.magnitude? = some x then
    if upper.magnitude? = some x ∧ x.prefersAbove width then some upper else some lower
  else if upper.magnitude? = some x then some upper
  else none

def shortest (x : Magnitude) : Decimal :=
  if x.mantissa = 0 then ⟨0, 0⟩
  else (((List.range 17).findSome? fun n => x.onGrid? (n + 1)).getD x.exactDecimal).trimmed

end Magnitude

end PanelLauncher
