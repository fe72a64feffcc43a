/-!
# Binary floating point numbers of 64 bits

A finite number is a sign and a magnitude, a magnitude an integer multiple of a power of two,
counted in units of `2 ^ (-1074)`. Every quotient of naturals has a nearest magnitude unless it is
too large; ties go to the even mantissa.
-/

namespace PanelLauncher

/-- The magnitude `mantissa * 2 ^ exponent`, in units of `2 ^ (-1074)`. -/
structure Magnitude where
  mantissa : Nat
  exponent : Nat
  mantissa_lt : mantissa < 9007199254740992
  exponent_le : exponent ≤ 2045
  /-- Each value has one form: the mantissa is full, or the unit is the least one. -/
  canonical : exponent = 0 ∨ 4503599627370496 ≤ mantissa
  deriving DecidableEq, Repr

/-- A number of the binary64 format; payloads and signs of a NaN are not kept. -/
inductive Binary64
  | nan
  | infinite (negative : Bool)
  | finite (negative : Bool) (magnitude : Magnitude)
  deriving DecidableEq, Repr

namespace Magnitude

def zero : Magnitude := ⟨0, 0, by decide, by decide, .inl rfl⟩

instance : Inhabited Magnitude := ⟨zero⟩

def one : Nat := Nat.pow 2 1074

def units (x : Magnitude) : Nat :=
  x.mantissa * Nat.pow 2 x.exponent

/-- The quotient rounded to the nearest integer, a tie to the even one. -/
def roundDiv (num den : Nat) : Nat :=
  let q := num / den
  let r := num % den
  if 2 * r < den then q
  else if den < 2 * r then q + 1
  else q + q % 2

def ofRounded? (mantissa exponent : Nat) : Option Magnitude :=
  if h : mantissa < 9007199254740992 ∧ exponent ≤ 2045 ∧
      (exponent = 0 ∨ 4503599627370496 ≤ mantissa) then
    some ⟨mantissa, exponent, h.1, h.2.1, h.2.2⟩
  else if h : mantissa = 9007199254740992 ∧ exponent + 1 ≤ 2045 then
    some ⟨4503599627370496, exponent + 1, by decide, h.2, .inr (Nat.le_refl _)⟩
  else none

/-- The magnitude nearest to `num / den` units; `none` beyond the greatest one. -/
def ofRatio? (num den : Nat) : Option Magnitude :=
  let exponent := (num / den).log2 - 52
  ofRounded? (roundDiv num (den * Nat.pow 2 exponent)) exponent

end Magnitude

end PanelLauncher
