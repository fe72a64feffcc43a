import PanelLauncher.Number.Literal

/-!
# Fractions in a given form

A magnitude is written with a fixed number of decimals, with a power of ten, or in the shorter of
the two forms. Each form takes the nearest decimal, of two equally near the even one.

This is part of the system for test runs and of nothing else. No theorem is about it.
-/

namespace PanelLauncher.Magnitude

/-- The digits with a point before the last `count` of them. -/
def pointed (digits : List Char) (count : Nat) (keepsPoint : Bool) : List Char :=
  let padded := List.replicate (count + 1 - digits.length) '0' ++ digits
  let whole := padded.take (padded.length - count)
  let fraction := padded.drop (padded.length - count)
  if fraction.isEmpty && !keepsPoint then whole else whole ++ '.' :: fraction

def fixedForm (x : Magnitude) (count : Nat) (keepsPoint : Bool) : List Char :=
  pointed (Decimal.digitChars (roundDiv (x.units * Nat.pow 10 count) one)) count keepsPoint

def leading (x : Magnitude) (count : Nat) : Int × Nat :=
  if x.mantissa = 0 then (0, 0)
  else
    let power : Int := ((Decimal.digitChars x.scaled).length : Int) - 1 - places
    let shift := (count : Int) - power
    let digits :=
      if 0 ≤ shift then roundDiv (x.units * Nat.pow 10 shift.toNat) one
      else roundDiv x.units (one * Nat.pow 10 (-shift).toNat)
    if Nat.pow 10 (count + 1) ≤ digits then (power + 1, digits / 10) else (power, digits)

def exponentForm (x : Magnitude) (count : Nat) (keepsPoint : Bool) : List Char :=
  let (power, digits) := x.leading count
  let size := Decimal.digitChars power.natAbs
  pointed (Decimal.digitChars digits) count keepsPoint ++
    'e' :: (if power < 0 then '-' else '+') :: List.replicate (2 - size.length) '0' ++ size

def withoutZeros (cs : List Char) : List Char :=
  if cs.contains '.' then
    let kept := cs.reverse.dropWhile (· = '0')
    (if kept.head? = some '.' then kept.drop 1 else kept).reverse
  else cs

def generalForm (x : Magnitude) (count : Nat) (keepsZeros : Bool) : List Char :=
  let count := max 1 count
  let (power, _) := x.leading (count - 1)
  let tidy (cs : List Char) : List Char := if keepsZeros then cs else withoutZeros cs
  if -4 ≤ power && power < count then
    tidy (x.fixedForm ((count : Int) - 1 - power).toNat keepsZeros)
  else
    let cs := x.exponentForm (count - 1) keepsZeros
    tidy (cs.takeWhile (· ≠ 'e')) ++ cs.dropWhile (· ≠ 'e')

end PanelLauncher.Magnitude

namespace PanelLauncher.Literal

/-- The longest beginning of a text that is a decimal without sign, and what is left. -/
def decimalPrefix (cs : List Char) : List Char × List Char :=
  let whole := leadingDigits cs
  let mantissa :=
    match afterDigits cs with
    | '.' :: rest => whole ++ '.' :: leadingDigits rest
    | _ => whole
  if !mantissa.any Char.isDigit then ([], cs)
  else
    let rest := cs.drop mantissa.length
    let exponent :=
      match rest with
      | c :: rest =>
        let sign := (rest.take 1).filter fun d => d = '+' || d = '-'
        let digits := leadingDigits (rest.drop sign.length)
        if (c = 'e' || c = 'E') && !digits.isEmpty then c :: sign ++ digits else []
      | [] => []
    (mantissa ++ exponent, rest.drop exponent.length)

end PanelLauncher.Literal
