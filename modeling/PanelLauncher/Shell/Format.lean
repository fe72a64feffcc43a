import PanelLauncher.Shell.Arithmetic
import PanelLauncher.Shell.Fraction

/-!
# What `echo` and `printf` write

Both write their arguments, `printf` where its format asks for them, with backslash sequences in
the place of characters that are hard to type.

This is part of the system for test runs and of nothing else. No theorem is about it.
-/

namespace PanelLauncher.Shell

namespace Format

def escaped? : Char → Option Char
  | '\\' => some '\\'
  | 'a' => some '\x07'
  | 'b' => some '\x08'
  | 'e' => some '\x1b'
  | 'f' => some '\x0c'
  | 'n' => some '\n'
  | 'r' => some '\r'
  | 't' => some '\t'
  | 'v' => some '\x0b'
  | _ => none

def byteChar (n : Nat) : Char :=
  let b := n % 256
  if b < 128 then Char.ofNat b else Text.stray b.toUInt8

def isOctal (c : Char) : Bool :=
  '0' ≤ c && c ≤ '7'

def octal (cs : List Char) : Char × List Char :=
  let digits := (cs.take 3).takeWhile isOctal
  (byteChar (digits.foldl (fun n c => n * 8 + (c.toNat - '0'.toNat)) 0), cs.drop digits.length)

def escape (cs : List Char) : Char × List Char :=
  match cs with
  | [] => ('\\', [])
  | c :: rest =>
    if isOctal c then octal cs
    else
      match escaped? c with
      | some d => (d, rest)
      | none => ('\\', cs)

/-- Replaces backslash sequences in at most `fuel` characters; whether the output goes on. -/
def unescape : (fuel : Nat) → List Char → List Char × Bool
  | 0, _ => ([], true)
  | _, [] => ([], true)
  | _, '\\' :: 'c' :: _ => ([], false)
  | fuel + 1, '\\' :: cs =>
    let (c, rest) := match cs with
      | '0' :: d :: rest => if isOctal d then octal (d :: rest) else escape cs
      | cs => escape cs
    let (text, goesOn) := unescape fuel rest
    (c :: text, goesOn)
  | fuel + 1, c :: cs =>
    let (text, goesOn) := unescape fuel cs
    (c :: text, goesOn)

def echo (args : List String) : String :=
  let (args, ending) := match args with
    | "-n" :: args => (args, [])
    | args => (args, ['\n'])
  let cs := (" ".intercalate args).toList
  let (text, goesOn) := unescape (cs.length + 1) cs
  String.ofList (if goesOn then text ++ ending else text)

/-! ## Formats -/

structure Layout where
  flags : List Char
  width : Nat
  precision : Option Nat

namespace Layout

def has (l : Layout) (flag : Char) : Bool :=
  l.flags.contains flag

def pad (l : Layout) (cs : List Char) : List Char :=
  let count := Text.byteCount (String.ofList cs)
  let blanks := List.replicate (l.width - count) ' '
  if l.has '-' then cs ++ blanks else blanks ++ cs

def text (l : Layout) (s : String) : List Char :=
  let cs := match l.precision with
    | none => s.toList
    | some n => (Text.ofBytes ((Text.toBytes s).extract 0 n)).toList
  l.pad cs

/-- Digits behind a sign, with zeros between them as the precision or the width asks. -/
def number (l : Layout) (sign : List Char) (digits : List Char) : List Char :=
  match l.precision with
  | some n => l.pad (sign ++ List.replicate (n - digits.length) '0' ++ digits)
  | none =>
    if l.has '0' && !l.has '-' then
      let zeros := l.width - sign.length - digits.length
      sign ++ List.replicate zeros '0' ++ digits
    else l.pad (sign ++ digits)

/-- The digits of a number, of which there are none for a zero without precision. -/
def digits (l : Layout) (base n : Nat) : List Char :=
  if n = 0 && l.precision = some 0 then [] else Nat.toDigits base n

def signed (l : Layout) (n : Int64) : List Char :=
  let sign :=
    if n < 0 then ['-'] else if l.has '+' then ['+'] else if l.has ' ' then [' '] else []
  l.number sign (l.digits 10 n.toInt.natAbs)

def unsigned (l : Layout) (conversion : Char) (n : UInt64) : List Char :=
  match conversion with
  | 'o' =>
    let digits := l.digits 8 n.toNat
    l.number [] (if l.has '#' && digits.head? ≠ some '0' then '0' :: digits else digits)
  | 'x' => l.number (if l.has '#' && n ≠ 0 then ['0', 'x'] else []) (l.digits 16 n.toNat)
  | 'X' =>
    l.number (if l.has '#' && n ≠ 0 then ['0', 'X'] else [])
      ((l.digits 16 n.toNat).map Char.toUpper)
  | _ => l.number [] (l.digits 10 n.toNat)

def fraction (l : Layout) (conversion : Char) (x : Binary64) : List Char :=
  let count := l.precision.getD 6
  let sign (isNegative : Bool) : List Char :=
    if isNegative then ['-'] else if l.has '+' then ['+'] else if l.has ' ' then [' '] else []
  let text :=
    match x with
    | .nan => l.pad (sign false ++ "nan".toList)
    | .infinite isNegative => l.pad (sign isNegative ++ "inf".toList)
    | .finite isNegative magnitude =>
      let digits := match conversion.toLower with
        | 'e' => magnitude.exponentForm count (l.has '#')
        | 'f' => magnitude.fixedForm count (l.has '#')
        | _ => magnitude.generalForm count (l.has '#')
      ({ l with precision := none } : Layout).number (sign isNegative) digits
  if conversion.isUpper then text.map Char.toUpper else text

end Layout

structure Printing where
  args : List String
  output : List Char
  complaints : List String
  status : Nat

abbrev Print := StateT Printing (Except Printing)

namespace Print

def put (cs : List Char) : Print Unit :=
  modify fun p => { p with output := cs.reverse ++ p.output }

def complain (message : String) : Print Unit :=
  modify fun p => { p with complaints := message :: p.complaints, status := 1 }

def stop {α : Type} : Print α := do
  throw (← get)

def fail {α : Type} (message : String) : Print α := do
  complain message
  modify fun p => { p with status := 2 }
  stop

def next? : Print (Option String) := do
  let p ← get
  set { p with args := p.args.tail }
  return p.args.head?

/-- Complains about an argument of which a part is left that is no number. -/
def check (arg : String) (body rest : List Char) : Print Unit := do
  if rest.length = body.length then complain s!"{arg}: expected numeric value"
  else if !rest.isEmpty then complain s!"{arg}: not completely converted"

def quotedCode (cs : List Char) : Nat :=
  ((Text.toBytes (String.ofList (cs.take 1))).toList.headD 0).toNat

def unsignedPart (arg : List Char) : Bool × List Char :=
  Literal.splitSign (arg.dropWhile Arithmetic.isBlank)

def nextNumber : Print Int := do
  match ← next? with
  | none => return 0
  | some arg =>
    match arg.toList with
    | [] => return 0
    | c :: cs =>
      if c = '"' || c = '\'' then return (quotedCode cs : Int)
      else
        let (isNegative, body) := unsignedPart arg.toList
        let (n, rest) := Arithmetic.natural body
        check arg body rest
        return if isNegative then -(n : Int) else n

def isOutOfRange (digits : List Char) : Binary64 → Bool
  | .finite _ magnitude =>
    magnitude.exponent = 0 && magnitude.mantissa < 4503599627370496 &&
      (Literal.readDecimal? digits).any (0 < ·.digits)
  | _ => true

def nextFraction : Print Binary64 := do
  let plain (isNegative : Bool) (d : Decimal) : Print Binary64 := do
    match d.magnitude? with
    | some magnitude => return .finite isNegative magnitude
    | none => return .infinite isNegative
  match ← next? with
  | none => plain false ⟨0, 0⟩
  | some arg =>
    match arg.toList with
    | [] => plain false ⟨0, 0⟩
    | c :: cs =>
      if c = '"' || c = '\'' then plain false ⟨quotedCode cs, 0⟩
      else
        let (isNegative, body) := unsignedPart arg.toList
        let lower := body.map Char.toLower
        let word? := ["infinity", "inf", "nan"].find? fun word => word.toList.isPrefixOf lower
        match word? with
        | some word =>
          check arg body (body.drop word.length)
          return if word = "nan" then .nan else .infinite isNegative
        | none =>
          if "0x".toList.isPrefixOf lower then
            let (n, rest) := Arithmetic.natural body
            check arg body rest
            plain isNegative ⟨n, 0⟩
          else
            let (digits, rest) := Literal.decimalPrefix body
            check arg body rest
            let x ← plain isNegative ((Literal.readDecimal? digits).getD ⟨0, 0⟩)
            if isOutOfRange digits x then complain s!"{arg}: {Errno.outOfRange.text}"
            return x

/-- A number of 64 bits; one that is too large is taken down to them. -/
def nextWithin (low high : Int) : Print Int := do
  let before ← get
  let n ← nextNumber
  if n < low || high < n then
    let arg := before.args.headD ""
    complain s!"{arg}: {Errno.outOfRange.text}"
  return max low (min high n)

def measure (cs : List Char) : Print (Option Int × List Char) := do
  match cs with
  | '*' :: rest => return (some (← nextWithin (-2147483648) 2147483647), rest)
  | cs =>
    let digits := cs.takeWhile Char.isDigit
    let n := digits.foldl (fun n c => n * 10 + (c.toNat - '0'.toNat)) 0
    return (if digits.isEmpty then none else some (n : Int), cs.drop digits.length)

def conversion (cs : List Char) : Print (List Char) := do
  let flags := cs.takeWhile fun c => "#-+ 0".toList.contains c
  let (width, rest) ← measure (cs.drop flags.length)
  let (precision, rest) ←
    match rest with
    | '.' :: rest => do
      let (n, rest) ← measure rest
      pure (some (n.getD 0), rest)
    | rest => pure (none, rest)
  let layout : Layout :=
    { flags := if width.any (· < 0) then '-' :: flags else flags
      width := (width.getD 0).natAbs
      precision := (precision.filter (0 ≤ ·)).map Int.toNat }
  match rest with
  | [] => fail "missing format character"
  | c :: rest =>
    if c = 's' then put (layout.text ((← next?).getD ""))
    else if c = 'b' then
      let arg := ((← next?).getD "").toList
      let (text, goesOn) := unescape (arg.length + 1) arg
      put (layout.text (String.ofList text))
      if !goesOn then stop
    else if c = 'c' then
      let bytes := Text.toBytes ((← next?).getD "")
      put (layout.pad [byteChar ((bytes.toList.headD 0).toNat)])
    else if c = 'd' || c = 'i' then
      let n ← nextWithin (-9223372036854775808) 9223372036854775807
      put (layout.signed (Int64.ofInt n))
    else if "ouxX".toList.contains c then
      let n ← nextWithin (-18446744073709551615) 18446744073709551615
      put (layout.unsigned c (UInt64.ofInt n))
    else if "eEfFgG".toList.contains c then put (layout.fraction c (← nextFraction))
    else
      let directive := String.ofList (cs.take (cs.length - rest.length))
      fail ("%" ++ directive ++ ": invalid directive")
    return rest

def once : (fuel : Nat) → List Char → Print Unit
  | 0, _ => return ()
  | _, [] => return ()
  | fuel + 1, '\\' :: cs => do
    let (c, rest) := escape cs
    put [c]
    once fuel rest
  | fuel + 1, '%' :: '%' :: cs => do
    put ['%']
    once fuel cs
  | fuel + 1, '%' :: cs => do
    once fuel (← conversion cs)
  | fuel + 1, c :: cs => do
    put [c]
    once fuel cs

/-- Uses a format again as long as it takes arguments and some are left. -/
def again (format : List Char) : (fuel : Nat) → Print Unit
  | 0 => return ()
  | fuel + 1 => do
    let before := (← get).args.length
    once (format.length + 1) format
    let after := (← get).args.length
    if 0 < after && after < before then again format fuel

end Print

/-- The outcome of a format with arguments; complaints come before the output. -/
def printf (format : String) (args : List String) : Printing :=
  match (Print.again format.toList (args.length + 1)).run ⟨args, [], [], 0⟩ with
  | .ok (_, p) => p
  | .error p => p

def Printing.text (p : Printing) : String :=
  String.ofList p.output.reverse

end Format

end PanelLauncher.Shell
