import PanelLauncher.Text.Printable

/-!
# Quoted texts in messages

A text inside an error message stands between double quotes. Quotes, backslashes and the common
controls get a backslash, any other character that would not be seen as itself is written by its
code point.
-/

namespace PanelLauncher.Text

def hexDigits (n : Nat) : List Char :=
  Nat.toDigits 16 n

def quotedChar (c : Char) : List Char :=
  match c with
  | '\x00' => ['\\', '0']
  | '\t' => ['\\', 't']
  | '\r' => ['\\', 'r']
  | '\n' => ['\\', 'n']
  | '\\' => ['\\', '\\']
  | '"' => ['\\', '"']
  | c =>
    if isExtending c || !isPrintable c then
      '\\' :: 'u' :: '{' :: hexDigits c.toNat ++ ['}']
    else [c]

def quoted (s : String) : String :=
  String.ofList ('"' :: s.toList.flatMap quotedChar ++ ['"'])

end PanelLauncher.Text
