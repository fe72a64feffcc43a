/-!
# Texts made of bytes

Programs exchange bytes, and most of them are texts. A byte that is no part of a character is
kept as a character of its own from a private range, so that every sequence of bytes is a text and
writing a text that was read gives its bytes back.
-/

namespace PanelLauncher.Text

def strayBase : Nat := 0xF0000

/-- The character that stands for a byte which is no part of a character. -/
def stray (b : UInt8) : Char :=
  Char.ofNat (strayBase + b.toNat)

def isStray (c : Char) : Bool :=
  strayBase + 0x80 ≤ c.toNat && c.toNat ≤ strayBase + 0xff

def charBytes (c : Char) : List UInt8 :=
  if isStray c then [(c.toNat - strayBase).toUInt8] else String.utf8EncodeChar c

def toBytes (s : String) : ByteArray :=
  if s.any isStray then ⟨(s.toList.flatMap charBytes).toArray⟩ else s.toUTF8

def takeChar? (bytes : List UInt8) (count : Nat) : Option (Char × List UInt8) :=
  let first := bytes.take count
  if first.length < count then none
  else
    match (String.fromUTF8? ⟨first.toArray⟩).map String.toList with
    | some [c] => some (c, bytes.drop count)
    | _ => none

def chars : (fuel : Nat) → List UInt8 → List Char
  | 0, _ => []
  | _, [] => []
  | fuel + 1, b :: bytes =>
    match [1, 2, 3, 4].findSome? (takeChar? (b :: bytes)) with
    | some (c, rest) => c :: chars fuel rest
    | none => stray b :: chars fuel bytes

def ofBytes (bytes : ByteArray) : String :=
  match String.fromUTF8? bytes with
  | some s => s
  | none => String.ofList (chars bytes.size bytes.toList)

/-- The least and the greatest byte that can follow the first one of a character, and how many
bytes follow it. -/
def following? (b : UInt8) : Option (UInt8 × UInt8 × Nat) :=
  if 0xC2 ≤ b ∧ b ≤ 0xDF then some (0x80, 0xBF, 1)
  else if b = 0xE0 then some (0xA0, 0xBF, 2)
  else if b = 0xED then some (0x80, 0x9F, 2)
  else if 0xE1 ≤ b ∧ b ≤ 0xEF then some (0x80, 0xBF, 2)
  else if b = 0xF0 then some (0x90, 0xBF, 3)
  else if 0xF1 ≤ b ∧ b ≤ 0xF3 then some (0x80, 0xBF, 3)
  else if b = 0xF4 then some (0x80, 0x8F, 3)
  else none

/-- How many bytes from the first one on begin a character that does not become complete. -/
def brokenLength : List UInt8 → Nat
  | [] => 0
  | b :: bytes =>
    match following? b, bytes with
    | some (least, greatest, count), c :: more =>
      if least ≤ c ∧ c ≤ greatest then
        2 + ((more.take (count - 1)).takeWhile fun d => 0x80 ≤ d ∧ d ≤ 0xBF).length
      else 1
    | _, _ => 1

def replaceStrays : (fuel : Nat) → List Char → List Char
  | 0, _ => []
  | _, [] => []
  | fuel + 1, c :: cs =>
    if isStray c then
      let run := (c :: cs).takeWhile isStray
      let length := brokenLength (run.flatMap charBytes)
      '\uFFFD' :: replaceStrays fuel ((c :: cs).drop length)
    else c :: replaceStrays fuel cs

/-- The text that bytes make up to a reader who knows no stray bytes. -/
def shown (bytes : ByteArray) : String :=
  match String.fromUTF8? bytes with
  | some s => s
  | none => String.ofList (replaceStrays bytes.size (chars bytes.size bytes.toList))

def byteCount (s : String) : Nat :=
  s.toList.foldl (fun n c => n + (charBytes c).length) 0

end PanelLauncher.Text
