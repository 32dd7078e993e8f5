/-! Bytes as text. A byte string is text when it is well-formed UTF-8; a preview of any other
byte string shows one replacement character for each maximal ill-formed piece. -/
namespace Telemetry

abbrev Bytes := List UInt8

namespace Bytes

def ofText (text : String) : Bytes := text.toUTF8.toList

def toText? (bytes : Bytes) : Option String := String.fromUTF8? ⟨bytes.toArray⟩

/-- Ranges of the bytes that must follow a leading byte; nothing for a byte that leads no
character. -/
def continuations (lead : UInt8) : Option (List (UInt8 × UInt8)) :=
  let tail : UInt8 × UInt8 := (0x80, 0xbf)
  if lead < 0x80 then some []
  else if lead < 0xc2 then none
  else if lead < 0xe0 then some [tail]
  else if lead = 0xe0 then some [(0xa0, 0xbf), tail]
  else if lead = 0xed then some [(0x80, 0x9f), tail]
  else if lead < 0xf0 then some [tail, tail]
  else if lead = 0xf0 then some [(0x90, 0xbf), tail, tail]
  else if lead < 0xf4 then some [tail, tail, tail]
  else if lead = 0xf4 then some [(0x80, 0x8f), tail, tail]
  else none

def matching : List (UInt8 × UInt8) → Bytes → Bytes
  | (low, high) :: ranges, b :: bytes =>
    if low ≤ b ∧ b ≤ high then b :: matching ranges bytes else []
  | _, _ => []

/-- First character, or `none` for an ill-formed piece, with the number of bytes it takes. -/
def firstChar (lead : UInt8) (bytes : Bytes) : Option Char × Nat :=
  match continuations lead with
  | none => (none, 1)
  | some ranges =>
    let tail := matching ranges bytes
    let piece := lead :: tail
    if tail.length = ranges.length then ((toText? piece).bind (·.toList.head?), piece.length)
    else (none, piece.length)

/-- Walks from a byte at an index up to the first ill-formed piece. -/
def flawFrom : Nat → Nat → Bytes → Nat × Option Nat
  | fuel + 1, index, lead :: bytes =>
    match firstChar lead bytes with
    | (some _, taken) => flawFrom fuel (index + taken) (bytes.drop (taken - 1))
    | (none, taken) =>
      let cut := (continuations lead).isSome && bytes.length < taken
      (index, if cut then none else some taken)
  | _, index, _ => (index, none)

/-- Index and length of the first ill-formed piece. A piece that only the end of the bytes keeps
from being a character has no length. -/
def flaw (bytes : Bytes) : Nat × Option Nat := flawFrom bytes.length 0 bytes

def previewChars : Nat → Bytes → List Char
  | fuel + 1, lead :: bytes =>
    let (char, taken) := firstChar lead bytes
    char.getD '\ufffd' :: previewChars fuel (bytes.drop (taken - 1))
  | _, _ => []

/-- Text of any bytes, with replacement characters where they are ill-formed. -/
def preview (bytes : Bytes) : String := String.ofList (previewChars bytes.length bytes)

def hexDigit (n : Nat) : Char := Char.ofNat (if n < 10 then 48 + n else 87 + n)

def hexValue (c : Char) : Nat := if c.toNat < 58 then c.toNat - 48 else c.toNat - 87

def ofHexDigits : List Char → Bytes
  | high :: low :: rest => UInt8.ofNat (16 * hexValue high + hexValue low) :: ofHexDigits rest
  | _ => []

def ofHex (text : String) : Bytes := ofHexDigits text.toList

def hex (bytes : Bytes) : String :=
  String.ofList (bytes.flatMap fun b => [hexDigit (b.toNat / 16), hexDigit (b.toNat % 16)])

end Bytes
end Telemetry
