import Telemetry.Json.Literal
import Telemetry.Text.Utf8

/-! JSON text as a document: a tree that also records where the text stops being JSON. Reading
never fails; a fault in the text leaves a broken node at the place of the fault and open
containers around it, so that whoever walks the tree meets faults in the order of the text. -/
namespace Telemetry.Json

/-- How strictly a text is held to the grammar. -/
inductive Dialect
  | plain
  /-- The structure is found before the words in a text of the given length are read: an unpaired
  leading surrogate denotes the null character, and behind some words everything up to the next
  structural character or blank is passed over. -/
  | indexed (length : Nat)
  deriving DecidableEq, Repr

inductive Document
  | null
  | bool (b : Bool)
  | number (literal : Literal)
  /-- `none` is a complete literal that denotes no text: a lone surrogate or ill-formed UTF-8. -/
  | text (content : Option String)
  | array (items : List Document) (closed : Bool)
  | object (fields : List (Option String × Document)) (closed : Bool)
  | broken
  deriving Repr, Inhabited

namespace Document

def isBlank (b : UInt8) : Bool := b = 0x20 || b = 0x09 || b = 0x0a || b = 0x0d

def skipBlanks (bytes : Bytes) : Bytes := bytes.dropWhile isBlank

def isDigit (b : UInt8) : Bool := 0x30 ≤ b && b ≤ 0x39

def digitsOf (bytes : Bytes) : List Nat × Bytes :=
  ((bytes.takeWhile isDigit).map fun b => b.toNat - 48, bytes.dropWhile isDigit)

def readFraction (bytes : Bytes) : Option (List Nat × Bytes) :=
  match bytes with
  | 0x2e :: rest =>
    let (digits, rest) := digitsOf rest
    if digits.isEmpty then none else some (digits, rest)
  | _ => some ([], bytes)

/-- Exponent part, whose sign may be left out but whose digits may not. -/
def readExponent (bytes : Bytes) : Option (Option (Bool × List Nat) × Bytes) :=
  let finish (sign : Bool) (bytes : Bytes) :=
    let (digits, rest) := digitsOf bytes
    if digits.isEmpty then none else some (some (sign, digits), rest)
  let signed (bytes : Bytes) :=
    match bytes with
    | 0x2d :: rest => finish true rest
    | 0x2b :: rest => finish false rest
    | _ => finish false bytes
  match bytes with
  | 0x65 :: rest => signed rest
  | 0x45 :: rest => signed rest
  | _ => some (none, bytes)

def readUnsigned (sign : Bool) (bytes : Bytes) : Option (Literal × Bytes) :=
  let (whole, rest) := digitsOf bytes
  if whole.isEmpty || (whole.head? = some 0 && whole.length != 1) then none
  else do
    let (fraction, rest) ← readFraction rest
    let (exponent, rest) ← readExponent rest
    return (⟨sign, whole, fraction, exponent, false⟩, rest)

/-- Whether a literal at the front of the rest of a text is long. A whole literal is from nineteen
characters on. Any other has to be wider, and then the place of its first byte that is neither a
zero nor a point counts against its width, and the code of that byte for it; the difference is a
machine word, so that below zero it is large. -/
def isLong (length : Nat) (bytes : Bytes) (literal : Literal) : Bool :=
  if literal.isWhole then 19 ≤ literal.width
  else if literal.width < 20 then false
  else
    let digits := bytes.dropWhile fun b => b = 0x30 || b = 0x2e
    let count := literal.width - 1 + (digits.head?.getD 0).toNat
    let place := length - digits.length
    count < place || place + 19 ≤ count

def readNumber (dialect : Dialect) (bytes : Bytes) : Option (Literal × Bytes) :=
  let number :=
    match bytes with
    | 0x2d :: rest => readUnsigned true rest
    | _ => readUnsigned false bytes
  match dialect with
  | .plain => number
  | .indexed length =>
    number.map fun (literal, rest) => ({ literal with long := isLong length bytes literal }, rest)

def hexValue (b : UInt8) : Option Nat :=
  if 0x30 ≤ b ∧ b ≤ 0x39 then some (b.toNat - 0x30)
  else if 0x61 ≤ b ∧ b ≤ 0x66 then some (b.toNat - 0x57)
  else if 0x41 ≤ b ∧ b ≤ 0x46 then some (b.toNat - 0x37)
  else none

def hexUnit (a b c d : UInt8) : Option Nat := do
  return (((← hexValue a) * 16 + (← hexValue b)) * 16 + (← hexValue c)) * 16 + (← hexValue d)

def simpleEscape (b : UInt8) : Option UInt8 :=
  if b = 0x22 ∨ b = 0x5c ∨ b = 0x2f then some b
  else if b = 0x62 then some 0x08
  else if b = 0x66 then some 0x0c
  else if b = 0x6e then some 0x0a
  else if b = 0x72 then some 0x0d
  else if b = 0x74 then some 0x09
  else none

/-- One element of a string literal: a byte, or a UTF-16 unit written as an escape. -/
inductive Piece
  | byte (b : UInt8)
  | unit (u : Nat)
  deriving DecidableEq, Repr

/-- Rest of a string literal after its opening quote: its pieces and what follows the closing
quote. -/
def readPieces : Bytes → Option (List Piece × Bytes)
  | [] => none
  | 0x22 :: rest => some ([], rest)
  | 0x5c :: 0x75 :: a :: b :: c :: d :: rest =>
    match hexUnit a b c d with
    | none => none
    | some unit => (readPieces rest).map fun (pieces, rest) => (.unit unit :: pieces, rest)
  | 0x5c :: b :: rest =>
    match simpleEscape b with
    | none => none
    | some byte => (readPieces rest).map fun (pieces, rest) => (.byte byte :: pieces, rest)
  | b :: rest =>
    if b < 0x20 ∨ b = 0x5c then none
    else (readPieces rest).map fun (pieces, rest) => (.byte b :: pieces, rest)

def isLeading (unit : Nat) : Bool := 0xd800 ≤ unit && unit < 0xdc00
def isTrailing (unit : Nat) : Bool := 0xdc00 ≤ unit && unit < 0xe000

/-- What a unit denotes by itself. -/
def aloneBytes (dialect : Dialect) (unit : Nat) : Option Bytes :=
  if isTrailing unit || (isLeading unit && dialect = .plain) then none
  else some (String.utf8EncodeChar (Char.ofNat (if isLeading unit then 0 else unit)))

/-- What a leading surrogate denotes together with the unit right behind it. Units past the
trailing surrogates spill into the bits of the leading one. -/
def pairBytes (dialect : Dialect) (high low : Nat) : Option Bytes :=
  if low < 0xdc00 || (0xe000 ≤ low && dialect = .plain) then none
  else
    some (String.utf8EncodeChar
      (Char.ofNat (0x10000 + ((high - 0xd800) <<< 10 ||| (low - 0xdc00)))))

/-- UTF-8 bytes of the pieces. -/
def denoted (dialect : Dialect) : List Piece → Option Bytes
  | [] => some []
  | .byte b :: pieces => (denoted dialect pieces).map (b :: ·)
  | .unit high :: .unit low :: pieces =>
    if isLeading high then do
      return (← pairBytes dialect high low) ++ (← denoted dialect pieces)
    else do return (← aloneBytes dialect high) ++ (← denoted dialect (.unit low :: pieces))
  | .unit unit :: pieces => do
    return (← aloneBytes dialect unit) ++ (← denoted dialect pieces)

def readText (dialect : Dialect) (bytes : Bytes) : Option (Option String × Bytes) :=
  (readPieces bytes).map fun (pieces, rest) => ((denoted dialect pieces).bind Bytes.toText?, rest)

def isStructural (b : UInt8) : Bool :=
  b = 0x5b || b = 0x5d || b = 0x7b || b = 0x7d || b = 0x3a || b = 0x2c

/-- The rest of a text from its next structural character, blank or quote on; a backslash takes
the meaning from a quote behind it. -/
def skipWord : Bytes → Bytes
  | [] => []
  | 0x5c :: 0x22 :: rest => skipWord rest
  | 0x5c :: 0x5c :: rest => skipWord rest
  | b :: rest => if isStructural b || isBlank b || b = 0x22 then b :: rest else skipWord rest

/-- What is left behind a number or a literal word. In the indexed dialect a null byte ends a
word, and so does the last digit of a long number; what follows in the same place is not looked
at. -/
def afterWord (dialect : Dialect) (long : Bool) (bytes : Bytes) : Bytes :=
  match dialect with
  | .plain => bytes
  | .indexed _ => if long || bytes.head? = some 0 then skipWord bytes else bytes

def behind (word : String) (bytes : Bytes) : Option Bytes :=
  let expected := Bytes.ofText word
  if bytes.take expected.length = expected then some (bytes.drop expected.length) else none

mutual
/-- One value and what follows it; nothing follows a fault. -/
def readValue (dialect : Dialect) : Nat → Bytes → Document × Option Bytes
  | 0, _ => (broken, none)
  | fuel + 1, bytes =>
    match skipBlanks bytes with
    | 0x22 :: rest =>
      match readText dialect rest with
      | some (content, rest) => (text content, some rest)
      | none => (broken, none)
    | 0x5b :: rest =>
      match skipBlanks rest with
      | 0x5d :: rest => (array [] true, some rest)
      | _ =>
        let (items, rest) := readItems dialect fuel rest
        (array items rest.isSome, rest)
    | 0x7b :: rest =>
      match skipBlanks rest with
      | 0x7d :: rest => (object [] true, some rest)
      | rest =>
        let (fields, rest) := readFields dialect fuel rest
        (object fields rest.isSome, rest)
    | word =>
      match behind "null" word, behind "true" word, behind "false" word with
      | some rest, _, _ => (null, some (afterWord dialect false rest))
      | _, some rest, _ => (bool true, some (afterWord dialect false rest))
      | _, _, some rest => (bool false, some (afterWord dialect false rest))
      | _, _, _ =>
        match readNumber dialect word with
        | some (literal, rest) => (number literal, some (afterWord dialect literal.long rest))
        | none => (broken, none)

def readItems (dialect : Dialect) : Nat → Bytes → List Document × Option Bytes
  | 0, _ => ([], none)
  | fuel + 1, bytes =>
    match readValue dialect fuel bytes with
    | (item, none) => ([item], none)
    | (item, some rest) =>
      match skipBlanks rest with
      | 0x5d :: rest => ([item], some rest)
      | 0x2c :: rest =>
        let (items, rest) := readItems dialect fuel rest
        (item :: items, rest)
      | _ => ([item], none)

def readFields (dialect : Dialect) : Nat → Bytes → List (Option String × Document) × Option Bytes
  | 0, _ => ([], none)
  | fuel + 1, bytes =>
    match skipBlanks bytes with
    | 0x22 :: rest =>
      match readText dialect rest with
      | none => ([], none)
      | some (name, rest) =>
        match skipBlanks rest with
        | 0x3a :: rest =>
          match readValue dialect fuel rest with
          | (value, none) => ([(name, value)], none)
          | (value, some rest) =>
            match skipBlanks rest with
            | 0x7d :: rest => ([(name, value)], some rest)
            | 0x2c :: rest =>
              let (fields, rest) := readFields dialect fuel rest
              ((name, value) :: fields, rest)
            | _ => ([(name, value)], none)
        | _ => ([(name, broken)], none)
    | _ => ([], none)
end

/-- The document a text holds, and whether nothing but blanks follows it. -/
def read (dialect : Dialect) (bytes : Bytes) : Document × Bool :=
  let (document, rest) := readValue dialect (2 * bytes.length + 2) bytes
  (document, rest.any fun rest => (skipBlanks rest).isEmpty)

mutual
/-- No fault lies anywhere in the tree. -/
def intact : Document → Bool
  | array items closed => closed && intactItems items
  | object fields closed => closed && intactFields fields
  | broken => false
  | _ => true

def intactItems : List Document → Bool
  | [] => true
  | item :: items => item.intact && intactItems items

def intactFields : List (Option String × Document) → Bool
  | [] => true
  | (_, value) :: fields => value.intact && intactFields fields
end

end Document
end Telemetry.Json
