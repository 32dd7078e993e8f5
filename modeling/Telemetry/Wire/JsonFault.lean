import Telemetry.Json.Defect
import Telemetry.Json.Document
import Telemetry.Wire.Node

/-! Why a JSON text holds no delta. The text is walked along the shape of a delta up to the first
thing that does not fit, and the place of that thing is told. Whether a text holds a delta is
not decided here. -/
namespace Telemetry.Wire.JsonFault
open Json Json.Document

/-- A fault, and the rest of the text behind what was read when it showed. -/
structure Snag where
  fault : DecodeFault
  rest : Bytes
  deriving Repr

/-- What follows something that fits. -/
abbrev Walk := Bytes → Except Snag Bytes

def defect {α : Type} (cause : Defect) (rest : Bytes) : Except Snag α :=
  .error ⟨.malformed cause.message, rest⟩

def letters : Bytes → Walk
  | [], rest => .ok rest
  | _ :: _, [] => defect .endInValue []
  | b :: expected, c :: rest => if b = c then letters expected rest else defect .noWord rest

def word (word : String) : Walk := letters (Bytes.ofText word)

def missingExponent {α : Type} : Bytes → Except Snag α
  | [] => defect .endInValue []
  | _ :: rest => defect .number rest

def unreadableExponent {α : Type} : Bytes → Except Snag α
  | 0x2b :: rest => missingExponent rest
  | 0x2d :: rest => missingExponent rest
  | rest => missingExponent rest

def unreadableNumber {α : Type} (bytes : Bytes) : Except Snag α :=
  match bytes.takeWhile isDigit, bytes.dropWhile isDigit with
  | [], [] => defect .endInValue []
  | [], _ :: rest => defect .number rest
  | 0x30 :: _ :: rest, last => defect .number (rest ++ last)
  | _, 0x2e :: rest =>
    match rest with
    | [] => defect .endInValue []
    | b :: behind =>
      if isDigit b then unreadableExponent ((behind.dropWhile isDigit).drop 1)
      else defect .number behind
  | _, rest => unreadableExponent (rest.drop 1)

/-- Digits of an exponent part behind the one with which it leaves 31 bits. -/
def unreadDigits (value : Nat) : List Nat → Nat
  | [] => 0
  | d :: digits =>
    if UInt32.size ≤ 2 * (10 * value + d) then digits.length
    else unreadDigits (10 * value + d) digits

def number (bytes : Bytes) : Except Snag (Number × Bytes) :=
  match readNumber .plain bytes with
  | none => unreadableNumber (if bytes.head? = some 0x2d then bytes.drop 1 else bytes)
  | some (literal, rest) =>
    match literal.accumulated with
    | some n => .ok (n, rest)
    | none =>
      let unread := (literal.exponent.map fun part => unreadDigits 0 part.2).getD 0
      defect .numberRange (bytes.drop (bytes.length - rest.length - unread))

def unit : Bytes → Except Snag (Nat × Bytes)
  | a :: b :: c :: d :: rest =>
    match hexUnit a b c d with
    | some unit => .ok (unit, rest)
    | none => defect .escape rest
  | _ => defect .endInText []

/-- What follows the escape of a unit, which has to be half of a pair or whole by itself. -/
def wholeUnit (bytes : Bytes) : Except Snag Bytes := do
  let (high, rest) ← unit bytes
  if isTrailing high then defect .loneSurrogate rest
  else if isLeading high then
    match rest with
    | 0x5c :: 0x75 :: rest =>
      let (low, rest) ← unit rest
      if isTrailing low then return rest else defect .loneSurrogate rest
    | 0x5c :: _ :: rest => defect .halfPair rest
    | 0x5c :: [] => defect .endInText []
    | _ :: rest => defect .halfPair rest
    | [] => defect .endInText []
  else return rest

def closing (checked : Bool) : Nat → Walk
  | _, [] => defect .endInText []
  | 0, rest => .ok rest
  | _, 0x22 :: rest => .ok rest
  | fuel + 1, 0x5c :: 0x75 :: rest => do
    if checked then closing checked fuel (← wholeUnit rest)
    else closing checked fuel (← unit rest).2
  | _, 0x5c :: [] => defect .endInText []
  | fuel + 1, 0x5c :: b :: rest =>
    if (simpleEscape b).isSome then closing checked fuel rest else defect .escape rest
  | fuel + 1, b :: rest =>
    if 0x20 ≤ b then closing checked fuel rest
    else defect .control (if checked then rest else b :: rest)

def text (bytes : Bytes) : Except Snag (String × Bytes) :=
  match readText .plain bytes with
  | some (some s, rest) => .ok (s, rest)
  | _ => do defect .codePoint (← closing true bytes.length bytes)

def described : Number → String
  | .integer n => s!"integer `{n}`"
  | .real x => "floating point `" ++ NumberStyle.json.text x ++ "`"

/-- The fault of a value that is not what is expected. Its words and texts are read to the end,
and its containers are not. -/
def unlike {α : Type} (expected : Expectation) (bytes : Bytes) : Except Snag α := do
  let kind (found : String) (rest : Bytes) : Except Snag α := .error ⟨.kind found expected, rest⟩
  match bytes with
  | [] => defect .endInValue []
  | 0x6e :: rest => kind "null" (← word "ull" rest)
  | 0x74 :: rest => kind "boolean `true`" (← word "rue" rest)
  | 0x66 :: rest => kind "boolean `false`" (← word "alse" rest)
  | 0x22 :: rest =>
    let (s, rest) ← text rest
    kind ("string " ++ Text.quoted s) rest
  | 0x5b :: _ => kind "sequence" bytes
  | 0x7b :: _ => kind "map" bytes
  | b :: rest =>
    if isDigit b || b = 0x2d then
      let (n, rest) ← number bytes
      kind (described n) rest
    else defect .noValue rest

def anyNumber (bytes : Bytes) : Except Snag Bytes :=
  match readNumber .plain bytes with
  | some (_, rest) => .ok rest
  | none =>
    match number bytes with
    | .ok (_, rest) => .ok rest
    | .error snag => defect .number snag.rest

mutual
def anyValue : Nat → Walk
  | 0, rest => .ok rest
  | fuel + 1, bytes =>
    match skipBlanks bytes with
    | [] => defect .endInValue []
    | 0x6e :: rest => word "ull" rest
    | 0x74 :: rest => word "rue" rest
    | 0x66 :: rest => word "alse" rest
    | 0x22 :: rest => closing false rest.length rest
    | 0x5b :: rest =>
      match skipBlanks rest with
      | [] => defect .endInArray []
      | 0x5d :: rest => .ok rest
      | rest => anyItems fuel rest
    | 0x7b :: rest =>
      match skipBlanks rest with
      | [] => defect .endInObject []
      | 0x7d :: rest => .ok rest
      | rest => anyFields fuel rest
    | b :: rest =>
      if isDigit b || b = 0x2d then anyNumber (b :: rest) else defect .noValue rest

def anyItems : Nat → Walk
  | 0, rest => .ok rest
  | fuel + 1, bytes => do
    match skipBlanks (← anyValue fuel bytes) with
    | [] => defect .endInArray []
    | 0x5d :: rest => return rest
    | 0x2c :: rest => anyItems fuel rest
    | _ :: rest => defect .noCommaInArray rest

def anyFields : Nat → Walk
  | 0, rest => .ok rest
  | fuel + 1, bytes => do
    match skipBlanks bytes with
    | [] => defect .endInObject []
    | 0x22 :: rest =>
      match skipBlanks (← closing false rest.length rest) with
      | [] => defect .endInObject []
      | 0x3a :: rest =>
        match skipBlanks (← anyValue fuel rest) with
        | [] => defect .endInObject []
        | 0x7d :: rest => return rest
        | 0x2c :: rest => anyFields fuel rest
        | _ :: rest => defect .noCommaInObject rest
      | _ :: rest => defect .noColon rest
    | _ :: rest => defect .noName rest
end

/-- The next element of an array, or nothing at its bracket. -/
def next (first : Bool) (bytes : Bytes) : Except Snag (Option Bytes) :=
  match first, skipBlanks bytes with
  | _, [] => defect .endInArray []
  | _, 0x5d :: _ => .ok none
  | true, rest => .ok (some rest)
  | false, 0x2c :: rest =>
    match skipBlanks rest with
    | [] => defect .endInValue []
    | 0x5d :: rest => defect .commaAtEnd rest
    | rest => .ok (some rest)
  | false, _ :: rest => defect .noCommaInArray rest

/-- The bracket of an array of which no further element is wanted. -/
def close : Walk := fun bytes =>
  match skipBlanks bytes with
  | [] => defect .endInArray []
  | 0x5d :: rest => .ok rest
  | 0x2c :: rest =>
    match skipBlanks rest with
    | 0x5d :: rest => defect .commaAtEnd rest
    | rest => defect .surplus (rest.drop 1)
  | _ :: rest => defect .surplus rest

def closed (bytes : Bytes) : Bytes :=
  match skipBlanks bytes with
  | 0x5d :: rest => rest
  | 0x2c :: rest => skipBlanks rest
  | rest => rest

/-- An array with its content behind the bracket. -/
def array (expected : Expectation) (content : Walk) : Walk := fun bytes =>
  match skipBlanks bytes with
  | 0x5b :: rest => content rest
  | rest => unlike expected rest

def items (element : Walk) : Nat → Bool → Walk
  | 0, _, rest => .ok rest
  | fuel + 1, first, bytes => do
    match ← next first bytes with
    | some bytes => items element fuel false (← element bytes)
    | none => close bytes

def list (element : Walk) : Walk :=
  array .list fun bytes => items element (bytes.length + 1) true bytes

/-- Elements of different kinds, the first `least` of which must be there. -/
def row (expected : Expectation) (least : Nat) : Nat → List Walk → Walk
  | _, [], bytes => close bytes
  | found, element :: elements, bytes => do
    match ← next (found = 0) bytes with
    | some bytes => row expected least (found + 1) elements (← element bytes)
    | none =>
      if found < least then .error ⟨.length found expected, closed bytes⟩ else close bytes

def pair (first second : Walk) : Walk :=
  array .pair (row .pair 2 0 [first, second])

def anyReal : Walk := fun bytes =>
  match skipBlanks bytes with
  | [] => defect .endInValue []
  | b :: rest =>
    if isDigit b || b = 0x2d then (number (b :: rest)).map (·.2) else unlike .real (b :: rest)

def anyIndex : Walk := fun bytes =>
  match skipBlanks bytes with
  | [] => defect .endInValue []
  | b :: rest =>
    if isDigit b || b = 0x2d then do
      let (n, rest) ← number (b :: rest)
      match n with
      | .integer (.ofNat _) => return rest
      | .integer _ => .error ⟨.range (described n) .index, rest⟩
      | .real _ => .error ⟨.kind (described n) .index, rest⟩
    else unlike .index (b :: rest)

def anyText : Walk := fun bytes =>
  match skipBlanks bytes with
  | 0x22 :: rest => (text rest).map (·.2)
  | rest => unlike .text rest

/-- A fourth element is read to its end and then too many. -/
def fourth : Walk := fun bytes => do
  let rest ← anyValue (2 * bytes.length + 2) bytes
  .error ⟨.length 4 .delta, closed rest⟩

def delta : Walk :=
  let continuous := list (pair anyText (list (pair anyReal anyReal)))
  let events := list (pair anyText (list (pair anyIndex (list anyReal))))
  array .delta (row .delta 2 0 [anyReal, continuous, events, fourth])

/-- Line and column of the last byte in front of the rest of a text. -/
def place (text rest : Bytes) : Nat × Nat :=
  let before := text.take (text.length - rest.length)
  (before.count 0x0a + 1, (before.reverse.takeWhile (· ≠ 0x0a)).length)

/-- A delta with nothing but blanks behind it. -/
def whole (text : Bytes) : Except Snag Unit := do
  match skipBlanks (← delta text) with
  | [] => return ()
  | _ :: rest => defect .surplus rest

def fault? (text : Bytes) : Option DecodeFault :=
  match whole text with
  | .ok () => none
  | .error snag =>
    let (line, column) := place text snag.rest
    some (.located snag.fault line column)

end Telemetry.Wire.JsonFault
