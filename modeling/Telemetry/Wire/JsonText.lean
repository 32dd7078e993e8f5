import Telemetry.Wire.JsonFault

/-! JSON as nodes. The incremental reader stops at the first fault it meets; the reader of the
indexed dialect wants a whole and well-formed text before it looks at the delta in it. -/
namespace Telemetry.Wire.JsonText
open Json

/-- Stands where a document is broken. -/
def unread : Node := .broken Defect.noValue.message

mutual
/-- Nodes of a document. A container that is never closed announces one more element than it
has, and that element is broken. -/
def nodes (number : Literal → Option Number) : Document → List Node
  | .null => [.null]
  | .bool b => [.bool b]
  | .number literal =>
    match number literal with
    | some (.integer n) => [.integer n]
    | some (.real x) => [.real x]
    | none => [.other Defect.numberRange.message]
  | .text (some s) => [.text s]
  | .text none => [.other Defect.codePoint.message]
  | .array items true => .array items.length :: itemNodes number items
  | .array items false => .array (items.length + 1) :: itemNodes number items ++ [unread]
  | .object fields true => .object fields.length :: fieldNodes number fields
  | .object fields false => .object (fields.length + 1) :: fieldNodes number fields ++ [unread]
  | .broken => [unread]

def itemNodes (number : Literal → Option Number) : List Document → List Node
  | [] => []
  | item :: items => nodes number item ++ itemNodes number items

def fieldNodes (number : Literal → Option Number) : List (Option String × Document) → List Node
  | [] => []
  | (name, value) :: fields =>
    (match name with
      | some s => [.text s]
      | none => [.other Defect.codePoint.message]) ++ nodes number value ++ fieldNodes number fields
end

def ofSample (sample : Sample) : Value := .array [.real sample.time, .real sample.value]

def ofContinuous : String × List Sample → Value
  | (key, samples) => .array [.text key, .array (samples.map ofSample)]

def ofTrain : Nat × List Binary64 → Value
  | (index, times) => .array [.natural index, .array (times.map .real)]

def ofEvents : String × List (Nat × List Binary64) → Value
  | (channel, trains) => .array [.text channel, .array (trains.map ofTrain)]

/-- A delta is an array of two or three elements. -/
def ofDelta (delta : Delta) : Value :=
  .array (.real delta.time :: .array (delta.continuous.map ofContinuous) ::
    match delta.events with
    | none => []
    | some events => [.array (events.map ofEvents)])

def encode (style : NumberStyle) (delta : Delta) : Bytes :=
  Bytes.ofText ((ofDelta delta).render style)

/-- Reads as far as the delta goes, then wants the end of the text. -/
def decodeIncremental (payload : Bytes) : Except DecodeFault Delta :=
  let (document, ended) := Document.read .plain payload
  match readDelta {} (nodes Literal.accumulated document) with
  | .ok delta =>
    if ended then .ok delta
    else .error ((JsonFault.fault? payload).getD (.malformed Defect.surplus.message))
  | .error fault => .error ((JsonFault.fault? payload).getD fault)

/-- Neither a fault nor a value without meaning. -/
def meaningful (nodes : List Node) : Bool :=
  nodes.all fun
    | .broken _ => false
    | .other _ => false
    | _ => true

def indexedDefect (payload : Bytes) : String :=
  if (Document.skipBlanks payload).isEmpty then "Eof"
  else if payload.toText?.isNone then "InvalidUtf8"
  else "Syntax"

def indexedFault : DecodeFault → DecodeFault
  | .kind _ .real => .malformed "ExpectedFloat"
  | .kind _ .index => .malformed "ExpectedUnsigned"
  | .range _ _ => .malformed "ExpectedUnsigned"
  | .kind _ .text => .malformed "ExpectedString"
  | .kind _ _ => .malformed "ExpectedArray"
  | fault => fault

/-- Wants the whole text to be in order, and then leaves surplus elements of pairs unread. -/
def decodeIndexed (payload : Bytes) : Except DecodeFault Delta :=
  let (document, ended) := Document.read (.indexed payload.length) payload
  let nodes := nodes Literal.word document
  if payload.toText?.isSome && ended && meaningful nodes then
    (readDelta { surplus := true } nodes).mapError fun fault => .pinned (indexedFault fault) 0
  else .error (.pinned (.malformed (indexedDefect payload)) 0)

end Telemetry.Wire.JsonText
