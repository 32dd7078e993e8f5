import Telemetry.Fault
import Telemetry.Json.Document

/-! Typed reading of JSON documents. A decoder walks the document in the order of the text and
answers the first thing that does not fit. -/
namespace Telemetry.Json.Schema

abbrev Decoder (α : Type) := Document → Except SchemaFault α

def text : Decoder String
  | .text (some s) => .ok s
  | _ => .error .malformed

def number : Decoder Number
  | .number literal =>
    match literal.accumulated with
    | some n => .ok n
    | none => .error .malformed
  | _ => .error .malformed

/-- A non-negative whole number below a limit, written without point and exponent. -/
def natural (limit : Nat) : Decoder Nat := fun document => do
  match ← number document with
  | .integer n => if 0 ≤ n ∧ n < limit then return n.toNat else throw .malformed
  | .real _ => throw .malformed

def word : Decoder Nat := natural UInt64.size

def real : Decoder Binary64 := fun document => do
  match ← number document with
  | .integer n => return .ofInt n
  | .real x => return x

def optional {α : Type} (decode : Decoder α) : Decoder (Option α)
  | .null => .ok none
  | document => (decode document).map some

def list {α : Type} (decode : Decoder α) : Decoder (List α)
  | .array items closed => do
    let values ← items.mapM decode
    if closed then return values else throw .malformed
  | _ => .error .malformed

def pair {α β : Type} (first : Decoder α) (second : Decoder β) : Decoder (α × β)
  | .array [a, b] true => do return (← first a, ← second b)
  | _ => .error .malformed

def table {α : Type} (decode : Decoder α) : Decoder (Table String α)
  | .object fields closed => do
    let entries ← fields.mapM fun (name, value) => do
      match name with
      | some name => return (name, ← decode value)
      | none => throw .malformed
    if closed then return .ofList entries else throw .malformed
  | _ => .error .malformed

def depthLimit : Nat := 127

mutual
def value : Nat → Decoder Value
  | _, .null => .ok .null
  | _, .bool b => .ok (.bool b)
  | _, .number literal =>
    match literal.accumulated with
    | some n => .ok (.number n)
    | none => .error .malformed
  | _, .text (some s) => .ok (.text s)
  | depth + 1, .array items true => do return .array (← values depth items)
  | depth + 1, .object fields true => do
    return .object (Table.ofList (← valueFields depth fields)).entries
  | _, _ => .error .malformed

def values (depth : Nat) : List Document → Except SchemaFault (List Value)
  | [] => .ok []
  | item :: items => do return (← value depth item) :: (← values depth items)

def valueFields (depth : Nat) :
    List (Option String × Document) → Except SchemaFault (List (String × Value))
  | [] => .ok []
  | (some name, item) :: fields => do
    return (name, ← value depth item) :: (← valueFields depth fields)
  | (none, _) :: _ => .error .malformed
end

/-- An object of free values inside `enclosing` containers. -/
def freeTable (enclosing : Nat) : Decoder (Table String Value)
  | .object fields true => do return .ofList (← valueFields (depthLimit - enclosing - 1) fields)
  | _ => .error .malformed

structure Field where
  name : String
  required : Bool := false

/-- Reads the fields of an object into a record; answers the names that were set. Unknown fields
are passed over. -/
def fieldsOf {σ : Type} (fields : List Field) (set : String → Document → σ → Except SchemaFault σ) :
    List String → σ → List (Option String × Document) → Except SchemaFault (List String × σ)
  | seen, record, [] => .ok (seen, record)
  | _, _, (none, _) :: _ => .error .malformed
  | seen, record, (some name, value) :: rest =>
    if fields.any (·.name = name) then
      if seen.contains name then .error (.duplicateField name)
      else do fieldsOf fields set (name :: seen) (← set name value record) rest
    else if value.intact then fieldsOf fields set seen record rest
    else .error .malformed

/-- Reads the items of an array into a record, in the order of the fields. -/
def itemsOf {σ : Type} (set : String → Document → σ → Except SchemaFault σ) :
    List Field → σ → List Document → Except SchemaFault σ
  | [], record, [] => .ok record
  | [], _, _ :: _ => .error .malformed
  | fields, record, [] => if fields.any (·.required) then .error .malformed else .ok record
  | field :: fields, record, item :: items => do
    itemsOf set fields (← set field.name item record) items

/-- A record, written as an object or as an array of its fields. Fields that are left out keep
their starting value unless they are required. -/
def record {σ : Type} (fields : List Field) (start : σ)
    (set : String → Document → σ → Except SchemaFault σ) : Decoder σ
  | .object entries closed => do
    let (seen, result) ← fieldsOf fields set [] start entries
    if !closed then throw .malformed
    match fields.find? fun field => field.required && !seen.contains field.name with
    | some field => throw (.missingField field.name)
    | none => return result
  | .array items closed => do
    let result ← itemsOf set fields start items
    if closed then return result else throw .malformed
  | _ => .error .malformed

/-- One of several variants: a name alone, or an object with the name and a payload. -/
def variant {α : Type} (known : List String)
    (decode : String → Option Document → Except SchemaFault α) : Decoder α
  | .text (some name) =>
    if known.contains name then decode name none else .error (.unknownVariant name known)
  | .object ((some name, payload) :: rest) closed =>
    if known.contains name then do
      let result ← decode name (some payload)
      if rest.isEmpty && closed then return result else throw .malformed
    else .error (.unknownVariant name known)
  | _ => .error .malformed

def plain {α : Type} (a : α) : Option Document → Except SchemaFault α
  | none => .ok a
  | some .null => .ok a
  | _ => .error .malformed

def carrying {α : Type} (decode : Decoder α) : Option Document → Except SchemaFault α
  | none => .error .malformed
  | some payload => decode payload

/-- A whole text, with nothing but blanks after the document. -/
def decode {α : Type} (decoder : Decoder α) (text : Bytes) : Except SchemaFault α := do
  let (document, ended) := Document.read .plain text
  let a ← decoder document
  if ended then return a else throw .malformed

end Telemetry.Json.Schema
