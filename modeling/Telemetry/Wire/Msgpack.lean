import Telemetry.Wire.Node

/-! MessagePack as nodes. Integers, strings and arrays are written in their shortest form and
numbers always as 64-bit floats; every form is read. -/
namespace Telemetry.Wire.Msgpack

def bigEndian : Nat → Nat → Bytes
  | 0, _ => []
  | count + 1, n => UInt8.ofNat (n >>> (8 * count)) :: bigEndian count n

def integer (n : Int) : Bytes :=
  if 0 ≤ n then
    let n := n.toNat
    if n < 128 then [UInt8.ofNat n]
    else if n < UInt8.size then 0xcc :: bigEndian 1 n
    else if n < UInt16.size then 0xcd :: bigEndian 2 n
    else if n < UInt32.size then 0xce :: bigEndian 4 n
    else 0xcf :: bigEndian 8 n
  else
    if -32 ≤ n then bigEndian 1 (256 + n).toNat
    else if -128 ≤ n then 0xd0 :: bigEndian 1 (UInt8.size + n).toNat
    else if -32768 ≤ n then 0xd1 :: bigEndian 2 (UInt16.size + n).toNat
    else if -2147483648 ≤ n then 0xd2 :: bigEndian 4 (UInt32.size + n).toNat
    else 0xd3 :: bigEndian 8 (UInt64.size + n).toNat

def textHeader (length : Nat) : Bytes :=
  if length < 32 then [UInt8.ofNat (0xa0 + length)]
  else if length < UInt8.size then 0xd9 :: bigEndian 1 length
  else if length < UInt16.size then 0xda :: bigEndian 2 length
  else 0xdb :: bigEndian 4 length

def bytesHeader (length : Nat) : Bytes :=
  if length < UInt8.size then 0xc4 :: bigEndian 1 length
  else if length < UInt16.size then 0xc5 :: bigEndian 2 length
  else 0xc6 :: bigEndian 4 length

def arrayHeader (length : Nat) : Bytes :=
  if length < 16 then [UInt8.ofNat (0x90 + length)]
  else if length < UInt16.size then 0xdc :: bigEndian 2 length
  else 0xdd :: bigEndian 4 length

def objectHeader (length : Nat) : Bytes :=
  if length < 16 then [UInt8.ofNat (0x80 + length)]
  else if length < UInt16.size then 0xde :: bigEndian 2 length
  else 0xdf :: bigEndian 4 length

def write : Node → Bytes
  | .null => [0xc0]
  | .bool b => [if b then 0xc3 else 0xc2]
  | .integer n => integer n
  | .real x => 0xcb :: bigEndian 8 x.bits.toNat
  | .text s =>
    let content := Bytes.ofText s
    textHeader content.length ++ content
  | .bytes b => bytesHeader b.length ++ b
  | .array n => arrayHeader n
  | .object n => objectHeader n
  | .extension => [0xd4, 0, 0]
  | .other _ => []
  | .broken _ => []

inductive Defect
  | noMarker
  | noNumber
  | noContent
  | reservedMarker
  | illFormed (index : Nat) (length : Option Nat)
  deriving DecidableEq, Repr

def Defect.message : Defect → String
  | noMarker => "IO error while reading marker: failed to fill whole buffer"
  | noNumber => "IO error while reading data: failed to fill whole buffer"
  | noContent => "IO error while reading data: unexpected end of file"
  | reservedMarker => "wrong msgpack marker Reserved"
  | illFormed index length =>
    "string found to be invalid utf8: " ++
      match length with
      | some n => s!"invalid utf-8 sequence of {n} bytes from index {index}"
      | none => s!"incomplete utf-8 byte sequence from index {index}"

/-- Something and what follows it. -/
abbrev Part (α : Type) := Bytes → Except Defect (α × Bytes)

def ofBigEndian (bytes : Bytes) : Nat := bytes.foldl (fun n b => 256 * n + b.toNat) 0

def unsigned (count : Nat) : Part Nat := fun bytes =>
  if bytes.length < count then .error .noNumber
  else .ok (ofBigEndian (bytes.take count), bytes.drop count)

/-- A number of `count` bytes in two's complement. -/
def signed (count : Nat) : Part Int := fun bytes => do
  let (n, rest) ← unsigned count bytes
  return (if 2 * n < 1 <<< (8 * count) then (n : Int) else n - (1 <<< (8 * count) : Nat), rest)

def content (count : Nat) : Part Bytes := fun bytes =>
  if bytes.length < count then .error .noContent else .ok (bytes.take count, bytes.drop count)

/-- A text, or a value of no other use when its bytes are not UTF-8. -/
def textOf (count : Nat) : Part Node := fun bytes => do
  let (b, rest) ← content count bytes
  match b.toText? with
  | some s => return (.text s, rest)
  | none =>
    let (index, length) := b.flaw
    return (.other (Defect.illFormed index length).message, rest)

def bytesOf (count : Nat) : Part Node := fun bytes => do
  let (b, rest) ← content count bytes
  return (.bytes b, rest)

def extensionOf (count : Nat) : Part Node := fun bytes => do
  let (_, rest) ← content (count + 1) bytes
  return (.extension, rest)

/-- A binary32 number as the binary64 number of the same value. -/
def ofBinary32 (bits : Nat) : Binary64 :=
  let sign := bits >>> 31 == 1
  let field := (bits >>> 23) % UInt8.size
  let fraction := bits % (1 <<< 23)
  if field = 255 then
    let x := Binary64.ofMagnitude sign (Binary64.infinityMagnitude + fraction <<< 29)
    if fraction = 0 then x else x.quiet
  else if field = 0 then Binary64.ofUnits sign (fraction <<< (1074 - 149)) 1
  else Binary64.ofUnits sign ((1 <<< 23 + fraction) <<< (field + 1074 - 150)) 1

def counted (count : Nat) (node : Nat → Node) : Part Node := fun bytes => do
  let (n, rest) ← unsigned count bytes
  return (node n, rest)

def sized (count : Nat) (next : Nat → Part Node) : Part Node := fun bytes => do
  let (n, rest) ← unsigned count bytes
  next n rest

def signedInteger (count : Nat) : Part Node := fun bytes => do
  let (n, rest) ← signed count bytes
  return (.integer n, rest)

def readNode : Part Node
  | [] => .error .noMarker
  | marker :: rest =>
    let m := marker.toNat
    if m < 0x80 then .ok (.integer m, rest)
    else if m < 0x90 then .ok (.object (m - 0x80), rest)
    else if m < 0xa0 then .ok (.array (m - 0x90), rest)
    else if m < 0xc0 then textOf (m - 0xa0) rest
    else if 0xe0 ≤ m then .ok (.integer (m - 256), rest)
    else match m with
    | 0xc0 => .ok (.null, rest)
    | 0xc2 => .ok (.bool false, rest)
    | 0xc3 => .ok (.bool true, rest)
    | 0xc4 => sized 1 bytesOf rest
    | 0xc5 => sized 2 bytesOf rest
    | 0xc6 => sized 4 bytesOf rest
    | 0xc7 => sized 1 extensionOf rest
    | 0xc8 => sized 2 extensionOf rest
    | 0xc9 => sized 4 extensionOf rest
    | 0xca => counted 4 (fun n => .real (ofBinary32 n)) rest
    | 0xcb => counted 8 (fun n => .real ⟨UInt64.ofNat n⟩) rest
    | 0xcc => counted 1 (fun n => .integer n) rest
    | 0xcd => counted 2 (fun n => .integer n) rest
    | 0xce => counted 4 (fun n => .integer n) rest
    | 0xcf => counted 8 (fun n => .integer n) rest
    | 0xd0 => signedInteger 1 rest
    | 0xd1 => signedInteger 2 rest
    | 0xd2 => signedInteger 4 rest
    | 0xd3 => signedInteger 8 rest
    | 0xd4 => extensionOf 1 rest
    | 0xd5 => extensionOf 2 rest
    | 0xd6 => extensionOf 4 rest
    | 0xd7 => extensionOf 8 rest
    | 0xd8 => extensionOf 16 rest
    | 0xd9 => sized 1 textOf rest
    | 0xda => sized 2 textOf rest
    | 0xdb => sized 4 textOf rest
    | 0xdc => counted 2 .array rest
    | 0xdd => counted 4 .array rest
    | 0xde => counted 2 .object rest
    | 0xdf => counted 4 .object rest
    | _ => .error .reservedMarker

/-- All nodes of a payload, and a broken one where no further node can be read. -/
def readNodes : Nat → Bytes → List Node
  | 0, _ => []
  | fuel + 1, bytes =>
    match readNode bytes with
    | .ok (node, rest) => node :: readNodes fuel rest
    | .error defect => [.broken defect.message]

def encode (delta : Delta) : Bytes := (Node.ofDelta delta).flatMap write

/-- The first depth of containers that is refused. -/
def depthLimit : Nat := 1024

def decode (payload : Bytes) : Except DecodeFault Delta :=
  readDelta { depth := some depthLimit } (readNodes (payload.length + 1) payload)

end Telemetry.Wire.Msgpack
