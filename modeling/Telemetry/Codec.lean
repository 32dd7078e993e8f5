import Telemetry.Action
import Telemetry.Wire.JsonText
import Telemetry.Wire.Msgpack

/-! Wire codecs of deltas, chosen by name. A payload that arrives and cannot be decoded leaves an error
record. -/
namespace Telemetry

inductive Codec
  | json
  | indexedJson
  | msgpack
  deriving DecidableEq, Repr, Inhabited

namespace Codec

def all : List Codec := [.json, .indexedJson, .msgpack]

/-- The codec of a configuration that names none. -/
def standard : Codec := .json

def name : Codec → String
  | .json => "json"
  | .indexedJson => "simd-json"
  | .msgpack => "msgpack"

def names : List String := all.map name

def ofName? (name : String) : Option Codec := all.find? (·.name = name)

instance : ToString Codec := ⟨name⟩

def isBinary : Codec → Bool
  | .msgpack => true
  | _ => false

def encode : Codec → Delta → Bytes
  | .json, delta => Wire.JsonText.encode .json delta
  | .indexedJson, delta => Wire.JsonText.encode .bareJson delta
  | .msgpack, delta => Wire.Msgpack.encode delta

def decode : Codec → Bytes → Except Wire.DecodeFault Delta
  | .json, payload => Wire.JsonText.decodeIncremental payload
  | .indexedJson, payload => Wire.JsonText.decodeIndexed payload
  | .msgpack, payload => Wire.Msgpack.decode payload

def previewLength : Nat := 256

/-- Beginning of a payload for error logs: hexadecimal digits for a binary codec, text for the
others. -/
def preview (codec : Codec) (payload : Bytes) : String :=
  let head := payload.take previewLength
  (if codec.isBinary then Bytes.hex head else Bytes.preview head) ++
    if previewLength < payload.length then "..." else ""

/-- A payload that arrived, as a delta. -/
def accept {σ : Type} (codec : Codec) (payload : Bytes) : Action σ Delta := do
  match codec.decode payload with
  | .ok delta => return delta
  | .error cause =>
    Action.log .error
      (s!"{codec} deserializer failed ({payload.length} bytes): {cause.message}; payload: " ++
        codec.preview payload)
    Action.fail (.deserialization codec.name cause)

end Codec
end Telemetry
