/-! What can be wrong with a JSON text, and the wording of it. -/
namespace Telemetry.Json

inductive Defect
  | endInValue
  | endInArray
  | endInObject
  | endInText
  | noValue
  | noWord
  | noName
  | noColon
  | noCommaInArray
  | noCommaInObject
  | commaAtEnd
  | surplus
  | number
  | numberRange
  | escape
  | halfPair
  | loneSurrogate
  | codePoint
  | control
  deriving DecidableEq, Repr

def Defect.message : Defect → String
  | endInValue => "EOF while parsing a value"
  | endInArray => "EOF while parsing a list"
  | endInObject => "EOF while parsing an object"
  | endInText => "EOF while parsing a string"
  | noValue => "expected value"
  | noWord => "expected ident"
  | noName => "key must be a string"
  | noColon => "expected `:`"
  | noCommaInArray => "expected `,` or `]`"
  | noCommaInObject => "expected `,` or `\x7d`"
  | commaAtEnd => "trailing comma"
  | surplus => "trailing characters"
  | number => "invalid number"
  | numberRange => "number out of range"
  | escape => "invalid escape"
  | halfPair => "unexpected end of hex escape"
  | loneSurrogate => "lone leading surrogate in hex escape"
  | codePoint => "invalid unicode code point"
  | control => "control character (\\u0000-\\u001F) found while parsing a string"

end Telemetry.Json
