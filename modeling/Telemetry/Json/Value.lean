import Telemetry.Decimal.Text
import Telemetry.Table

/-! JSON values and their text. Objects are written in the order they are held. -/
namespace Telemetry.Json

inductive Number
  | integer (n : Int)
  | real (x : Binary64)
  deriving DecidableEq, Repr, Inhabited

inductive Value
  | null
  | bool (b : Bool)
  | number (n : Number)
  | text (s : String)
  | array (items : List Value)
  | object (fields : List (String × Value))
  deriving Repr, Inhabited

namespace Value

def natural (n : Nat) : Value := .number (.integer n)

def real (x : Binary64) : Value := .number (.real x)

def optional {α : Type} (write : α → Value) : Option α → Value
  | none => .null
  | some a => write a

end Value

/-- Characters of a string literal for one character: quotes, backslashes and control characters
are escaped, and all else stands for itself. -/
def escape (c : Char) : List Char :=
  if c = '"' then ['\\', '"']
  else if c = '\\' then ['\\', '\\']
  else if c = '\x08' then ['\\', 'b']
  else if c = '\x09' then ['\\', 't']
  else if c = '\x0a' then ['\\', 'n']
  else if c = '\x0c' then ['\\', 'f']
  else if c = '\x0d' then ['\\', 'r']
  else if c.toNat < 32 then
    let digit (n : Nat) := Char.ofNat (if n < 10 then 48 + n else 87 + n)
    ['\\', 'u', '0', '0', digit (c.toNat / 16), digit (c.toNat % 16)]
  else [c]

def quote (s : String) : String := "\"" ++ String.ofList (s.toList.flatMap escape) ++ "\""

def Number.render (style : NumberStyle) : Number → String
  | .integer n => toString n
  | .real x => style.text x

mutual
/-- Text without any blanks. -/
def Value.render (style : NumberStyle) : Value → String
  | .null => "null"
  | .bool b => if b then "true" else "false"
  | .number n => n.render style
  | .text s => quote s
  | .array items => "[" ++ renderItems style items ++ "]"
  | .object fields => "\x7b" ++ renderFields style fields ++ "\x7d"

def renderItems (style : NumberStyle) : List Value → String
  | [] => ""
  | [item] => item.render style
  | item :: items => item.render style ++ "," ++ renderItems style items

def renderFields (style : NumberStyle) : List (String × Value) → String
  | [] => ""
  | [(name, value)] => quote name ++ ":" ++ value.render style
  | (name, value) :: fields =>
    quote name ++ ":" ++ value.render style ++ "," ++ renderFields style fields
end

mutual
/-- Text over several lines, each level indented by two blanks. -/
def Value.pretty (style : NumberStyle) (margin : String) : Value → String
  | .array [] => "[]"
  | .object [] => "\x7b\x7d"
  | .array items =>
    "[\n" ++ prettyItems style (margin ++ "  ") items ++ "\n" ++ margin ++ "]"
  | .object fields =>
    "\x7b\n" ++ prettyFields style (margin ++ "  ") fields ++ "\n" ++ margin ++ "\x7d"
  | value => value.render style

def prettyItems (style : NumberStyle) (margin : String) : List Value → String
  | [] => ""
  | [item] => margin ++ item.pretty style margin
  | item :: items =>
    margin ++ item.pretty style margin ++ ",\n" ++ prettyItems style margin items

def prettyFields (style : NumberStyle) (margin : String) : List (String × Value) → String
  | [] => ""
  | [(name, value)] => margin ++ quote name ++ ": " ++ value.pretty style margin
  | (name, value) :: fields =>
    margin ++ quote name ++ ": " ++ value.pretty style margin ++ ",\n" ++
      prettyFields style margin fields
end

end Telemetry.Json
