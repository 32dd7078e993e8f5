import Telemetry.Decimal

/-! Numbers that are given as text on a command line. -/
namespace Telemetry.Numeral

def digit (c : Char) : Nat := c.toNat - 48

/-- Leading digits of a text, and what follows them. -/
def digits (text : List Char) : List Nat × List Char :=
  ((text.takeWhile Char.isDigit).map digit, text.dropWhile Char.isDigit)

def value (digits : List Nat) : Nat := digits.foldl (fun n d => 10 * n + d) 0

/-- The sign of a number, which may be left out, and what follows it. -/
def sign : List Char → Bool × List Char
  | '-' :: rest => (true, rest)
  | '+' :: rest => (false, rest)
  | text => (false, text)

/-- A whole number of 64 bits; it may carry a plus sign. -/
def natural? (text : String) : Option Nat :=
  let (whole, rest) := digits (if text.startsWith "+" then text.toList.drop 1 else text.toList)
  if whole.isEmpty || !rest.isEmpty || UInt64.size ≤ value whole then none else some (value whole)

/-- An exponent part up to the end of the text; without one the exponent is zero. -/
def exponent? : List Char → Option Int
  | [] => some 0
  | marker :: rest =>
    if marker.toLower = 'e' then
      let (negative, rest) := sign rest
      let (places, rest) := digits rest
      if places.isEmpty || !rest.isEmpty then none
      else some (if negative then -(value places : Int) else value places)
    else none

/-- Whole digits, fraction and exponent. Either group of digits may be missing, but not both. -/
def decimal? (text : List Char) : Option Decimal :=
  let (whole, rest) := digits text
  let (fraction, rest) :=
    match rest with
    | '.' :: rest => digits rest
    | rest => ([], rest)
  if whole.isEmpty && fraction.isEmpty then none
  else (exponent? rest).map fun exponent => ⟨value (whole ++ fraction), exponent - fraction.length⟩

/-- A real number rounded to binary64; infinities and NaN go by name. -/
def real? (text : String) : Option Binary64 :=
  let (negative, rest) := sign text.toList
  let name := String.ofList (rest.map Char.toLower)
  if name = "inf" ∨ name = "infinity" then some (.infinity negative)
  else if name = "nan" then some (if negative then -.nan else .nan)
  else (decimal? rest).map (Decimal.nearest negative)

end Telemetry.Numeral
