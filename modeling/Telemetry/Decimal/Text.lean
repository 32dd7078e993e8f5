import Telemetry.Decimal

/-! Text of binary64 numbers. A style says how the shortest decimal is laid out; a fixed text
rounds the exact value to a number of places, ties to even. -/
namespace Telemetry

/-- What is written for NaN and the infinities. -/
inductive NonFinite
  | named
  | null
  /-- The decimal that the exponent and fraction fields would stand for in a larger format. -/
  | digits
  deriving DecidableEq, Repr

structure NumberStyle where
  tie : Tie := .even
  /-- Smallest exponent of the leading digit that is written without an exponent part. -/
  lowest : Option Int := none
  /-- Largest exponent of the leading digit that is written without an exponent part. -/
  highest : Option Int := none
  wholePoint : Bool := false
  plus : Bool := false
  nonFinite : NonFinite := .named
  deriving Repr

namespace NumberStyle

/-- Messages, logs and summaries: all digits, no exponent, no point on whole numbers. -/
def plain : NumberStyle := { tie := .up }

/-- Diagnostics: a point on whole numbers, and an exponent outside `[10^-4, 10^16)`. -/
def diagnostic : NumberStyle :=
  { tie := .up, lowest := some (-4), highest := some 15, wholePoint := true }

/-- JSON: a point on whole numbers, an exponent outside `[10^-5, 10^16)`, and `null` for what
JSON has no number for. -/
def json : NumberStyle :=
  { lowest := some (-5), highest := some 15, wholePoint := true, plus := true,
    nonFinite := .null }

/-- JSON with bare exponents and a decimal for every bit pattern. -/
def bareJson : NumberStyle := { json with plus := false, nonFinite := .digits }

def positional (style : NumberStyle) (leading : Int) : Bool :=
  style.lowest.all (· ≤ leading) && style.highest.all (leading ≤ ·)

def zeros (n : Nat) : String := String.ofList (List.replicate n '0')

def layoutPositional (style : NumberStyle) (d : Decimal) : String :=
  let digits := (toString d.coefficient).toList
  let point : Int := digits.length + d.exponent
  if point ≤ 0 then "0." ++ zeros (-point).toNat ++ String.ofList digits
  else if (digits.length : Int) ≤ point then
    String.ofList digits ++ zeros (point.toNat - digits.length) ++
      (if style.wholePoint then ".0" else "")
  else String.ofList (digits.take point.toNat) ++ "." ++ String.ofList (digits.drop point.toNat)

def layoutScientific (style : NumberStyle) (d : Decimal) : String :=
  let digits := (toString d.coefficient).toList
  let leading : Int := digits.length + d.exponent - 1
  let fraction := digits.drop 1
  String.ofList (digits.take 1) ++
    (if fraction.isEmpty then "" else "." ++ String.ofList fraction) ++ "e" ++
    (if style.plus && 0 ≤ leading then "+" else "") ++ toString leading

def layout (style : NumberStyle) (d : Decimal) : String :=
  if style.positional (d.width + d.exponent - 1) then style.layoutPositional d
  else style.layoutScientific d

def sign (x : Binary64) : String := if x.negative then "-" else ""

def text (style : NumberStyle) (x : Binary64) : String :=
  if x.isFinite || style.nonFinite = .digits then
    sign x ++ style.layout (Decimal.shortest style.tie x)
  else if style.nonFinite = .null then "null"
  else if x.isNaN then "NaN"
  else sign x ++ "inf"

end NumberStyle

namespace Binary64

instance : ToString Binary64 := ⟨NumberStyle.plain.text⟩

/-- `num / den` rounded to a whole number, ties to even. -/
def roundedQuotient (num den : Nat) : Nat :=
  let quotient := num / den
  let rest := num % den
  if 2 * rest > den ∨ (2 * rest = den ∧ quotient % 2 = 1) then quotient + 1 else quotient

/-- Text with a fixed number of places after the point. -/
def fixed (places : Nat) (x : Binary64) : String :=
  if !x.isFinite then NumberStyle.plain.text x
  else
    let scaled := roundedQuotient (x.units * Nat.pow 10 places) unitsOfOne
    let fraction := toString (scaled % Nat.pow 10 places)
    NumberStyle.sign x ++ toString (scaled / Nat.pow 10 places) ++ "." ++
      NumberStyle.zeros (places - fraction.length) ++ fraction

end Binary64
end Telemetry
