import Telemetry.Json.Value

/-! Number literals of JSON and the numbers they stand for. The accumulated value gathers digits
into a 64-bit significand and scales it in binary64 arithmetic, so it may miss the nearest number.
The word value is rounded once, but significand and exponent are first reduced to machine words,
unless the literal is known to be long. -/
namespace Telemetry.Json

structure Literal where
  negative : Bool
  whole : List Nat
  fraction : List Nat
  exponent : Option (Bool × List Nat)
  /-- The literal is read digit by digit, whatever its significand. -/
  long : Bool := false
  deriving DecidableEq, Repr, Inhabited

namespace Literal

def digitsValue (digits : List Nat) : Nat := digits.foldl (fun n d => 10 * n + d) 0

/-- Neither a fraction nor an exponent part. -/
def isWhole (literal : Literal) : Bool := literal.fraction.isEmpty && literal.exponent.isNone

def exponentValue (literal : Literal) : Int :=
  match literal.exponent with
  | none => 0
  | some (true, digits) => -(digitsValue digits : Int)
  | some (false, digits) => digitsValue digits

/-- Appends digits to a significand as long as it stays below `2^64`, and counts those left. -/
def accumulate (significand : Nat) : List Nat → Nat × Nat
  | [] => (significand, 0)
  | d :: digits =>
    if 10 * significand + d < UInt64.size then accumulate (10 * significand + d) digits
    else (significand, digits.length + 1)

def powerOfTen (n : Nat) : Binary64 := Binary64.ofDecimal false 1 n

/-- Division by `10^n` in steps of at most `10^308`. -/
def scaleDown (x : Binary64) (n : Nat) : Binary64 :=
  if n ≤ 308 then x / powerOfTen n
  else if x.magnitude = 0 then x
  else scaleDown (x / powerOfTen 308) (n - 308)
termination_by n

/-- `significand * 10^exponent`, or nothing past the largest finite number. -/
def scale (significand : Nat) (exponent : Int) : Option Binary64 :=
  let x := Binary64.ofNat significand
  if exponent < 0 then some (scaleDown x (-exponent).toNat)
  else if exponent ≤ 308 then
    let product := x * powerOfTen exponent.toNat
    if product.isInfinite then none else some product
  else if significand = 0 then some x
  else none

/-- Digits that no longer fit raise the exponent when they stand before the point and are
dropped behind it. An exponent part past 31 bits gives zero, or nothing if it is positive and
the significand is not zero. -/
def accumulated (literal : Literal) : Option Number :=
  let signed (x : Binary64) : Number := .real (if literal.negative then -x else x)
  let (whole, left) := accumulate 0 literal.whole
  if literal.isWhole && left = 0 then
    if !literal.negative then some (.integer whole)
    else if 0 < whole ∧ 2 * whole ≤ UInt64.size then some (.integer (-(whole : Int)))
    else some (signed (.ofNat whole))
  else
    let (significand, dropped) := accumulate whole literal.fraction
    let exponent := literal.exponentValue
    if UInt32.size ≤ 2 * exponent.natAbs then
      if significand ≠ 0 ∧ 0 < exponent then none else some (signed .zero)
    else
      (scale significand (left - ((literal.fraction.length - dropped : Nat) : Int) + exponent)).map
        signed

def width (literal : Literal) : Nat :=
  literal.negative.toNat + literal.whole.length +
    (if literal.fraction.isEmpty then 0 else literal.fraction.length + 1)

/-- An exponent part is given up when digits follow one that no longer fits 32 bits. -/
def exponentRefused (literal : Literal) : Bool :=
  match literal.exponent with
  | none => false
  | some (_, digits) => UInt32.size < digitsValue digits.dropLast

/-- Nearest number to the literal as it is spelled. -/
def spelled (literal : Literal) : Binary64 :=
  Decimal.nearest literal.negative
    ⟨digitsValue (literal.whole ++ literal.fraction),
      literal.exponentValue - literal.fraction.length⟩

/-- Nearest number with the significand taken modulo `2^64` and the exponent modulo `2^32`. Only
normal numbers come about in this way; everything else is taken as it is spelled. -/
def reduced (literal : Literal) : Binary64 :=
  let significand := digitsValue (literal.whole ++ literal.fraction) % UInt64.size
  let exponent := Int.bmod (literal.exponentValue - literal.fraction.length) UInt32.size
  if significand = 0 then Binary64.ofMagnitude literal.negative 0
  else if -325 ≤ exponent ∧ exponent ≤ 308 then
    let x := Binary64.ofDecimal literal.negative significand exponent
    if x.isNormal then x else literal.spelled
  else literal.spelled

/-- Whole literals must fit 64 bits, signed when negative; others must give a finite number. -/
def word (literal : Literal) : Option Number :=
  if literal.isWhole then
    let n := digitsValue literal.whole
    if literal.negative then if 2 * n ≤ UInt64.size then some (.integer (-(n : Int))) else none
    else if n < UInt64.size then some (.integer n) else none
  else if literal.exponentRefused then none
  else
    let x := if literal.long then literal.spelled else literal.reduced
    if x.isFinite then some (.real x) else none

end Literal
end Telemetry.Json
