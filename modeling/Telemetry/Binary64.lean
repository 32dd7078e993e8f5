/-! Binary floating-point numbers of 64 bits. A finite number is a whole count of units of
`2^-1074`, so every operation is exact integer arithmetic followed by one rounding to nearest,
ties to even. Comparison goes through an integer key on which the two zeros agree. -/
namespace Telemetry

/-- A binary64 number, held as its 64 bits. -/
structure Binary64 where
  bits : UInt64
  deriving DecidableEq, Repr, Inhabited

namespace Binary64

/-- Weight of the sign bit, which is bit 63. -/
def signWeight : Nat := 0x8000000000000000

/-- Weight of the exponent field, which starts at bit 52. -/
def fieldWeight : Nat := 0x10000000000000

/-- Exponent and fraction fields read as one number: bits 0 to 62. -/
def magnitude (x : Binary64) : Nat := x.bits.toNat % signWeight

def negative (x : Binary64) : Bool := x.bits.toNat / signWeight == 1

def field (x : Binary64) : Nat := x.magnitude / fieldWeight

def fraction (x : Binary64) : Nat := x.magnitude % fieldWeight

/-- Magnitude of the infinities: exponent field all ones, fraction zero. -/
def infinityMagnitude : Nat := 2047 * fieldWeight

def ofMagnitude (sign : Bool) (magnitude : Nat) : Binary64 :=
  ⟨UInt64.ofNat ((if sign then signWeight else 0) + magnitude)⟩

def zero : Binary64 := ⟨0⟩
def one : Binary64 := ⟨0x3ff0000000000000⟩
/-- NaN as it is written down: quiet, without a sign. -/
def nan : Binary64 := ⟨0x7ff8000000000000⟩
/-- What an operation without a defined result gives. -/
def undefined : Binary64 := ⟨0xfff8000000000000⟩
def infinity (sign : Bool) : Binary64 := ofMagnitude sign infinityMagnitude

def isNaN (x : Binary64) : Bool := x.magnitude > infinityMagnitude
def isFinite (x : Binary64) : Bool := x.magnitude < infinityMagnitude
def isNormal (x : Binary64) : Bool := x.isFinite && x.field != 0
def isInfinite (x : Binary64) : Bool := x.magnitude == infinityMagnitude

/-- Position of a number other than NaN on the line; both zeros lie at 0. -/
def key (x : Binary64) : Int := if x.negative then -(x.magnitude : Int) else x.magnitude

instance : LE Binary64 := ⟨fun x y => x.isNaN = false ∧ y.isNaN = false ∧ x.key ≤ y.key⟩
instance : LT Binary64 := ⟨fun x y => x.isNaN = false ∧ y.isNaN = false ∧ x.key < y.key⟩

instance (x y : Binary64) : Decidable (x ≤ y) :=
  inferInstanceAs (Decidable (x.isNaN = false ∧ y.isNaN = false ∧ x.key ≤ y.key))
instance (x y : Binary64) : Decidable (x < y) :=
  inferInstanceAs (Decidable (x.isNaN = false ∧ y.isNaN = false ∧ x.key < y.key))

/-- Position in the total order of all bit patterns, from negative NaN to positive NaN; the
negative zero stands before the positive one. -/
def rank (x : Binary64) : Int := if x.negative then -(x.magnitude : Int) - 1 else x.magnitude

/-- The larger number; a NaN gives way to the other argument. -/
def max (x y : Binary64) : Binary64 :=
  if x.isNaN then y else if y.isNaN then x else if x.key < y.key then y else x

/-- Magnitude of a finite number in units of `2^-1074`. -/
def units (x : Binary64) : Nat :=
  if x.field = 0 then x.fraction else (fieldWeight + x.fraction) <<< (x.field - 1)

def signedUnits (x : Binary64) : Int := if x.negative then -(x.units : Int) else x.units

def unitsOfOne : Nat := 1 <<< 1074

/-- Nearest magnitude to `num / den` units, ties to even. The significand keeps 53 bits; a
significand rounded up to `2^53` carries into the exponent field by itself, and whatever lies
past the largest finite number becomes infinite. -/
def roundMagnitude (num den : Nat) : Nat :=
  let exponent := (num / den).log2 - 52
  let step := den <<< exponent
  let quotient := num / step
  let rest := num % step
  let rounded :=
    if 2 * rest > step ∨ (2 * rest = step ∧ quotient % 2 = 1) then quotient + 1 else quotient
  min (exponent * fieldWeight + rounded) infinityMagnitude

def ofUnits (sign : Bool) (num den : Nat) : Binary64 := ofMagnitude sign (roundMagnitude num den)

def ofNat (n : Nat) : Binary64 := ofUnits false (n * unitsOfOne) 1

def ofInt (n : Int) : Binary64 := ofUnits (n < 0) (n.natAbs * unitsOfOne) 1

def ofDecimal (sign : Bool) (coefficient : Nat) (exponent : Int) : Binary64 :=
  ofUnits sign (coefficient * Nat.pow 10 exponent.toNat * unitsOfOne) (Nat.pow 10 (-exponent).toNat)

/-- A NaN as operations hand it on: its quiet bit is set. -/
def quiet (x : Binary64) : Binary64 := ⟨x.bits ||| 0x0008000000000000⟩

def neg (x : Binary64) : Binary64 := ⟨x.bits ^^^ 0x8000000000000000⟩

/-- A sum of exactly zero is negative only when both terms are negative zeros. -/
def add (x y : Binary64) : Binary64 :=
  if x.isNaN then x.quiet
  else if y.isNaN then y.quiet
  else if x.isInfinite then
    if y.isInfinite && x.negative != y.negative then undefined else x
  else if y.isInfinite then y
  else
    let sum := x.signedUnits + y.signedUnits
    if sum = 0 then ofMagnitude (x.negative && y.negative) 0
    else ofUnits (sum < 0) sum.natAbs 1

def sub (x y : Binary64) : Binary64 := if y.isNaN && !x.isNaN then y.quiet else x.add y.neg

def mul (x y : Binary64) : Binary64 :=
  let sign := x.negative != y.negative
  if x.isNaN then x.quiet
  else if y.isNaN then y.quiet
  else if x.isInfinite || y.isInfinite then
    if x.magnitude = 0 ∨ y.magnitude = 0 then undefined else infinity sign
  else ofUnits sign (x.units * y.units) unitsOfOne

def div (x y : Binary64) : Binary64 :=
  let sign := x.negative != y.negative
  if x.isNaN then x.quiet
  else if y.isNaN then y.quiet
  else if x.isInfinite then if y.isInfinite then undefined else infinity sign
  else if y.isInfinite then ofMagnitude sign 0
  else if y.magnitude = 0 then if x.magnitude = 0 then undefined else infinity sign
  else ofUnits sign (x.units * unitsOfOne) y.units

instance : Add Binary64 := ⟨add⟩
instance : Sub Binary64 := ⟨sub⟩
instance : Mul Binary64 := ⟨mul⟩
instance : Div Binary64 := ⟨div⟩
instance : Neg Binary64 := ⟨neg⟩
instance : NatCast Binary64 := ⟨ofNat⟩

end Binary64
end Telemetry
