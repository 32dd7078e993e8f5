import Telemetry.Binary64

/-! Decimal numbers and the shortest one that reads back as a given binary64 number. The search
tries one digit, then two, up to seventeen, and compares the two neighbours on each decimal grid
with the interval of reals that round to the number, in exact integers. -/
namespace Telemetry

structure Decimal where
  coefficient : Nat
  exponent : Int
  deriving DecidableEq, Repr, Inhabited

/-- Which neighbour a value halfway between two decimals goes to. -/
inductive Tie
  | even
  | up
  deriving DecidableEq, Repr

namespace Decimal

def width (d : Decimal) : Nat := (toString d.coefficient).length

def trim (coefficient : Nat) (exponent : Int) : Decimal :=
  if coefficient = 0 ∨ coefficient % 10 ≠ 0 then ⟨coefficient, exponent⟩
  else trim (coefficient / 10) (exponent + 1)
termination_by coefficient
decreasing_by omega

/-- Nearest binary64 number. Past `10^310` the answer is infinite and below `10^-330` it is
zero, so huge exponents need no huge integers. -/
def nearest (sign : Bool) (d : Decimal) : Binary64 :=
  let leading := d.width + d.exponent
  if d.coefficient = 0 ∨ leading < -330 then Binary64.ofMagnitude sign 0
  else if 310 < leading then Binary64.infinity sign
  else Binary64.ofDecimal sign d.coefficient d.exponent

/-- Reals that round to one positive finite number, in quarters of a unit. The ends belong to
the interval exactly when the number's significand is even. -/
structure Interval where
  low : Nat
  high : Nat
  closed : Bool

/-- Below a power of two the neighbours are twice as dense as above it. -/
def Interval.of (x : Binary64) : Interval :=
  let gap := 1 <<< (x.field - 1)
  let lower := if x.fraction = 0 ∧ x.field > 1 then gap else 2 * gap
  ⟨4 * x.units - lower, 4 * x.units + 2 * gap, x.magnitude % 2 = 0⟩

def Interval.holds (interval : Interval) (d : Decimal) : Bool :=
  let value := d.coefficient * Nat.pow 10 d.exponent.toNat * (4 * Binary64.unitsOfOne)
  let scale := Nat.pow 10 (-d.exponent).toNat
  if interval.closed then interval.low * scale ≤ value && value ≤ interval.high * scale
  else interval.low * scale < value && value < interval.high * scale

/-- Exponent of the leading decimal digit of `num / den`, both positive. The binary logarithm
places it within one. -/
def leadingExponent (num den : Nat) : Int :=
  let guess : Int := ((num.log2 : Int) - den.log2) * 30103 / 100000
  let reached (e : Int) : Bool := den * Nat.pow 10 e.toNat ≤ num * Nat.pow 10 (-e).toNat
  if reached (guess + 1) then guess + 1 else if reached guess then guess else guess - 1

/-- The neighbour of a positive number on the grid of multiples of `10^exponent` that lies in
the interval, and of two such neighbours the nearer one. -/
def neighbour (tie : Tie) (x : Binary64) (exponent : Int) : Option Decimal :=
  let num := x.units * Nat.pow 10 (-exponent).toNat
  let den := Binary64.unitsOfOne * Nat.pow 10 exponent.toNat
  let below := num / den
  let rest := num % den
  let interval := Interval.of x
  match interval.holds ⟨below, exponent⟩, interval.holds ⟨below + 1, exponent⟩ with
  | false, false => none
  | true, false => some ⟨below, exponent⟩
  | false, true => some ⟨below + 1, exponent⟩
  | true, true =>
    if 2 * rest < den then some ⟨below, exponent⟩
    else if den < 2 * rest then some ⟨below + 1, exponent⟩
    else if tie = .even ∧ below % 2 = 0 then some ⟨below, exponent⟩
    else some ⟨below + 1, exponent⟩

/-- Fewest digits that read back as the finite number `x`, and of those the nearest; the sign is
left out. Seventeen digits always suffice. -/
def shortest (tie : Tie) (x : Binary64) : Decimal :=
  if x.magnitude = 0 then ⟨0, 0⟩
  else
    let leading := leadingExponent x.units Binary64.unitsOfOne
    match (List.range 17).findSome? fun (more : Nat) => neighbour tie x (leading - more) with
    | some d => trim d.coefficient d.exponent
    | none => ⟨0, 0⟩

end Decimal
end Telemetry
