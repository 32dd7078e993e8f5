import Telemetry.Proofs.Binary64.Halfway

/-! When products and quotients are finite. -/
namespace Telemetry.Binary64
variable {x y : Binary64}

/-- Twice the units from which on a number is rounded to an infinity. -/
def limit : Nat := halfway (infinityMagnitude - 1)

theorem isFinite_ofMagnitude (sign : Bool) {magnitude : Nat} (fits : magnitude < signWeight) :
    (ofMagnitude sign magnitude).isFinite = decide (magnitude < infinityMagnitude) := by
  rw [isFinite, magnitude_ofMagnitude sign fits]

theorem isFinite_ofUnits (sign : Bool) {num den : Nat} (positive : 0 < den) :
    (ofUnits sign num den).isFinite = true ↔ 2 * num < limit * den := by
  have most := roundMagnitude_le num den
  have odd : (infinityMagnitude - 1) % 2 = 1 := by decide
  have past : infinityMagnitude - 1 < roundMagnitude num den ↔ _ := lt_roundMagnitude positive (by decide)
  rw [ofUnits, isFinite_ofMagnitude sign (roundMagnitude_lt_signWeight num den), decide_eq_true_eq, limit]
  omega

theorem two_units_lt (x : Binary64) : 2 * x.units < halfway x.magnitude := by
  have positive := Nat.two_pow_pos (stepExponent x.magnitude)
  have split : halfway x.magnitude =
      2 * (significand x.magnitude * 2 ^ stepExponent x.magnitude) + 2 ^ stepExponent x.magnitude := by
    rw [halfway]
    ring
  rw [units_eq]
  omega

theorem two_units_lt_limit (finite : x.isFinite = true) : 2 * x.units < limit := by
  have magnitude : x.magnitude < infinityMagnitude := of_decide_eq_true finite
  exact Nat.lt_of_lt_of_le (two_units_lt x) (halfway_mono (by omega))

/-- A quotient by one or more is finite. -/
theorem div_finite (left : x.isFinite = true) (right : y.isFinite = true) (large : unitsOfOne ≤ y.units) :
    (x / y).isFinite = true := by
  have some : y.magnitude ≠ 0 := by
    intro zero
    rw [units_of_magnitude_eq_zero zero] at large
    exact Nat.not_lt.mpr large unitsOfOne_pos
  have quotient : x / y = ofUnits (x.negative != y.negative) (x.units * unitsOfOne) y.units := by
    change div x y = _
    simp [div, isNaN_of_isFinite left, isNaN_of_isFinite right, isInfinite_of_isFinite left,
      isInfinite_of_isFinite right, some]
  rw [quotient, isFinite_ofUnits _ (Nat.lt_of_lt_of_le unitsOfOne_pos large)]
  calc
    2 * (x.units * unitsOfOne) = 2 * x.units * unitsOfOne := (Nat.mul_assoc ..).symm
    _ < limit * unitsOfOne := Nat.mul_lt_mul_of_pos_right (two_units_lt_limit left) unitsOfOne_pos
    _ ≤ limit * y.units := Nat.mul_le_mul_left _ large

theorem mul_finite (left : x.isFinite = true) (right : y.isFinite = true)
    (small : 2 * (x.units * y.units) < limit * unitsOfOne) : (x * y).isFinite = true := by
  have product : x * y = ofUnits (x.negative != y.negative) (x.units * y.units) unitsOfOne := by
    change mul x y = _
    simp [mul, isNaN_of_isFinite left, isNaN_of_isFinite right, isInfinite_of_isFinite left,
      isInfinite_of_isFinite right]
  rw [product]
  exact (isFinite_ofUnits _ unitsOfOne_pos).mpr small

theorem units_one : one.units = unitsOfOne := by decide +kernel

theorem magnitude_lt_one (nonneg : zero ≤ x) (small : x < one) : x.magnitude < one.magnitude := by
  have lower : 0 ≤ x.key := nonneg.2.2
  have upper : x.key < one.magnitude := small.2.2
  rw [key] at lower upper
  split at lower
  · have positive : 0 < one.magnitude := by decide
    omega
  · rename_i unsigned
    rw [if_neg unsigned] at upper
    omega

/-- A part of a finite number is finite. -/
theorem mul_part_finite (nonneg : zero ≤ x) (small : x < one) (right : y.isFinite = true) :
    (x * y).isFinite = true := by
  have below := magnitude_lt_one nonneg small
  have finite : one.magnitude < infinityMagnitude := by decide
  have less : x.units < unitsOfOne := units_one ▸ units_lt_units below
  refine mul_finite (decide_eq_true (below.trans finite)) right ?_
  calc
    2 * (x.units * y.units) = x.units * (2 * y.units) := Nat.mul_left_comm ..
    _ ≤ unitsOfOne * (2 * y.units) := Nat.mul_le_mul_right _ less.le
    _ < unitsOfOne * limit := Nat.mul_lt_mul_of_pos_left (two_units_lt_limit right) unitsOfOne_pos
    _ = limit * unitsOfOne := Nat.mul_comm ..

end Telemetry.Binary64
