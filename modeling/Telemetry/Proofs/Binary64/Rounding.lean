import Telemetry.Proofs.Binary64.Order
import Mathlib.Algebra.Order.Field.Rat
import Mathlib.Algebra.Order.Group.Nat
import Mathlib.Data.Int.Order.Basic
import Mathlib.Data.Nat.Cast.Order.Field
import Mathlib.Tactic.SplitIfs

/-! Rounding keeps the order, so the same number can be added to both sides of a comparison, or be
taken away from them. The order of numbers is that of the rational numbers they stand for. -/
namespace Telemetry.Binary64
variable {x y z : Binary64}

theorem toNat_ofMagnitude (sign : Bool) {magnitude : Nat} (fits : magnitude < signWeight) :
    (ofMagnitude sign magnitude).bits.toNat = (if sign then signWeight else 0) + magnitude := by
  have small : (if sign then signWeight else 0) + magnitude < 2 ^ 64 := by
    simp only [signWeight] at fits ⊢
    split <;> omega
  rw [ofMagnitude, UInt64.toNat_ofNat', Nat.mod_eq_of_lt small]

theorem magnitude_ofMagnitude (sign : Bool) {magnitude : Nat} (fits : magnitude < signWeight) :
    (ofMagnitude sign magnitude).magnitude = magnitude := by
  rw [Binary64.magnitude, toNat_ofMagnitude sign fits]
  simp only [signWeight] at fits ⊢
  split <;> omega

theorem negative_ofMagnitude (sign : Bool) {magnitude : Nat} (fits : magnitude < signWeight) :
    (ofMagnitude sign magnitude).negative = sign := by
  rw [negative, toNat_ofMagnitude sign fits]
  simp only [signWeight] at fits ⊢
  cases sign with
  | true => simp; omega
  | false => simp; omega

theorem key_ofMagnitude (sign : Bool) {magnitude : Nat} (fits : magnitude < signWeight) :
    (ofMagnitude sign magnitude).key = if sign then -(magnitude : Int) else magnitude := by
  rw [key, magnitude_ofMagnitude sign fits, negative_ofMagnitude sign fits]

theorem toNat_neg (x : Binary64) : (-x).bits.toNat = x.bits.toNat ^^^ 2 ^ 63 := UInt64.toNat_xor ..

@[simp] theorem magnitude_neg (x : Binary64) : (-x).magnitude = x.magnitude := by
  rw [magnitude, magnitude, toNat_neg, show signWeight = 2 ^ 63 from rfl, Nat.xor_mod_two_pow,
    Nat.mod_self, Nat.xor_zero]

@[simp] theorem isNaN_neg (x : Binary64) : (-x).isNaN = x.isNaN := by simp [isNaN]

theorem negative_neg (x : Binary64) : (-x).negative = !x.negative := by
  have weight : signWeight = 2 ^ 63 := rfl
  have word : x.bits.toNat / 2 ^ 63 < 2 := Nat.div_lt_of_lt_mul x.bits.toNat_lt
  rw [negative, negative, toNat_neg, weight, Nat.xor_div_two_pow, Nat.div_self (Nat.two_pow_pos 63)]
  generalize x.bits.toNat / 2 ^ 63 = sign at word ⊢
  obtain rfl | rfl : sign = 0 ∨ sign = 1 := by omega
  · rfl
  · rfl

theorem key_neg (x : Binary64) : (-x).key = -x.key := by
  rw [key, key, magnitude_neg, negative_neg]
  cases x.negative <;> simp

-- The exponent is a name, so that no step evaluates the power.
theorem unitsOfOne_eq {places : Nat} (places_eq : places = 1074) : unitsOfOne = 2 ^ places := by
  rw [unitsOfOne, ← places_eq, Nat.one_shiftLeft]

theorem unitsOfOne_pos : 0 < unitsOfOne := by
  obtain ⟨places, places_eq⟩ : ∃ places, places = 1074 := ⟨_, rfl⟩
  rw [unitsOfOne_eq places_eq]
  exact Nat.two_pow_pos places

theorem units_lt (x : Binary64) : x.units < fieldWeight * 2 ^ x.field := by
  have part : x.fraction < fieldWeight := Nat.mod_lt _ (by decide)
  rw [units]
  split_ifs with subnormal
  · simpa [subnormal] using part
  · have exponent : 2 ^ x.field = 2 * 2 ^ (x.field - 1) := by
      rw [← Nat.pow_succ', Nat.succ_eq_add_one, Nat.sub_add_cancel (Nat.pos_of_ne_zero subnormal)]
    rw [Nat.shiftLeft_eq, exponent, ← Nat.mul_assoc]
    exact Nat.mul_lt_mul_of_pos_right (by omega) (Nat.two_pow_pos _)

theorem le_units (normal : x.field ≠ 0) : fieldWeight * 2 ^ (x.field - 1) ≤ x.units := by
  rw [units, if_neg normal, Nat.shiftLeft_eq]
  exact Nat.mul_le_mul_right _ (Nat.le_add_right _ _)

theorem units_lt_units (below : x.magnitude < y.magnitude) : x.units < y.units := by
  have fields : x.field ≤ y.field := Nat.div_le_div_right (Nat.le_of_lt below)
  rcases Nat.lt_or_eq_of_le fields with lower | same
  · have normal : y.field ≠ 0 := by omega
    calc
      x.units < fieldWeight * 2 ^ x.field := x.units_lt
      _ ≤ fieldWeight * 2 ^ (y.field - 1) :=
        Nat.mul_le_mul_left _ (Nat.pow_le_pow_right (by decide) (by omega))
      _ ≤ y.units := le_units normal
  · have part : x.fraction < y.fraction := by
      have left := Nat.div_add_mod x.magnitude fieldWeight
      have right := Nat.div_add_mod y.magnitude fieldWeight
      rw [show x.magnitude / fieldWeight = y.magnitude / fieldWeight from same] at left
      simp only [fraction]
      omega
    rw [units, units, same]
    split_ifs
    · exact part
    · simp only [Nat.shiftLeft_eq]
      exact Nat.mul_lt_mul_of_pos_right (Nat.add_lt_add_left part _) (Nat.two_pow_pos _)

theorem units_congr (same : x.magnitude = y.magnitude) : x.units = y.units := by
  rw [units, units, field, fraction, same]
  rfl

theorem units_mono (le : x.magnitude ≤ y.magnitude) : x.units ≤ y.units := by
  rcases Nat.lt_or_eq_of_le le with below | same
  · exact Nat.le_of_lt (units_lt_units below)
  · exact Nat.le_of_eq (units_congr same)

theorem units_of_magnitude_eq_zero (zero : x.magnitude = 0) : x.units = 0 := by
  simp [units, field, fraction, zero]

theorem signedUnits_neg (x : Binary64) : (-x).signedUnits = -x.signedUnits := by
  rw [signedUnits, signedUnits, negative_neg, units_congr x.magnitude_neg]
  cases x.negative <;> simp

theorem signedUnits_mono (le : x.key ≤ y.key) : x.signedUnits ≤ y.signedUnits := by
  simp only [key] at le
  simp only [signedUnits]
  split_ifs at le ⊢ with left right
  · have smaller : y.units ≤ x.units := units_mono (by omega)
    omega
  · omega
  · have first : x.units = 0 := units_of_magnitude_eq_zero (by omega)
    have second : y.units = 0 := units_of_magnitude_eq_zero (by omega)
    omega
  · have smaller : x.units ≤ y.units := units_mono (by omega)
    omega

theorem signedUnits_strictMono (below : x.key < y.key) : x.signedUnits < y.signedUnits := by
  simp only [key] at below
  simp only [signedUnits]
  split_ifs at below ⊢ with left right
  · have smaller : y.units < x.units := units_lt_units (by omega)
    omega
  · rcases Nat.eq_zero_or_pos x.magnitude with none | some
    · have above : x.units < y.units := units_lt_units (by omega)
      omega
    · have above : zero.units < x.units := units_lt_units some
      omega
  · omega
  · have smaller : x.units < y.units := units_lt_units (by omega)
    omega

theorem lt_iff_signedUnits (left : x.isNaN = false) (right : y.isNaN = false) :
    x < y ↔ x.signedUnits < y.signedUnits := by
  rw [lt_iff, and_iff_right left, and_iff_right right]
  constructor
  · exact signedUnits_strictMono
  · intro below
    by_contra above
    exact absurd (signedUnits_mono (Int.not_lt.mp above)) (Int.not_le.mpr below)

theorem roundMagnitude_le (num den : Nat) : roundMagnitude num den ≤ infinityMagnitude :=
  Nat.min_le_right _ _

theorem roundMagnitude_lt_signWeight (num den : Nat) : roundMagnitude num den < signWeight :=
  Nat.lt_of_le_of_lt (roundMagnitude_le num den) (by decide)

/-- A quotient by a step, to the nearest, ties to even. -/
def nearest (num step : Nat) : Nat :=
  if 2 * (num % step) > step ∨ (2 * (num % step) = step ∧ num / step % 2 = 1) then num / step + 1
  else num / step

theorem roundMagnitude_eq (num : Nat) :
    roundMagnitude num 1 =
      min ((num.log2 - 52) * fieldWeight + nearest num (2 ^ (num.log2 - 52))) infinityMagnitude := by
  simp only [roundMagnitude, nearest, Nat.div_one, Nat.one_shiftLeft]

theorem nearest_bounds (num step : Nat) :
    num / step ≤ nearest num step ∧ nearest num step ≤ num / step + 1 := by
  rw [nearest]
  split_ifs <;> omega

theorem nearest_mono {num larger step : Nat} (le : num ≤ larger) :
    nearest num step ≤ nearest larger step := by
  rcases Nat.lt_or_eq_of_le (Nat.div_le_div_right le : num / step ≤ larger / step) with below | same
  · have := nearest_bounds num step
    have := nearest_bounds larger step
    omega
  · have left := Nat.div_add_mod num step
    have right := Nat.div_add_mod larger step
    rw [same] at left
    have rest : num % step ≤ larger % step := by omega
    simp only [nearest, same]
    split_ifs <;> omega

theorem nearest_lt {num : Nat} : num / 2 ^ (num.log2 - 52) < 2 * fieldWeight := by
  have top : num < 2 ^ (num.log2 + 1) := Nat.lt_log2_self
  rw [Nat.div_lt_iff_lt_mul (Nat.two_pow_pos _), show 2 * fieldWeight = 2 ^ 53 from rfl, ← Nat.pow_add]
  exact Nat.lt_of_lt_of_le top (Nat.pow_le_pow_right (by decide) (by omega))

theorem le_nearest {num : Nat} (large : 52 ≤ num.log2) :
    fieldWeight ≤ num / 2 ^ (num.log2 - 52) := by
  have positive : num ≠ 0 := by
    rintro rfl
    simp at large
  rw [Nat.le_div_iff_mul_le (Nat.two_pow_pos _), show fieldWeight = 2 ^ 52 from rfl, ← Nat.pow_add,
    Nat.add_sub_cancel' large]
  exact Nat.log2_self_le positive

theorem roundMagnitude_mono {num larger : Nat} (le : num ≤ larger) :
    roundMagnitude num 1 ≤ roundMagnitude larger 1 := by
  rw [roundMagnitude_eq, roundMagnitude_eq]
  refine min_le_min_right _ ?_
  have exponents : num.log2 ≤ larger.log2 := by
    rcases Nat.eq_zero_or_pos num with rfl | positive
    · simp
    · exact (Nat.le_log2 (by omega)).mpr ((Nat.log2_self_le (by omega)).trans le)
  rcases Nat.lt_or_eq_of_le (Nat.sub_le_sub_right exponents 52) with below | same
  · -- The last step of one exponent ends where the first step of the next one begins.
    have least : fieldWeight ≤ larger / 2 ^ (larger.log2 - 52) := le_nearest (by omega)
    have most : num / 2 ^ (num.log2 - 52) < 2 * fieldWeight := nearest_lt
    have upper := (nearest_bounds num (2 ^ (num.log2 - 52))).2
    have lower := (nearest_bounds larger (2 ^ (larger.log2 - 52))).1
    have next : (num.log2 - 52 + 1) * fieldWeight ≤ (larger.log2 - 52) * fieldWeight :=
      Nat.mul_le_mul_right _ below
    rw [Nat.add_mul, Nat.one_mul] at next
    omega
  · rw [same]
    exact Nat.add_le_add_left (nearest_mono le) _

/-- Key of the number next to a count of units. -/
def roundedKey (units : Int) : Int := units.sign * roundMagnitude units.natAbs 1

theorem roundedKey_of_nonneg {units : Int} (nonneg : 0 ≤ units) :
    roundedKey units = roundMagnitude units.natAbs 1 := by
  rcases Int.lt_or_eq_of_le nonneg with positive | rfl
  · rw [roundedKey, Int.sign_eq_one_of_pos positive, Int.one_mul]
  · rfl

theorem roundedKey_of_neg {units : Int} (negative : units < 0) :
    roundedKey units = -(roundMagnitude units.natAbs 1 : Int) := by
  rw [roundedKey, Int.sign_eq_neg_one_of_neg negative]
  omega

theorem roundedKey_mono {units larger : Int} (le : units ≤ larger) :
    roundedKey units ≤ roundedKey larger := by
  rcases Int.lt_or_le units 0 with below | nonneg
  · rw [roundedKey_of_neg below]
    rcases Int.lt_or_le larger 0 with negative | nonneg
    · have smaller : roundMagnitude larger.natAbs 1 ≤ roundMagnitude units.natAbs 1 :=
        roundMagnitude_mono (by omega)
      rw [roundedKey_of_neg negative]
      omega
    · rw [roundedKey_of_nonneg nonneg]
      omega
  · have smaller : roundMagnitude units.natAbs 1 ≤ roundMagnitude larger.natAbs 1 :=
      roundMagnitude_mono (by omega)
    rw [roundedKey_of_nonneg nonneg, roundedKey_of_nonneg (by omega)]
    omega

theorem roundedKey_pos {units : Int} : 0 < roundedKey units ↔ 0 < units := by
  constructor
  · intro above
    by_contra nonpos
    have below : roundedKey units ≤ roundedKey 0 := roundedKey_mono (Int.not_lt.mp nonpos)
    exact absurd above (Int.not_lt.mpr below)
  · intro positive
    exact Int.lt_of_lt_of_le (by decide : 0 < roundedKey 1) (roundedKey_mono positive)

theorem number_of_key (sign : Bool) {magnitude : Nat} (fits : magnitude ≤ infinityMagnitude) :
    (ofMagnitude sign magnitude).isNaN = false := by
  have bound : magnitude < signWeight := Nat.lt_of_le_of_lt fits (by decide)
  simpa [isNaN, magnitude_ofMagnitude sign bound] using fits

theorem isInfinite_of_isFinite (finite : x.isFinite = true) : x.isInfinite = false := by
  simp only [isFinite, isInfinite, decide_eq_true_eq, beq_eq_false_iff_ne] at finite ⊢
  omega

theorem isInfinite_of_not_isFinite (number : x.isNaN = false) (infinite : ¬x.isFinite = true) :
    x.isInfinite = true := by
  simp only [isFinite, isNaN, isInfinite, decide_eq_true_eq, decide_eq_false_iff_not, beq_iff_eq]
    at infinite number ⊢
  omega

theorem add_finite (left : x.isFinite = true) (right : y.isFinite = true) :
    (x + y).isNaN = false ∧ (x + y).key = roundedKey (x.signedUnits + y.signedUnits) := by
  change (add x y).isNaN = false ∧ (add x y).key = _
  simp only [add, isNaN_of_isFinite left, isNaN_of_isFinite right, isInfinite_of_isFinite left,
    isInfinite_of_isFinite right, Bool.false_eq_true, if_false]
  split_ifs with zero
  · refine ⟨number_of_key _ (Nat.zero_le _), ?_⟩
    rw [key_ofMagnitude _ (by decide), zero]
    split_ifs <;> rfl
  · refine ⟨number_of_key _ (roundMagnitude_le _ _), ?_⟩
    rw [ofUnits, key_ofMagnitude _ (roundMagnitude_lt_signWeight _ _)]
    by_cases below : x.signedUnits + y.signedUnits < 0
    · simp only [below, decide_true, if_true, roundedKey_of_neg below]
    · simp only [below, decide_false, roundedKey_of_nonneg (Int.not_lt.mp below)]
      rfl

theorem add_infinite (left : x.isFinite = true) (right : y.isInfinite = true) : x + y = y := by
  have number : y.isNaN = false := by
    simp only [isInfinite, isNaN, beq_iff_eq, decide_eq_false_iff_not] at right ⊢
    omega
  change add x y = y
  simp [add, isNaN_of_isFinite left, isInfinite_of_isFinite left, number, right]

theorem sub_eq_add_neg (number : y.isNaN = false) : x - y = x + -y := by
  change sub x y = add x (neg y)
  simp [sub, number]

theorem add_le_add_right (left : x.isFinite = true) (right : y.isFinite = true)
    (number : z.isNaN = false) (le : x ≤ y) : x + z ≤ y + z := by
  by_cases finite : z.isFinite = true
  · obtain ⟨number, sum⟩ := add_finite left finite
    obtain ⟨larger, total⟩ := add_finite right finite
    refine ⟨number, larger, ?_⟩
    rw [sum, total]
    exact roundedKey_mono (Int.add_le_add_right (signedUnits_mono le.2.2) _)
  · have infinite := isInfinite_of_not_isFinite number finite
    rw [add_infinite left infinite, add_infinite right infinite]
    exact le_refl number

theorem sub_le_sub_right (left : x.isFinite = true) (right : y.isFinite = true)
    (number : z.isNaN = false) (le : x ≤ y) : x - z ≤ y - z := by
  rw [sub_eq_add_neg number, sub_eq_add_neg number]
  exact add_le_add_right left right ((isNaN_neg z).trans number) le

/-- A difference is undefined only for two infinities. -/
theorem isNaN_sub (left : x.isNaN = false) (right : y.isFinite = true) : (x - y).isNaN = false := by
  have negated : (-y).isFinite = true := by simpa [isFinite] using right
  rw [sub_eq_add_neg (isNaN_of_isFinite right)]
  by_cases finite : x.isFinite = true
  · exact (add_finite finite negated).1
  · have infinite := isInfinite_of_not_isFinite left finite
    change (add x (-y)).isNaN = false
    simp [add, left, isNaN_of_isFinite right, infinite, isInfinite_of_isFinite negated]

/-- The sum of a positive and a nonnegative number is positive. -/
theorem add_pos (left : x.isFinite = true) (right : y.isFinite = true) (positive : zero < x)
    (nonneg : zero ≤ y) : zero < x + y := by
  obtain ⟨number, sum⟩ := add_finite left right
  refine ⟨rfl, number, ?_⟩
  have first : 0 < x.signedUnits := signedUnits_strictMono (x := zero) positive.2.2
  have second : 0 ≤ y.signedUnits := signedUnits_mono (x := zero) nonneg.2.2
  rw [sum]
  exact roundedKey_pos.mpr (by omega)

/-- Rounding keeps the sign of a difference. -/
theorem zero_lt_sub (left : x.isFinite = true) (number : y.isNaN = false) : zero < x - y ↔ y < x := by
  have defined := isNaN_of_isFinite left
  rw [sub_eq_add_neg number]
  by_cases finite : y.isFinite = true
  · have negated : (-y).isFinite = true := by simpa [isFinite] using finite
    obtain ⟨sum, rounded⟩ := add_finite left negated
    have sign : zero < x + -y ↔ 0 < x.signedUnits + (-y).signedUnits := by
      rw [← roundedKey_pos, ← rounded]
      exact ⟨fun above => above.2.2, fun above => ⟨rfl, sum, above⟩⟩
    rw [sign, signedUnits_neg, lt_iff_signedUnits number defined]
    omega
  · have infinite := isInfinite_of_not_isFinite number finite
    have opposite : (-y).isInfinite = true := by simpa [isInfinite] using infinite
    rw [add_infinite left opposite, lt_iff, lt_iff, key_neg, isNaN_neg, and_iff_right number,
      and_iff_right defined, and_iff_right number, and_iff_right (show zero.isNaN = false from rfl)]
    simp only [isInfinite, beq_iff_eq] at infinite
    simp only [isFinite, decide_eq_true_eq] at left
    rw [show zero.key = 0 from rfl, key, key, infinite]
    split_ifs <;> omega

/-- The rational number that a finite number stands for. -/
def value (x : Binary64) : ℚ := x.signedUnits / unitsOfOne

theorem lt_iff_value (left : x.isNaN = false) (right : y.isNaN = false) :
    x < y ↔ x.value < y.value := by
  have positive : (0 : ℚ) < unitsOfOne := Nat.cast_pos.mpr unitsOfOne_pos
  rw [value, value, div_lt_div_iff_of_pos_right positive, Int.cast_lt]
  exact lt_iff_signedUnits left right

theorem value_pos (positive : zero < x) : 0 < x.value := by
  have above := (lt_iff_value positive.1 positive.2.1).mp positive
  rwa [value, show zero.signedUnits = 0 from rfl, Int.cast_zero, zero_div] at above

end Telemetry.Binary64
