import Telemetry.Proofs.Decimal.Shortest

/-! Reading a decimal rounds its exact value, and the shortest decimal of a number is read as the number.
The shortcuts for huge and tiny exponents change nothing. -/
namespace Telemetry.Decimal
open Binary64

theorem width_bounds {d : Decimal} (some : d.coefficient ≠ 0) :
    0 < d.width ∧ 10 ^ (d.width - 1) ≤ d.coefficient ∧ d.coefficient < 10 ^ d.width := by
  have width : d.width = (Nat.toDigits 10 d.coefficient).length := by
    rw [Decimal.width, ← String.length_toList, Nat.toString_eq_repr, Nat.toList_repr]
  have positive : 0 < d.width := width ▸ List.length_pos_iff.mpr Nat.toDigits_ne_nil
  have digits (k : Nat) (k_pos : 0 < k) : d.width ≤ k ↔ d.coefficient < 10 ^ k :=
    width ▸ Nat.length_toDigits_le_iff (by decide) k_pos
  refine ⟨positive, ?_, (digits d.width positive).mp (Nat.le_refl _)⟩
  rcases Nat.eq_zero_or_pos (d.width - 1) with single | more
  · rw [single]
    exact Nat.pos_of_ne_zero some
  · exact Nat.not_lt.mp fun small => absurd ((digits _ more).mpr small) (by omega)

/-- Powers of ten around the smallest unit and the greatest finite number. -/
theorem range_bounds : 2 * unitsOfOne ≤ 10 ^ 331 ∧ halfway (infinityMagnitude - 1) < 2 * (10 ^ 310 * unitsOfOne) := by
  decide +kernel

theorem roundMagnitude_zero {den : Nat} (positive : 0 < den) : roundMagnitude 0 den = 0 := by
  have none : ¬0 < roundMagnitude 0 den := by
    rw [lt_roundMagnitude positive (by decide)]
    simp
  omega

/-- Less than half a unit is nothing. -/
theorem roundMagnitude_tiny {d : Decimal} (some : d.coefficient ≠ 0) (tiny : (d.width : Int) + d.exponent < -330) :
    roundMagnitude d.numerator d.denominator = 0 := by
  have whole : d.exponent.toNat = 0 := by omega
  -- The exponent stays a name, so that no step evaluates the power.
  obtain ⟨places, places_eq⟩ : ∃ places, places = 331 := ⟨_, rfl⟩
  have half : 2 * unitsOfOne ≤ 10 ^ places := places_eq ▸ range_bounds.1
  have small : 2 * d.numerator < halfway 0 * d.denominator := by
    calc
      2 * d.numerator = d.coefficient * (2 * unitsOfOne) := by
        rw [numerator, whole]
        change 2 * (d.coefficient * 1 * unitsOfOne) = _
        ring
      _ ≤ d.coefficient * 10 ^ places := Nat.mul_le_mul_left _ half
      _ < 10 ^ d.width * 10 ^ places :=
        Nat.mul_lt_mul_of_pos_right (width_bounds some).2.2 (Nat.pow_pos (by decide))
      _ = 10 ^ (d.width + places) := (Nat.pow_add 10 d.width places).symm
      _ ≤ 10 ^ (-d.exponent).toNat := Nat.pow_le_pow_right (by decide) (by omega)
      _ = halfway 0 * d.denominator := (Nat.one_mul _).symm
  have none : ¬0 < roundMagnitude d.numerator d.denominator := by
    rw [lt_roundMagnitude d.denominator_pos (by decide)]
    omega
  omega

/-- Past the last finite number lies the infinity. -/
theorem roundMagnitude_huge {d : Decimal} (some : d.coefficient ≠ 0) (huge : 310 < (d.width : Int) + d.exponent) :
    roundMagnitude d.numerator d.denominator = infinityMagnitude := by
  obtain ⟨-, least, -⟩ := width_bounds some
  obtain ⟨places, places_eq⟩ : ∃ places, places = 310 := ⟨_, rfl⟩
  have limit : halfway (infinityMagnitude - 1) < 2 * (10 ^ places * unitsOfOne) := places_eq ▸ range_bounds.2
  have past : 10 ^ places * d.denominator ≤ d.coefficient * 10 ^ d.exponent.toNat := by
    calc
      10 ^ places * d.denominator = 10 ^ (places + (-d.exponent).toNat) := (Nat.pow_add 10 places _).symm
      _ ≤ 10 ^ (d.width - 1 + d.exponent.toNat) := Nat.pow_le_pow_right (by decide) (by omega)
      _ = 10 ^ (d.width - 1) * 10 ^ d.exponent.toNat := Nat.pow_add 10 _ _
      _ ≤ d.coefficient * 10 ^ d.exponent.toNat := Nat.mul_le_mul_right _ least
  have large : halfway (infinityMagnitude - 1) * d.denominator < 2 * d.numerator := by
    calc
      halfway (infinityMagnitude - 1) * d.denominator < 2 * (10 ^ places * unitsOfOne) * d.denominator :=
        Nat.mul_lt_mul_of_pos_right limit d.denominator_pos
      _ = 2 * (10 ^ places * d.denominator * unitsOfOne) := by ring
      _ ≤ 2 * d.numerator := Nat.mul_le_mul_left _ (Nat.mul_le_mul_right _ past)
  have least : infinityMagnitude - 1 < roundMagnitude d.numerator d.denominator := by
    rw [lt_roundMagnitude d.denominator_pos (by decide)]
    exact .inl large
  have most := roundMagnitude_le d.numerator d.denominator
  omega

theorem nearest_eq (sign : Bool) (d : Decimal) :
    nearest sign d = ofMagnitude sign (roundMagnitude d.numerator d.denominator) := by
  rw [nearest]
  by_cases zero : d.coefficient = 0
  · have nothing : d.numerator = 0 := by rw [numerator, zero, Nat.zero_mul, Nat.zero_mul]
    rw [if_pos (.inl zero), nothing, roundMagnitude_zero d.denominator_pos]
  · split_ifs with tiny huge
    · rw [roundMagnitude_tiny zero (tiny.resolve_left zero)]
    · rw [roundMagnitude_huge zero huge]
      rfl
    · rfl

theorem ofMagnitude_self (x : Binary64) : ofMagnitude x.negative x.magnitude = x := by
  have division := Nat.div_add_mod x.bits.toNat signWeight
  have bit : x.bits.toNat / signWeight < 2 := 
    Nat.div_lt_of_lt_mul x.bits.toNat_lt
  have sign : (if x.negative then signWeight else 0) = signWeight * (x.bits.toNat / signWeight) := by
    rw [negative]
    generalize x.bits.toNat / signWeight = high at bit
    obtain rfl | rfl : high = 0 ∨ high = 1 := by omega
    · rfl
    · rfl
  rw [ofMagnitude, magnitude, sign, division, UInt64.ofNat_toNat]

/-- The shortest decimal, with any zeros appended, is read as the number that it was written for, and
as an infinity when there is none. -/
theorem nearest_shortest (tie : Tie) (x : Binary64) (zeros : Nat) :
    nearest x.negative ((shortest tie x).shift zeros) =
      ofMagnitude x.negative (min x.magnitude infinityMagnitude) := by
  rw [nearest_eq, roundMagnitude_shift]
  rcases Nat.eq_zero_or_pos x.magnitude with zero | some
  · have nothing : (shortest tie x).numerator = 0 := by
      rw [shortest, if_pos zero]
      rfl
    rw [nothing, roundMagnitude_zero (denominator_pos _), zero]
    rfl
  · rw [shortest_rounds tie some]

/-- Digits of the shortest decimal of the greatest finite number. -/
def greatestDigits : Nat := 17976931348623157

theorem shortest_of_magnitude_eq {x : Binary64} (greatest : x.magnitude = infinityMagnitude - 1) (tie : Tie) :
    shortest tie x = ⟨greatestDigits, 292⟩ := by
  have each : ∀ tie ∈ [Tie.even, Tie.up], ∀ sign,
      shortest tie (ofMagnitude sign (infinityMagnitude - 1)) = ⟨greatestDigits, 292⟩ := by decide +kernel
  rw [← ofMagnitude_self x, greatest]
  exact each tie (by cases tie <;> simp) x.negative

/-- The decimal with one more in its last digit is read as the greatest number too, so it is not shortest. -/
theorem shortest_ne_past {x : Binary64} (finite : x.isFinite = true) (tie : Tie) :
    shortest tie x ≠ ⟨greatestDigits + 1, 292⟩ := by
  intro past
  have magnitude : x.magnitude < infinityMagnitude := of_decide_eq_true finite
  have some : 0 < x.magnitude := by
    refine Nat.pos_of_ne_zero fun zero => ?_
    rw [shortest, if_pos zero] at past
    cases past
  have rounds := shortest_rounds tie some
  have read : roundMagnitude (numerator ⟨greatestDigits + 1, 292⟩) (denominator ⟨greatestDigits + 1, 292⟩) =
      infinityMagnitude - 1 := by decide +kernel
  rw [past, read] at rounds
  have greatest := shortest_of_magnitude_eq (show x.magnitude = infinityMagnitude - 1 by omega) tie
  rw [past] at greatest
  cases greatest

theorem shortest_whole_lt {x : Binary64} (finite : x.isFinite = true) (some : 0 < x.magnitude) (tie : Tie)
    {exponent : Nat} (whole : (shortest tie x).exponent = exponent) :
    (shortest tie x).coefficient * 10 ^ exponent < (greatestDigits + 2) * 10 ^ 292 := by
  have magnitude : x.magnitude < infinityMagnitude := of_decide_eq_true finite
  have limit : halfway (infinityMagnitude - 1) < 2 * ((greatestDigits + 2) * 10 ^ 292 * unitsOfOne) := by
    decide +kernel
  have numerator_eq : (shortest tie x).numerator = (shortest tie x).coefficient * 10 ^ exponent * unitsOfOne := by
    rw [numerator, whole]
    rfl
  have denominator_eq : (shortest tie x).denominator = 1 := by
    rw [denominator, whole, Int.toNat_neg_natCast]
  have most := shortest_le tie some
  rw [numerator_eq, denominator_eq, Nat.mul_one] at most
  have bound := Nat.lt_of_le_of_lt (Nat.le_trans most (halfway_mono (Nat.le_sub_one_of_lt magnitude))) limit
  exact Nat.lt_of_mul_lt_mul_right (Nat.lt_of_mul_lt_mul_left bound)

theorem shortest_whole_le {x : Binary64} (finite : x.isFinite = true) (some : 0 < x.magnitude) (tie : Tie)
    {exponent : Nat} (whole : (shortest tie x).exponent = exponent) :
    (shortest tie x).coefficient * 10 ^ exponent ≤ greatestDigits * 10 ^ 292 := by
  have unlike := shortest_ne_past finite tie
  have bound := shortest_whole_lt finite some tie whole
  obtain ⟨places, places_eq⟩ : ∃ places, places = 292 := ⟨_, rfl⟩
  rw [← places_eq] at bound ⊢
  rcases Nat.lt_or_ge exponent places with fewer | further
  · calc
      (shortest tie x).coefficient * 10 ^ exponent ≤ 10 ^ 17 * 10 ^ exponent :=
        Nat.mul_le_mul_right _ (shortest_coefficient tie some).2
      _ = 10 ^ 16 * 10 ^ (exponent + 1) := by ring
      _ ≤ greatestDigits * 10 ^ places :=
        Nat.mul_le_mul (by decide) (Nat.pow_le_pow_right (by decide) fewer)
  · obtain ⟨zeros, rfl⟩ := Nat.exists_eq_add_of_le further
    have split : (shortest tie x).coefficient * 10 ^ (places + zeros) =
        (shortest tie x).coefficient * 10 ^ zeros * 10 ^ places := by ring
    rw [split] at bound ⊢
    have digits := Nat.le_of_lt_succ (Nat.lt_of_mul_lt_mul_right bound)
    refine Nat.mul_le_mul_right _ (Nat.le_of_lt_succ (Nat.lt_of_le_of_ne digits fun past => ?_))
    -- One past the greatest ends in an 8, so there are no zeros.
    cases zeros with
    | zero =>
      refine unlike ?_
      rw [pow_zero, Nat.mul_one] at past
      generalize shortest tie x = d at past whole
      obtain ⟨coefficient, exponent⟩ := d
      cases past
      cases whole
      rw [Nat.add_zero, places_eq]
      rfl
    | succ zeros =>
      rw [Nat.pow_succ, ← Nat.mul_assoc, greatestDigits] at past
      omega

/-- No whole shortest decimal of a finite number lies past that of the greatest one. -/
theorem shortest_le_greatest {x : Binary64} (finite : x.isFinite = true) (tie : Tie) {exponent : Nat}
    (whole : (shortest tie x).exponent = exponent) :
    exponent < 309 ∧ (shortest tie x).coefficient * 10 ^ exponent ≤ greatestDigits * 10 ^ 292 := by
  rcases Nat.eq_zero_or_pos x.magnitude with zero | some
  · rw [shortest, if_pos zero] at whole ⊢
    obtain rfl : exponent = 0 := Int.natCast_eq_zero.mp whole.symm
    exact ⟨by decide, Nat.zero_le _⟩
  · have most := shortest_whole_le finite some tie whole
    refine ⟨?_, most⟩
    obtain ⟨places, places_eq⟩ : ∃ places, places = 292 := ⟨_, rfl⟩
    rw [← places_eq] at most
    have power : 10 ^ exponent < 10 ^ (17 + places) := by
      calc
        10 ^ exponent ≤ (shortest tie x).coefficient * 10 ^ exponent :=
          Nat.le_mul_of_pos_left _ (shortest_coefficient tie some).1
        _ ≤ greatestDigits * 10 ^ places := most
        _ < 10 ^ 17 * 10 ^ places := Nat.mul_lt_mul_of_pos_right (by decide) (Nat.pow_pos (by decide))
        _ = 10 ^ (17 + places) := (Nat.pow_add 10 17 places).symm
    have fewer := (Nat.pow_lt_pow_iff_right (by decide)).mp power
    omega

end Telemetry.Decimal
