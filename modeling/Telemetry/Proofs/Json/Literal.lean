import Telemetry.Proofs.Binary64.Scaling
import Telemetry.Proofs.Decimal.Nearest
import Telemetry.Proofs.Json.Spelling

/-! What the two values of a literal make of the text of a number. Its digits and its exponent fit machine
words, so the word value rounds it once, and the accumulated value is finite whenever the number is. -/
namespace Telemetry.Json
open Binary64

namespace Literal

section
variable {literal : Literal}

theorem accumulate_fits {digits : List Nat} {front : Nat}
    (fits : 10 ^ digits.length * front + digitsValue digits < UInt64.size) :
    accumulate front digits = (10 ^ digits.length * front + digitsValue digits, 0) := by
  induction digits generalizing front with
  | nil => simp [accumulate, digitsValue]
  | cons d digits ih =>
    have value : 10 ^ (d :: digits).length * front + digitsValue (d :: digits) =
        10 ^ digits.length * (10 * front + d) + digitsValue digits := by
      rw [digitsValue_cons, List.length_cons, Nat.pow_succ]
      ring
    rw [value] at fits ⊢
    have least := Nat.le_mul_of_pos_left (10 * front + d) (Nat.pow_pos (show 0 < 10 by decide) : 0 < 10 ^ digits.length)
    rw [accumulate, if_pos (by omega), ih fits]

/-- Of digits that fit, none is left or dropped. -/
theorem accumulated_eq (parted : literal.isWhole = false) (fits : literal.significand < UInt64.size)
    (small : 2 * literal.exponentValue.natAbs < UInt32.size) :
    literal.accumulated = (scale literal.significand literal.power).map fun x =>
      .real (if literal.negative then -x else x) := by
  have value : literal.significand =
      10 ^ literal.fraction.length * digitsValue literal.whole + digitsValue literal.fraction :=
    digitsValue_append _ _
  have least := Nat.le_mul_of_pos_left (digitsValue literal.whole)
    (Nat.pow_pos (show 0 < 10 by decide) : 0 < 10 ^ literal.fraction.length)
  have whole : accumulate 0 literal.whole = (digitsValue literal.whole, 0) := by
    have front : 10 ^ literal.whole.length * 0 + digitsValue literal.whole = digitsValue literal.whole := by simp
    rw [accumulate_fits (by omega), front]
  have all : accumulate (digitsValue literal.whole) literal.fraction = (literal.significand, 0) := by
    rw [value, accumulate_fits (by omega)]
  have power : ((0 : Nat) : Int) - ((literal.fraction.length - 0 : Nat) : Int) + literal.exponentValue =
      literal.power := by
    rw [Literal.power]
    omega
  simp only [accumulated, whole, all, parted, power, Bool.false_and, Bool.false_eq_true, if_false,
    if_neg (Nat.not_le.mpr small)]

theorem exponentRefused_of_small (small : 2 * literal.exponentValue.natAbs < UInt32.size) :
    literal.exponentRefused = false := by
  have shorter (digits : List Nat) : digitsValue digits.dropLast ≤ digitsValue digits := by
    by_cases none : digits = []
    · rw [none]
      exact Nat.le_refl _
    · have value := digitsValue_append digits.dropLast [digits.getLast none]
      rw [List.dropLast_concat_getLast] at value
      rw [value]
      exact Nat.le_add_right_of_le (Nat.le_mul_of_pos_left _ (Nat.pow_pos (by decide)))
  cases part : literal.exponent with
  | none => simp [exponentRefused, part]
  | some part' =>
    obtain ⟨negative, digits⟩ := part'
    have size : literal.exponentValue.natAbs = digitsValue digits := by
      cases negative <;> simp [exponentValue, part]
    have below := shorter digits
    simp only [exponentRefused, part, decide_eq_false_iff_not]
    omega

/-- Reduced to machine words, a significand and an exponent that fit them are the same. -/
theorem reduced_eq (fits : literal.significand < UInt64.size) (small : 2 * literal.power.natAbs < UInt32.size) :
    literal.reduced = literal.spelled := by
  have significand : digitsValue (literal.whole ++ literal.fraction) % UInt64.size = literal.significand :=
    Nat.mod_eq_of_lt fits
  have power : Int.bmod (literal.exponentValue - literal.fraction.length) UInt32.size = literal.power := by
    have power : literal.exponentValue - literal.fraction.length = literal.power := rfl
    rw [power]
    exact Int.bmod_eq_of_le (by omega) (by omega)
  have spelled : literal.spelled = Decimal.nearest literal.negative ⟨literal.significand, literal.power⟩ := rfl
  simp only [reduced, significand, power]
  split_ifs with zero near normal
  · rw [spelled, zero, Decimal.nearest, if_pos (.inl rfl)]
  · rw [spelled, Decimal.nearest_eq, ← Decimal.ofDecimal_eq]
  · rfl
  · rfl

theorem word_eq (parted : literal.isWhole = false) (kept : literal.exponentRefused = false)
    (fits : literal.significand < UInt64.size) (small : 2 * literal.power.natAbs < UInt32.size) :
    literal.word = if literal.spelled.isFinite then some (.real literal.spelled) else none := by
  simp only [word, parted, kept, reduced_eq fits small, ite_self, Bool.false_eq_true, if_false]

end

/-- A whole number as it is written. -/
def ofNat (n : Nat) : Literal := ⟨false, decimalDigits n, [], none, false⟩

theorem ofNat_formed (n : Nat) : (ofNat n).WellFormed where
  whole := decimalDigits_ne_nil n
  leading := by
    intro head
    have zero := eq_zero_of_head head
    rw [zero]
    rfl
  wholeDecimals := decimals_decimalDigits n
  fractionDecimals := nofun
  exponent := nofun
  short := rfl

theorem accumulated_ofNat {n : Nat} (fits : n < UInt64.size) : (ofNat n).accumulated = some (.integer n) := by
  have value : 10 ^ (decimalDigits n).length * 0 + digitsValue (decimalDigits n) = n := by
    rw [digitsValue_decimalDigits, Nat.mul_zero, Nat.zero_add]
  have digits : accumulate 0 (decimalDigits n) = (n, 0) := by
    rw [accumulate_fits (by rwa [value]), value]
  simp [accumulated, ofNat, digits, isWhole]

theorem word_ofNat {n : Nat} (fits : n < UInt64.size) (long : Bool) :
    ({ ofNat n with long := long } : Literal).word = some (.integer n) := by
  simp [word, ofNat, isWhole, digitsValue_decimalDigits, fits]

end Literal

/-- A literal that stands for a decimal with zeros behind its digits, and fits machine words. -/
structure Literal.Stands (literal : Literal) (d : Decimal) (zeros : Nat) : Prop where
  parted : literal.isWhole = false
  significand : literal.significand = d.coefficient * 10 ^ zeros
  power : literal.power = d.exponent - zeros
  scaled : literal.power < 0 ∨ zeros = 0
  fits : literal.significand ≤ 10 ^ 17
  near : literal.power.natAbs < 1000
  exponent : literal.exponentValue.natAbs < 1000

section
variable {d : Decimal}

theorem positionalLiteral_stands (digits : d.coefficient ≤ 10 ^ 17) (few : d.width + d.exponent ≤ 16)
    (near : d.exponent.natAbs < 500) : ∃ zeros, (positionalLiteral d).Stands d zeros := by
  obtain ⟨zeros, significand, power, below, shape⟩ := @positionalLiteral_value d
  have places : (positionalLiteral d).exponentValue = 0 := by
    unfold positionalLiteral
    dsimp only
    split_ifs <;> rfl
  refine ⟨zeros, ?_, significand, power, .inl below, ?_, ?_, ?_⟩
  · have fraction : (positionalLiteral d).fraction ≠ [] := by
      intro none
      rw [Literal.power, places, none] at below
      exact absurd below (by decide)
    simp [Literal.isWhole, fraction]
  · rcases shape with rfl | ⟨-, bound⟩
    · rw [significand, pow_zero, Nat.mul_one]
      exact digits
    · exact Nat.le_of_lt (Nat.lt_of_lt_of_le bound (Nat.pow_le_pow_right (by decide) (by omega)))
  · omega
  · rw [places]
    decide

theorem scientificLiteral_stands (digits : d.coefficient ≤ 10 ^ 17) (near : d.exponent.natAbs < 500) :
    (scientificLiteral d).Stands d 0 := by
  obtain ⟨significand, power⟩ := @scientificLiteral_value d
  have width : (decimalDigits d.coefficient).length ≤ 18 := by
    rw [length_decimalDigits, Nat.length_toDigits_le_iff (by decide) (by decide)]
    exact Nat.lt_of_le_of_lt digits (by decide)
  refine ⟨?_, by simpa using significand, by simpa using power, .inr rfl, by rwa [significand], ?_, ?_⟩
  · simp [Literal.isWhole, scientificLiteral]
  · omega
  · have value : (scientificLiteral d).exponentValue = (decimalDigits d.coefficient).length + d.exponent - 1 :=
      exponentValue_leading _ _ _
    rw [value]
    omega

theorem unsignedLiteral_stands {style : NumberStyle} (highest : style.highest = some 15)
    (digits : d.coefficient ≤ 10 ^ 17) (near : d.exponent.natAbs < 500) :
    ∃ zeros, (unsignedLiteral style d).Stands d zeros := by
  rw [unsignedLiteral]
  split
  · rename_i positional
    rw [NumberStyle.positional, highest] at positional
    have few : d.width + d.exponent - 1 ≤ 15 := by simpa using (Bool.and_eq_true_iff.mp positional).2
    exact positionalLiteral_stands digits (by omega) near
  · exact ⟨0, scientificLiteral_stands digits near⟩

end

section
variable {style : NumberStyle} {x : Binary64}

theorem shortest_canonical (tie : Tie) (x : Binary64) : Canonical (Decimal.shortest tie x) := by
  intro nothing
  rcases Nat.eq_zero_or_pos x.magnitude with zero | some
  · rw [Decimal.shortest, if_pos zero]
  · exact absurd nothing (Nat.ne_of_gt (Decimal.shortest_coefficient tie some).1)

/-- The literal that a style writes for a number. -/
def numeral (style : NumberStyle) (x : Binary64) : Literal :=
  literalOf style x.negative (Decimal.shortest style.tie x)

theorem numeral_formed (style : NumberStyle) (x : Binary64) : (numeral style x).WellFormed :=
  literalOf_formed style x.negative (shortest_canonical style.tie x)

theorem numeral_stands (highest : style.highest = some 15) (x : Binary64) :
    ∃ zeros, (numeral style x).Stands (Decimal.shortest style.tie x) zeros := by
  have digits : (Decimal.shortest style.tie x).coefficient ≤ 10 ^ 17 := by
    rcases Nat.eq_zero_or_pos x.magnitude with zero | some
    · rw [Decimal.shortest, if_pos zero]
      exact Nat.zero_le _
    · exact (Decimal.shortest_coefficient style.tie some).2
  obtain ⟨lowest, greatest⟩ := Decimal.shortest_exponent style.tie x
  obtain ⟨zeros, parted, significand, power, scaled, fits, near, exponent⟩ :=
    unsignedLiteral_stands highest digits (show _ < 500 by omega)
  exact ⟨zeros, parted, significand, power, scaled, fits, near, exponent⟩

/-- Read as one word, the text of a finite number gives the number, and that of any other is refused. -/
theorem word_numeral (highest : style.highest = some 15) (x : Binary64) (long : Bool) :
    ({ numeral style x with long := long } : Literal).word = if x.isFinite then some (.real x) else none := by
  obtain ⟨zeros, parted, significand, power, -, fits, near, exponent⟩ := numeral_stands highest x
  have kept := Literal.exponentRefused_of_small (show 2 * (numeral style x).exponentValue.natAbs < UInt32.size by
    change _ < 2 ^ 32
    omega)
  have spelled : (numeral style x).spelled =
      Binary64.ofMagnitude x.negative (min x.magnitude Binary64.infinityMagnitude) := by
    rw [← Decimal.nearest_shortest style.tie x zeros]
    change Decimal.nearest x.negative ⟨(numeral style x).significand, (numeral style x).power⟩ = _
    rw [significand, power]
    rfl
  have word : ({ numeral style x with long := long } : Literal).word =
      if (numeral style x).spelled.isFinite then some (.real (numeral style x).spelled) else none :=
    Literal.word_eq parted kept (Nat.lt_of_le_of_lt fits (by decide)) (by
      change 2 * (numeral style x).power.natAbs < 2 ^ 32
      omega)
  rw [word, spelled, isFinite_ofMagnitude _ (Nat.lt_of_le_of_lt (Nat.min_le_right ..) (by decide))]
  by_cases finite : x.isFinite = true
  · have magnitude : x.magnitude < infinityMagnitude := of_decide_eq_true finite
    rw [Nat.min_eq_left (Nat.le_of_lt magnitude), Decimal.ofMagnitude_self]
    rfl
  · have magnitude : ¬x.magnitude < infinityMagnitude := by simpa [isFinite] using finite
    rw [Nat.min_eq_right (Nat.not_lt.mp magnitude), if_neg finite]
    rfl

end

namespace Literal

theorem magnitude_powerOfTen_mono {n larger : Nat} (le : n ≤ larger) :
    (powerOfTen n).magnitude ≤ (powerOfTen larger).magnitude := by
  have magnitude (n : Nat) : (powerOfTen n).magnitude = roundMagnitude (1 * 10 ^ n * unitsOfOne) 1 := by
    have eq : powerOfTen n = ofMagnitude false (roundMagnitude (1 * 10 ^ n * unitsOfOne) (10 ^ (-(n : Int)).toNat)) :=
      rfl
    rw [eq, Int.toNat_neg_natCast, magnitude_ofMagnitude _ (roundMagnitude_lt_signWeight _ _), pow_zero]
  rw [magnitude, magnitude]
  exact roundMagnitude_mono (Nat.mul_le_mul_right _ (Nat.mul_le_mul_left _ (Nat.pow_le_pow_right (by decide) le)))

theorem powerOfTen_spec {n : Nat} (small : n ≤ 308) :
    (powerOfTen n).isFinite = true ∧ unitsOfOne ≤ (powerOfTen n).units := by
  obtain ⟨least, most⟩ : unitsOfOne = (powerOfTen 0).units ∧ (powerOfTen 308).magnitude < infinityMagnitude := by
    decide +kernel
  refine ⟨decide_eq_true (Nat.lt_of_le_of_lt (magnitude_powerOfTen_mono small) most), ?_⟩
  rw [least]
  exact units_mono (magnitude_powerOfTen_mono (Nat.zero_le n))

theorem scaleDown_finite {x : Binary64} (finite : x.isFinite = true) (n : Nat) :
    (scaleDown x n).isFinite = true := by
  fun_induction scaleDown x n with
  | case1 x n small =>
    obtain ⟨power, large⟩ := powerOfTen_spec small
    exact div_finite finite power large
  | case2 x n large zero => exact finite
  | case3 x n large some ih =>
    obtain ⟨power, large⟩ := powerOfTen_spec (Nat.le_refl 308)
    exact ih (div_finite finite power large)

theorem ofNat_finite {n : Nat} (fits : n ≤ 10 ^ 17) : (Binary64.ofNat n).isFinite = true := by
  have large : 2 * (10 ^ 17 * unitsOfOne) < limit * 1 := by decide +kernel
  refine (isFinite_ofUnits false (by decide)).mpr (Nat.lt_of_le_of_lt ?_ large)
  exact Nat.mul_le_mul_left _ (Nat.mul_le_mul_right _ fits)

theorem units_ofNat_mono {n larger : Nat} (le : n ≤ larger) :
    (Binary64.ofNat n).units ≤ (Binary64.ofNat larger).units := by
  have magnitude (n : Nat) : (Binary64.ofNat n).magnitude = roundMagnitude (n * unitsOfOne) 1 :=
    magnitude_ofMagnitude _ (roundMagnitude_lt_signWeight _ _)
  refine units_mono ?_
  rw [magnitude, magnitude]
  exact roundMagnitude_mono (Nat.mul_le_mul_right _ le)

/-- The most digits that are scaled by a power of ten without passing the greatest number. -/
def ceiling (exponent : Nat) : Nat := min (10 ^ 17) (Decimal.greatestDigits * 10 ^ 292 / 10 ^ exponent)

theorem ceiling_whole : 10 ^ 17 ≤ ceiling (291 + 0) := by
  obtain ⟨places, places_eq⟩ : ∃ places, places = 291 := ⟨_, rfl⟩
  rw [ceiling, show 292 = places + 1 by rw [places_eq], show 291 + 0 = places by rw [places_eq]]
  refine Nat.le_min.mpr ⟨Nat.le_refl _, (Nat.le_div_iff_mul_le (Nat.pow_pos (by decide))).mpr ?_⟩
  calc
    10 ^ 17 * 10 ^ places ≤ Decimal.greatestDigits * 10 * 10 ^ places := Nat.mul_le_mul_right _ (by decide)
    _ = Decimal.greatestDigits * 10 ^ (places + 1) := by ring

/-- A product of two rounded factors stays finite, also for the powers of ten with which it is near the limit. -/
theorem ceiling_finite : ∀ further < 18,
    2 * ((Binary64.ofNat (ceiling (291 + further))).units * (powerOfTen (291 + further)).units) <
      limit * unitsOfOne := by
  decide +kernel

theorem product_finite {digits exponent : Nat} (few : digits ≤ 10 ^ 17) (most : exponent < 309)
    (small : digits * 10 ^ exponent ≤ Decimal.greatestDigits * 10 ^ 292) :
    (Binary64.ofNat digits * powerOfTen exponent).isFinite = true := by
  have finite {digits exponent further : Nat} (few : digits ≤ ceiling (291 + further)) (near : further < 18)
      (within : exponent ≤ 291 + further) : (Binary64.ofNat digits * powerOfTen exponent).isFinite = true := by
    have power := (powerOfTen_spec (show exponent ≤ 308 by omega)).1
    have factor := units_mono (magnitude_powerOfTen_mono within)
    refine mul_finite (ofNat_finite (Nat.le_trans few (Nat.min_le_left ..))) power
      (Nat.lt_of_le_of_lt ?_ (ceiling_finite further near))
    exact Nat.mul_le_mul_left _ (Nat.mul_le_mul (units_ofNat_mono few) factor)
  have under : digits ≤ ceiling exponent :=
    Nat.le_min.mpr ⟨few, (Nat.le_div_iff_mul_le (Nat.pow_pos (by decide))).mpr small⟩
  rcases Nat.lt_or_ge exponent 291 with below | near
  · exact finite (Nat.le_trans few ceiling_whole) (by decide) (Nat.le_of_lt below)
  · obtain ⟨further, rfl⟩ := Nat.exists_eq_add_of_le near
    exact finite under (by omega) (Nat.le_refl _)

theorem scale_whole {digits exponent : Nat} (few : digits ≤ 10 ^ 17) (most : exponent < 309)
    (small : digits * 10 ^ exponent ≤ Decimal.greatestDigits * 10 ^ 292) :
    ∃ x, scale digits exponent = some x ∧ x.isFinite = true := by
  have product := product_finite few most small
  have least : ¬(exponent : Int) < 0 := by omega
  have within : (exponent : Int) ≤ 308 := by omega
  refine ⟨_, ?_, product⟩
  simp only [scale, if_neg least, if_pos within, Int.toNat_natCast, isInfinite_of_isFinite product,
    Bool.false_eq_true, if_false]

end Literal

/-- Accumulated, the text of a finite number gives some finite number. -/
theorem accumulated_numeral {style : NumberStyle} (highest : style.highest = some 15) {x : Binary64}
    (finite : x.isFinite = true) : ∃ y, y.isFinite = true ∧ (numeral style x).accumulated = some (.real y) := by
  obtain ⟨zeros, parted, significand, power, scaled, fits, near, exponent⟩ := numeral_stands highest x
  have read := Literal.accumulated_eq parted (Nat.lt_of_le_of_lt fits (by decide)) (by
    change _ < 2 ^ 32
    omega)
  have scale : ∃ y, Literal.scale (numeral style x).significand (numeral style x).power = some y ∧
      y.isFinite = true := by
    by_cases below : (numeral style x).power < 0
    · refine ⟨_, ?_, Literal.scaleDown_finite (Literal.ofNat_finite fits) (-(numeral style x).power).toNat⟩
      rw [Literal.scale, if_pos below]
    · obtain rfl : zeros = 0 := scaled.resolve_left below
      obtain ⟨e, whole⟩ := Int.eq_ofNat_of_zero_le (Int.not_lt.mp below)
      have exponent : (Decimal.shortest style.tie x).exponent = e := by omega
      obtain ⟨most, small⟩ := Decimal.shortest_le_greatest finite style.tie exponent
      rw [pow_zero, Nat.mul_one] at significand
      rw [whole, significand]
      exact Literal.scale_whole (significand ▸ fits) most small
  obtain ⟨y, scale, number⟩ := scale
  rw [read, scale]
  refine ⟨_, ?_, rfl⟩
  split
  · simpa [isFinite] using number
  · exact number

end Telemetry.Json
