import Telemetry.Duration
import Telemetry.Proofs.Binary64.Halfway
import Mathlib.Tactic.Linarith

/-! Seconds as whole nanoseconds. A number of seconds that is finite and not negative has a duration exactly
when it lies below the limit, and the duration is then off by half a nanosecond at most. -/
namespace Telemetry

namespace Binary64
variable {x : Binary64} {num den : Nat}

theorem roundedQuotient_eq (num den : Nat) : roundedQuotient num den = nearest num den := rfl

/-- Half of the divisor or less is rounded to nothing. -/
theorem roundedQuotient_eq_zero_iff (num : Nat) (positive : 0 < den) : roundedQuotient num den = 0 ↔ 2 * num ≤ den := by
  have passed : 0 < nearest num den ↔ _ := lt_nearest positive
  rw [roundedQuotient_eq]
  omega

theorem roundedQuotient_bounds (num : Nat) (positive : 0 < den) :
    2 * roundedQuotient num den * den ≤ 2 * num + den ∧
      2 * num ≤ 2 * roundedQuotient num den * den + den := by
  have passed (bound : Nat) : bound < nearest num den ↔ _ := lt_nearest positive
  simp only [Nat.add_mul, Nat.one_mul] at passed
  rw [roundedQuotient_eq]
  constructor
  · rcases Nat.eq_zero_or_eq_succ_pred (nearest num den) with none | some
    · simp [none]
    · have before := (passed (nearest num den).pred).mp (by omega)
      rw [some, Nat.succ_eq_add_one, Nat.mul_add, Nat.add_mul]
      omega
  · have after := mt (passed (nearest num den)).mpr (Nat.lt_irrefl _)
    omega

theorem abs_roundedQuotient_sub_le (num : Nat) (positive : 0 < den) :
    |(roundedQuotient num den : ℚ) - num / den| ≤ 1 / 2 := by
  have step : (0 : ℚ) < den := Nat.cast_pos.mpr positive
  obtain ⟨upper, lower⟩ := roundedQuotient_bounds num positive
  have upper_cast : (2 * roundedQuotient num den * den : ℚ) ≤ 2 * num + den := by exact_mod_cast upper
  have lower_cast : (2 * num : ℚ) ≤ 2 * roundedQuotient num den * den + den := by exact_mod_cast lower
  have quotient : (num / den : ℚ) * den = num := div_mul_cancel₀ _ step.ne'
  rw [abs_sub_le_iff]
  constructor
  · refine le_of_mul_le_mul_right ?_ step
    linarith
  · refine le_of_mul_le_mul_right ?_ step
    linarith

theorem div_le_half_iff (positive : 0 < den) : (num / den : ℚ) ≤ 1 / 2 ↔ 2 * num ≤ den := by
  rw [div_le_div_iff₀ (Nat.cast_pos.mpr positive) two_pos, one_mul, mul_comm]
  exact_mod_cast Iff.rfl

theorem value_eq_units (nonneg : zero ≤ x) : x.value = x.units / unitsOfOne := by
  have sign : 0 ≤ x.signedUnits := signedUnits_mono (x := zero) nonneg.2.2
  have whole : x.signedUnits = x.units := by
    rw [signedUnits] at sign ⊢
    split_ifs at sign ⊢ <;> omega
  rw [value, whole, Int.cast_natCast]

end Binary64

namespace Duration
variable {seconds : Binary64}

theorem limit_le_units_iff (nonneg : Binary64.zero ≤ seconds) :
    secondLimit * Binary64.unitsOfOne ≤ seconds.units ↔ 2 ^ 64 ≤ seconds.value := by
  have positive : (0 : ℚ) < Binary64.unitsOfOne := Nat.cast_pos.mpr Binary64.unitsOfOne_pos
  have limit : (secondLimit : ℚ) = 2 ^ 64 := by norm_num [secondLimit, UInt64.size]
  rw [Binary64.value_eq_units nonneg, le_div_iff₀ positive, ← limit]
  exact_mod_cast Iff.rfl

/-- A duration is off by half a nanosecond at most, and half a nanosecond or less is none. -/
theorem ofSeconds_below (finite : seconds.isFinite = true) (nonneg : Binary64.zero ≤ seconds)
    (below : seconds.value < 2 ^ 64) :
    ∃ duration, ofSeconds seconds = .ok duration ∧
      |(duration.nanoseconds : ℚ) - seconds.value * 10 ^ 9| ≤ 1 / 2 ∧
      (duration = zero ↔ seconds.value * 10 ^ 9 ≤ 1 / 2) := by
  have unsigned := (Binary64.not_lt nonneg.2.1 nonneg.1).mpr nonneg
  have short := mt (limit_le_units_iff nonneg).mp (not_le.mpr below)
  have answer : ofSeconds seconds =
      .ok ⟨Binary64.roundedQuotient (seconds.units * nanosecondsPerSecond) Binary64.unitsOfOne⟩ := by
    simp [ofSeconds, unsigned, finite, short]
  have exact : ((seconds.units * nanosecondsPerSecond : Nat) : ℚ) / Binary64.unitsOfOne =
      seconds.value * 10 ^ 9 := by
    have unit : (nanosecondsPerSecond : ℚ) = 10 ^ 9 := by norm_num [nanosecondsPerSecond]
    rw [Nat.cast_mul, unit, Binary64.value_eq_units nonneg, div_mul_eq_mul_div]
  refine ⟨_, answer, ?_, ?_⟩
  · rw [← exact]
    exact Binary64.abs_roundedQuotient_sub_le _ Binary64.unitsOfOne_pos
  · have none := Binary64.roundedQuotient_eq_zero_iff (seconds.units * nanosecondsPerSecond)
      Binary64.unitsOfOne_pos
    rw [← exact, Binary64.div_le_half_iff Binary64.unitsOfOne_pos, ← none]
    exact Iff.of_eq (Duration.mk.injEq ..)

theorem ofSeconds_beyond (nonneg : Binary64.zero ≤ seconds) (beyond : 2 ^ 64 ≤ seconds.value) :
    ofSeconds seconds = .error .durationTooLong := by
  have unsigned := (Binary64.not_lt nonneg.2.1 nonneg.1).mpr nonneg
  have long := (limit_le_units_iff nonneg).mpr beyond
  simp [ofSeconds, unsigned, long]

theorem ofSeconds_success (finite : seconds.isFinite = true) (nonneg : Binary64.zero ≤ seconds)
    {duration : Duration} (ok : ofSeconds seconds = .ok duration) :
    seconds.value < 2 ^ 64 ∧ |(duration.nanoseconds : ℚ) - seconds.value * 10 ^ 9| ≤ 1 / 2 := by
  have below : seconds.value < 2 ^ 64 := by
    refine not_le.mp fun beyond => ?_
    exact nomatch ok.symm.trans (ofSeconds_beyond nonneg beyond)
  obtain ⟨other, converted, close, -⟩ := ofSeconds_below finite nonneg below
  obtain rfl := Except.ok.inj (ok.symm.trans converted)
  exact ⟨below, close⟩

end Duration
end Telemetry
