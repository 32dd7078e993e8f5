import Telemetry.Proofs.Binary64.Rounding
import Mathlib.Tactic.Ring

/-! Rounding by comparison: a magnitude is passed exactly when the quotient lies past the point halfway
to the next magnitude, or on that point when the magnitude is odd. -/
namespace Telemetry.Binary64

/-- Exponent of the step from a magnitude to the next one, in units. -/
def stepExponent (magnitude : Nat) : Nat := magnitude / fieldWeight - 1

/-- A magnitude in steps of its own. -/
def significand (magnitude : Nat) : Nat := magnitude - stepExponent magnitude * fieldWeight

/-- Twice the count of units halfway between a magnitude and the next one. -/
def halfway (magnitude : Nat) : Nat := (2 * significand magnitude + 1) * 2 ^ stepExponent magnitude

theorem magnitude_eq (magnitude : Nat) :
    stepExponent magnitude * fieldWeight + significand magnitude = magnitude := by
  have floor := Nat.div_mul_le_self magnitude fieldWeight
  have less : stepExponent magnitude * fieldWeight ≤ magnitude / fieldWeight * fieldWeight :=
    Nat.mul_le_mul_right _ (Nat.sub_le _ _)
  rw [significand]
  omega

theorem significand_lt (magnitude : Nat) : significand magnitude < 2 * fieldWeight := by
  have split := magnitude_eq magnitude
  have floor := Nat.div_add_mod magnitude fieldWeight
  have rest := Nat.mod_lt magnitude (show 0 < fieldWeight by decide)
  rw [stepExponent] at split
  simp only [fieldWeight] at *
  omega

theorem le_significand {magnitude : Nat} (normal : 0 < stepExponent magnitude) :
    fieldWeight ≤ significand magnitude := by
  have split := magnitude_eq magnitude
  have floor := Nat.div_add_mod magnitude fieldWeight
  rw [stepExponent] at split normal
  simp only [fieldWeight] at *
  omega

theorem significand_parity (magnitude : Nat) : significand magnitude % 2 = magnitude % 2 := by
  have split := magnitude_eq magnitude
  simp only [fieldWeight] at split
  omega

theorem halfway_mono {magnitude larger : Nat} (le : magnitude ≤ larger) : halfway magnitude ≤ halfway larger := by
  have split := magnitude_eq magnitude
  have other := magnitude_eq larger
  have most := significand_lt magnitude
  have exponents : stepExponent magnitude ≤ stepExponent larger :=
    Nat.sub_le_sub_right (Nat.div_le_div_right le) 1
  rw [halfway, halfway]
  rcases Nat.lt_or_eq_of_le exponents with below | same
  · have least := le_significand (Nat.zero_lt_of_lt below)
    have wider : 2 * 2 ^ stepExponent magnitude ≤ 2 ^ stepExponent larger := by
      rw [← Nat.pow_succ']
      exact Nat.pow_le_pow_right (by decide) below
    calc
      (2 * significand magnitude + 1) * 2 ^ stepExponent magnitude ≤
          2 * fieldWeight * (2 * 2 ^ stepExponent magnitude) := by
        rw [← Nat.mul_assoc]
        exact Nat.mul_le_mul_right _ (by omega)
      _ ≤ (2 * significand larger + 1) * 2 ^ stepExponent larger := Nat.mul_le_mul (by omega) wider
  · rw [same] at split ⊢
    exact Nat.mul_le_mul_right _ (by omega)

theorem lt_nearest {num step bound : Nat} (positive : 0 < step) :
    bound < nearest num step ↔
      (2 * bound + 1) * step < 2 * num ∨ ((2 * bound + 1) * step = 2 * num ∧ bound % 2 = 1) := by
  have division := Nat.div_add_mod num step
  have rest := Nat.mod_lt num positive
  rw [nearest]
  generalize num / step = quotient at division ⊢
  generalize num % step = remainder at division rest ⊢
  subst division
  have middle : (2 * bound + 1) * step = 2 * (step * bound) + step := by ring
  rw [middle]
  rcases Nat.lt_trichotomy bound quotient with below | rfl | above
  · obtain ⟨more, rfl⟩ := Nat.exists_eq_add_of_le (Nat.succ_le_of_lt below)
    have product : step * (bound.succ + more) = step * bound + step + step * more := by
      rw [Nat.succ_eq_add_one]
      ring
    have past : 2 * (step * bound) + step < 2 * (step * (bound.succ + more) + remainder) := by omega
    refine ⟨fun _ => .inl past, fun _ => ?_⟩
    split <;> omega
  · split <;> omega
  · obtain ⟨more, rfl⟩ := Nat.exists_eq_add_of_le (Nat.succ_le_of_lt above)
    have product : step * (quotient.succ + more) = step * quotient + step + step * more := by
      rw [Nat.succ_eq_add_one]
      ring
    split <;> omega

/-- Exponent of the step to which a quotient is rounded. -/
def roundingExponent (num den : Nat) : Nat := (num / den).log2 - 52

theorem roundMagnitude_eq_nearest (num den : Nat) :
    roundMagnitude num den =
      min (roundingExponent num den * fieldWeight + nearest num (den * 2 ^ roundingExponent num den))
        infinityMagnitude := by
  simp only [roundMagnitude, roundingExponent, nearest, Nat.shiftLeft_eq]
  rfl

theorem lt_of_roundingExponent {num den : Nat} (positive : 0 < den) :
    num < 2 * fieldWeight * (den * 2 ^ roundingExponent num den) := by
  have top : num / den < 2 ^ ((num / den).log2 + 1) := Nat.lt_log2_self
  have enough : 2 ^ ((num / den).log2 + 1) ≤ 2 ^ (53 + roundingExponent num den) :=
    Nat.pow_le_pow_right (by decide) (by rw [roundingExponent]; omega)
  have bound := (Nat.div_lt_iff_lt_mul positive).mp (Nat.lt_of_lt_of_le top enough)
  rw [Nat.pow_add, Nat.mul_assoc, Nat.mul_comm _ den] at bound
  exact bound

theorem le_of_roundingExponent {num den : Nat} (positive : 0 < den) (large : 0 < roundingExponent num den) :
    fieldWeight * (den * 2 ^ roundingExponent num den) ≤ num := by
  have some : num / den ≠ 0 := by
    intro zero
    rw [roundingExponent, zero] at large
    exact absurd large (by decide)
  have exponent : (num / den).log2 = 52 + roundingExponent num den := by
    rw [roundingExponent] at large ⊢
    omega
  have bound := (Nat.le_div_iff_mul_le positive).mp (Nat.log2_self_le some)
  rw [exponent, Nat.pow_add, Nat.mul_assoc, Nat.mul_comm _ den] at bound
  exact bound

theorem two_steps_le {exponent larger : Nat} (less : exponent < larger) (den : Nat) :
    2 * (den * 2 ^ exponent) ≤ den * 2 ^ larger := by
  have next : 2 * (den * 2 ^ exponent) = den * 2 ^ (exponent + 1) := by ring
  rw [next]
  exact Nat.mul_le_mul_left _ (Nat.pow_le_pow_right (by decide) less)

theorem lt_roundMagnitude {num den magnitude : Nat} (positive : 0 < den) (finite : magnitude < infinityMagnitude) :
    magnitude < roundMagnitude num den ↔
      halfway magnitude * den < 2 * num ∨ (halfway magnitude * den = 2 * num ∧ magnitude % 2 = 1) := by
  have split := magnitude_eq magnitude
  have most := significand_lt magnitude
  have top : num < _ := lt_of_roundingExponent positive
  have bounds := nearest_bounds num (den * 2 ^ roundingExponent num den)
  have unit : 0 < den * 2 ^ roundingExponent num den := Nat.mul_pos positive (Nat.two_pow_pos _)
  have step : 0 < den * 2 ^ stepExponent magnitude := Nat.mul_pos positive (Nat.two_pow_pos _)
  have product : halfway magnitude * den =
      2 * (significand magnitude * (den * 2 ^ stepExponent magnitude)) + den * 2 ^ stepExponent magnitude := by
    rw [halfway]
    ring
  rw [roundMagnitude_eq_nearest, Nat.lt_min, and_iff_left finite, ← significand_parity]
  rcases Nat.lt_trichotomy (roundingExponent num den) (stepExponent magnitude) with below | same | above
  · -- The quotient is smaller than any magnitude with this step.
    have least := le_significand (Nat.zero_lt_of_lt below)
    have digits := (Nat.div_lt_iff_lt_mul unit).mpr top
    have larger := two_steps_le below den
    have whole := Nat.mul_le_mul_right (den * 2 ^ stepExponent magnitude) least
    rw [product]
    simp only [fieldWeight] at *
    omega
  · have middle : (2 * significand magnitude + 1) * (den * 2 ^ stepExponent magnitude) =
        halfway magnitude * den := by
      rw [product]
      ring
    rw [same, ← middle, ← lt_nearest step]
    omega
  · -- The quotient is past the last magnitude with this step.
    have bottom := le_of_roundingExponent positive (Nat.zero_lt_of_lt above)
    have digits := (Nat.le_div_iff_mul_le unit).mpr bottom
    have larger := two_steps_le above den
    have whole := Nat.mul_le_mul_right (den * 2 ^ stepExponent magnitude) (Nat.le_sub_one_of_lt most)
    rw [product]
    simp only [fieldWeight] at *
    omega

theorem roundMagnitude_mono_quotient {num den larger under : Nat} (positive : 0 < den) (other : 0 < under)
    (le : num * under ≤ larger * den) : roundMagnitude num den ≤ roundMagnitude larger under := by
  by_contra passed
  have finite : roundMagnitude larger under < infinityMagnitude :=
    Nat.lt_of_lt_of_le (Nat.not_le.mp passed) (roundMagnitude_le num den)
  have here := (lt_roundMagnitude positive finite).mp (Nat.not_le.mp passed)
  have there := mt (lt_roundMagnitude other finite).mpr (Nat.lt_irrefl _)
  generalize halfway (roundMagnitude larger under) = middle at here there
  have scaled : middle * under * den ≤ 2 * larger * den := by
    calc
      middle * under * den = middle * den * under := by ring
      _ ≤ 2 * num * under := Nat.mul_le_mul_right _ (by omega)
      _ = 2 * (num * under) := by ring
      _ ≤ 2 * (larger * den) := Nat.mul_le_mul_left _ le
      _ = 2 * larger * den := by ring
  have reached := Nat.le_of_mul_le_mul_right scaled positive
  rcases here with below | ⟨same, odd⟩
  · have scaled : middle * under * den < 2 * larger * den := by
      calc
        middle * under * den = middle * den * under := by ring
        _ < 2 * num * under := Nat.mul_lt_mul_of_pos_right below other
        _ = 2 * (num * under) := by ring
        _ ≤ 2 * (larger * den) := Nat.mul_le_mul_left _ le
        _ = 2 * larger * den := by ring
    exact there (.inl (Nat.lt_of_mul_lt_mul_right scaled))
  · rcases Nat.lt_or_eq_of_le reached with past | on
    · exact there (.inl past)
    · exact there (.inr ⟨on, odd⟩)

theorem roundMagnitude_congr {num den other under : Nat} (positive : 0 < den) (least : 0 < under)
    (same : num * under = other * den) : roundMagnitude num den = roundMagnitude other under :=
  Nat.le_antisymm (roundMagnitude_mono_quotient positive least (Nat.le_of_eq same))
    (roundMagnitude_mono_quotient least positive (Nat.le_of_eq same.symm))

/-- A magnitude is what the quotients between two halfway points are rounded to, as far as there are
finite numbers. -/
theorem roundMagnitude_of_between {num den magnitude : Nat} (positive : 0 < den) (some : 0 < magnitude)
    (above : halfway (magnitude - 1) * den < 2 * num ∨
      (halfway (magnitude - 1) * den = 2 * num ∧ magnitude % 2 = 0))
    (below : 2 * num < halfway magnitude * den ∨
      (2 * num = halfway magnitude * den ∧ magnitude % 2 = 0)) :
    roundMagnitude num den = min magnitude infinityMagnitude := by
  have limit := roundMagnitude_le num den
  by_cases finite : magnitude < infinityMagnitude
  · have least : magnitude - 1 < roundMagnitude num den := by
      rw [lt_roundMagnitude positive (by omega)]
      omega
    have most : ¬magnitude < roundMagnitude num den := by
      rw [lt_roundMagnitude positive finite]
      omega
    omega
  · have middle : halfway (infinityMagnitude - 1) * den ≤ halfway (magnitude - 1) * den :=
      Nat.mul_le_mul_right _ (halfway_mono (by omega))
    have odd : (infinityMagnitude - 1) % 2 = 1 := by decide
    have least : infinityMagnitude - 1 < roundMagnitude num den := by
      rw [lt_roundMagnitude positive (by decide)]
      omega
    omega

theorem units_eq (x : Binary64) : x.units = significand x.magnitude * 2 ^ stepExponent x.magnitude := by
  have whole : fieldWeight * x.field + x.fraction = x.magnitude := Nat.div_add_mod _ _
  have exponent : stepExponent x.magnitude = x.field - 1 := rfl
  rw [units, significand, exponent]
  by_cases subnormal : x.field = 0
  · rw [if_pos subnormal]
    rw [subnormal] at whole ⊢
    omega
  · have digits : x.magnitude - (x.field - 1) * fieldWeight = fieldWeight + x.fraction := by
      simp only [fieldWeight] at *
      omega
    rw [if_neg subnormal, Nat.shiftLeft_eq, digits]

end Telemetry.Binary64
