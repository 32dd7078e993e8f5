import Telemetry.Decimal
import Telemetry.Proofs.Binary64.Halfway

/-! The shortest decimal of a number lies in the interval of what is rounded to the number, and never
needs more than seventeen digits. -/
namespace Telemetry.Decimal
open Binary64

section
variable {x : Binary64}

theorem two_halfway (x : Binary64) : 2 * halfway x.magnitude = (Interval.of x).high := by
  have exponent : stepExponent x.magnitude = x.field - 1 := rfl
  simp only [Interval.of, units_eq, halfway, Nat.one_shiftLeft, exponent]
  ring

/-- Below a power of two the steps are half as wide as above it. -/
theorem two_halfway_pred (some : 0 < x.magnitude) :
    2 * halfway (x.magnitude - 1) = (Interval.of x).low := by
  have whole := magnitude_eq x.magnitude
  have before := magnitude_eq (x.magnitude - 1)
  have split : fieldWeight * x.field + x.fraction = x.magnitude := Nat.div_add_mod _ _
  have rest : x.fraction < fieldWeight := Nat.mod_lt _ (by decide)
  have exponent : stepExponent x.magnitude = x.field - 1 := rfl
  have previous : stepExponent (x.magnitude - 1) = (x.magnitude - 1) / fieldWeight - 1 := rfl
  simp only [Interval.of, units_eq, halfway, Nat.one_shiftLeft, exponent]
  by_cases first : x.fraction = 0 ∧ x.field > 1
  · rw [if_pos first]
    have halved : stepExponent (x.magnitude - 1) + 1 = x.field - 1 := by
      simp only [fieldWeight] at *
      omega
    have last : significand (x.magnitude - 1) + 1 = 2 * fieldWeight := by
      simp only [fieldWeight] at *
      omega
    have digits : significand x.magnitude = fieldWeight := by
      simp only [fieldWeight] at *
      omega
    have gap : 2 ^ (x.field - 1) = 2 * 2 ^ stepExponent (x.magnitude - 1) := by
      rw [← halved, Nat.pow_succ, Nat.mul_comm]
    rw [digits, gap]
    generalize 2 ^ stepExponent (x.magnitude - 1) = half
    refine Nat.eq_sub_of_add_eq ?_
    calc
      2 * ((2 * significand (x.magnitude - 1) + 1) * half) + 2 * half =
          4 * ((significand (x.magnitude - 1) + 1) * half) := by ring
      _ = 4 * (fieldWeight * (2 * half)) := by
        rw [last]
        ring
  · rw [if_neg first]
    have same : stepExponent (x.magnitude - 1) = x.field - 1 := by
      simp only [fieldWeight] at *
      omega
    have digits : significand x.magnitude = significand (x.magnitude - 1) + 1 := by
      rw [exponent] at whole
      rw [same] at before
      omega
    rw [same, digits]
    refine Nat.eq_sub_of_add_eq ?_
    ring

/-- Numerator of a decimal in units, and what it is divided by. -/
def numerator (d : Decimal) : Nat := d.coefficient * Nat.pow 10 d.exponent.toNat * unitsOfOne

def denominator (d : Decimal) : Nat := Nat.pow 10 (-d.exponent).toNat

theorem denominator_pos (d : Decimal) : 0 < d.denominator := Nat.pow_pos (by decide)

theorem ofDecimal_eq (sign : Bool) (d : Decimal) :
    Binary64.ofDecimal sign d.coefficient d.exponent =
      ofMagnitude sign (roundMagnitude d.numerator d.denominator) := rfl

theorem holds_iff {d : Decimal} :
    (Interval.of x).holds d = true ↔
      if (Interval.of x).closed then
        (Interval.of x).low * d.denominator ≤ 4 * d.numerator ∧
          4 * d.numerator ≤ (Interval.of x).high * d.denominator
      else (Interval.of x).low * d.denominator < 4 * d.numerator ∧
          4 * d.numerator < (Interval.of x).high * d.denominator := by
  have value : d.coefficient * Nat.pow 10 d.exponent.toNat * (4 * unitsOfOne) = 4 * d.numerator := by
    rw [numerator]
    ring
  simp only [Interval.holds, value]
  split <;> simp [denominator]

/-- The interval lies between two halfway points, which belong to it for an even magnitude. -/
theorem between_of_holds {d : Decimal} (some : 0 < x.magnitude) (holds : (Interval.of x).holds d = true) :
    (halfway (x.magnitude - 1) * d.denominator < 2 * d.numerator ∨
      (halfway (x.magnitude - 1) * d.denominator = 2 * d.numerator ∧ x.magnitude % 2 = 0)) ∧
    (2 * d.numerator < halfway x.magnitude * d.denominator ∨
      (2 * d.numerator = halfway x.magnitude * d.denominator ∧ x.magnitude % 2 = 0)) := by
  rw [holds_iff, ← two_halfway_pred some, ← two_halfway x, Nat.mul_assoc, Nat.mul_assoc] at holds
  have closed : (Interval.of x).closed = decide (x.magnitude % 2 = 0) := rfl
  by_cases even : x.magnitude % 2 = 0
  · rw [closed, if_pos (decide_eq_true even)] at holds
    omega
  · rw [closed, if_neg (by simpa using even)] at holds
    omega

theorem roundMagnitude_of_holds {d : Decimal} (some : 0 < x.magnitude)
    (holds : (Interval.of x).holds d = true) :
    roundMagnitude d.numerator d.denominator = min x.magnitude infinityMagnitude := by
  obtain ⟨above, below⟩ := between_of_holds some holds
  exact roundMagnitude_of_between d.denominator_pos some above below

end

/-- A quotient is at least a power of ten. -/
def Reaches (num den : Nat) (e : Int) : Prop := den * 10 ^ e.toNat ≤ num * 10 ^ (-e).toNat

instance (num den : Nat) (e : Int) : Decidable (Reaches num den e) :=
  inferInstanceAs (Decidable (den * 10 ^ e.toNat ≤ num * 10 ^ (-e).toNat))

theorem reaches_shift {num den : Nat} {e : Int} (more : Nat) :
    Reaches num den e ↔
      10 ^ more * (den * 10 ^ (e - more).toNat) ≤ num * 10 ^ (-(e - more)).toNat := by
  have exponents : e.toNat + (-(e - more)).toNat = more + (e - more).toNat + (-e).toNat := by omega
  have left : den * 10 ^ e.toNat * 10 ^ (-(e - more)).toNat =
      10 ^ more * (den * 10 ^ (e - more).toNat) * 10 ^ (-e).toNat := by
    calc
      den * 10 ^ e.toNat * 10 ^ (-(e - more)).toNat = den * 10 ^ (e.toNat + (-(e - more)).toNat) := by
        rw [Nat.pow_add, Nat.mul_assoc]
      _ = 10 ^ more * (den * 10 ^ (e - more).toNat) * 10 ^ (-e).toNat := by
        rw [exponents, Nat.pow_add, Nat.pow_add]
        ring
  have right : num * 10 ^ (-e).toNat * 10 ^ (-(e - more)).toNat =
      num * 10 ^ (-(e - more)).toNat * 10 ^ (-e).toNat := by ring
  rw [Reaches, ← Nat.mul_le_mul_right_iff (Nat.pow_pos (show 0 < 10 by decide)), left, right,
    Nat.mul_le_mul_right_iff (Nat.pow_pos (show 0 < 10 by decide))]

/-- The leading exponent as it is guessed from a binary logarithm. -/
def guess (log : Nat) : Int := ((log : Int) - 1074) * 30103 / 100000

theorem ten_pow_le {a k : Nat} (le : 196 * a ≤ 59 * k) : 10 ^ a ≤ 2 ^ k := by
  refine (Nat.pow_le_pow_iff_left (show 59 ≠ 0 by decide)).mp ?_
  calc
    (10 ^ a) ^ 59 = (10 ^ 59) ^ a := by rw [← Nat.pow_mul, ← Nat.pow_mul, Nat.mul_comm]
    _ ≤ (2 ^ 196) ^ a := Nat.pow_le_pow_left (by decide) a
    _ = 2 ^ (196 * a) := (Nat.pow_mul ..).symm
    _ ≤ 2 ^ (59 * k) := Nat.pow_le_pow_right (by decide) le
    _ = (2 ^ k) ^ 59 := by rw [← Nat.pow_mul, Nat.mul_comm]

theorem two_pow_le {k a : Nat} (le : 28 * k ≤ 93 * a) : 2 ^ k ≤ 10 ^ a := by
  refine (Nat.pow_le_pow_iff_left (show 93 ≠ 0 by decide)).mp ?_
  calc
    (2 ^ k) ^ 93 = (2 ^ 93) ^ k := by rw [← Nat.pow_mul, ← Nat.pow_mul, Nat.mul_comm]
    _ ≤ (10 ^ 28) ^ k := Nat.pow_le_pow_left (by decide) k
    _ = 10 ^ (28 * k) := (Nat.pow_mul ..).symm
    _ ≤ 10 ^ (93 * a) := Nat.pow_le_pow_right (by decide) le
    _ = (10 ^ a) ^ 93 := by rw [← Nat.pow_mul, Nat.mul_comm]

/-- Powers of two against a power of ten on either side, by the fractions 59/196 and 28/93 on either side of
the decimal logarithm of two. -/
theorem two_pow_ten_pow_le {p q : Nat} {e : Int} (raised : 0 ≤ e → 196 * e ≤ 59 * ((q : Int) - p))
    (lowered : e < 0 → 28 * ((p : Int) - q) ≤ 93 * -e) : 2 ^ p * 10 ^ e.toNat ≤ 2 ^ q * 10 ^ (-e).toNat := by
  rcases lt_or_ge e 0 with below | above
  · have bound := lowered below
    have none : e.toNat = 0 := by omega
    calc
      2 ^ p * 10 ^ e.toNat = 2 ^ p := by rw [none, pow_zero, Nat.mul_one]
      _ ≤ 2 ^ (q + (p - q)) := Nat.pow_le_pow_right (by decide) (by omega)
      _ = 2 ^ q * 2 ^ (p - q) := Nat.pow_add ..
      _ ≤ 2 ^ q * 10 ^ (-e).toNat := Nat.mul_le_mul_left _ (two_pow_le (by omega))
  · have bound := raised above
    have none : (-e).toNat = 0 := by omega
    calc
      2 ^ p * 10 ^ e.toNat ≤ 2 ^ p * 2 ^ (q - p) := Nat.mul_le_mul_left _ (ten_pow_le (by omega))
      _ = 2 ^ (p + (q - p)) := (Nat.pow_add ..).symm
      _ = 2 ^ q := by rw [Nat.add_sub_cancel' (show p ≤ q by omega)]
      _ = 2 ^ q * 10 ^ (-e).toNat := by rw [none, pow_zero, Nat.mul_one]

/-- The guess is within one for all numbers that 64 bits hold. -/
theorem guess_within {log : Nat} (fits : log < 2099) :
    unitsOfOne * 10 ^ (guess log - 1).toNat ≤ 2 ^ log * 10 ^ (-(guess log - 1)).toNat ∧
      2 ^ (log + 1) * 10 ^ (-(guess log + 2)).toNat ≤ unitsOfOne * 10 ^ (guess log + 2).toNat := by
  obtain ⟨places, places_eq⟩ : ∃ places, places = 1074 := ⟨_, rfl⟩
  have guessed : guess log = ((log : Int) - places) * 30103 / 100000 := by rw [places_eq]; rfl
  have most := two_pow_ten_pow_le (p := log + 1) (q := places) (e := -(guess log + 2))
    (by omega) (by omega)
  rw [Int.neg_neg] at most
  rw [unitsOfOne_eq places_eq]
  exact ⟨two_pow_ten_pow_le (by omega) (by omega), most⟩

theorem leadingExponent_eq (num : Nat) :
    leadingExponent num unitsOfOne =
      if Reaches num unitsOfOne (guess num.log2 + 1) then guess num.log2 + 1
      else if Reaches num unitsOfOne (guess num.log2) then guess num.log2 else guess num.log2 - 1 := by
  have one : unitsOfOne.log2 = 1074 := by rw [unitsOfOne_eq rfl, Nat.log2_two_pow]
  simp only [leadingExponent, one, decide_eq_true_eq]
  rfl

theorem leadingExponent_spec {num : Nat} (some : num ≠ 0) (fits : num.log2 < 2099) :
    Reaches num unitsOfOne (leadingExponent num unitsOfOne) ∧
      ¬Reaches num unitsOfOne (leadingExponent num unitsOfOne + 1) := by
  obtain ⟨least, most⟩ := guess_within fits
  have reached : Reaches num unitsOfOne (guess num.log2 - 1) :=
    Nat.le_trans least (Nat.mul_le_mul_right _ (Nat.log2_self_le some))
  have missed : ¬Reaches num unitsOfOne (guess num.log2 + 2) := by
    refine Nat.not_le.mpr (Nat.lt_of_lt_of_le ?_ most)
    exact Nat.mul_lt_mul_of_pos_right Nat.lt_log2_self (Nat.pow_pos (by decide))
  rw [leadingExponent_eq]
  split_ifs with above here
  · exact ⟨above, by rwa [Int.add_assoc]⟩
  · exact ⟨here, above⟩
  · exact ⟨reached, by rwa [Int.sub_add_cancel]⟩

theorem leadingExponent_bounds {num : Nat} (fits : num.log2 < 2099) :
    -350 < leadingExponent num unitsOfOne ∧ leadingExponent num unitsOfOne < 350 := by
  rw [leadingExponent_eq]
  simp only [guess]
  split_ifs <;> omega

section
variable {x : Binary64} {tie : Tie}

theorem units_pos (some : 0 < x.magnitude) : 0 < x.units := by
  have whole := magnitude_eq x.magnitude
  have digits : 0 < significand x.magnitude := by
    rcases Nat.eq_zero_or_pos (stepExponent x.magnitude) with subnormal | normal
    · rw [subnormal] at whole
      omega
    · exact Nat.lt_of_lt_of_le (by decide) (le_significand normal)
  rw [units_eq]
  exact Nat.mul_pos digits (Nat.two_pow_pos _)

theorem log2_units_lt (some : 0 < x.magnitude) : x.units.log2 < 2099 := by
  have magnitude : x.magnitude < signWeight := Nat.mod_lt _ (by decide)
  have field : x.field ≤ 2047 := Nat.le_of_lt_succ (Nat.div_lt_of_lt_mul magnitude)
  have bound : x.units < 2 ^ (52 + x.field) := by
    rw [Nat.pow_add]
    exact x.units_lt
  have log := (Nat.log2_lt (Nat.ne_of_gt (units_pos some))).mpr bound
  omega

/-- In comparison with the number its interval is wider than the last of seventeen digits. -/
theorem interval_wide (some : 0 < x.magnitude) : (Interval.of x).low < 4 * x.units ∧
    4 * x.units < (Interval.of x).high ∧
    4 * x.units + 10 ^ 16 * (Interval.of x).low < 10 ^ 16 * (Interval.of x).high := by
  have positive := units_pos some
  have units := units_eq x
  have split : fieldWeight * x.field + x.fraction = x.magnitude := Nat.div_add_mod _ _
  have whole := magnitude_eq x.magnitude
  have exponent : stepExponent x.magnitude = x.field - 1 := rfl
  have gap : 0 < 2 ^ (x.field - 1) := Nat.two_pow_pos _
  have most := Nat.mul_le_mul_right (2 ^ (x.field - 1)) (Nat.le_sub_one_of_lt (significand_lt x.magnitude))
  rw [exponent] at units whole
  simp only [Interval.of, Nat.one_shiftLeft]
  by_cases first : x.fraction = 0 ∧ x.field > 1
  · have digits : significand x.magnitude = fieldWeight := by
      simp only [fieldWeight] at *
      omega
    rw [if_pos first]
    rw [digits] at units
    simp only [fieldWeight] at *
    omega
  · rw [if_neg first]
    simp only [fieldWeight] at *
    omega

theorem holds_of_between {d : Decimal} (above : (Interval.of x).low * d.denominator < 4 * d.numerator)
    (below : 4 * d.numerator < (Interval.of x).high * d.denominator) :
    (Interval.of x).holds d = true := by
  rw [holds_iff]
  split
  · exact ⟨Nat.le_of_lt above, Nat.le_of_lt below⟩
  · exact ⟨above, below⟩

/-- One of the two neighbours on a grid that is finer than the interval lies in it. -/
theorem neighbour_holds (some : 0 < x.magnitude) {exponent : Int} {below : Nat}
    (fine : 10 ^ 16 * (unitsOfOne * 10 ^ exponent.toNat) ≤ x.units * 10 ^ (-exponent).toNat)
    (floor : below = x.units * 10 ^ (-exponent).toNat / (unitsOfOne * 10 ^ exponent.toNat)) :
    (Interval.of x).holds ⟨below, exponent⟩ = true ∨ (Interval.of x).holds ⟨below + 1, exponent⟩ = true := by
  have step : 0 < unitsOfOne * 10 ^ exponent.toNat := Nat.mul_pos unitsOfOne_pos (Nat.pow_pos (by decide))
  have scale : 0 < 10 ^ (-exponent).toNat := Nat.pow_pos (by decide)
  obtain ⟨low, high, wide⟩ := interval_wide some
  have least := Nat.mul_lt_mul_of_pos_right low scale
  have most := Nat.mul_lt_mul_of_pos_right high scale
  have room := Nat.mul_lt_mul_of_pos_right wide scale
  have division := Nat.div_add_mod (x.units * 10 ^ (-exponent).toNat) (unitsOfOne * 10 ^ exponent.toNat)
  have rest := Nat.mod_lt (x.units * 10 ^ (-exponent).toNat) step
  rw [← floor] at division
  have first : numerator ⟨below, exponent⟩ = unitsOfOne * 10 ^ exponent.toNat * below := by
    change below * 10 ^ exponent.toNat * unitsOfOne = _
    ring
  have second : numerator ⟨below + 1, exponent⟩ =
      unitsOfOne * 10 ^ exponent.toNat * below + unitsOfOne * 10 ^ exponent.toNat := by
    change (below + 1) * 10 ^ exponent.toNat * unitsOfOne = _
    ring
  rw [Nat.mul_assoc 4] at least most
  by_contra neither
  obtain ⟨under, past⟩ := not_or.mp neither
  have under : 4 * numerator ⟨below, exponent⟩ ≤ (Interval.of x).low * 10 ^ (-exponent).toNat := by
    refine Nat.not_lt.mp fun above => under (holds_of_between above ?_)
    exact Nat.lt_of_le_of_lt (by omega) most
  have past : (Interval.of x).high * 10 ^ (-exponent).toNat ≤ 4 * numerator ⟨below + 1, exponent⟩ := by
    refine Nat.not_lt.mp fun beneath => past (holds_of_between ?_ beneath)
    exact Nat.lt_of_lt_of_le least (by omega)
  rw [Nat.add_mul, Nat.mul_assoc, Nat.mul_assoc, Nat.mul_assoc] at room
  omega

theorem neighbour_isSome (some : 0 < x.magnitude) {exponent : Int}
    (fine : 10 ^ 16 * (unitsOfOne * 10 ^ exponent.toNat) ≤ x.units * 10 ^ (-exponent).toNat) :
    (neighbour tie x exponent).isSome = true := by
  have either := neighbour_holds some fine rfl
  simp only [neighbour]
  split
  · rename_i first second
    rcases either with holds | holds
    · cases holds.symm.trans first
    · cases holds.symm.trans second
  · rfl
  · rfl
  · split_ifs <;> rfl

theorem neighbour_spec {exponent : Int} {d : Decimal} (found : neighbour tie x exponent = .some d) :
    d.exponent = exponent ∧ (Interval.of x).holds d = true ∧
      d.coefficient ≤ x.units * 10 ^ (-exponent).toNat / (unitsOfOne * 10 ^ exponent.toNat) + 1 := by
  simp only [neighbour] at found
  split at found
  · cases found
  · rename_i first second
    cases found
    exact ⟨rfl, first, Nat.le_succ _⟩
  · rename_i first second
    cases found
    exact ⟨rfl, second, Nat.le_refl _⟩
  · rename_i first second
    split_ifs at found
    · cases found
      exact ⟨rfl, first, Nat.le_succ _⟩
    · cases found
      exact ⟨rfl, second, Nat.le_refl _⟩
    · cases found
      exact ⟨rfl, first, Nat.le_succ _⟩
    · cases found
      exact ⟨rfl, second, Nat.le_refl _⟩

/-- A search on seventeen grids finds a neighbour on one of them. -/
theorem search_spec (some : 0 < x.magnitude) :
    ∃ found : Decimal, shortest tie x = trim found.coefficient found.exponent ∧
      (Interval.of x).holds found = true ∧ found.coefficient ≤ 10 ^ 17 ∧
      -400 < found.exponent ∧ found.exponent < 400 := by
  obtain ⟨reached, missed⟩ := leadingExponent_spec (Nat.ne_of_gt (units_pos some)) (log2_units_lt some)
  obtain ⟨lowest, highest⟩ := leadingExponent_bounds (log2_units_lt some)
  rw [shortest, if_neg (Nat.ne_of_gt some)]
  generalize leadingExponent x.units unitsOfOne = leading at reached missed lowest highest
  have last : (neighbour tie x (leading - (16 : Nat))).isSome = true := by
    have fine := (reaches_shift 16).mp reached
    exact neighbour_isSome some fine
  cases search : (List.range 17).findSome? fun (more : Nat) => neighbour tie x (leading - more) with
  | none =>
    have nothing := List.findSome?_eq_none_iff.mp search 16 (by decide)
    rw [nothing] at last
    cases last
  | some found =>
    obtain ⟨more, listed, here⟩ := List.exists_of_findSome?_eq_some search
    obtain ⟨place, holds, size⟩ := neighbour_spec here
    have few : more < 17 := List.mem_range.mp listed
    have digits : x.units * 10 ^ (-(leading - more)).toNat / (unitsOfOne * 10 ^ (leading - more).toNat) <
        10 ^ (more + 1) := by
      have under := mt (reaches_shift (more + 1)).mpr missed
      have same : leading + 1 - (more + 1 : Nat) = leading - more := by omega
      rw [same, Nat.not_le] at under
      exact Nat.div_lt_of_lt_mul (Nat.mul_comm (10 ^ (more + 1)) _ ▸ under)
    have all : 10 ^ (more + 1) ≤ 10 ^ 17 := Nat.pow_le_pow_right (by decide) few
    exact ⟨found, by simp only [search], holds, by omega, by omega, by omega⟩

theorem trim_spec (coefficient : Nat) (exponent : Int) :
    ∃ dropped : Nat, (trim coefficient exponent).coefficient * 10 ^ dropped = coefficient ∧
      (trim coefficient exponent).exponent = exponent + dropped := by
  fun_induction trim coefficient exponent with
  | case1 coefficient exponent => exact ⟨0, by simp⟩
  | case2 coefficient exponent goes ih =>
    obtain ⟨dropped, digits, shifted⟩ := ih
    refine ⟨dropped + 1, ?_, ?_⟩
    · rw [Nat.pow_succ, ← Nat.mul_assoc, digits]
      omega
    · rw [shifted]
      push_cast
      omega

end

/-- A decimal with zeros appended to its digits. -/
def shift (d : Decimal) (zeros : Nat) : Decimal := ⟨d.coefficient * 10 ^ zeros, d.exponent - zeros⟩

theorem shift_quotient (d : Decimal) (zeros : Nat) :
    (d.shift zeros).numerator * d.denominator = d.numerator * (d.shift zeros).denominator := by
  have exponents : zeros + (d.exponent - zeros).toNat + (-d.exponent).toNat =
      d.exponent.toNat + (-(d.exponent - zeros)).toNat := by omega
  change d.coefficient * 10 ^ zeros * 10 ^ (d.exponent - zeros).toNat * unitsOfOne * 10 ^ (-d.exponent).toNat =
    d.coefficient * 10 ^ d.exponent.toNat * unitsOfOne * 10 ^ (-(d.exponent - zeros)).toNat
  calc
    d.coefficient * 10 ^ zeros * 10 ^ (d.exponent - zeros).toNat * unitsOfOne * 10 ^ (-d.exponent).toNat =
        d.coefficient * unitsOfOne * 10 ^ (zeros + (d.exponent - zeros).toNat + (-d.exponent).toNat) := by
      rw [Nat.pow_add, Nat.pow_add]
      ring
    _ = d.coefficient * unitsOfOne * 10 ^ (d.exponent.toNat + (-(d.exponent - zeros)).toNat) := by
      rw [exponents]
    _ = d.coefficient * 10 ^ d.exponent.toNat * unitsOfOne * 10 ^ (-(d.exponent - zeros)).toNat := by
      rw [Nat.pow_add]
      ring

theorem roundMagnitude_shift (d : Decimal) (zeros : Nat) :
    roundMagnitude (d.shift zeros).numerator (d.shift zeros).denominator =
      roundMagnitude d.numerator d.denominator :=
  roundMagnitude_congr (denominator_pos _) d.denominator_pos (shift_quotient d zeros)

section
variable {x : Binary64} (tie : Tie)

theorem shortest_shift (some : 0 < x.magnitude) :
    ∃ dropped, (Interval.of x).holds ((shortest tie x).shift dropped) = true ∧
      (shortest tie x).coefficient * 10 ^ dropped ≤ 10 ^ 17 ∧
      -400 < (shortest tie x).exponent - dropped ∧ (shortest tie x).exponent - dropped < 400 := by
  obtain ⟨found, trimmed, holds, most, lowest, highest⟩ : ∃ found, shortest tie x = trim _ _ ∧ _ :=
    search_spec some
  obtain ⟨dropped, digits, exponent⟩ := trim_spec found.coefficient found.exponent
  rw [← trimmed] at digits exponent
  have same : (shortest tie x).shift dropped = found := by
    rw [shift, digits, exponent]
    simp
  refine ⟨dropped, same ▸ holds, digits ▸ most, ?_, ?_⟩
  · omega
  · omega

/-- What is written for a number is rounded to the number again. -/
theorem shortest_rounds (some : 0 < x.magnitude) :
    roundMagnitude (shortest tie x).numerator (shortest tie x).denominator =
      min x.magnitude infinityMagnitude := by
  obtain ⟨dropped, holds, -⟩ := shortest_shift tie some
  rw [← roundMagnitude_shift _ dropped]
  exact roundMagnitude_of_holds some holds

theorem shortest_coefficient (some : 0 < x.magnitude) :
    0 < (shortest tie x).coefficient ∧ (shortest tie x).coefficient ≤ 10 ^ 17 := by
  obtain ⟨dropped, holds, most, -⟩ := shortest_shift tie some
  have positive : 0 < (shortest tie x).coefficient := by
    refine Nat.pos_of_ne_zero fun zero => ?_
    have least := (between_of_holds some holds).1
    have nothing : ((shortest tie x).shift dropped).numerator = 0 := by
      simp [numerator, shift, zero]
    have product : 0 < halfway (x.magnitude - 1) * ((shortest tie x).shift dropped).denominator :=
      Nat.mul_pos (Nat.mul_pos (Nat.succ_pos _) (Nat.two_pow_pos _)) (denominator_pos _)
    omega
  exact ⟨positive, Nat.le_trans (Nat.le_mul_of_pos_right _ (Nat.pow_pos (by decide))) most⟩

theorem shortest_exponent (x : Binary64) :
    -500 < (shortest tie x).exponent ∧ (shortest tie x).exponent < 500 := by
  rcases Nat.eq_zero_or_pos x.magnitude with zero | some
  · rw [shortest, if_pos zero]
    decide
  · obtain ⟨dropped, -, most, lowest, highest⟩ := shortest_shift tie some
    have digits := Nat.le_trans (Nat.le_mul_of_pos_left _ (shortest_coefficient tie some).1) most
    have few : dropped ≤ 17 := (Nat.pow_le_pow_iff_right (by decide)).mp digits
    omega

/-- What is written for a number does not lie past the middle between the number and the next one. -/
theorem shortest_le (some : 0 < x.magnitude) :
    2 * (shortest tie x).numerator ≤ halfway x.magnitude * (shortest tie x).denominator := by
  obtain ⟨dropped, holds, -⟩ := shortest_shift tie some
  have below := (between_of_holds some holds).2
  have bound : 2 * ((shortest tie x).shift dropped).numerator ≤
      halfway x.magnitude * ((shortest tie x).shift dropped).denominator := by omega
  refine Nat.le_of_mul_le_mul_right ?_ (denominator_pos ((shortest tie x).shift dropped))
  calc
    2 * (shortest tie x).numerator * ((shortest tie x).shift dropped).denominator =
        2 * ((shortest tie x).shift dropped).numerator * (shortest tie x).denominator := by
      rw [Nat.mul_assoc, ← shift_quotient, Nat.mul_assoc]
    _ ≤ halfway x.magnitude * ((shortest tie x).shift dropped).denominator * (shortest tie x).denominator :=
      Nat.mul_le_mul_right _ bound
    _ = halfway x.magnitude * (shortest tie x).denominator * ((shortest tie x).shift dropped).denominator := by
      ring

end

end Telemetry.Decimal
