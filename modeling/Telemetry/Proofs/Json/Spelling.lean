import Telemetry.Decimal.Text
import Telemetry.Proofs.Json.Numeral
import Telemetry.Proofs.Text.Utf8
import Mathlib.Tactic.Ring

/-! The text of a number is the text of a literal, whose digits and exponent stand for the decimal that
is written. -/
namespace Telemetry.Json
open Document

namespace Literal

private theorem foldl_digits (digits : List Nat) (front : Nat) :
    digits.foldl (fun n d => 10 * n + d) front = 10 ^ digits.length * front + digitsValue digits := by
  induction digits generalizing front with
  | nil => simp [digitsValue]
  | cons d digits ih =>
    rw [digitsValue, List.foldl_cons, List.foldl_cons, ih, ih (10 * 0 + d), List.length_cons, Nat.pow_succ]
    ring

theorem digitsValue_append (front back : List Nat) :
    digitsValue (front ++ back) = 10 ^ back.length * digitsValue front + digitsValue back := by
  rw [digitsValue, List.foldl_append, foldl_digits back]
  rfl

theorem digitsValue_cons (d : Nat) (digits : List Nat) :
    digitsValue (d :: digits) = 10 ^ digits.length * d + digitsValue digits := by
  have single : digitsValue [d] = d := by simp [digitsValue]
  rw [← List.singleton_append, digitsValue_append, single]

theorem digitsValue_zeros (count : Nat) : digitsValue (List.replicate count 0) = 0 := by
  induction count with
  | zero => rfl
  | succ count ih => rw [List.replicate_succ', digitsValue_append, ih]; rfl

theorem digitsValue_lt {digits : List Nat} (decimals : Decimals digits) :
    digitsValue digits < 10 ^ digits.length := by
  induction digits with
  | nil => decide
  | cons d digits ih =>
    obtain ⟨first, others⟩ := List.forall_mem_cons.mp decimals
    have small := ih others
    have most : 10 ^ digits.length * d ≤ 10 ^ digits.length * 9 := Nat.mul_le_mul_left _ (by omega)
    rw [digitsValue_cons, List.length_cons, Nat.pow_succ]
    omega

end Literal
open Literal

/-- Characters that are digits, as numbers. -/
def digitValues (chars : List Char) : List Nat := chars.map fun c => c.toNat - 48

def decimalDigits (n : Nat) : List Nat := digitValues (Nat.toDigits 10 n)

private theorem digit_bounds {c : Char} (digit : c.isDigit = true) : 48 ≤ c.toNat ∧ c.toNat ≤ 57 := by
  simp only [Char.isDigit, Bool.and_eq_true, decide_eq_true_eq] at digit
  exact ⟨UInt32.le_iff_toNat_le.mp digit.1, UInt32.le_iff_toNat_le.mp digit.2⟩

theorem ofText_digits {chars : List Char} (digits : ∀ c ∈ chars, c.isDigit = true) :
    Bytes.ofText (String.ofList chars) = figures (digitValues chars) := by
  rw [Bytes.ofText_ofList]
  induction chars with
  | nil => rfl
  | cons c chars ih =>
    obtain ⟨digit, others⟩ := List.forall_mem_cons.mp digits
    obtain ⟨least, most⟩ := digit_bounds digit
    have value : 48 + (c.toNat - 48) = c.toNat := Nat.add_sub_cancel' least
    rw [List.flatMap_cons, ih others, Bytes.char_of_ascii (by omega)]
    simp only [figures, digitValues, List.map_cons, value]
    rfl

theorem isDigit_toDigits {n : Nat} {c : Char} (listed : c ∈ Nat.toDigits 10 n) : c.isDigit = true :=
  Nat.isDigit_of_mem_toDigits (by decide) (by decide) listed

theorem decimals_decimalDigits (n : Nat) : Decimals (decimalDigits n) := by
  intro d member
  obtain ⟨c, listed, rfl⟩ := List.mem_map.mp member
  have bounds := digit_bounds (isDigit_toDigits listed)
  omega

theorem ofText_toString (n : Nat) : Bytes.ofText (toString n) = figures (decimalDigits n) := by
  have text : toString n = String.ofList (Nat.toDigits 10 n) := by
    rw [Nat.toString_eq_repr, ← Nat.toList_repr, String.ofList_toList]
  rw [text, ofText_digits fun c => isDigit_toDigits]
  rfl

theorem digitsValue_decimalDigits (n : Nat) : digitsValue (decimalDigits n) = n := by
  rw [digitsValue, decimalDigits, digitValues, List.foldl_map]
  exact Nat.ofDigitChars_ten_toDigits

theorem decimalDigits_ne_nil (n : Nat) : decimalDigits n ≠ [] := by
  simp [decimalDigits, digitValues, Nat.toDigits_ne_nil]

theorem lt_pow_length_decimalDigits (n : Nat) : n < 10 ^ (decimalDigits n).length := by
  have bound := digitsValue_lt (decimals_decimalDigits n)
  rwa [digitsValue_decimalDigits] at bound

/-- Only zero is written with a zero in front. -/
theorem eq_zero_of_head {n : Nat} (zero : (decimalDigits n).head? = some 0) : n = 0 := by
  obtain ⟨digits, shape⟩ := List.head?_eq_some_iff.mp zero
  have value := digitsValue_cons 0 digits
  rw [← shape, digitsValue_decimalDigits, Nat.mul_zero, Nat.zero_add] at value
  have small : n < 10 ^ digits.length := by
    rw [value]
    exact digitsValue_lt fun d listed => decimals_decimalDigits n d (shape ▸ List.mem_cons_of_mem 0 listed)
  rcases Nat.eq_zero_or_pos digits.length with empty | some
  · rw [empty] at small
    exact Nat.lt_one_iff.mp small
  · have fewer := (Nat.length_toDigits_le_iff (by decide) some).mpr small
    have size : (Nat.toDigits 10 n).length = digits.length + 1 := by
      rw [← List.length_cons, ← shape, decimalDigits, digitValues, List.length_map]
    omega

/-- A decimal written with a point and no exponent part. -/
def positionalLiteral (d : Decimal) : Literal :=
  let digits := decimalDigits d.coefficient
  let point : Int := digits.length + d.exponent
  if point ≤ 0 then ⟨false, [0], List.replicate (-point).toNat 0 ++ digits, none, false⟩
  else if (digits.length : Int) ≤ point then
    ⟨false, digits ++ List.replicate (point.toNat - digits.length) 0, [0], none, false⟩
  else ⟨false, digits.take point.toNat, digits.drop point.toNat, none, false⟩

/-- A decimal written with one digit before the point and an exponent part. -/
def scientificLiteral (d : Decimal) : Literal :=
  let digits := decimalDigits d.coefficient
  let leading : Int := digits.length + d.exponent - 1
  ⟨false, digits.take 1, digits.drop 1, some (leading < 0, decimalDigits leading.natAbs), false⟩

/-- The literal that a style writes for a decimal. -/
def unsignedLiteral (style : NumberStyle) (d : Decimal) : Literal :=
  if style.positional (d.width + d.exponent - 1) then positionalLiteral d else scientificLiteral d

def literalOf (style : NumberStyle) (negative : Bool) (d : Decimal) : Literal :=
  { unsignedLiteral style d with negative := negative }

section
variable (d : Decimal)

theorem toList_toString (n : Nat) : (toString n).toList = Nat.toDigits 10 n := by
  rw [Nat.toString_eq_repr, Nat.toList_repr]

theorem length_decimalDigits (n : Nat) : (decimalDigits n).length = (Nat.toDigits 10 n).length :=
  List.length_map _

theorem ofText_part {n : Nat} {part : List Char} (within : part ⊆ Nat.toDigits 10 n) :
    Bytes.ofText (String.ofList part) = figures (digitValues part) :=
  ofText_digits fun _ listed => isDigit_toDigits (within listed)

theorem ofText_zeros (count : Nat) : Bytes.ofText (NumberStyle.zeros count) = figures (List.replicate count 0) := by
  have digits : ∀ c ∈ List.replicate count '0', c.isDigit = true := by
    intro c member
    rw [(List.mem_replicate.mp member).2]
    rfl
  rw [NumberStyle.zeros, ofText_digits digits, digitValues, List.map_replicate]
  rfl

theorem fractionBytes_some {fraction : List Nat} (some : fraction ≠ []) :
    fractionBytes fraction = 0x2e :: figures fraction := by
  rw [fractionBytes, if_neg (by simpa using some)]

theorem bytes_unsigned (plus : Bool) (whole fraction : List Nat) (exponent : Option (Bool × List Nat)) :
    Literal.bytes plus ⟨false, whole, fraction, exponent, false⟩ =
      figures whole ++ fractionBytes fraction ++ exponentBytes plus exponent := rfl

@[simp] theorem figures_append (front back : List Nat) : figures (front ++ back) = figures front ++ figures back :=
  List.map_append

theorem ofText_positional {style : NumberStyle} (point : style.wholePoint = true) :
    Bytes.ofText (style.layoutPositional d) = (positionalLiteral d).bytes style.plus := by
  have whole : Bytes.ofText (String.ofList (Nat.toDigits 10 d.coefficient)) =
      figures (decimalDigits d.coefficient) := ofText_part (List.Subset.refl _)
  have dot : Bytes.ofText "." = [0x2e] := Bytes.ofText_ofList ['.']
  simp only [NumberStyle.layoutPositional, positionalLiteral, toList_toString, length_decimalDigits]
  split_ifs with small large
  · have front : Bytes.ofText "0." = [0x30, 0x2e] := Bytes.ofText_ofList ['0', '.']
    rw [bytes_unsigned, fractionBytes_some (by simp [decimalDigits_ne_nil]), Bytes.ofText_append,
      Bytes.ofText_append, front, ofText_zeros, whole, figures_append]
    simp [figures, exponentBytes]
  · have back : Bytes.ofText ".0" = [0x2e, 0x30] := Bytes.ofText_ofList ['.', '0']
    rw [bytes_unsigned, fractionBytes_some (by simp), Bytes.ofText_append, Bytes.ofText_append, back,
      ofText_zeros, whole, figures_append]
    simp [figures, exponentBytes]
  · have some : (decimalDigits d.coefficient).drop
        ((Nat.toDigits 10 d.coefficient).length + d.exponent).toNat ≠ [] := by
      rw [ne_eq, List.drop_eq_nil_iff, length_decimalDigits]
      omega
    rw [bytes_unsigned, fractionBytes_some some, Bytes.ofText_append, Bytes.ofText_append, dot,
      ofText_part (List.take_subset _ _), ofText_part (List.drop_subset _ _)]
    simp [digitValues, decimalDigits, exponentBytes, List.map_take, List.map_drop]

theorem ofText_int (leading : Int) :
    Bytes.ofText (toString leading) =
      (if leading < 0 then [0x2d] else []) ++ figures (decimalDigits leading.natAbs) := by
  cases leading with
  | ofNat n =>
    have nonneg : ¬Int.ofNat n < 0 := Int.not_lt.mpr (Int.natCast_nonneg n)
    rw [if_neg nonneg]
    exact ofText_toString n
  | negSucc n =>
    have text : toString (Int.negSucc n) = "-" ++ toString (n + 1) := rfl
    have minus : Bytes.ofText "-" = [0x2d] := Bytes.ofText_ofList ['-']
    rw [if_pos (Int.negSucc_lt_zero n), text, Bytes.ofText_append, minus, ofText_toString]
    rfl

theorem ofText_scientific (style : NumberStyle) :
    Bytes.ofText (style.layoutScientific d) = (scientificLiteral d).bytes style.plus := by
  have e : Bytes.ofText "e" = [0x65] := Bytes.ofText_ofList ['e']
  have fraction : Bytes.ofText (if ((Nat.toDigits 10 d.coefficient).drop 1).isEmpty then ""
      else "." ++ String.ofList ((Nat.toDigits 10 d.coefficient).drop 1)) =
        fractionBytes ((decimalDigits d.coefficient).drop 1) := by
    have dot : Bytes.ofText "." = [0x2e] := Bytes.ofText_ofList ['.']
    rw [fractionBytes, decimalDigits, digitValues, ← List.map_drop, List.isEmpty_map]
    split
    · exact Bytes.ofText_ofList []
    · rw [Bytes.ofText_append, dot, ofText_part (List.drop_subset _ _)]
      rfl
  simp only [NumberStyle.layoutScientific, scientificLiteral, toList_toString, length_decimalDigits]
  generalize ((Nat.toDigits 10 d.coefficient).length : Int) + d.exponent - 1 = leading
  have sign : Bytes.ofText (if style.plus && 0 ≤ leading then "+" else "") ++
      (if leading < 0 then [0x2d] else []) =
        if leading < 0 then [0x2d] else if style.plus then [0x2b] else [] := by
    have plus : Bytes.ofText "+" = [0x2b] := Bytes.ofText_ofList ['+']
    have nothing : Bytes.ofText "" = [] := Bytes.ofText_ofList []
    by_cases below : leading < 0
    · simp [below, nothing, Int.not_le.mpr below]
    · cases style.plus <;> simp [below, plus, nothing, Int.not_lt.mp below]
  rw [bytes_unsigned, exponentBytes, Bytes.ofText_append, Bytes.ofText_append, Bytes.ofText_append,
    Bytes.ofText_append, fraction, e, ofText_int, ofText_part (List.take_subset _ _)]
  rw [List.append_assoc _ (Bytes.ofText (if style.plus && 0 ≤ leading then "+" else "")), 
    ← List.append_assoc (Bytes.ofText (if style.plus && 0 ≤ leading then "+" else "")), sign]
  simp [digitValues, decimalDigits, List.map_take]

theorem ofText_layout {style : NumberStyle} (point : style.wholePoint = true) :
    Bytes.ofText (style.layout d) = (unsignedLiteral style d).bytes style.plus := by
  rw [NumberStyle.layout, unsignedLiteral]
  by_cases positional : style.positional (d.width + d.exponent - 1) = true
  · rw [if_pos positional, if_pos positional, ofText_positional d point]
  · rw [if_neg positional, if_neg positional, ofText_scientific]

theorem unsignedLiteral_negative (style : NumberStyle) : (unsignedLiteral style d).negative = false := by
  unfold unsignedLiteral positionalLiteral scientificLiteral
  dsimp only
  split_ifs <;> rfl

theorem ofText_text {style : NumberStyle} (point : style.wholePoint = true) {x : Binary64}
    (written : x.isFinite = true ∨ style.nonFinite = .digits) :
    Bytes.ofText (style.text x) =
      (literalOf style x.negative (Decimal.shortest style.tie x)).bytes style.plus := by
  have digits : (x.isFinite || style.nonFinite = .digits) = true := by simpa using written
  have sign : Bytes.ofText (NumberStyle.sign x) = if x.negative then [0x2d] else [] := by
    rw [NumberStyle.sign]
    split
    · exact Bytes.ofText_ofList ['-']
    · exact Bytes.ofText_ofList []
  have unsigned := unsignedLiteral_negative (Decimal.shortest style.tie x) style
  rw [NumberStyle.text, if_pos digits, Bytes.ofText_append, sign, ofText_layout _ point, literalOf,
    Literal.bytes, Literal.bytes, unsigned]
  simp

/-- A decimal whose digits have no needless zero in front, even when zeros are appended. -/
def Canonical (d : Decimal) : Prop := d.coefficient = 0 → d.exponent = 0

theorem decimals_zeros (count : Nat) : Decimals (List.replicate count 0) := by
  intro z member
  rw [(List.mem_replicate.mp member).2]
  decide

theorem decimals_append {front back : List Nat} (first : Decimals front) (second : Decimals back) :
    Decimals (front ++ back) := List.forall_mem_append.mpr ⟨first, second⟩

variable {d}

theorem positionalLiteral_formed (canonical : Canonical d) : (positionalLiteral d).WellFormed := by
  have decimals := decimals_decimalDigits d.coefficient
  have some := decimalDigits_ne_nil d.coefficient
  have single : Decimals [0] := decimals_zeros 1
  have zero (head : (decimalDigits d.coefficient).head? = .some 0) :
      (decimalDigits d.coefficient).length = 1 ∧ d.exponent = 0 := by
    have nothing := eq_zero_of_head head
    exact ⟨by rw [nothing]; rfl, canonical nothing⟩
  unfold positionalLiteral
  dsimp only
  split_ifs with small large
  · exact ⟨List.cons_ne_nil _ _, fun _ => rfl, single, decimals_append (decimals_zeros _) decimals,
      nofun, rfl⟩
  · refine ⟨List.append_ne_nil_of_left_ne_nil some _, ?_, decimals_append decimals (decimals_zeros _),
      single, nofun, rfl⟩
    intro head
    rw [List.head?_append, Option.or_of_isSome (by simpa using some)] at head
    obtain ⟨one, whole⟩ := zero head
    simp [one, whole]
  · refine ⟨?_, ?_, fun digit listed => decimals digit (List.mem_of_mem_take listed),
      fun digit listed => decimals digit (List.mem_of_mem_drop listed), nofun, rfl⟩
    · rw [ne_eq, List.take_eq_nil_iff]
      rintro (none | nothing)
      · omega
      · exact some nothing
    · intro head
      rw [List.head?_take, if_neg (by omega)] at head
      obtain ⟨one, whole⟩ := zero head
      omega

theorem scientificLiteral_formed : (scientificLiteral d).WellFormed := by
  have decimals := decimals_decimalDigits d.coefficient
  have some := List.length_pos_iff.mpr (decimalDigits_ne_nil d.coefficient)
  refine ⟨?_, fun _ => List.length_take_of_le some, fun digit listed => decimals digit (List.mem_of_mem_take listed),
      fun digit listed => decimals digit (List.mem_of_mem_drop listed), ?_, rfl⟩
  · exact List.ne_nil_of_length_pos (by rw [scientificLiteral, List.length_take_of_le some]; decide)
  · rintro part ⟨⟩
    exact ⟨decimalDigits_ne_nil _, decimals_decimalDigits _⟩

theorem literalOf_formed (style : NumberStyle) (negative : Bool) (canonical : Canonical d) :
    (literalOf style negative d).WellFormed := by
  have formed : (unsignedLiteral style d).WellFormed := by
    rw [unsignedLiteral]
    split
    · exact positionalLiteral_formed canonical
    · exact scientificLiteral_formed
  obtain ⟨whole, leading, wholes, fractions, exponent, short⟩ := formed
  exact ⟨whole, leading, wholes, fractions, exponent, short⟩

end

namespace Literal

/-- The digits of a literal as one number. -/
def significand (literal : Literal) : Nat := digitsValue (literal.whole ++ literal.fraction)

/-- The power of ten that scales the significand. -/
def power (literal : Literal) : Int := literal.exponentValue - literal.fraction.length

end Literal

section
variable {d : Decimal}

theorem width_eq : d.width = (decimalDigits d.coefficient).length := by
  rw [Decimal.width, ← String.length_toList, toList_toString, length_decimalDigits]

/-- Zeros that are written in front of the point, and one behind it, are digits of the literal. -/
theorem positionalLiteral_value : ∃ zeros : Nat,
    (positionalLiteral d).significand = d.coefficient * 10 ^ zeros ∧
      (positionalLiteral d).power = d.exponent - zeros ∧ (positionalLiteral d).power < 0 ∧
      (zeros = 0 ∨ (positionalLiteral d).power = -1 ∧
        (positionalLiteral d).significand < 10 ^ (d.width + d.exponent + 1).toNat) := by
  have value := digitsValue_decimalDigits d.coefficient
  have some := List.length_pos_iff.mpr (decimalDigits_ne_nil d.coefficient)
  have bound := lt_pow_length_decimalDigits d.coefficient
  rw [width_eq]
  unfold positionalLiteral
  dsimp only
  split_ifs with small large
  · refine ⟨0, ?_, ?_, ?_, .inl rfl⟩
    · rw [significand, digitsValue_append, digitsValue_append, digitsValue_zeros, value]
      simp [digitsValue]
    · simp [power, exponentValue]
      omega
    · simp [power, exponentValue]
      omega
  · obtain ⟨count, exponent⟩ : ∃ count : Nat, d.exponent = count := ⟨d.exponent.toNat, by omega⟩
    have zeros : ((decimalDigits d.coefficient).length + d.exponent).toNat - 
        (decimalDigits d.coefficient).length = count := by omega
    rw [zeros]
    have shifted : significand ⟨false, decimalDigits d.coefficient ++ List.replicate count 0, [0], none, false⟩ =
        d.coefficient * 10 ^ (count + 1) := by
      rw [significand, digitsValue_append, digitsValue_append, digitsValue_zeros, value,
        List.length_replicate, Nat.pow_succ]
      simp only [digitsValue, List.foldl_cons, List.foldl_nil, List.length_singleton]
      ring
    refine ⟨count + 1, shifted, ?_, ?_, .inr ⟨?_, ?_⟩⟩
    · simp [power, exponentValue]
      omega
    · simp [power, exponentValue]
    · simp [power, exponentValue]
    · have places : ((decimalDigits d.coefficient).length + d.exponent + 1).toNat =
          (decimalDigits d.coefficient).length + (count + 1) := by omega
      rw [shifted, places, Nat.pow_add _ (decimalDigits d.coefficient).length]
      exact Nat.mul_lt_mul_of_pos_right bound (Nat.pow_pos (show 0 < 10 by decide))
  · refine ⟨0, ?_, ?_, ?_, .inl rfl⟩
    · simp [significand, List.take_append_drop, value]
    · simp [power, exponentValue]
      omega
    · simp [power, exponentValue]
      omega

theorem exponentValue_leading (whole fraction : List Nat) (leading : Int) :
    exponentValue ⟨false, whole, fraction, some (leading < 0, decimalDigits leading.natAbs), false⟩ = leading := by
  by_cases below : leading < 0
  · simp only [exponentValue, below, decide_true, digitsValue_decimalDigits]
    rw [Int.ofNat_natAbs_of_nonpos (Int.le_of_lt below), Int.neg_neg]
  · simp only [exponentValue, below, decide_false, digitsValue_decimalDigits]
    rw [Int.natAbs_of_nonneg (Int.not_lt.mp below)]

theorem scientificLiteral_value :
    (scientificLiteral d).significand = d.coefficient ∧ (scientificLiteral d).power = d.exponent := by
  have value := digitsValue_decimalDigits d.coefficient
  have some := List.length_pos_iff.mpr (decimalDigits_ne_nil d.coefficient)
  refine ⟨?_, ?_⟩
  · rw [scientificLiteral, significand, List.take_append_drop, value]
  · rw [power, scientificLiteral, exponentValue_leading, List.length_drop]
    omega

end

end Telemetry.Json
