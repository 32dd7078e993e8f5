import Telemetry.Json.Document
import Mathlib.Tactic.SplitIfs

/-! Number literals are read back from their text, in front of whatever cannot belong to a number. -/
namespace Telemetry.Json

/-- Decimal digits as they are written. -/
def figures (digits : List Nat) : Bytes := digits.map fun d => UInt8.ofNat (48 + d)

def Decimals (digits : List Nat) : Prop := ∀ d ∈ digits, d < 10

namespace Document

/-- What may stand behind an element of an array: nothing, a comma or the bracket. -/
def Parted (rest : Bytes) : Prop := ∀ b ∈ rest.head?, b = 0x2c ∨ b = 0x5d

/-- No byte that continues a number stands in front. -/
def Ends (rest : Bytes) : Prop :=
  ∀ b ∈ rest.head?, isDigit b = false ∧ b ≠ 0x2e ∧ b ≠ 0x65 ∧ b ≠ 0x45

theorem Parted.ends {rest : Bytes} (parted : Parted rest) : Ends rest := by
  intro b front
  rcases parted b front with rfl | rfl <;> decide

private theorem figure {d : Nat} (small : d < 10) :
    isDigit (UInt8.ofNat (48 + d)) = true ∧ (UInt8.ofNat (48 + d)).toNat - 48 = d := by
  revert d
  decide

theorem digitsOf_figures {digits : List Nat} (decimals : Decimals digits) {rest : Bytes}
    (stops : ∀ b ∈ rest.head?, isDigit b = false) : digitsOf (figures digits ++ rest) = (digits, rest) := by
  have all : ∀ b ∈ figures digits, isDigit b = true := by
    intro b member
    obtain ⟨d, listed, rfl⟩ := List.mem_map.mp member
    exact (figure (decimals d listed)).1
  have behind : rest.takeWhile isDigit = [] ∧ rest.dropWhile isDigit = rest := by
    cases rest with
    | nil => exact ⟨rfl, rfl⟩
    | cons b rest => simp [stops b rfl]
  have values : (figures digits).map (fun b => b.toNat - 48) = digits := by
    rw [figures, List.map_map]
    exact (List.map_congr_left fun d listed => (figure (decimals d listed)).2).trans (List.map_id _)
  rw [digitsOf, List.takeWhile_append_of_pos all, List.dropWhile_append_of_pos all, behind.1, behind.2,
    List.append_nil, values]

theorem digitsOf_rest (bytes : Bytes) : (digitsOf bytes).2 <:+ bytes := List.dropWhile_suffix _

end Document

namespace Literal

/-- Bytes of an exponent part, whose sign may be spelled out. -/
def exponentBytes (plus : Bool) : Option (Bool × List Nat) → Bytes
  | none => []
  | some (negative, digits) =>
    0x65 :: (if negative then [0x2d] else if plus then [0x2b] else []) ++ figures digits

def fractionBytes (fraction : List Nat) : Bytes :=
  if fraction.isEmpty then [] else 0x2e :: figures fraction

/-- The text of a literal. -/
def bytes (plus : Bool) (literal : Literal) : Bytes :=
  (if literal.negative then [0x2d] else []) ++ figures literal.whole ++
    fractionBytes literal.fraction ++ exponentBytes plus literal.exponent

structure WellFormed (literal : Literal) : Prop where
  whole : literal.whole ≠ []
  leading : literal.whole.head? = some 0 → literal.whole.length = 1
  wholeDecimals : Decimals literal.whole
  fractionDecimals : Decimals literal.fraction
  exponent : ∀ part ∈ literal.exponent, part.2 ≠ [] ∧ Decimals part.2
  short : literal.long = false

end Literal

namespace Document
variable (plus : Bool)

theorem readFraction_bytes {fraction : List Nat} (decimals : Decimals fraction) {rest : Bytes}
    (stops : ∀ b ∈ rest.head?, isDigit b = false ∧ b ≠ 0x2e) :
    readFraction (Literal.fractionBytes fraction ++ rest) = some (fraction, rest) := by
  rw [Literal.fractionBytes]
  split_ifs with none
  · rw [List.isEmpty_iff.mp none, List.nil_append]
    cases rest with
    | nil => rfl
    | cons b rest =>
      have other := (stops b rfl).2
      rw [readFraction]
      simpa using other
  · have read := digitsOf_figures decimals fun b front => (stops b front).1
    rw [List.cons_append, readFraction, read]
    simp [none]

private theorem figure_unsigned {d : Nat} (small : d < 10) :
    UInt8.ofNat (48 + d) ≠ 0x2d ∧ UInt8.ofNat (48 + d) ≠ 0x2b := by
  revert d
  decide

theorem readExponent_bytes {exponent : Option (Bool × List Nat)}
    (parts : ∀ part ∈ exponent, part.2 ≠ [] ∧ Decimals part.2) {rest : Bytes} (ends : Ends rest) :
    readExponent (Literal.exponentBytes plus exponent ++ rest) = some (exponent, rest) := by
  cases exponent with
  | none =>
    cases rest with
    | nil => rfl
    | cons b rest =>
      obtain ⟨-, -, small, large⟩ := ends b rfl
      rw [Literal.exponentBytes, List.nil_append, readExponent]
      · simpa using small
      · simpa using large
  | some part =>
    obtain ⟨negative, digits⟩ := part
    obtain ⟨present, decimals⟩ := parts _ rfl
    have read := digitsOf_figures decimals fun b front => (ends b front).1
    have listed : digits.isEmpty = false := by simpa using present
    cases negative with
    | true => simp [Literal.exponentBytes, readExponent, read, present]
    | false =>
      cases plus with
      | true => simp [Literal.exponentBytes, readExponent, read, present]
      | false =>
        obtain ⟨d, digits, rfl⟩ := List.exists_cons_of_ne_nil present
        obtain ⟨minus, plus⟩ := figure_unsigned (decimals d (List.mem_cons_self ..))
        simp only [Literal.exponentBytes, readExponent, Bool.false_eq_true, if_false, List.nil_append,
          List.cons_append]
        simp only [figures, List.map_cons, List.cons_append] at read ⊢
        split
        · rename_i same
          exact absurd (List.cons.inj same).1 minus
        · rename_i same
          exact absurd (List.cons.inj same).1 plus
        · rw [read]
          rfl

theorem exponentBytes_head (exponent : Option (Bool × List Nat)) {rest : Bytes} (ends : Ends rest) :
    ∀ b ∈ (Literal.exponentBytes plus exponent ++ rest).head?, isDigit b = false ∧ b ≠ 0x2e := by
  intro b front
  cases exponent with
  | none => exact ⟨(ends b front).1, (ends b front).2.1⟩
  | some part =>
    cases front
    decide

theorem fractionBytes_head (fraction : List Nat) {rest : Bytes} (stops : ∀ b ∈ rest.head?, isDigit b = false) :
    ∀ b ∈ (Literal.fractionBytes fraction ++ rest).head?, isDigit b = false := by
  intro b front
  rw [Literal.fractionBytes] at front
  split at front
  · exact stops b front
  · cases front
    decide

theorem readUnsigned_bytes {literal : Literal} (formed : literal.WellFormed) {rest : Bytes} (ends : Ends rest) :
    readUnsigned literal.negative (figures literal.whole ++ (Literal.fractionBytes literal.fraction ++
      (Literal.exponentBytes plus literal.exponent ++ rest))) = some (literal, rest) := by
  obtain ⟨negative, whole, fraction, exponent, long⟩ := literal
  obtain ⟨present, leading, wholes, fractions, parts, rfl⟩ := formed
  have behind := exponentBytes_head plus exponent ends
  have digits := digitsOf_figures wholes (fractionBytes_head fraction fun b front => (behind b front).1)
  have kept : (whole.isEmpty || (whole.head? = some 0 && whole.length != 1)) = false := by
    simpa [present] using leading
  have fractionRead := readFraction_bytes fractions behind
  have exponentRead := readExponent_bytes plus parts ends
  simp only [readUnsigned, digits, kept, fractionRead, Option.bind_eq_bind, Option.bind_some, exponentRead]
  rfl

theorem readNumber_bytes {literal : Literal} (formed : literal.WellFormed) {rest : Bytes} (ends : Ends rest) :
    readNumber .plain (literal.bytes plus ++ rest) = some (literal, rest) := by
  have read := readUnsigned_bytes plus formed ends
  simp only [Literal.bytes, List.append_assoc]
  cases negative : literal.negative with
  | true =>
    rw [negative] at read
    exact read
  | false =>
    rw [negative] at read
    obtain ⟨d, digits, whole⟩ := List.exists_cons_of_ne_nil formed.whole
    have unsigned := (figure_unsigned (formed.wholeDecimals d (whole ▸ List.mem_cons_self ..))).1
    simp only [whole, figures, List.map_cons, List.cons_append, Bool.false_eq_true, if_false,
      List.nil_append] at read ⊢
    simp only [readNumber]
    split
    · rename_i same
      exact absurd (List.cons.inj same).1 unsigned
    · exact read

theorem isDigit_figures {digits : List Nat} (decimals : Decimals digits) {b : UInt8}
    (member : b ∈ figures digits) : isDigit b = true := by
  obtain ⟨d, listed, rfl⟩ := List.mem_map.mp member
  exact (figure (decimals d listed)).1

theorem mem_literal {literal : Literal} (formed : literal.WellFormed) {b : UInt8}
    (member : b ∈ literal.bytes plus) : isDigit b = true ∨ b ∈ [0x2d, 0x2b, 0x2e, 0x65] := by
  simp only [Literal.bytes, List.mem_append] at member
  rcases member with ((sign | whole) | fraction) | exponent
  · split at sign
    · rw [List.mem_singleton.mp sign]
      exact .inr (by decide)
    · cases sign
  · exact .inl (isDigit_figures formed.wholeDecimals whole)
  · rw [Literal.fractionBytes] at fraction
    split at fraction
    · cases fraction
    · rcases List.mem_cons.mp fraction with rfl | digit
      · exact .inr (by decide)
      · exact .inl (isDigit_figures formed.fractionDecimals digit)
  · cases part : literal.exponent with
    | none =>
      rw [part] at exponent
      cases exponent
    | some parts =>
      obtain ⟨negative, digits⟩ := parts
      rw [part, Literal.exponentBytes, List.cons_append, List.mem_cons, List.mem_append] at exponent
      rcases exponent with rfl | sign | digit
      · exact .inr (by decide)
      · refine .inr ?_
        split_ifs at sign
        · rw [List.mem_singleton.mp sign]
          decide
        · rw [List.mem_singleton.mp sign]
          decide
        · cases sign
      · exact .inl (isDigit_figures (formed.exponent _ part).2 digit)

theorem literal_head {literal : Literal} (formed : literal.WellFormed) :
    ∃ b more, literal.bytes plus = b :: more ∧ (isDigit b = true ∨ b = 0x2d) := by
  obtain ⟨d, digits, whole⟩ := List.exists_cons_of_ne_nil formed.whole
  have digit := (figure (formed.wholeDecimals d (whole ▸ List.mem_cons_self ..))).1
  cases negative : literal.negative with
  | true => exact ⟨0x2d, _, by simp only [Literal.bytes, negative]; rfl, .inr rfl⟩
  | false => exact ⟨UInt8.ofNat (48 + d), _, by simp only [Literal.bytes, negative, whole]; rfl, .inl digit⟩

end Document
end Telemetry.Json
