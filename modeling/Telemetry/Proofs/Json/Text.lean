import Telemetry.Json.Document
import Telemetry.Json.Value
import Telemetry.Proofs.Text.Utf8
import Mathlib.Tactic.SplitIfs

/-! A string literal is read back as the text it was written for, in front of anything. Up to its
closing quote nothing is read. -/
namespace Telemetry.Json.Document
variable {dialect : Dialect}

theorem readPieces_byte {b : UInt8} (inside : b ≠ 0x22) (bare : b ≠ 0x5c) (shown : 0x20 ≤ b) (rest : Bytes) :
    readPieces (b :: rest) =
      (readPieces rest).map fun (pieces, rest) => (.byte b :: pieces, rest) := by
  rw [readPieces]
  · exact if_neg fun stops => stops.elim (UInt8.not_lt.mpr shown) bare
  · exact inside
  · exact fun _ _ _ _ _ escapes _ => bare escapes
  · exact fun _ _ escapes _ => bare escapes

theorem readPieces_escape {b byte : UInt8} (escaped : simpleEscape b = some byte) (rest : Bytes) :
    readPieces (0x5c :: b :: rest) =
      (readPieces rest).map fun (pieces, rest) => (.byte byte :: pieces, rest) := by
  have other : b ≠ 0x75 := by
    rintro rfl
    cases escaped
  rw [readPieces]
  · rw [escaped]
  · exact fun _ _ _ _ _ unit _ => other unit

theorem readPieces_unit {a b c d : UInt8} {unit : Nat} (digits : hexUnit a b c d = some unit) (rest : Bytes) :
    readPieces (0x5c :: 0x75 :: a :: b :: c :: d :: rest) =
      (readPieces rest).map fun (pieces, rest) => (.unit unit :: pieces, rest) := by
  rw [readPieces, digits]

theorem denoted_unit {unit : Nat} (low : unit < 0xd800) (pieces : List Piece) :
    denoted dialect (.unit unit :: pieces) =
      (denoted dialect pieces).map (String.utf8EncodeChar (Char.ofNat unit) ++ ·) := by
  have leads : isLeading unit = false := by simp [isLeading]; omega
  have trails : isTrailing unit = false := by simp [isTrailing]; omega
  have alone : aloneBytes dialect unit = some (String.utf8EncodeChar (Char.ofNat unit)) := by
    simp [aloneBytes, leads, trails]
  match pieces with
  | [] => simp [denoted, alone]
  | .byte b :: pieces =>
    simp only [denoted, alone]
    cases denoted dialect pieces <;> rfl
  | .unit low :: pieces =>
    rw [denoted, leads, alone]
    cases denoted dialect (.unit low :: pieces) <;> rfl

/-- Some bytes of a literal that stand for a character. -/
def StandsFor (bytes : Bytes) (c : Char) : Prop :=
  ∃ pieces : List Piece,
    (∀ rest, readPieces (bytes ++ rest) =
      (readPieces rest).map fun (more, rest) => (pieces ++ more, rest)) ∧
    ∀ dialect more, denoted dialect (pieces ++ more) =
      (denoted dialect more).map (String.utf8EncodeChar c ++ ·)

theorem standsFor_itself {c : Char} (inside : c ≠ '"') (bare : c ≠ '\\') (shown : 32 ≤ c.toNat) :
    StandsFor (String.utf8EncodeChar c) c := by
  have plain : ∀ b ∈ String.utf8EncodeChar c, b ≠ 0x22 ∧ b ≠ 0x5c ∧ 0x20 ≤ b := by
    intro b member
    by_cases ascii : c.toNat < 128
    · rw [Bytes.char_of_ascii ascii, List.mem_singleton] at member
      have value : b.toNat = c.toNat := by
        rw [member, UInt8.toNat_ofNat', Nat.mod_eq_of_lt (Nat.lt_trans ascii (by decide))]
      refine ⟨?_, ?_, UInt8.le_iff_toNat_le.mpr (value ▸ shown)⟩
      · rintro rfl
        exact inside (Char.toNat_inj.mp value.symm)
      · rintro rfl
        exact bare (Char.toNat_inj.mp value.symm)
    · have high := Bytes.le_of_mem_char (Nat.not_lt.mp ascii) member
      rw [UInt8.le_iff_toNat_le] at high ⊢
      refine ⟨?_, ?_, Nat.le_trans (by decide) high⟩
      · rintro rfl
        exact absurd high (by decide)
      · rintro rfl
        exact absurd high (by decide)
  refine ⟨(String.utf8EncodeChar c).map .byte, fun rest => ?_, fun dialect more => ?_⟩
  · generalize String.utf8EncodeChar c = bytes at plain
    induction bytes with
    | nil => simp
    | cons b bytes ih =>
      obtain ⟨⟨inside, bare, shown⟩, others⟩ := List.forall_mem_cons.mp plain
      rw [List.cons_append, readPieces_byte inside bare shown, ih others]
      cases readPieces rest <;> rfl
  · generalize String.utf8EncodeChar c = bytes
    induction bytes with
    | nil => simp
    | cons b bytes ih =>
      rw [List.map_cons, List.cons_append, denoted, ih]
      cases denoted dialect more <;> rfl

theorem standsFor_escape {b byte : UInt8} {c : Char} (escaped : simpleEscape b = some byte)
    (single : String.utf8EncodeChar c = [byte]) : StandsFor [0x5c, b] c := by
  refine ⟨[.byte byte], readPieces_escape escaped, fun dialect more => ?_⟩
  rw [single]
  rfl

theorem standsFor_unit {high low : UInt8} {c : Char} (digits : hexUnit 0x30 0x30 high low = some c.toNat)
    (control : c.toNat < 32) : StandsFor [0x5c, 0x75, 0x30, 0x30, high, low] c := by
  refine ⟨[.unit c.toNat], readPieces_unit digits, fun dialect more => ?_⟩
  rw [List.singleton_append, denoted_unit (by omega), Char.ofNat_toNat]

/-- The two digits with which a control character is written. -/
theorem hexUnit_control {n : Nat} (control : n < 32) :
    hexUnit 0x30 0x30 (UInt8.ofNat (if n / 16 < 10 then 48 + n / 16 else 87 + n / 16))
      (UInt8.ofNat (if n % 16 < 10 then 48 + n % 16 else 87 + n % 16)) = some n := by
  revert n
  decide

theorem standsFor_escaped (c : Char) : StandsFor ((escape c).flatMap String.utf8EncodeChar) c := by
  unfold escape
  split_ifs with quote slash back tab line form carriage control
  · subst quote
    exact standsFor_escape (b := 0x22) rfl rfl
  · subst slash
    exact standsFor_escape (b := 0x5c) rfl rfl
  · subst back
    exact standsFor_escape (b := 0x62) rfl rfl
  · subst tab
    exact standsFor_escape (b := 0x74) rfl rfl
  · subst line
    exact standsFor_escape (b := 0x6e) rfl rfl
  · subst form
    exact standsFor_escape (b := 0x66) rfl rfl
  · subst carriage
    exact standsFor_escape (b := 0x72) rfl rfl
  · have ascii {n : Nat} (small : n < 16) : (if n < 10 then 48 + n else 87 + n) < 128 := by
      split <;> omega
    have high := Bytes.char_ofNat (ascii (show c.toNat / 16 < 16 by omega))
    have low := Bytes.char_ofNat (ascii (show c.toNat % 16 < 16 by omega))
    simp only [List.flatMap_cons, List.flatMap_nil, high, low]
    exact standsFor_unit (hexUnit_control control) control
  · rw [List.flatMap_singleton]
    exact standsFor_itself quote slash (Nat.not_lt.mp control)

/-- What is between the quotes of a literal. -/
def escaped (chars : List Char) : Bytes := (chars.flatMap escape).flatMap String.utf8EncodeChar

theorem ofText_quote (s : String) : Bytes.ofText (quote s) = 0x22 :: (escaped s.toList ++ [0x22]) := by
  have mark : Bytes.ofText "\"" = [0x22] := Bytes.ofText_ofList ['"']
  rw [quote, Bytes.ofText_append, Bytes.ofText_append, mark, Bytes.ofText_ofList]
  rfl

theorem readPieces_escaped (chars : List Char) (rest : Bytes) :
    ∃ pieces, readPieces (escaped chars ++ 0x22 :: rest) = some (pieces, rest) ∧
      ∀ dialect, denoted dialect pieces = some (chars.flatMap String.utf8EncodeChar) := by
  induction chars with
  | nil => exact ⟨[], rfl, fun _ => rfl⟩
  | cons c chars ih =>
    obtain ⟨more, read, means⟩ := ih
    obtain ⟨pieces, first, meaning⟩ := standsFor_escaped c
    refine ⟨pieces ++ more, ?_, fun dialect => ?_⟩
    · have split : escaped (c :: chars) ++ 0x22 :: rest =
          (escape c).flatMap String.utf8EncodeChar ++ (escaped chars ++ 0x22 :: rest) := by
        simp [escaped, List.flatMap_append]
      rw [split, first, read]
      rfl
    · rw [meaning, means]
      rfl

theorem readText_escaped (s : String) (rest : Bytes) :
    readText dialect (escaped s.toList ++ 0x22 :: rest) = some (some s, rest) := by
  obtain ⟨pieces, read, means⟩ := readPieces_escaped s.toList rest
  have whole : Bytes.toText? (s.toList.flatMap String.utf8EncodeChar) = some s := by
    rw [← Bytes.ofText_ofList, String.ofList_toList, Bytes.toText?_ofText]
  simp only [readText, read, means, Option.map_some, Option.bind_some, whole]

private theorem pushed_append {front longer other rest : Bytes} {piece : Piece} {pieces : List Piece}
    (ih : ∀ {rest pieces}, readPieces front = some (pieces, rest) →
      readPieces longer = some (pieces, rest ++ other))
    (read : ((readPieces front).map fun (more, rest) => (piece :: more, rest)) = some (pieces, rest)) :
    ((readPieces longer).map fun (more, rest) => (piece :: more, rest)) = some (pieces, rest ++ other) := by
  obtain ⟨⟨more, last⟩, inner, whole⟩ := Option.map_eq_some_iff.mp read
  cases whole
  rw [ih inner]
  rfl

/-- A literal ends at its closing quote, whatever follows. -/
theorem readPieces_append {bytes rest : Bytes} {pieces : List Piece}
    (read : readPieces bytes = some (pieces, rest)) (other : Bytes) :
    readPieces (bytes ++ other) = some (pieces, rest ++ other) := by
  fun_induction readPieces bytes generalizing pieces rest with
  | case1 | case3 | case5 | case7 => cases read
  | case2 =>
    cases read
    rfl
  | case4 a b c d behind unit digits ih =>
    rw [List.cons_append, List.cons_append, List.cons_append, List.cons_append, List.cons_append,
      List.cons_append, readPieces_unit digits]
    exact pushed_append ih read
  | case6 b behind _ byte escaped ih =>
    rw [List.cons_append, List.cons_append, readPieces_escape escaped]
    exact pushed_append ih read
  | case8 b behind inside _ _ goes ih =>
    obtain ⟨shown, bare⟩ := not_or.mp goes
    rw [List.cons_append, readPieces_byte inside bare (UInt8.not_lt.mp shown)]
    exact pushed_append ih read

theorem readText_cut {chars : List Char} {bytes : Bytes} (front : bytes <+: escaped chars ++ [0x22])
    (cut : bytes ≠ escaped chars ++ [0x22]) : readText dialect bytes = none := by
  cases read : readPieces bytes with
  | none => rw [readText, read]; rfl
  | some answer =>
    obtain ⟨pieces, rest⟩ := answer
    obtain ⟨missing, whole⟩ := front
    obtain ⟨all, closed, -⟩ := readPieces_escaped chars []
    rw [← whole, readPieces_append read missing] at closed
    have nothing : rest ++ missing = [] := congrArg Prod.snd (Option.some.inj closed)
    rw [(List.append_eq_nil_iff.mp nothing).2, List.append_nil] at whole
    exact absurd whole cut

end Telemetry.Json.Document
