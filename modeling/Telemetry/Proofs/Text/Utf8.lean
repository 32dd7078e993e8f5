import Telemetry.Text.Utf8

/-! The bytes of a text are those of its characters, and give the text back. A character of seven
bits is one byte; the bytes of any other have their top bit set. -/
namespace Telemetry.Bytes

private theorem loop_eq (bytes : ByteArray) (i : Nat) (before : List UInt8) :
    ByteArray.toList.loop bytes i before = before.reverse ++ bytes.data.toList.drop i := by
  fun_induction ByteArray.toList.loop bytes i before with
  | case1 i before inside ih =>
    have bound : i < bytes.data.toList.length := inside
    have byte : bytes.get! i = bytes.data.toList[i] := by
      change bytes.data[i]! = _
      rw [getElem!_pos bytes.data i inside, Array.getElem_toList]
    rw [ih, List.drop_eq_getElem_cons bound, byte, List.reverse_cons, List.append_assoc]
    rfl
  | case2 i before outside =>
    rw [List.drop_eq_nil_of_le (Nat.not_lt.mp outside), List.append_nil]

theorem ofText_eq_data (s : String) : ofText s = s.toByteArray.data.toList := by
  rw [ofText, String.toUTF8_eq_toByteArray, ByteArray.toList, loop_eq]
  rfl

@[simp] theorem ofText_append (s t : String) : ofText (s ++ t) = ofText s ++ ofText t := by
  rw [ofText_eq_data, String.toByteArray_append, ByteArray.toList_data_append, ofText_eq_data,
    ofText_eq_data]

theorem ofText_ofList (chars : List Char) :
    ofText (String.ofList chars) = chars.flatMap String.utf8EncodeChar := by
  rw [ofText_eq_data, String.toByteArray_ofList, List.utf8Encode, List.toList_data_toByteArray]

theorem toText?_ofText (s : String) : toText? (ofText s) = some s := by
  have bytes : (⟨(ofText s).toArray⟩ : ByteArray) = s.toByteArray := by
    rw [ofText_eq_data]
  rw [toText?, bytes, String.fromUTF8?, dif_pos s.isValidUTF8]
  rfl

theorem char_of_ascii {c : Char} (ascii : c.toNat < 128) :
    String.utf8EncodeChar c = [UInt8.ofNat c.toNat] := by
  have least : c.val.toNat ≤ 0x7f := Nat.le_of_lt_succ ascii
  rw [String.utf8EncodeChar, if_pos least]
  rfl

theorem char_ofNat {n : Nat} (ascii : n < 128) : String.utf8EncodeChar (Char.ofNat n) = [UInt8.ofNat n] := by
  have value : (Char.ofNat n).toNat = n := by
    rw [Char.ofNat, dif_pos (Or.inl (Nat.lt_trans ascii (by decide)))]
    rfl
  rw [char_of_ascii (by omega), value]

theorem le_of_mem_char {c : Char} (wide : 128 ≤ c.toNat) {b : UInt8}
    (member : b ∈ String.utf8EncodeChar c) : 0x80 ≤ b := by
  have more : ¬c.val.toNat ≤ 0x7f := Nat.not_le.mpr wide
  have high {n : Nat} (large : 128 ≤ n) (small : n < 256) : (0x80 : UInt8) ≤ UInt8.ofNat n := by
    rw [UInt8.le_iff_toNat_le, UInt8.toNat_ofNat', Nat.mod_eq_of_lt small]
    exact large
  rw [String.utf8EncodeChar, if_neg more] at member
  split at member
  · simp only [List.mem_cons, List.not_mem_nil, or_false] at member
    rcases member with rfl | rfl <;> exact high (by omega) (by omega)
  · split at member
    · simp only [List.mem_cons, List.not_mem_nil, or_false] at member
      rcases member with rfl | rfl | rfl <;> exact high (by omega) (by omega)
    · simp only [List.mem_cons, List.not_mem_nil, or_false] at member
      rcases member with rfl | rfl | rfl | rfl <;> exact high (by omega) (by omega)

end Telemetry.Bytes
