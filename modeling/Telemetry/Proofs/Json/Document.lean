import Telemetry.Proofs.Json.Numeral
import Telemetry.Proofs.Text.Utf8

/-! Words of a text: numbers and literal words. They have no closing mark of their own, so what is
behind them tells where they end. -/
namespace Telemetry.Json.Document
variable {dialect : Dialect} {bytes rest : Bytes}

theorem some_digits_suffix {α : Type} (make : List Nat → α) {a : α}
    (read : (if (digitsOf bytes).1.isEmpty then none else some (make (digitsOf bytes).1, (digitsOf bytes).2)) =
      some (a, rest)) : rest <:+ bytes := by
  split at read
  · cases read
  · cases read
    exact digitsOf_rest bytes

theorem readFraction_suffix {digits : List Nat} (read : readFraction bytes = some (digits, rest)) :
    rest <:+ bytes := by
  unfold readFraction at read
  split at read
  · exact (some_digits_suffix id read).trans (List.suffix_cons _ _)
  · cases read
    exact List.suffix_rfl

theorem readExponent_suffix {part : Option (Bool × List Nat)}
    (read : readExponent bytes = some (part, rest)) : rest <:+ bytes := by
  have signed (behind : Bytes) (read : readExponent (0x65 :: behind) = some (part, rest)) :
      rest <:+ behind := by
    simp only [readExponent] at read
    split at read
    · exact (some_digits_suffix (fun digits => some (true, digits)) read).trans
        (List.suffix_cons _ _)
    · exact (some_digits_suffix (fun digits => some (false, digits)) read).trans
        (List.suffix_cons _ _)
    · exact some_digits_suffix (fun digits => some (false, digits)) read
  unfold readExponent at read
  split at read
  · exact (signed _ read).trans (List.suffix_cons _ _)
  · exact (signed _ read).trans (List.suffix_cons _ _)
  · cases read
    exact List.suffix_rfl

theorem readUnsigned_suffix {sign : Bool} {literal : Literal}
    (read : readUnsigned sign bytes = some (literal, rest)) : rest <:+ bytes := by
  simp only [readUnsigned] at read
  split at read
  · cases read
  · obtain ⟨⟨fraction, behind⟩, first, read⟩ := Option.bind_eq_some_iff.mp read
    obtain ⟨⟨exponent, last⟩, second, read⟩ := Option.bind_eq_some_iff.mp read
    cases read
    exact (readExponent_suffix second).trans ((readFraction_suffix first).trans (digitsOf_rest bytes))

theorem readNumber_suffix {literal : Literal} (read : readNumber dialect bytes = some (literal, rest)) :
    rest <:+ bytes := by
  have plain {literal : Literal} (read : readNumber .plain bytes = some (literal, rest)) : rest <:+ bytes := by
    simp only [readNumber] at read
    split at read
    · exact (readUnsigned_suffix read).trans (List.suffix_cons _ _)
    · exact readUnsigned_suffix read
  cases dialect with
  | plain => exact plain read
  | indexed length =>
    obtain ⟨⟨literal, last⟩, inner, whole⟩ := Option.map_eq_some_iff.mp read
    cases whole
    exact plain inner

theorem skipWord_suffix (bytes : Bytes) : skipWord bytes <:+ bytes := by
  fun_induction skipWord bytes with
  | case1 => exact List.suffix_rfl
  | case2 rest ih => exact ih.trans ((List.suffix_cons _ _).trans (List.suffix_cons _ _))
  | case3 rest ih => exact ih.trans ((List.suffix_cons _ _).trans (List.suffix_cons _ _))
  | case4 => exact List.suffix_rfl
  | case5 b rest _ _ _ ih => exact ih.trans (List.suffix_cons _ _)

theorem afterWord_suffix (long : Bool) (bytes : Bytes) : afterWord dialect long bytes <:+ bytes := by
  cases dialect with
  | plain => exact List.suffix_rfl
  | indexed length =>
    simp only [afterWord]
    split
    · exact skipWord_suffix bytes
    · exact List.suffix_rfl

theorem behind_suffix {word : String} (read : behind word bytes = some rest) : rest <:+ bytes := by
  simp only [behind] at read
  split at read
  · cases read
    exact List.drop_suffix _ _
  · cases read

/-- The first byte of a word is no blank, and opens neither a text nor an array nor an object. -/
def BeginsWord (b : UInt8) : Prop := isBlank b = false ∧ b ≠ 0x22 ∧ b ≠ 0x5b ∧ b ≠ 0x7b

def readWord (dialect : Dialect) (bytes : Bytes) : Document × Option Bytes :=
  match behind "null" bytes, behind "true" bytes, behind "false" bytes with
  | some rest, _, _ => (null, some (afterWord dialect false rest))
  | _, some rest, _ => (bool true, some (afterWord dialect false rest))
  | _, _, some rest => (bool false, some (afterWord dialect false rest))
  | _, _, _ =>
    match readNumber dialect bytes with
    | some (literal, rest) => (number literal, some (afterWord dialect literal.long rest))
    | none => (broken, none)

theorem readValue_word {b : UInt8} (begins : BeginsWord b) (fuel : Nat) (bytes : Bytes) :
    readValue dialect (fuel + 1) (b :: bytes) = readWord dialect (b :: bytes) := by
  obtain ⟨shown, text, array, object⟩ := begins
  have kept : skipBlanks (b :: bytes) = b :: bytes := by simp [skipBlanks, shown]
  rw [readValue, kept]
  split
  · rename_i same
    exact absurd (List.cons.inj same).1 text
  · rename_i same
    exact absurd (List.cons.inj same).1 array
  · rename_i same
    exact absurd (List.cons.inj same).1 object
  · rfl

theorem readWord_suffix {document : Document} (read : readWord dialect bytes = (document, some rest)) :
    rest <:+ bytes := by
  unfold readWord at read
  split at read
  · rename_i found
    cases read
    exact (afterWord_suffix _ _).trans (behind_suffix found)
  · rename_i found _
    cases read
    exact (afterWord_suffix _ _).trans (behind_suffix found)
  · rename_i found _ _
    cases read
    exact (afterWord_suffix _ _).trans (behind_suffix found)
  · split at read
    · rename_i found
      cases read
      exact (afterWord_suffix _ _).trans (readNumber_suffix found)
    · cases read

theorem afterWord_parted (long : Bool) (parted : Parted rest) : afterWord dialect long rest = rest := by
  cases dialect with
  | plain => rfl
  | indexed length =>
    cases rest with
    | nil => simp [afterWord, skipWord]
    | cons b rest =>
      have stays : skipWord (b :: rest) = b :: rest := by
        rcases parted b rfl with rfl | rfl <;> simp [skipWord, isStructural]
      simp [afterWord, stays]

theorem readWord_null (parted : Parted rest) :
    readWord dialect (Bytes.ofText "null" ++ rest) = (null, some rest) := by
  have word : Bytes.ofText "null" = [0x6e, 0x75, 0x6c, 0x6c] :=
    Bytes.ofText_ofList ['n', 'u', 'l', 'l']
  simp [readWord, behind, word, afterWord_parted false parted]

/-- Only the indexed dialect looks at the length of a literal. -/
theorem readNumber_dialect {literal : Literal} (dialect : Dialect)
    (read : readNumber .plain bytes = some (literal, rest)) :
    ∃ long, (dialect = .plain → long = literal.long) ∧
      readNumber dialect bytes = some ({ literal with long := long }, rest) := by
  cases dialect with
  | plain => exact ⟨literal.long, fun _ => rfl, read⟩
  | indexed length => 
    refine ⟨isLong length bytes literal, nofun, ?_⟩
    change (readNumber .plain bytes).map _ = _
    rw [read]
    rfl

/-- A sign or a digit is no blank, opens and parts nothing, and begins no literal word. -/
theorem numeral_head {b : UInt8} (head : isDigit b = true ∨ b = 0x2d) :
    ∀ c ∈ [0x20, 0x09, 0x0a, 0x0d, 0x22, 0x5b, 0x7b, 0x6e, 0x74, 0x66, 0x2c, 0x5d], b ≠ c := by
  rintro c member rfl
  have unlike : ∀ c ∈ [0x20, 0x09, 0x0a, 0x0d, 0x22, 0x5b, 0x7b, 0x6e, 0x74, 0x66, 0x2c, 0x5d],
      ¬(isDigit c = true ∨ c = 0x2d) := by simp [isDigit]
  exact unlike b member head

theorem beginsWord_numeral {b : UInt8} (head : isDigit b = true ∨ b = 0x2d) : BeginsWord b := by
  have unlike := numeral_head head
  simp only [List.forall_mem_cons] at unlike
  obtain ⟨space, tab, line, carriage, quote, array, object, -⟩ := unlike
  exact ⟨by simp [isBlank, space, tab, line, carriage], quote, array, object⟩

theorem behind_other {word : String} {c : UInt8} {letters : Bytes} (spelled : Bytes.ofText word = c :: letters)
    (other : bytes.head? ≠ some c) : behind word bytes = none := by
  rw [behind, if_neg]
  rw [spelled]
  cases bytes with
  | nil => nofun
  | cons b bytes => exact fun same => other (congrArg some (List.cons.inj same).1)

/-- No literal word begins with another letter. -/
theorem readWord_other (null : bytes.head? ≠ some 0x6e) (yes : bytes.head? ≠ some 0x74)
    (no : bytes.head? ≠ some 0x66) :
    readWord dialect bytes = match readNumber dialect bytes with
      | some (literal, rest) => (number literal, some (afterWord dialect literal.long rest))
      | none => (broken, none) := by
  have noNull := behind_other (Bytes.ofText_ofList ['n', 'u', 'l', 'l']) null
  have noTrue := behind_other (Bytes.ofText_ofList ['t', 'r', 'u', 'e']) yes
  have noFalse := behind_other (Bytes.ofText_ofList ['f', 'a', 'l', 's', 'e']) no
  rw [readWord, noNull, noTrue, noFalse]

theorem readValue_nil (fuel : Nat) : readValue dialect fuel [] = (broken, none) := by
  cases fuel with
  | zero => rfl
  | succ fuel =>
    have nothing : readNumber dialect [] = none := by cases dialect <;> rfl
    have word : readWord dialect [] = (broken, none) := by
      rw [readWord_other (by decide) (by decide) (by decide), nothing]
    rw [readValue]
    exact word

theorem readWord_number {literal : Literal} (formed : literal.WellFormed) (plus : Bool) (parted : Parted rest) :
    ∃ long, (dialect = .plain → long = literal.long) ∧
      readWord dialect (literal.bytes plus ++ rest) =
        (number { literal with long := long }, some rest) := by
  obtain ⟨long, same, read⟩ := readNumber_dialect dialect (readNumber_bytes plus formed parted.ends)
  obtain ⟨b, more, text, head⟩ := literal_head plus formed
  have unlike := numeral_head head
  have letter {c : UInt8} (other : b ≠ c) : (b :: (more ++ rest)).head? ≠ some c :=
    fun front => other (Option.some.inj front)
  refine ⟨long, same, ?_⟩
  rw [text, List.cons_append] at read ⊢
  rw [readWord_other (letter (unlike 0x6e (by decide))) (letter (unlike 0x74 (by decide)))
    (letter (unlike 0x66 (by decide))), read]
  simp only [afterWord_parted _ parted]

end Telemetry.Json.Document
