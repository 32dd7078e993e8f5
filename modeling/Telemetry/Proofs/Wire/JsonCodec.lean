import Telemetry.Proofs.Json.Literal
import Telemetry.Proofs.Wire.JsonText

/-! The two decoders of JSON text on what is written for a delta. They read it back up to its numbers, each
of which becomes what its own text is read as, and take nothing that was cut off. -/
namespace Telemetry.Wire.JsonText
open Json Json.Document
variable {dialect : Dialect} {number : Literal → Option Number}

/-- The node of the value of a literal. -/
def numberNode : Option Number → Node
  | some (.integer n) => .integer n
  | some (.real x) => .real x
  | none => .other Defect.numberRange.message

theorem nodes_number (literal : Literal) : nodes number (.number literal) = [numberNode (number literal)] := by
  rw [nodes]
  split
  · rename_i same
    rw [same]
    rfl
  · rename_i same
    rw [same]
    rfl
  · rename_i same
    rw [same]
    rfl

theorem Spells.literal {literal : Literal} (formed : literal.WellFormed) (plus : Bool) {node : Node}
    (value : ∀ long, numberNode (number { literal with long := long }) = node) :
    Spells dialect number (literal.bytes plus) [node] := by
  obtain ⟨b, more, text, head⟩ := literal_head plus formed
  have plain : ∀ c ∈ literal.bytes plus, c ≠ 0x2c ∧ c ≠ 0x5d := by
    intro c member
    rcases mem_literal plus formed member with digit | mark
    · have unlike := numeral_head (.inl digit)
      exact ⟨unlike 0x2c (by decide), unlike 0x5d (by decide)⟩
    · have marks : ∀ c ∈ [0x2d, 0x2b, 0x2e, 0x65], c ≠ (0x2c : UInt8) ∧ c ≠ 0x5d := by simp
      exact marks c mark
  rw [text] at plain ⊢
  refine Spells.word (beginsWord_numeral head) plain fun {rest} parted => ?_
  obtain ⟨long, -, read⟩ := readWord_number formed plus parted
  rw [text] at read
  exact ⟨_, read, by rw [nodes_number, value]⟩

theorem Spells.null : Spells dialect number (Bytes.ofText "null") [.null] := by
  have text : Bytes.ofText "null" = [0x6e, 0x75, 0x6c, 0x6c] := Bytes.ofText_ofList ['n', 'u', 'l', 'l']
  rw [text]
  have begins : BeginsWord 0x6e := ⟨by decide, by decide, by decide, by decide⟩
  refine Spells.word begins (by simp) fun {rest} parted => ⟨.null, ?_, rfl⟩
  have read : readWord dialect _ = _ := readWord_null parted
  rwa [text] at read

/-- What the incremental reader makes of the text of a number: the value that it accumulates, which for a
finite number is a finite one but need not be the same. -/
def incrementalNode (x : Binary64) : Node :=
  if x.isFinite then numberNode (numeral .json x).accumulated else .null

/-- What the reader of the indexed dialect makes of the text of a number. -/
def indexedNode (x : Binary64) : Node := numberNode (if x.isFinite then some (.real x) else none)

theorem Spells.incremental (x : Binary64) :
    Spells dialect Literal.accumulated (Bytes.ofText ((Value.real x).render .json)) [incrementalNode x] := by
  change Spells dialect Literal.accumulated (Bytes.ofText (NumberStyle.json.text x)) _
  rw [incrementalNode]
  by_cases finite : x.isFinite = true
  · rw [ofText_text rfl (.inl finite), if_pos finite]
    exact Spells.literal (numeral_formed .json x) true fun long => rfl
  · have text : NumberStyle.json.text x = "null" := by
      rw [NumberStyle.text, Bool.eq_false_iff.mpr finite]
      rfl
    rw [text, if_neg finite]
    exact Spells.null

theorem Spells.indexed (x : Binary64) :
    Spells dialect Literal.word (Bytes.ofText ((Value.real x).render .bareJson)) [indexedNode x] := by
  change Spells dialect Literal.word (Bytes.ofText (NumberStyle.bareJson.text x)) _
  rw [ofText_text rfl (.inr rfl)]
  exact Spells.literal (numeral_formed .bareJson x) false fun long => by
    rw [word_numeral rfl, indexedNode]

theorem Spells.natural {style : NumberStyle} {n : Nat}
    (value : ∀ long, number { Literal.ofNat n with long := long } = some (.integer n)) :
    Spells dialect number (Bytes.ofText ((Value.natural n).render style)) [.integer n] := by
  have text : Bytes.ofText ((Value.natural n).render style) = (Literal.ofNat n).bytes false := by
    change Bytes.ofText (toString (n : Int)) = _
    have digits : toString (n : Int) = toString n := rfl
    rw [digits, ofText_toString]
    simp [Literal.bytes, Literal.ofNat, Literal.fractionBytes, Literal.exponentBytes]
  rw [text]
  exact Spells.literal (Literal.ofNat_formed n) false fun long => by rw [value, numberNode]

section
variable {style : NumberStyle} {spell : Binary64 → Node}
  (real : ∀ x, Spells dialect number (Bytes.ofText ((Value.real x).render style)) [spell x])
  (index : ∀ n < UInt64.size, Spells dialect number (Bytes.ofText ((Value.natural n).render style)) [.integer n])
  {delta : Delta} (indexed : delta.WordIndexed)
include real index indexed

/-- The text of a delta holds its nodes, in which numbers are spelled. -/
theorem nodes_encode : ∃ document, Document.read dialect (encode style delta) = (document, true) ∧
    nodes number document = (Node.ofDelta delta).map (Node.respell spell) := by
  obtain ⟨values, written, text, spelled, spelling⟩ := Spells.delta real index indexed
  rw [encode, text, spelling]
  exact read_whole (Spells.array spelled)

theorem read_encode_cut {front : Bytes} (inside : front <+: encode style delta)
    (cut : front ≠ encode style delta) : (Document.read dialect front).2 = false := by
  obtain ⟨values, written, text, spelled, -⟩ := Spells.delta real index indexed
  rw [encode, text] at inside cut
  exact read_cut spelled inside cut

end

theorem Spells.incrementalIndex (n : Nat) (fits : n < UInt64.size) :
    Spells dialect Literal.accumulated (Bytes.ofText ((Value.natural n).render .json)) [.integer n] :=
  Spells.natural fun _ => Literal.accumulated_ofNat fits

section
variable {delta : Delta} (indexed : delta.WordIndexed)
include indexed

theorem decodeIncremental_encode (answer : Delta) :
    decodeIncremental (encode .json delta) = .ok answer ↔
      (delta.reread (Reader.respelled incrementalNode) >>= timely) = .ok answer := by
  obtain ⟨document, read, nodes⟩ : ∃ document, Document.read .plain _ = _ ∧ _ :=
    nodes_encode Spells.incremental Spells.incrementalIndex indexed
  have decoded := readDelta_respelled {} indexed incrementalNode []
  rw [List.append_nil, ← nodes] at decoded
  simp only [decodeIncremental, read, decoded]
  cases delta.reread (Reader.respelled incrementalNode) >>= timely with
  | ok read => exact Iff.rfl
  | error fault => exact ⟨nofun, nofun⟩

theorem decodeIncremental_cut {front : Bytes} (inside : front <+: encode .json delta)
    (cut : front ≠ encode .json delta) : ∃ fault, decodeIncremental front = .error fault := by
  have unended : (Document.read .plain front).2 = false :=
    read_encode_cut Spells.incremental Spells.incrementalIndex indexed inside cut
  simp only [decodeIncremental, unended]
  cases readDelta {} (nodes Literal.accumulated (Document.read .plain front).1) with
  | ok read => exact ⟨_, rfl⟩
  | error fault => exact ⟨_, rfl⟩

end

theorem Spells.indexedIndex (n : Nat) (fits : n < UInt64.size) :
    Spells dialect Literal.word (Bytes.ofText ((Value.natural n).render .bareJson)) [.integer n] :=
  Spells.natural fun long => Literal.word_ofNat fits long

theorem meaningful_of_clean {nodes : List Node} (clean : ∀ node ∈ nodes, ¬Reader.Barred node) :
    meaningful nodes = true := by
  refine List.all_eq_true.mpr fun node member => ?_
  have free := clean node member
  cases node with
  | broken flaw => exact absurd ⟨flaw, .inl rfl⟩ free
  | other flaw => exact absurd ⟨flaw, .inr rfl⟩ free
  | _ => rfl

section
variable {delta : Delta} (indexed : delta.WordIndexed)
include indexed

/-- A delta that is read has no node without meaning. -/
theorem meaningful_of_reread {spell : Binary64 → Node} {answer : Delta}
    (ok : delta.reread (Reader.respelled spell) = .ok answer) :
    meaningful ((Node.ofDelta delta).map (Node.respell spell)) = true := by
  have read := Reader.Reads.delta {} spell indexed []
  rw [ok] at read
  obtain ⟨taken, whole, clean, -⟩ := Reader.delta_local {} _ _ _ read
  rw [List.append_nil, List.append_nil] at whole
  exact meaningful_of_clean (whole ▸ clean)

theorem decodeIndexed_encode (answer : Delta) :
    decodeIndexed (encode .bareJson delta) = .ok answer ↔
      (delta.reread (Reader.respelled indexedNode) >>= timely) = .ok answer := by
  obtain ⟨document, read, nodes⟩ :
      ∃ document, Document.read (.indexed (encode .bareJson delta).length) _ = _ ∧ _ :=
    nodes_encode Spells.indexed Spells.indexedIndex indexed
  have decoded := readDelta_respelled { surplus := true } indexed indexedNode []
  rw [List.append_nil, ← nodes] at decoded
  have text : (encode .bareJson delta).toText?.isSome = true := by
    rw [encode, Bytes.toText?_ofText]
    rfl
  simp only [decodeIndexed, read, text, Bool.true_and, decoded]
  by_cases meaning : meaningful (JsonText.nodes Literal.word document) = true
  · rw [if_pos meaning]
    cases delta.reread (Reader.respelled indexedNode) >>= timely with
    | ok read => exact Iff.rfl
    | error fault => exact ⟨nofun, nofun⟩
  · rw [if_neg meaning]
    refine ⟨nofun, fun ok => ?_⟩
    obtain ⟨read, again⟩ := exists_of_timely ok
    rw [nodes] at meaning
    exact absurd (meaningful_of_reread indexed again) meaning

theorem decodeIndexed_cut {front : Bytes} (inside : front <+: encode .bareJson delta)
    (cut : front ≠ encode .bareJson delta) : ∃ fault, decodeIndexed front = .error fault := by
  have unended : (Document.read (.indexed front.length) front).2 = false :=
    read_encode_cut Spells.indexed Spells.indexedIndex indexed inside cut
  simp only [decodeIndexed, unended, Bool.and_false, Bool.false_and, Bool.false_eq_true, if_false]
  exact ⟨_, rfl⟩

end

end Telemetry.Wire.JsonText
