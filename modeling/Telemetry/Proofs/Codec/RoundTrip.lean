import Telemetry.Proofs.Codec
import Telemetry.Proofs.Wire.JsonCodec
import Telemetry.Proofs.Wire.Msgpack

/-! What comes back of a delta from the codec that wrote it. Every codec restores its shape, its texts and its
indices. MessagePack restores every number too; a JSON text restores those whose own text it reads as the
number, has none for NaN and the infinities, and makes some finite number of every other. -/
namespace Telemetry.Codec
open Wire
variable {codec : Codec} {delta : Delta}

/-- What a codec can hold: indices are machine words, and MessagePack counts lists and texts in 32 bits. -/
structure Holds (codec : Codec) (delta : Delta) : Prop where
  indexed : delta.WordIndexed
  countable : codec = .msgpack → Msgpack.Countable delta

theorem Holds.of_text (text : codec ≠ .msgpack) (indexed : delta.WordIndexed) : codec.Holds delta :=
  ⟨indexed, fun binary => absurd binary text⟩

/-- What a codec reads where it wrote a number. -/
def spelling : Codec → Binary64 → Node
  | .json => JsonText.incrementalNode
  | .indexedJson => JsonText.indexedNode
  | .msgpack => Node.real

/-- The nodes that a codec reads in what it writes for a number by itself. -/
def numberNodes : Codec → Binary64 → List Node
  | .json, x =>
    let text := Bytes.ofText (NumberStyle.json.text x)
    JsonText.nodes Json.Literal.accumulated (Json.Document.read .plain text).1
  | .indexedJson, x =>
    let text := Bytes.ofText (NumberStyle.bareJson.text x)
    JsonText.nodes Json.Literal.word (Json.Document.read (.indexed text.length) text).1
  | .msgpack, x => Msgpack.readNodes 1 (Msgpack.write (.real x))

/-- The codec reads the number itself in what it writes for the number. -/
def Restores (codec : Codec) (x : Binary64) : Prop := codec.numberNodes x = [.real x]

instance (codec : Codec) (x : Binary64) : Decidable (codec.Restores x) :=
  inferInstanceAs (Decidable (codec.numberNodes x = [.real x]))

theorem numberNodes_eq (codec : Codec) (x : Binary64) : codec.numberNodes x = [codec.spelling x] := by
  cases codec with
  | json => exact JsonText.nodes_of_spells (JsonText.Spells.incremental x)
  | indexedJson => exact JsonText.nodes_of_spells (JsonText.Spells.indexed x)
  | msgpack =>
    have read := Msgpack.readNode_real x []
    rw [List.append_nil] at read
    simp [numberNodes, Msgpack.readNodes, read, spelling]

theorem restores_iff {x : Binary64} : codec.Restores x ↔ codec.spelling x = .real x := by
  rw [Restores, numberNodes_eq]
  exact ⟨fun same => (List.cons.inj same).1, fun same => by rw [same]⟩

theorem spelling_of_finite (codec : Codec) {x : Binary64} (finite : x.isFinite = true) :
    ∃ y, y.isFinite = true ∧ codec.spelling x = .real y := by
  cases codec with
  | json =>
    have accumulated : ∃ y, _ ∧ (Json.numeral .json x).accumulated = _ := Json.accumulated_numeral rfl finite
    obtain ⟨y, number, read⟩ := accumulated
    refine ⟨y, number, ?_⟩
    rw [spelling, JsonText.incrementalNode, if_pos finite, read]
    rfl
  | indexedJson =>
    refine ⟨x, finite, ?_⟩
    rw [spelling, JsonText.indexedNode, if_pos finite]
    rfl
  | msgpack => exact ⟨x, finite, rfl⟩

theorem exists_reading (codec : Codec) : ∃ read : Binary64 → Binary64, ∀ x, x.isFinite = true →
    (read x).isFinite = true ∧ codec.spelling x = .real (read x) := by
  have each (x : Binary64) : ∃ y : Binary64, x.isFinite = true →
      y.isFinite = true ∧ codec.spelling x = .real y := by
    by_cases finite : x.isFinite = true
    · obtain ⟨y, read⟩ := spelling_of_finite codec finite
      exact ⟨y, fun _ => read⟩
    · exact ⟨x, fun number => absurd number finite⟩
  exact Classical.axiomOfChoice each

/-- In text nothing else is read as a number. -/
theorem finite_of_spelling (text : codec ≠ .msgpack) {x y : Binary64}
    (read : (codec.spelling x).number = .ok y) : x.isFinite = true := by
  by_contra odd
  cases codec with
  | json =>
    rw [spelling, JsonText.incrementalNode, if_neg odd] at read
    cases read
  | indexedJson =>
    rw [spelling, JsonText.indexedNode, if_neg odd] at read
    cases read
  | msgpack => exact text rfl

theorem indexedJson_restores {x : Binary64} (finite : x.isFinite = true) : indexedJson.Restores x := by
  rw [restores_iff, spelling, JsonText.indexedNode, if_pos finite]
  rfl

/-- A codec reads what it wrote as the delta with its numbers read once more. -/
theorem decode_encode (holds : codec.Holds delta) (answer : Delta) :
    codec.decode (codec.encode delta) = .ok answer ↔
      (delta.reread (Reader.respelled codec.spelling) >>= timely) = .ok answer := by
  cases codec with
  | json => exact JsonText.decodeIncremental_encode holds.indexed answer
  | indexedJson => exact JsonText.decodeIndexed_encode holds.indexed answer
  | msgpack =>
    have decoded := Msgpack.decode_encode (holds.countable rfl) holds.indexed
    rw [decode, encode, decoded, spelling, Msgpack.reread_real]
    rfl

theorem values_finite_of_decode (holds : codec.Holds delta) (text : codec ≠ .msgpack) {read : Delta}
    (decoded : codec.decode (codec.encode delta) = .ok read) : ∀ value ∈ delta.values, value.isFinite = true := by
  rw [decode_encode holds] at decoded
  obtain ⟨again, reread⟩ := exists_of_timely decoded
  intro value member
  obtain ⟨y, same⟩ := Delta.reread_values reread value member
  exact finite_of_spelling text same

/-- MessagePack gives a delta back bit for bit, unless one of its times is not finite: then it refuses the
delta and names the first such time in the order of tick, samples and events. -/
theorem msgpack_exact {σ : Type} (holds : msgpack.Holds delta) (state : σ) :
    ((∀ time ∈ delta.times, time.isFinite = true) →
      accept msgpack (encode msgpack delta) state = ⟨state, .ok delta, []⟩) ∧
    ∀ before time after, delta.times = before ++ time :: after →
      (∀ earlier ∈ before, earlier.isFinite = true) → time.isFinite = false →
      (accept msgpack (encode msgpack delta) state).result =
          .error (.fault (.deserialization "msgpack" (.nonFiniteTime delta.time time))) ∧
        Fault.message (.deserialization "msgpack" (.nonFiniteTime delta.time time)) =
          s!"Deserialization error (msgpack): delta at sim time {delta.time} carries non-finite time {time}" := by
  have decoded : decode msgpack (encode msgpack delta) = timely delta :=
    Msgpack.decode_encode (holds.countable rfl) holds.indexed
  refine ⟨fun finite => accept_ok ?_ state, fun before time after split finite odd => ?_⟩
  · rw [decoded, timely_of_finite finite]
  · rw [timely_of_first split finite odd] at decoded
    exact ⟨(accept_error decoded state).2, rfl⟩

/-- Finite times, a value that is not a number, an empty series and an empty event section. -/
def unnumbered : Delta where
  time := .one
  continuous := [("reward", [⟨.one, .nan⟩, ⟨.one, ⟨0x8000000000000000⟩⟩]), ("", [])]
  events := some []

def untimed : Delta where
  time := .one
  continuous := [("reward", [⟨.one, .infinity true⟩])]
  events := some [("spikes", [(18446744073709551615, [.zero, .nan])])]

theorem unnumbered_countable : Msgpack.Countable unnumbered := by
  decide +kernel

theorem untimed_countable : Msgpack.Countable untimed := by
  decide +kernel

theorem unnumbered_restored :
    accept msgpack (encode msgpack unnumbered) () = ⟨(), .ok unnumbered, []⟩ ∧
    (accept msgpack (encode msgpack untimed) ()).result =
        .error (.fault (.deserialization "msgpack" (.nonFiniteTime .one .nan))) ∧
      Fault.message (.deserialization "msgpack" (.nonFiniteTime .one .nan)) =
        "Deserialization error (msgpack): delta at sim time 1 carries non-finite time NaN" := by
  have whole : msgpack.Holds unnumbered := ⟨by decide, fun _ => unnumbered_countable⟩
  have late : msgpack.Holds untimed := ⟨by decide, fun _ => untimed_countable⟩
  have read := (msgpack_exact whole ()).1 (by decide)
  obtain ⟨refused, message⟩ :=
    (msgpack_exact late ()).2 [.one, .one, .zero] .nan [] (by decide) (by decide) (by decide)
  exact ⟨read, refused, message.trans (by decide +kernel)⟩

theorem text_restores (text : codec ≠ .msgpack) (indexed : delta.WordIndexed)
    (restored : ∀ number ∈ delta.numbers, codec.Restores number) :
    codec.decode (codec.encode delta) = .ok delta := by
  have own : ∀ number ∈ delta.numbers, Reader.respelled codec.spelling number = .ok (id number) := by
    intro number member
    rw [Reader.respelled, restores_iff.mp (restored number member)]
    rfl
  have finite : ∀ time ∈ delta.times, time.isFinite = true := by
    intro time member
    exact finite_of_spelling text (own time (List.mem_append_left _ member))
  have read := Delta.reread_of_ok own
  rw [Delta.map_id] at read
  rw [decode_encode (.of_text text indexed), read]
  exact timely_of_finite finite

/-- Quotes, control characters and letters outside the first plane, the greatest index and an empty train. -/
def unwieldy : Delta where
  time := .one
  continuous := [("a\"b\\c\n\x00]", [⟨.one, ⟨0x8000000000000000⟩⟩]), ("√𝛼", [])]
  events := some [("]", [(18446744073709551615, []), (0, [.one])]), ("", [])]

theorem unwieldy_restored :
    json.decode (json.encode unwieldy) = .ok unwieldy ∧
      indexedJson.decode (indexedJson.encode unwieldy) = .ok unwieldy :=
  ⟨text_restores (by decide) (by decide) (by decide +kernel),
    text_restores (by decide) (by decide) (by decide +kernel)⟩

/-- With finite times a delta is readable to the codec that wrote it exactly when all its values are finite
or the codec is MessagePack. -/
theorem readable_iff (holds : codec.Holds delta) (finite : ∀ time ∈ delta.times, time.isFinite = true) :
    (∃ read, codec.decode (codec.encode delta) = .ok read) ↔
      codec = .msgpack ∨ ∀ value ∈ delta.values, value.isFinite = true := by
  constructor
  · rintro ⟨read, decoded⟩
    by_cases text : codec = .msgpack
    · exact .inl text
    · exact .inr (values_finite_of_decode holds text decoded)
  · rintro (rfl | values)
    · refine ⟨delta, ?_⟩
      rw [decode_encode holds, spelling, Msgpack.reread_real]
      exact timely_of_finite finite
    · obtain ⟨read, reading⟩ := codec.exists_reading
      have all : ∀ number ∈ delta.numbers, number.isFinite = true := List.forall_mem_append.mpr ⟨finite, values⟩
      have each : ∀ number ∈ delta.numbers, Reader.respelled codec.spelling number = .ok (read number) := by
        intro number member
        rw [Reader.respelled, (reading number (all number member)).2]
        rfl
      have timed : ∀ time ∈ (delta.map read).times, time.isFinite = true := by
        rw [Delta.times_map]
        exact List.forall_mem_map.mpr fun time member => (reading time (finite time member)).1
      refine ⟨delta.map read, ?_⟩
      rw [decode_encode holds, Delta.reread_of_ok each]
      exact timely_of_finite timed

theorem unnumbered_readable :
    (∃ read, msgpack.decode (msgpack.encode unnumbered) = .ok read) ∧
      (¬∃ read, json.decode (json.encode unnumbered) = .ok read) ∧
      ¬∃ read, indexedJson.decode (indexedJson.encode unnumbered) = .ok read := by
  have holds (codec : Codec) : codec.Holds unnumbered := ⟨by decide, fun _ => unnumbered_countable⟩
  refine ⟨(readable_iff (holds msgpack) (by decide)).mpr (.inl rfl), ?_, ?_⟩
  · rw [readable_iff (holds json) (by decide)]
    decide
  · rw [readable_iff (holds indexedJson) (by decide)]
    decide

theorem unreadable_value : ¬∀ (codec : Codec) (delta : Delta), codec.Holds delta →
    (∀ time ∈ delta.times, time.isFinite = true) → ∃ read, codec.decode (codec.encode delta) = .ok read := by
  intro readable
  have holds : json.Holds unnumbered := .of_text (by decide) (by decide)
  obtain ⟨read, decoded⟩ := readable json unnumbered holds (by decide)
  have finite := values_finite_of_decode holds (by decide) decoded .nan (by decide)
  cases finite

/-- What was cut off is never read: not as a shorter delta, and not as the delta of a quiet tick when only the
events are missing. So no payload that can be read is the front of another one. -/
theorem cut_refused (holds : codec.Holds delta) :
    (∀ front, front <+: codec.encode delta → front ≠ codec.encode delta →
      ∃ fault, codec.decode front = .error fault) ∧
    ∀ other read, codec.decode (codec.encode other) = .ok read →
      codec.encode other <+: codec.encode delta → codec.encode other = codec.encode delta := by
  have refused : ∀ front, front <+: codec.encode delta → front ≠ codec.encode delta →
      ∃ fault, codec.decode front = .error fault := by
    intro front inside cut
    cases codec with
    | json => exact JsonText.decodeIncremental_cut holds.indexed inside cut
    | indexedJson => exact JsonText.decodeIndexed_cut holds.indexed inside cut
    | msgpack => exact Msgpack.decode_cut (holds.countable rfl) holds.indexed inside cut
  refine ⟨refused, fun other read decoded inside => ?_⟩
  by_contra cut
  obtain ⟨fault, undecoded⟩ := refused _ inside cut
  rw [decoded] at undecoded
  cases undecoded

theorem unwieldy_cut :
    (∃ fault, json.decode (json.encode unwieldy).dropLast = .error fault) ∧
      (∃ fault, indexedJson.decode (indexedJson.encode unwieldy).dropLast = .error fault) ∧
      ∃ fault, msgpack.decode (msgpack.encode unwieldy).dropLast = .error fault := by
  have countable : Msgpack.Countable unwieldy := by decide +kernel
  have holds (codec : Codec) : codec.Holds unwieldy := ⟨by decide, fun _ => countable⟩
  have refused (codec : Codec) (some : codec.encode unwieldy ≠ []) :
      ∃ fault, codec.decode (codec.encode unwieldy).dropLast = .error fault := by
    refine (cut_refused (holds codec)).1 _ (List.dropLast_prefix _) fun same => some ?_
    have length := congrArg List.length same
    rw [List.length_dropLast] at length
    exact List.eq_nil_of_length_eq_zero (by omega)
  exact ⟨refused json (by decide +kernel), refused indexedJson (by decide +kernel), refused msgpack (by decide +kernel)⟩

end Telemetry.Codec
