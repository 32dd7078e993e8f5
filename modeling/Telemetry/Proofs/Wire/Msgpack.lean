import Telemetry.Wire.Msgpack
import Telemetry.Proofs.Text.Utf8
import Telemetry.Proofs.Wire.Local
import Mathlib.Tactic.Ring
import Mathlib.Tactic.SplitIfs

/-! MessagePack reads back what it wrote, in front of anything. Every node has its own length, so a
payload that was cut off ends in a broken node. -/
namespace Telemetry.Wire.Msgpack

@[simp] theorem length_bigEndian (count n : Nat) : (bigEndian count n).length = count := by
  induction count with
  | zero => rfl
  | succ count ih => rw [bigEndian, List.length_cons, ih]

private theorem foldl_bigEndian (count n front : Nat) :
    (bigEndian count n).foldl (fun value b => 256 * value + b.toNat) front =
      256 ^ count * front + n % 256 ^ count := by
  induction count generalizing front with
  | zero => simp [bigEndian, Nat.mod_one]
  | succ count ih =>
    have digit : (UInt8.ofNat (n >>> (8 * count))).toNat = n / 256 ^ count % 256 := by
      rw [UInt8.toNat_ofNat', Nat.shiftRight_eq_div_pow, Nat.pow_mul]
    rw [bigEndian, List.foldl_cons, ih, digit, Nat.pow_succ 256 count, Nat.mod_mul]
    ring

theorem ofBigEndian_bigEndian {count n : Nat} (fits : n < 256 ^ count) :
    ofBigEndian (bigEndian count n) = n := by
  rw [ofBigEndian, foldl_bigEndian, Nat.mul_zero, Nat.zero_add, Nat.mod_eq_of_lt fits]

theorem unsigned_bigEndian {count n : Nat} (fits : n < 256 ^ count) (rest : Bytes) :
    unsigned count (bigEndian count n ++ rest) = .ok (n, rest) := by
  have enough : ¬(bigEndian count n ++ rest).length < count := by simp
  rw [unsigned, if_neg enough, List.take_left' (length_bigEndian count n),
    List.drop_left' (length_bigEndian count n), ofBigEndian_bigEndian fits]

theorem content_append (b rest : Bytes) : content b.length (b ++ rest) = .ok (b, rest) := by
  have enough : ¬(b ++ rest).length < b.length := by simp
  rw [content, if_neg enough, List.take_left, List.drop_left]

theorem counted_bigEndian {count n : Nat} (fits : n < 256 ^ count) (node : Nat → Node) (rest : Bytes) :
    counted count node (bigEndian count n ++ rest) = .ok (node n, rest) := by
  rw [counted, unsigned_bigEndian fits]
  rfl

theorem sized_bigEndian {count n : Nat} (fits : n < 256 ^ count) (next : Nat → Part Node) (rest : Bytes) :
    sized count next (bigEndian count n ++ rest) = next n rest := by
  rw [sized, unsigned_bigEndian fits]
  rfl

/-- The text that some bytes hold, or what is wrong with them. -/
def textNode (b : Bytes) : Node := b.toText?.elim (.other (Defect.illFormed b.flaw.1 b.flaw.2).message) .text

theorem textOf_eq (count : Nat) :
    textOf count = fun bytes => content count bytes >>= fun read => .ok (textNode read.1, read.2) := by
  funext bytes
  rw [textOf]
  congr 1
  funext ⟨b, rest⟩
  simp only [textNode]
  cases b.toText? <;> rfl

theorem textOf_ofText (s : String) (rest : Bytes) :
    textOf (Bytes.ofText s).length (Bytes.ofText s ++ rest) = .ok (.text s, rest) := by
  rw [textOf, content_append]
  simp only [bind, Except.bind, Bytes.toText?_ofText]
  rfl

/-- The nodes of a delta whose numbers have a form of their own. -/
inductive Storable : Node → Prop
  | index (n : Nat) (fits : n < UInt64.size) : Storable (.integer n)
  | real (x : Binary64) : Storable (.real x)
  | text (s : String) (fits : (Bytes.ofText s).length < UInt32.size) : Storable (.text s)
  | array (n : Nat) (fits : n < UInt32.size) : Storable (.array n)

/-- A first byte below the named markers holds a length or a number of its own. -/
theorem readNode_fixed {n : Nat} (fixed : n < 0xc0) (rest : Bytes) :
    readNode (UInt8.ofNat n :: rest) = if n < 0x80 then .ok (.integer n, rest)
      else if n < 0x90 then .ok (.object (n - 0x80), rest)
      else if n < 0xa0 then .ok (.array (n - 0x90), rest)
      else textOf (n - 0xa0) rest := by
  have marker : (UInt8.ofNat n).toNat = n := by
    rw [UInt8.toNat_ofNat', Nat.mod_eq_of_lt (Nat.lt_trans fixed (by decide))]
  simp only [readNode, marker, if_pos fixed]

theorem readNode_integer {n : Nat} (fits : n < UInt64.size) (rest : Bytes) :
    readNode (write (.integer n) ++ rest) = .ok (.integer n, rest) := by
  have nonneg : (0 : Int) ≤ n := Int.natCast_nonneg n
  simp only [write, integer, if_pos nonneg, Int.toNat_natCast]
  split_ifs with fixed one two four
  · rw [List.singleton_append, readNode_fixed (Nat.lt_trans fixed (by decide)), if_pos fixed]
  · exact counted_bigEndian one (fun n => .integer n) rest
  · exact counted_bigEndian two (fun n => .integer n) rest
  · exact counted_bigEndian four (fun n => .integer n) rest
  · exact counted_bigEndian fits (fun n => .integer n) rest

theorem readNode_real (x : Binary64) (rest : Bytes) :
    readNode (write (.real x) ++ rest) = .ok (.real x, rest) := by
  have fits : x.bits.toNat < 256 ^ 8 := x.bits.toNat_lt
  have read := counted_bigEndian fits (fun n => .real ⟨UInt64.ofNat n⟩) rest
  rw [UInt64.ofNat_toNat] at read
  exact read

theorem readNode_text {s : String} (fits : (Bytes.ofText s).length < UInt32.size) (rest : Bytes) :
    readNode (write (.text s) ++ rest) = .ok (.text s, rest) := by
  have body := textOf_ofText s rest
  simp only [write, textHeader, List.append_assoc]
  generalize Bytes.ofText s = content at fits body ⊢
  split_ifs with fixed one two
  · rw [List.singleton_append, readNode_fixed (by omega), if_neg (by omega), if_neg (by omega),
      if_neg (by omega), Nat.add_sub_cancel_left]
    exact body
  · exact (sized_bigEndian one textOf _).trans body
  · exact (sized_bigEndian two textOf _).trans body
  · exact (sized_bigEndian fits textOf _).trans body

theorem readNode_array {n : Nat} (fits : n < UInt32.size) (rest : Bytes) :
    readNode (write (.array n) ++ rest) = .ok (.array n, rest) := by
  simp only [write, arrayHeader]
  split_ifs with fixed two
  · rw [List.singleton_append, readNode_fixed (by omega), if_neg (by omega), if_neg (by omega),
      if_pos (by omega), Nat.add_sub_cancel_left]
  · exact counted_bigEndian two .array rest
  · exact counted_bigEndian fits .array rest

theorem readNode_write {node : Node} (storable : Storable node) (rest : Bytes) :
    readNode (write node ++ rest) = .ok (node, rest) := by
  cases storable with
  | index n fits => exact readNode_integer fits rest
  | real x => exact readNode_real x rest
  | text s fits => exact readNode_text fits rest
  | array n fits => exact readNode_array fits rest

/-- Every byte may be taken. -/
abbrev Local {α : Type} (read : Part α) : Prop := Wire.Local (fun _ => False) read

theorem front_local {α : Type} (defect : Defect) (count : Nat) (f : Bytes → α) :
    Local fun bytes => if bytes.length < count then .error defect
      else .ok (f (bytes.take count), bytes.drop count) := by
  intro bytes a rest ok
  dsimp only at ok
  split at ok
  · cases ok
  · rename_i enough
    cases ok
    have size : (bytes.take count).length = count := List.length_take_of_le (Nat.not_lt.mp enough)
    refine ⟨bytes.take count, (List.take_append_drop count bytes).symm, fun _ _ => id, fun other => ?_⟩
    dsimp only
    rw [if_neg (by rw [List.length_append, size]; omega), List.take_left' size, List.drop_left' size]

theorem unsigned_local (count : Nat) : Local (unsigned count) := front_local .noNumber count ofBigEndian

theorem content_local (count : Nat) : Local (content count) := front_local .noContent count id

theorem signed_local (count : Nat) : Local (signed count) :=
  (unsigned_local count).bind fun n => .pure (if 2 * n < 1 <<< (8 * count) then (n : Int)
    else n - (1 <<< (8 * count) : Nat))

theorem textOf_local (count : Nat) : Local (textOf count) := by
  rw [textOf_eq]
  exact (content_local count).bind fun b => .pure (textNode b)

theorem bytesOf_local (count : Nat) : Local (bytesOf count) :=
  (content_local count).bind fun b => .pure (Node.bytes b)

theorem extensionOf_local (count : Nat) : Local (extensionOf count) :=
  (content_local (count + 1)).bind fun _ => .pure Node.extension

theorem counted_local (count : Nat) (node : Nat → Node) : Local (counted count node) :=
  (unsigned_local count).bind fun n => .pure (node n)

theorem sized_local (count : Nat) {next : Nat → Part Node} (body : ∀ n, Local (next n)) :
    Local (sized count next) := (unsigned_local count).bind body

theorem signedInteger_local (count : Nat) : Local (signedInteger count) :=
  (signed_local count).bind fun n => .pure (Node.integer n)

theorem readNode_local : Local readNode := by
  refine Wire.Local.cons nofun (fun _ => nofun) fun marker => ?_
  simp only [readNode]
  split_ifs with first second third fourth fifth
  · exact .pure _
  · exact .pure _
  · exact .pure _
  · exact textOf_local _
  · exact .pure _
  · split
    · exact .pure _
    · exact .pure _
    · exact .pure _
    · exact sized_local 1 bytesOf_local
    · exact sized_local 2 bytesOf_local
    · exact sized_local 4 bytesOf_local
    · exact sized_local 1 extensionOf_local
    · exact sized_local 2 extensionOf_local
    · exact sized_local 4 extensionOf_local
    · exact counted_local 4 _
    · exact counted_local 8 _
    · exact counted_local 1 _
    · exact counted_local 2 _
    · exact counted_local 4 _
    · exact counted_local 8 _
    · exact signedInteger_local 1
    · exact signedInteger_local 2
    · exact signedInteger_local 4
    · exact signedInteger_local 8
    · exact extensionOf_local 1
    · exact extensionOf_local 2
    · exact extensionOf_local 4
    · exact extensionOf_local 8
    · exact extensionOf_local 16
    · exact sized_local 1 textOf_local
    · exact sized_local 2 textOf_local
    · exact sized_local 4 textOf_local
    · exact counted_local 2 _
    · exact counted_local 4 _
    · exact counted_local 2 _
    · exact counted_local 4 _
    · exact .fail _

theorem write_ne_nil {node : Node} (storable : Storable node) : write node ≠ [] := by
  intro empty
  have read := readNode_write storable []
  rw [empty] at read
  cases read

/-- A node that was cut off is not read as another one. -/
theorem readNode_cut {node : Node} (storable : Storable node) {bytes : Bytes}
    (front : bytes <+: write node) (cut : bytes ≠ write node) :
    ∃ defect, readNode bytes = .error defect := by
  cases read : readNode bytes with
  | error defect => exact ⟨defect, rfl⟩
  | ok answer =>
    obtain ⟨other, rest⟩ := answer
    obtain ⟨missing, whole⟩ := front
    obtain ⟨taken, rfl, -, again⟩ := readNode_local _ _ _ read
    have first := readNode_write storable []
    rw [List.append_nil, ← whole, List.append_assoc, again] at first
    have nothing : rest ++ missing = [] := congrArg Prod.snd (Except.ok.inj first)
    rw [(List.append_eq_nil_iff.mp nothing).2, List.append_nil] at whole
    exact absurd whole cut

theorem readNodes_write {nodes : List Node} (storable : ∀ node ∈ nodes, Storable node) {fuel : Nat}
    (enough : (nodes.flatMap write).length < fuel) :
    readNodes fuel (nodes.flatMap write) = nodes ++ [.broken Defect.noMarker.message] := by
  induction nodes generalizing fuel with
  | nil =>
    obtain ⟨fuel, rfl⟩ := Nat.exists_eq_add_of_lt enough
    rfl
  | cons node nodes ih =>
    obtain ⟨first, others⟩ := List.forall_mem_cons.mp storable
    have size := List.length_pos_iff.mpr (write_ne_nil first)
    rw [List.flatMap_cons, List.length_append] at enough
    obtain ⟨fuel, rfl⟩ : ∃ more, fuel = more + 1 := ⟨fuel - 1, by omega⟩
    simp only [List.flatMap_cons, readNodes, readNode_write first]
    rw [ih others (by omega), List.cons_append]

theorem readNodes_cut {nodes : List Node} (storable : ∀ node ∈ nodes, Storable node) {bytes : Bytes}
    (front : bytes <+: nodes.flatMap write) (cut : bytes ≠ nodes.flatMap write) {fuel : Nat}
    (enough : bytes.length < fuel) :
    ∃ count flaw, count < nodes.length ∧ readNodes fuel bytes = nodes.take count ++ [.broken flaw] := by
  induction nodes generalizing bytes fuel with
  | nil => exact absurd (List.prefix_nil.mp front) cut
  | cons node nodes ih =>
    obtain ⟨first, others⟩ := List.forall_mem_cons.mp storable
    obtain ⟨fuel, rfl⟩ : ∃ more, fuel = more + 1 := ⟨fuel - 1, by omega⟩
    rw [List.flatMap_cons] at front cut
    rcases front_split front with ⟨inside, other⟩ | ⟨rest, rfl, further⟩
    · obtain ⟨defect, stopped⟩ := readNode_cut first inside other
      exact ⟨0, defect.message, Nat.zero_lt_succ _, by simp [readNodes, stopped]⟩
    · -- The first node is whole, and the cut lies behind it.
      have size := List.length_pos_iff.mpr (write_ne_nil first)
      rw [List.length_append] at enough
      obtain ⟨count, flaw, below, read⟩ := ih others further
        (fun whole => cut (by rw [whole])) (show rest.length < fuel by omega)
      refine ⟨count + 1, flaw, Nat.succ_lt_succ below, ?_⟩
      simp only [readNodes, readNode_write first, read]
      rfl

/-- No list and no text is longer than 32 bits can count. -/
@[mk_iff] structure Countable (delta : Delta) : Prop where
  channels : delta.continuous.length < UInt32.size
  keys : ∀ entry ∈ delta.continuous, (Bytes.ofText entry.1).length < UInt32.size
  samples : ∀ entry ∈ delta.continuous, entry.2.length < UInt32.size
  sources : (delta.events.getD []).length < UInt32.size
  names : ∀ entry ∈ delta.events.getD [], (Bytes.ofText entry.1).length < UInt32.size
  trains : ∀ entry ∈ delta.events.getD [], entry.2.length < UInt32.size
  times : ∀ entry ∈ delta.events.getD [], ∀ train ∈ entry.2, train.2.length < UInt32.size

instance (delta : Delta) : Decidable (Countable delta) := decidable_of_iff _ (countable_iff delta).symm

theorem storable_list {α : Type} {element : α → List Node} {items : List α}
    (fits : items.length < UInt32.size) (each : ∀ item ∈ items, ∀ node ∈ element item, Storable node) :
    ∀ node ∈ Node.ofList element items, Storable node := by
  refine List.forall_mem_cons.mpr ⟨.array _ fits, fun node member => ?_⟩
  obtain ⟨item, listed, there⟩ := List.mem_flatMap.mp member
  exact each item listed node there

theorem storable_under {α : Type} {element : α → List Node} {items : List α} {name : Node}
    (named : Storable name) (fits : items.length < UInt32.size)
    (each : ∀ item ∈ items, ∀ node ∈ element item, Storable node) :
    ∀ node ∈ .array 2 :: name :: Node.ofList element items, Storable node :=
  List.forall_mem_cons.mpr ⟨.array 2 (by decide),
    List.forall_mem_cons.mpr ⟨named, storable_list fits each⟩⟩

theorem storable_ofSample (sample : Sample) : ∀ node ∈ Node.ofSample sample, Storable node := by
  intro node member
  simp only [Node.ofSample, List.mem_cons, List.not_mem_nil, or_false] at member
  rcases member with rfl | rfl | rfl
  · exact .array 2 (by decide)
  · exact .real _
  · exact .real _

theorem storable_ofDelta {delta : Delta} (countable : Countable delta) (indexed : delta.WordIndexed) :
    ∀ node ∈ Node.ofDelta delta, Storable node := by
  obtain ⟨time, continuous, events⟩ := delta
  have samples : ∀ node ∈ Node.ofList Node.ofContinuous continuous, Storable node := by
    refine storable_list countable.channels fun entry listed => ?_
    exact storable_under (.text _ (countable.keys entry listed)) (countable.samples entry listed)
      fun sample _ => storable_ofSample sample
  cases events with
  | none => exact List.forall_mem_cons.mpr ⟨.array 2 (by decide), List.forall_mem_cons.mpr ⟨.real _, samples⟩⟩
  | some events =>
    have trains : ∀ node ∈ Node.ofList Node.ofEvents events, Storable node := by
      refine storable_list countable.sources fun entry listed => ?_
      refine storable_under (.text _ (countable.names entry listed)) (countable.trains entry listed) ?_
      intro train there
      refine storable_under (.index _ (indexed entry listed train there))
        (countable.times entry listed train there) fun time _ node member => ?_
      rw [List.mem_singleton.mp member]
      exact .real _
    refine List.forall_mem_cons.mpr ⟨.array 3 (by decide), List.forall_mem_cons.mpr ⟨.real _, ?_⟩⟩
    exact List.forall_mem_append.mpr ⟨samples, trains⟩

theorem reread_real (delta : Delta) : delta.reread (Reader.respelled Node.real) = .ok delta := by
  have own : ∀ number ∈ delta.numbers, Reader.respelled Node.real number = .ok (id number) :=
    fun number _ => rfl
  rw [Delta.reread_of_ok own, Delta.map_id]

theorem respell_real : Node.respell Node.real = id := by
  funext node
  cases node <;> rfl

/-- Every number has a form of its own, so a delta comes back as it is, if its times allow it. -/
theorem decode_encode {delta : Delta} (countable : Countable delta) (indexed : delta.WordIndexed) :
    decode (encode delta) = timely delta := by
  have nodes := readNodes_write (storable_ofDelta countable indexed)
    (Nat.lt_succ_self ((Node.ofDelta delta).flatMap write).length)
  have read := readDelta_respelled { depth := some depthLimit } indexed Node.real
    [.broken Defect.noMarker.message]
  rw [respell_real, List.map_id, reread_real] at read
  rw [decode, encode, nodes, read]
  rfl

/-- Reading a delta takes all its nodes, and a payload that was cut off lacks some of them. -/
theorem decode_cut {delta : Delta} (countable : Countable delta) (indexed : delta.WordIndexed)
    {payload : Bytes} (front : payload <+: encode delta) (cut : payload ≠ encode delta) :
    ∃ fault, decode payload = .error fault := by
  obtain ⟨count, flaw, short, nodes⟩ := readNodes_cut (storable_ofDelta countable indexed) front cut
    (Nat.lt_succ_self payload.length)
  rw [decode, nodes, readDelta_eq]
  cases read : Reader.delta { depth := some depthLimit }
      ((Node.ofDelta delta).take count ++ [.broken flaw]) with
  | error fault => exact ⟨fault, rfl⟩
  | ok answer =>
    obtain ⟨other, rest⟩ := answer
    obtain ⟨taken, whole, clean, again⟩ := Reader.delta_local _ _ _ _ read
    rcases List.eq_nil_or_concat rest with rfl | ⟨behind, last, rfl⟩
    · have broken : Node.broken flaw ∈ taken := by
        rw [List.append_nil] at whole
        exact whole ▸ List.mem_append_right _ (List.mem_singleton_self _)
      exact absurd ⟨flaw, .inl rfl⟩ (clean _ broken)
    · rw [List.concat_eq_append, ← List.append_assoc] at whole
      have begun : (Node.ofDelta delta).take count = taken ++ behind := (List.append_inj' whole rfl).1
      have all := Reader.Reads.delta { depth := some depthLimit } Node.real indexed []
      rw [respell_real, List.map_id, reread_real, List.append_nil,
        ← List.take_append_drop count (Node.ofDelta delta), begun, List.append_assoc, again] at all
      have nothing : behind ++ (Node.ofDelta delta).drop count = [] := congrArg Prod.snd (Except.ok.inj all)
      have none := List.drop_eq_nil_iff.mp (List.append_eq_nil_iff.mp nothing).2
      exact absurd short (Nat.not_lt.mpr none)

end Telemetry.Wire.Msgpack
