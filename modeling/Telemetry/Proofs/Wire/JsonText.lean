import Telemetry.Wire.JsonText
import Telemetry.Proofs.Json.Document
import Telemetry.Proofs.Json.Text
import Telemetry.Proofs.Wire.Local
import Mathlib.Data.List.Forall2

/-! JSON text of a delta as nodes. Every value is read up to what parts it from the next one, and an
array that was cut off is never closed. -/
namespace Telemetry.Wire.JsonText
open Json Json.Document
variable {dialect : Dialect} {number : Literal → Option Number} {style : NumberStyle}

/-- Bytes that are read as some nodes, up to what parts elements of an array. Of fewer bytes
nothing is left in which an element could end. -/
structure Spells (dialect : Dialect) (number : Literal → Option Number) (bytes : Bytes)
    (written : List Node) : Prop where
  begins : ∃ b more, bytes = b :: more ∧ isBlank b = false ∧ b ≠ 0x5d
  whole : ∀ {fuel rest}, bytes.length ≤ fuel → Parted rest → ∃ document,
    readValue dialect fuel (bytes ++ rest) = (document, some rest) ∧ nodes number document = written
  cut : ∀ {fuel front document rest}, 2 * front.length ≤ fuel → front <+: bytes → front ≠ bytes →
    readValue dialect fuel front = (document, some rest) → ∀ b ∈ rest, b ≠ 0x2c ∧ b ≠ 0x5d

namespace Spells
variable {written : List Node}

theorem word {b : UInt8} {more : Bytes} (begins : BeginsWord b)
    (plain : ∀ c ∈ b :: more, c ≠ 0x2c ∧ c ≠ 0x5d)
    (read : ∀ {rest}, Parted rest → ∃ document,
      readWord dialect (b :: more ++ rest) = (document, some rest) ∧ nodes number document = written) :
    Spells dialect number (b :: more) written where
  begins := ⟨b, more, rfl, begins.1, (plain b (List.mem_cons_self ..)).2⟩
  whole := by
    intro fuel rest enough parted
    obtain ⟨fuel, rfl⟩ : ∃ less, fuel = less + 1 := ⟨fuel - 1, by rw [List.length_cons] at enough; omega⟩
    obtain ⟨document, answer, same⟩ := read parted
    exact ⟨document, (readValue_word begins fuel (more ++ rest)).trans answer, same⟩
  cut := by
    intro fuel front document rest _ inside _ answer c member
    cases front with
    | nil =>
      rw [readValue_nil] at answer
      cases answer
    | cons first front =>
      obtain ⟨rfl, -⟩ := List.cons_prefix_cons.mp inside
      cases fuel with
      | zero => cases answer
      | succ fuel =>
        rw [readValue_word begins] at answer
        exact plain c (inside.subset ((readWord_suffix answer).subset member))

theorem text (s : String) :
    Spells dialect number (Bytes.ofText ((Value.text s).render style)) [.text s] := by
  rw [Value.render, ofText_quote]
  refine ⟨⟨0x22, _, rfl, by decide, by decide⟩, ?_, ?_⟩
  · intro fuel rest enough _
    obtain ⟨fuel, rfl⟩ : ∃ less, fuel = less + 1 := ⟨fuel - 1, by rw [List.length_cons] at enough; omega⟩
    have read : readText dialect _ = _ := readText_escaped s rest
    refine ⟨.text (some s), ?_, rfl⟩
    have shape : 0x22 :: (escaped s.toList ++ [0x22]) ++ rest = 0x22 :: (escaped s.toList ++ 0x22 :: rest) := by
      simp
    rw [shape, readValue]
    simp [skipBlanks, isBlank, read]
  · intro fuel front document rest _ inside cut answer
    cases front with
    | nil =>
      rw [readValue_nil] at answer
      cases answer
    | cons first front =>
      obtain ⟨rfl, within⟩ := List.cons_prefix_cons.mp inside
      have nothing : readText dialect front = none := readText_cut within fun same => cut (by rw [same])
      cases fuel with
      | zero => cases answer
      | succ fuel =>
        rw [readValue] at answer
        simp [skipBlanks, isBlank, nothing] at answer

end Spells

theorem ofText_items (first second : Value) (others : List Value) :
    Bytes.ofText (renderItems style (first :: second :: others)) =
      Bytes.ofText (first.render style) ++ 0x2c :: Bytes.ofText (renderItems style (second :: others)) := by
  have comma : Bytes.ofText "," = [0x2c] := Bytes.ofText_ofList [',']
  rw [renderItems, Bytes.ofText_append, Bytes.ofText_append, comma]
  · simp
  · simp

theorem ofText_noItems : Bytes.ofText (renderItems style []) = [] := Bytes.ofText_ofList []

theorem ofText_array (values : List Value) :
    Bytes.ofText ((Value.array values).render style) =
      0x5b :: (Bytes.ofText (renderItems style values) ++ [0x5d]) := by
  have opening : Bytes.ofText "[" = [0x5b] := Bytes.ofText_ofList ['[']
  have closing : Bytes.ofText "]" = [0x5d] := Bytes.ofText_ofList [']']
  rw [Value.render, Bytes.ofText_append, Bytes.ofText_append, opening, closing]
  rfl

/-- Values with the nodes that their texts spell. -/
abbrev Spelled (dialect : Dialect) (number : Literal → Option Number) (style : NumberStyle) :=
  List.Forall₂ fun (value : Value) written => Spells dialect number (Bytes.ofText (value.render style)) written

theorem readItems_whole {values : List Value} {written : List (List Node)}
    (each : Spelled dialect number style values written) (some : values ≠ []) {fuel : Nat} (rest : Bytes)
    (enough : (Bytes.ofText (renderItems style values)).length < fuel) :
    ∃ documents, readItems dialect fuel (Bytes.ofText (renderItems style values) ++ 0x5d :: rest) =
        (documents, .some rest) ∧
      documents.length = values.length ∧ itemNodes number documents = written.flatten := by
  induction each generalizing fuel with
  | nil => exact absurd rfl some
  | @cons value here values later first others ih =>
    obtain ⟨fuel, rfl⟩ : ∃ less, fuel = less + 1 := ⟨fuel - 1, by omega⟩
    cases others with
    | nil =>
      have closed : Parted (0x5d :: rest) := by
        rintro b ⟨⟩
        exact .inr rfl
      obtain ⟨document, read, same⟩ := first.whole (Nat.le_of_lt_succ enough) closed
      refine ⟨[document], ?_, rfl, by simp [itemNodes, same]⟩
      simp only [renderItems, readItems, read]
      simp [skipBlanks, isBlank]
    | @cons second next values behind one more =>
      rw [ofText_items] at enough ⊢
      rw [List.length_append, List.length_cons] at enough
      rw [List.append_assoc, List.cons_append]
      generalize Bytes.ofText (renderItems style (second :: values)) ++ 0x5d :: rest = further at ih ⊢
      have parted : Parted (0x2c :: further) := by
        rintro b ⟨⟩
        exact .inl rfl
      obtain ⟨document, read, same⟩ := first.whole (show _ ≤ fuel by omega) parted
      obtain ⟨documents, remaining, length, nodes⟩ := ih (List.cons_ne_nil _ _) (show _ < fuel by omega)
      refine ⟨document :: documents, ?_, congrArg (· + 1) length, ?_⟩
      · simp only [readItems, read]
        simp [skipBlanks, isBlank, remaining]
      · rw [itemNodes, same, nodes]
        rfl

theorem readItems_nil (fuel : Nat) : (readItems dialect fuel []).2 = none := by
  cases fuel with
  | zero => rfl
  | succ fuel => rw [readItems, readValue_nil]

theorem readItems_within {bytes : Bytes} {written : List Node} (first : Spells dialect number bytes written)
    {front : Bytes} (inside : front <+: bytes) {fuel : Nat} (enough : 2 * front.length ≤ fuel) :
    (readItems dialect (fuel + 1) front).2 = none := by
  by_cases all : front = bytes
  · have sufficient : bytes.length ≤ fuel := by rw [← all]; omega
    have nothing : Parted [] := nofun
    obtain ⟨document, read, -⟩ := first.whole sufficient nothing
    rw [List.append_nil, ← all] at read
    simp [readItems, read, skipBlanks]
  · cases read : readValue dialect fuel front with
    | mk document left =>
      cases left with
      | none => rw [readItems, read]
      | some rest =>
        have kept := first.cut enough inside all read
        have open_ : ∀ b ∈ skipBlanks rest, b ≠ 0x2c ∧ b ≠ 0x5d :=
          fun b member => kept b ((List.dropWhile_suffix _).subset member)
        rw [readItems, read]
        simp only
        split
        · rename_i same
          exact absurd rfl (open_ 0x5d (same ▸ List.mem_cons_self ..)).2
        · rename_i same
          exact absurd rfl (open_ 0x2c (same ▸ List.mem_cons_self ..)).1
        · rfl

/-- Before its bracket an array has no end. -/
theorem readItems_cut {values : List Value} {written : List (List Node)}
    (each : Spelled dialect number style values written) {fuel : Nat} {front : Bytes}
    (inside : front <+: Bytes.ofText (renderItems style values)) (enough : 2 * front.length < fuel) :
    (readItems dialect fuel front).2 = none := by
  induction each generalizing fuel front with
  | nil =>
    rw [ofText_noItems] at inside
    rw [List.prefix_nil.mp inside, readItems_nil]
  | @cons value here values later first others ih =>
    obtain ⟨fuel, rfl⟩ : ∃ less, fuel = less + 1 := ⟨fuel - 1, by omega⟩
    cases others with
    | nil => exact readItems_within first inside (Nat.le_of_lt_succ enough)
    | @cons second next values behind one more =>
      rw [ofText_items] at inside
      rcases front_cases inside with within | ⟨more, some, rfl, further⟩
      · exact readItems_within first within (Nat.le_of_lt_succ enough)
      · obtain ⟨b, more, rfl⟩ := List.exists_cons_of_ne_nil some
        obtain ⟨rfl, others⟩ := List.cons_prefix_cons.mp further
        rw [List.length_append, List.length_cons] at enough
        have parted : Parted (0x2c :: more) := by
          rintro b ⟨⟩
          exact .inl rfl
        obtain ⟨document, read, -⟩ := first.whole (show _ ≤ fuel by omega) parted
        have rest := ih others (show _ < fuel by omega)
        simp only [readItems, read]
        simp [skipBlanks, isBlank, rest]

theorem readValue_array {body : Bytes} (opens : ∀ b ∈ body.head?, isBlank b = false ∧ b ≠ 0x5d) (fuel : Nat) :
    readValue dialect (fuel + 1) (0x5b :: body) =
      (.array (readItems dialect fuel body).1 (readItems dialect fuel body).2.isSome,
        (readItems dialect fuel body).2) := by
  have kept : skipBlanks body = body := by
    cases body with
    | nil => rfl
    | cons b body => simp [skipBlanks, (opens b rfl).1]
  have opening : skipBlanks (0x5b :: body) = 0x5b :: body := by simp [skipBlanks, isBlank]
  rw [readValue, opening]
  simp only [kept]
  split
  · exact absurd rfl (opens 0x5d rfl).2
  · rfl

theorem items_begin {values : List Value} {written : List (List Node)}
    (each : Spelled dialect number style values written) (some : values ≠ []) :
    ∃ b more, Bytes.ofText (renderItems style values) = b :: more ∧ isBlank b = false ∧ b ≠ 0x5d := by
  cases each with
  | nil => exact absurd rfl some
  | cons first others =>
    obtain ⟨b, more, text, begins⟩ := first.begins
    cases others with
    | nil => exact ⟨b, more, text, begins⟩
    | cons second others =>
      rw [ofText_items, text]
      exact ⟨b, _, rfl, begins⟩

theorem readValue_cut {values : List Value} {written : List (List Node)}
    (each : Spelled dialect number style values written) {fuel : Nat} {front : Bytes}
    (enough : 2 * front.length ≤ fuel)
    (inside : front <+: Bytes.ofText ((Value.array values).render style))
    (cut : front ≠ Bytes.ofText ((Value.array values).render style)) :
    (readValue dialect fuel front).2 = none := by
  rw [ofText_array] at inside cut
  cases front with
  | nil => rw [readValue_nil]
  | cons b front => 
    obtain ⟨rfl, within⟩ := List.cons_prefix_cons.mp inside
    have within : front <+: Bytes.ofText (renderItems style values) := by
      rcases List.prefix_concat_iff.mp within with same | less
      · exact absurd (congrArg (0x5b :: ·) same) cut
      · exact less
    rw [List.length_cons] at enough
    obtain ⟨fuel, rfl⟩ : ∃ less, fuel = less + 1 := ⟨fuel - 1, by omega⟩
    have left := readItems_cut each within (show _ < fuel by omega)
    have opens : ∀ b ∈ front.head?, isBlank b = false ∧ b ≠ 0x5d := by
      intro b first
      obtain ⟨more, rfl⟩ := List.head?_eq_some_iff.mp first
      by_cases some : values = []
      · subst some
        rw [ofText_noItems] at within
        exact absurd (List.prefix_nil.mp within) (List.cons_ne_nil _ _)
      · obtain ⟨c, others, text, begins⟩ := items_begin each some
        rw [text] at within
        exact (List.cons_prefix_cons.mp within).1 ▸ begins
    rw [readValue_array opens, left]

namespace Spells

theorem array {values : List Value} {written : List (List Node)}
    (each : Spelled dialect number style values written) :
    Spells dialect number (Bytes.ofText ((Value.array values).render style))
      (.array values.length :: written.flatten) := by
  refine ⟨⟨0x5b, _, ofText_array values, by decide, by decide⟩, ?_, ?_⟩
  · intro fuel rest enough _
    rw [ofText_array, List.length_cons, List.length_append, List.length_singleton] at enough
    obtain ⟨fuel, rfl⟩ : ∃ less, fuel = less + 1 := ⟨fuel - 1, by omega⟩
    rw [ofText_array, List.cons_append, List.append_assoc, List.singleton_append]
    by_cases some : values = []
    · subst some
      cases each
      refine ⟨.array [] true, ?_, rfl⟩
      rw [ofText_noItems, readValue]
      simp [skipBlanks, isBlank]
    · obtain ⟨b, more, text, begins⟩ := items_begin each some
      obtain ⟨documents, read, length, spelled⟩ := readItems_whole each some rest (show _ < fuel by omega)
      refine ⟨.array documents true, ?_, ?_⟩
      · rw [readValue_array, read]
        · rfl
        · rw [text]
          rintro c ⟨⟩
          exact begins
      · rw [nodes, length, spelled]
  · intro fuel front document rest enough inside cut read
    have nothing := readValue_cut each enough inside cut
    rw [read] at nothing
    cases nothing

variable {spell : Binary64 → Node}

theorem list {α : Type} {write : α → Value} {element : α → List Node} {items : List α}
    (each : ∀ item ∈ items, Spells dialect number (Bytes.ofText ((write item).render style)) (element item)) :
    Spells dialect number (Bytes.ofText ((Value.array (items.map write)).render style))
      (Node.ofList element items) := by
  have spelled : List.Forall₂ (fun value written =>
      Spells dialect number (Bytes.ofText (value.render style)) written)
      (items.map write) (items.map element) := by
    rw [List.forall₂_map_left_iff, List.forall₂_map_right_iff, List.forall₂_same]
    exact each
  have whole := array spelled
  rw [List.length_map, ← List.flatMap_def] at whole
  exact whole

/-- A name with its items under it. -/
theorem under {α : Type} {name : Value} {named : Node} {write : α → Value} {element : α → List Node}
    {items : List α} (key : Spells dialect number (Bytes.ofText (name.render style)) [named])
    (each : ∀ item ∈ items, Spells dialect number (Bytes.ofText ((write item).render style)) (element item)) :
    Spells dialect number (Bytes.ofText ((Value.array [name, .array (items.map write)]).render style))
      (.array 2 :: named :: Node.ofList element items) := by
  have whole := array (.cons key (.cons (list each) .nil))
  rw [List.flatten_cons, List.flatten_cons, List.flatten_nil, List.append_nil] at whole
  exact whole

section
variable (real : ∀ x, Spells dialect number (Bytes.ofText ((Value.real x).render style)) [spell x])
include real

theorem sample (sample : Sample) :
    Spells dialect number (Bytes.ofText ((ofSample sample).render style))
      ((Node.ofSample sample).map (Node.respell spell)) := by
  have whole := array (.cons (real sample.time) (.cons (real sample.value) .nil))
  exact whole

theorem continuous (entry : String × List Sample) :
    Spells dialect number (Bytes.ofText ((ofContinuous entry).render style))
      ((Node.ofContinuous entry).map (Node.respell spell)) := by
  have whole := under (text entry.1) fun item (_ : item ∈ entry.2) => sample real item
  rw [← Reader.respell_ofList] at whole
  exact whole

variable (index : ∀ n < UInt64.size,
  Spells dialect number (Bytes.ofText ((Value.natural n).render style)) [.integer n])
include index

theorem train {train : Nat × List Binary64} (fits : train.1 < UInt64.size) :
    Spells dialect number (Bytes.ofText ((ofTrain train).render style))
      ((Node.ofTrain train).map (Node.respell spell)) := by
  have each : ∀ time ∈ train.2,
      Spells dialect number (Bytes.ofText ((Value.real time).render style)) [spell time] :=
    fun time _ => real time
  have whole := under (index train.1 fits) each
  have nodes : (Node.ofTrain train).map (Node.respell spell) =
      .array 2 :: .integer train.1 :: Node.ofList (fun time => [spell time]) train.2 :=
    congrArg (fun nodes => _ :: _ :: nodes) (Reader.respell_ofList spell (fun t => [.real t]) train.2)
  rw [nodes]
  exact whole

theorem events {entry : String × List (Nat × List Binary64)} (fits : ∀ train ∈ entry.2, train.1 < UInt64.size) :
    Spells dialect number (Bytes.ofText ((ofEvents entry).render style))
      ((Node.ofEvents entry).map (Node.respell spell)) := by
  have whole := under (text entry.1) fun item there => train real index (fits item there)
  rw [← Reader.respell_ofList] at whole
  exact whole

/-- The elements of a delta are those of its nodes. -/
theorem delta {delta : Delta} (indexed : delta.WordIndexed) :
    ∃ values written, ofDelta delta = .array values ∧ Spelled dialect number style values written ∧
      (Node.ofDelta delta).map (Node.respell spell) = .array values.length :: written.flatten := by
  obtain ⟨time, samples, trains⟩ := delta
  have continuous := list fun entry (_ : entry ∈ samples) => continuous real entry
  rw [← Reader.respell_ofList] at continuous
  cases trains with
  | none =>
    refine ⟨_, _, rfl, .cons (real time) (.cons continuous .nil), ?_⟩
    simp [Node.ofDelta, Node.respell]
  | some trains =>
    have events := list fun entry listed => events real index (indexed entry listed)
    rw [← Reader.respell_ofList] at events
    refine ⟨_, _, rfl, .cons (real time) (.cons continuous (.cons events .nil)), ?_⟩
    simp [Node.ofDelta, Node.respell]

end
end Spells

/-- A text that spells something holds nothing besides. -/
theorem read_whole {bytes : Bytes} {written : List Node} (spells : Spells dialect number bytes written) :
    ∃ document, Document.read dialect bytes = (document, true) ∧ nodes number document = written := by
  have enough : bytes.length ≤ 2 * bytes.length + 2 := by omega
  have nothing : Parted [] := nofun
  obtain ⟨document, read, same⟩ := spells.whole enough nothing
  rw [List.append_nil] at read
  exact ⟨document, by simp [Document.read, read, skipBlanks], same⟩

theorem nodes_of_spells {bytes : Bytes} {written : List Node} (spells : Spells dialect number bytes written) :
    nodes number (Document.read dialect bytes).1 = written := by
  obtain ⟨document, read, same⟩ := read_whole spells
  rw [read, same]

theorem read_cut {values : List Value} {written : List (List Node)}
    (each : Spelled dialect number style values written) {front : Bytes}
    (inside : front <+: Bytes.ofText ((Value.array values).render style))
    (cut : front ≠ Bytes.ofText ((Value.array values).render style)) :
    (Document.read dialect front).2 = false := by
  have enough : 2 * front.length ≤ 2 * front.length + 2 := by omega
  have nothing := readValue_cut each enough inside cut
  simp [Document.read, nothing]

end Telemetry.Wire.JsonText
