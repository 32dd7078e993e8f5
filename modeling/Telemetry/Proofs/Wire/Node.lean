import Telemetry.Wire.Node
import Telemetry.Proofs.Delta

/-! Readers of nodes undo the writers, whatever node stands for a number and whatever follows. -/
namespace Telemetry.Wire

/-- The nodes of a format that has its own nodes for numbers. -/
def Node.respell (spell : Binary64 → Node) : Node → Node
  | .real x => spell x
  | node => node

/-- The number that a single node holds. -/
def Node.number (node : Node) : Except DecodeFault Binary64 := (Reader.number [node]).map (·.1)

namespace Reader
variable {α β γ : Type} {read : Reader α} {first : Reader β} {second : Reader γ}
  {surplus : Bool}

/-- What a reader makes of some nodes, whatever follows them. -/
def Reads (read : Reader α) (nodes : List Node) (answer : Except DecodeFault α) : Prop :=
  ∀ rest, read (nodes ++ rest) = answer.map (·, rest)

theorem Reads.pure (a : α) : Reads (fun nodes => .ok (a, nodes)) [] (.ok a) := fun _ => rfl

theorem Reads.bind {next : β → Reader α} {left right : List Node} {b : Except DecodeFault β}
    {a : β → Except DecodeFault α} (one : Reads first left b) (other : ∀ b, Reads (next b) right (a b)) :
    Reads (fun nodes => first nodes >>= fun read => next read.1 read.2) (left ++ right) (b >>= a) := by
  intro rest
  change (first (left ++ right ++ rest) >>= _) = _
  rw [List.append_assoc, one (right ++ rest)]
  cases b with
  | error fault => rfl
  | ok b => exact other b rest

theorem Reads.number (node : Node) : Reads number [node] node.number := by
  intro rest
  cases node <;> rfl

theorem Reads.text (s : String) : Reads text [.text s] (.ok s) := fun _ => rfl

theorem Reads.index {n : Nat} (fits : n < UInt64.size) : Reads index [.integer n] (.ok n) := by
  intro rest
  have bounds : (0 : Int) ≤ n ∧ (n : Int) < UInt64.size := ⟨Int.natCast_nonneg n, by exact_mod_cast fits⟩
  simp only [List.singleton_append, Reader.index, if_pos bounds, Int.toNat_natCast]
  rfl

theorem Reads.times {write : β → List Node} {f : β → Except DecodeFault α} {items : List β}
    (element : ∀ item ∈ items, Reads read (write item) (f item)) :
    Reads (times read items.length) (items.flatMap write) (items.mapM f) := by
  induction items with
  | nil => exact Reads.pure []
  | cons item items ih =>
    obtain ⟨here, later⟩ := List.forall_mem_cons.mp element
    have both := here.bind fun a => (ih later).bind fun more => Reads.pure (a :: more)
    rw [List.append_nil] at both
    rw [List.mapM_cons]
    exact both

theorem Reads.list {write : β → List Node} {f : β → Except DecodeFault α} {items : List β}
    (element : ∀ item ∈ items, Reads read (write item) (f item)) :
    Reads (list read) (Node.ofList write items) (items.mapM f) := Reads.times element

theorem Reads.pair {left right : List Node} {b : Except DecodeFault β} {c : Except DecodeFault γ}
    (one : Reads first left b) (other : Reads second right c) :
    Reads (pair surplus first second) (.array 2 :: left ++ right) (do return (← b, ← c)) := by
  have both := one.bind fun b => other.bind fun c => Reads.pure (b, c)
  rw [List.append_nil] at both
  exact both

/-- What a format makes of a number that it spells itself. -/
def respelled (spell : Binary64 → Node) (x : Binary64) : Except DecodeFault Binary64 := (spell x).number

@[simp] theorem respell_ofList (spell : Binary64 → Node) (write : β → List Node) (items : List β) :
    (Node.ofList write items).map (Node.respell spell) =
      Node.ofList (fun item => (write item).map (Node.respell spell)) items := by
  simp [Node.ofList, Node.respell, List.map_flatMap]

variable (spell : Binary64 → Node)

theorem Reads.sample (sample : Sample) :
    Reads (Reader.sample surplus) ((Node.ofSample sample).map (Node.respell spell))
      (sample.reread (respelled spell)) := by
  have both : Reads (Reader.pair surplus Reader.number Reader.number) _ _ :=
    Reads.pair (Reads.number (spell sample.time)) (Reads.number (spell sample.value))
  have made := both.bind fun read => Reads.pure (⟨read.1, read.2⟩ : Sample)
  simp only [bind_assoc, pure_bind] at made
  exact made

/-- A name with its items under it. -/
theorem Reads.under {κ : Type} {key : κ} {node : Node} {named : Reader κ} {items : List β}
    {write : β → List Node} {f : β → Except DecodeFault α} (name : Reads named [node] (.ok key))
    (element : ∀ item ∈ items, Reads read (write item) (f item)) :
    Reads (Reader.pair surplus named (Reader.list read)) (.array 2 :: node :: Node.ofList write items)
      (rereadUnder f (key, items)) :=
  Reads.pair name (Reads.list element)

theorem Reads.continuousSection (continuous : List (String × List Sample)) :
    Reads (Reader.continuousSection surplus)
      ((Node.ofList Node.ofContinuous continuous).map (Node.respell spell))
      (continuous.mapM (rereadUnder (Sample.reread (respelled spell)))) := by
  rw [respell_ofList]
  refine Reads.list fun entry _ => ?_
  have nodes : (Node.ofContinuous entry).map (Node.respell spell) = .array 2 :: .text entry.1 ::
      Node.ofList (fun sample => (Node.ofSample sample).map (Node.respell spell)) entry.2 := by
    rw [← respell_ofList]
    rfl
  rw [nodes]
  exact Reads.under (Reads.text entry.1) fun sample _ => Reads.sample spell sample

theorem Reads.train {train : Nat × List Binary64} (fits : train.1 < UInt64.size) :
    Reads (Reader.pair surplus Reader.index (Reader.list Reader.number))
      ((Node.ofTrain train).map (Node.respell spell)) (rereadUnder (respelled spell) train) := by
  have nodes : (Node.ofTrain train).map (Node.respell spell) =
      .array 2 :: .integer train.1 :: Node.ofList (fun time => [spell time]) train.2 :=
    congrArg (fun nodes => _ :: _ :: nodes) (respell_ofList spell (fun t => [.real t]) train.2)
  rw [nodes]
  exact Reads.under (Reads.index fits) fun time _ => Reads.number (spell time)

theorem Reads.eventSection {events : List (String × List (Nat × List Binary64))}
    (fits : ∀ entry ∈ events, ∀ train ∈ entry.2, train.1 < UInt64.size) :
    Reads (Reader.eventSection surplus) ((Node.ofList Node.ofEvents events).map (Node.respell spell))
      (events.mapM (rereadUnder (rereadUnder (respelled spell)))) := by
  rw [respell_ofList]
  refine Reads.list fun entry listed => ?_
  have nodes : (Node.ofEvents entry).map (Node.respell spell) = .array 2 :: .text entry.1 ::
      Node.ofList (fun train => (Node.ofTrain train).map (Node.respell spell)) entry.2 := by
    rw [← respell_ofList]
    rfl
  rw [nodes]
  exact Reads.under (Reads.text entry.1) fun train there => Reads.train spell (fits entry listed train there)

/-- The reader of a whole delta, before its times are checked. -/
def delta (allowance : Allowance) : Reader Delta
  | .array n :: nodes => deltaOf allowance n nodes
  | .bytes b :: nodes => do
    let (delta, _) ← deltaOf allowance b.length (ofBytes b)
    return (delta, nodes)
  | nodes => .error (unlike .delta nodes)

end Reader

/-- A delta whose times are finite. -/
def timely (delta : Delta) : Except DecodeFault Delta :=
  match delta.nonFiniteTime? with
  | some time => .error (.nonFiniteTime delta.time time)
  | none => .ok delta

theorem exists_of_timely {answer : Except DecodeFault Delta} {delta : Delta}
    (ok : (answer >>= timely) = .ok delta) : ∃ read, answer = .ok read := by
  cases answer with
  | error fault => cases ok
  | ok read => exact ⟨read, rfl⟩

theorem timely_of_finite {delta : Delta} (finite : ∀ time ∈ delta.times, time.isFinite = true) :
    timely delta = .ok delta := by
  have none : delta.nonFiniteTime? = none := List.find?_eq_none.mpr (by simpa using finite)
  rw [timely, none]

/-- The fault names the first time that is not finite. -/
theorem timely_of_first {delta : Delta} {before after : List Binary64} {time : Binary64}
    (split : delta.times = before ++ time :: after) (finite : ∀ earlier ∈ before, earlier.isFinite = true)
    (odd : time.isFinite = false) : timely delta = .error (.nonFiniteTime delta.time time) := by
  have first : delta.nonFiniteTime? = some time := by
    rw [Delta.nonFiniteTime?, List.find?_eq_some_iff_append]
    exact ⟨by simpa using odd, before, after, split, by simpa using finite⟩
  rw [timely, first]

theorem readDelta_eq (allowance : Allowance) (nodes : List Node) :
    readDelta allowance nodes = (Reader.delta allowance nodes >>= fun read => timely read.1) := by
  match nodes with
  | [] => rfl
  | .bytes b :: nodes =>
    change (Reader.deltaOf allowance b.length (Reader.ofBytes b) >>= _) =
      ((Reader.deltaOf allowance b.length (Reader.ofBytes b) >>= _) >>= _)
    cases Reader.deltaOf allowance b.length (Reader.ofBytes b) with
    | error fault => rfl
    | ok read => rfl
  | .array n :: nodes => rfl
  | .null :: _ | .bool _ :: _ | .integer _ :: _ | .real _ :: _ | .text _ :: _ | .other _ :: _
  | .extension :: _ | .object _ :: _ | .broken _ :: _ => rfl

theorem Reader.Reads.delta (allowance : Allowance) (spell : Binary64 → Node) {delta : Delta}
    (indexed : delta.WordIndexed) :
    Reads (Reader.delta allowance) ((Node.ofDelta delta).map (Node.respell spell))
      (delta.reread (respelled spell)) := by
  obtain ⟨tick, continuous, events⟩ := delta
  have time := Reads.number (spell tick)
  have samples : Reads (Reader.continuousSection allowance.surplus) _ _ :=
    Reads.continuousSection spell continuous
  cases events with
  | none =>
    have read := time.bind fun time => samples.bind fun continuous =>
      Reads.pure (⟨time, continuous, none⟩ : Delta)
    rw [List.append_nil] at read
    exact read
  | some events =>
    have trains : Reads (Reader.eventSection allowance.surplus) _ _ := Reads.eventSection spell indexed
    have read := time.bind fun time => samples.bind fun continuous => trains.bind fun events =>
      Reads.pure (⟨time, continuous, some events⟩ : Delta)
    rw [List.append_nil, ← List.map_append] at read
    exact read

/-- A delta is read back from its own nodes up to its numbers, which are what their nodes hold. -/
theorem readDelta_respelled (allowance : Allowance) {delta : Delta} (indexed : delta.WordIndexed)
    (spell : Binary64 → Node) (rest : List Node) :
    readDelta allowance ((Node.ofDelta delta).map (Node.respell spell) ++ rest) =
      (delta.reread (Reader.respelled spell) >>= timely) := by
  rw [readDelta_eq, Reader.Reads.delta allowance spell indexed rest]
  cases delta.reread (Reader.respelled spell) with
  | error fault => rfl
  | ok read => rfl

end Telemetry.Wire
