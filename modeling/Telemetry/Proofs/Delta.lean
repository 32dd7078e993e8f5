import Telemetry.Delta
import Mathlib.Logic.Basic

/-! The numbers of a delta, and a delta whose numbers are all read once more, as they are on the other
side of a wire. That answers when each of the numbers can be read, and changes nothing but them. -/
namespace Telemetry

section
variable {ε α β : Type} {f : α → Except ε β} {items : List α}

theorem mapM_of_ok {h : α → β} (ok : ∀ item ∈ items, f item = .ok (h item)) :
    items.mapM f = .ok (items.map h) := by
  induction items with
  | nil => rfl
  | cons item items ih =>
    obtain ⟨first, others⟩ := List.forall_mem_cons.mp ok
    rw [List.mapM_cons, first, ih others]
    rfl

theorem mapM_success {answers : List β} (ok : items.mapM f = .ok answers) :
    ∀ item ∈ items, ∃ answer, f item = .ok answer := by
  induction items generalizing answers with
  | nil => nofun
  | cons item items ih =>
    rw [List.mapM_cons] at ok
    cases first : f item with
    | error fault => simp [first, bind, Except.bind] at ok
    | ok answer =>
      cases others : items.mapM f with
      | error fault => simp [first, others, bind, Except.bind] at ok
      | ok more => exact List.forall_mem_cons.mpr ⟨⟨answer, first⟩, ih others⟩

end

section
variable {ε κ α β : Type}

/-- Items under a key, each of them read once more. -/
def rereadUnder (f : α → Except ε β) (entry : κ × List α) : Except ε (κ × List β) := do
  return (entry.1, ← entry.2.mapM f)

theorem rereadUnder_of_ok {f : α → Except ε β} {h : α → β} {entry : κ × List α}
    (ok : ∀ item ∈ entry.2, f item = .ok (h item)) :
    rereadUnder f entry = .ok (entry.1, entry.2.map h) := by
  rw [rereadUnder, mapM_of_ok ok]
  rfl

theorem rereadUnder_success {f : α → Except ε β} {entry : κ × List α} {answer : κ × List β}
    (ok : rereadUnder f entry = .ok answer) : ∀ item ∈ entry.2, ∃ answer, f item = .ok answer := by
  cases items : entry.2.mapM f with
  | error fault => simp [rereadUnder, items, bind, Except.bind] at ok
  | ok more => exact mapM_success items

end

variable {ε : Type} {f : Binary64 → Except ε Binary64} {h : Binary64 → Binary64}

namespace Sample

def reread (f : Binary64 → Except ε Binary64) (sample : Sample) : Except ε Sample := do
  return ⟨← f sample.time, ← f sample.value⟩

def map (h : Binary64 → Binary64) (sample : Sample) : Sample := ⟨h sample.time, h sample.value⟩

theorem reread_of_ok {sample : Sample} (time : f sample.time = .ok (h sample.time))
    (value : f sample.value = .ok (h sample.value)) : sample.reread f = .ok (sample.map h) := by
  rw [reread, time, value]
  rfl

theorem reread_success {sample answer : Sample} (ok : sample.reread f = .ok answer) :
    (∃ time, f sample.time = .ok time) ∧ ∃ value, f sample.value = .ok value := by
  cases time : f sample.time with
  | error fault => simp [reread, time, bind, Except.bind] at ok
  | ok t =>
    cases value : f sample.value with
    | error fault => simp [reread, time, value, bind, Except.bind] at ok
    | ok v => exact ⟨⟨t, rfl⟩, ⟨v, rfl⟩⟩

end Sample

namespace Delta
variable {delta : Delta}

/-- The values of all samples. -/
def values (delta : Delta) : List Binary64 :=
  delta.continuous.flatMap fun (_, samples) => samples.map (·.value)

/-- All times and all values. -/
def numbers (delta : Delta) : List Binary64 := delta.times ++ delta.values

/-- Every index is a machine word. -/
def WordIndexed (delta : Delta) : Prop :=
  ∀ entry ∈ delta.events.getD [], ∀ train ∈ entry.2, train.1 < UInt64.size

instance (delta : Delta) : Decidable delta.WordIndexed :=
  inferInstanceAs (Decidable (∀ entry ∈ delta.events.getD [], ∀ train ∈ entry.2, train.1 < UInt64.size))

def reread (f : Binary64 → Except ε Binary64) (delta : Delta) : Except ε Delta := do
  let time ← f delta.time
  let continuous ← delta.continuous.mapM (rereadUnder (Sample.reread f))
  match delta.events with
  | none => return ⟨time, continuous, none⟩
  | some events => return ⟨time, continuous, ← events.mapM (rereadUnder (rereadUnder f))⟩

def map (h : Binary64 → Binary64) (delta : Delta) : Delta where
  time := h delta.time
  continuous := delta.continuous.map fun entry => (entry.1, entry.2.map (Sample.map h))
  events := delta.events.map fun events => events.map fun entry =>
    (entry.1, entry.2.map fun train => (train.1, train.2.map h))

theorem mem_times {time : Binary64} :
    time ∈ delta.times ↔ time = delta.time ∨
      (∃ entry ∈ delta.continuous, ∃ sample ∈ entry.2, sample.time = time) ∨
      ∃ events, delta.events = some events ∧ ∃ entry ∈ events, ∃ train ∈ entry.2, time ∈ train.2 := by
  obtain ⟨tick, continuous, events⟩ := delta
  cases events <;> simp [times, List.mem_flatMap]

theorem mem_values {value : Binary64} :
    value ∈ delta.values ↔ ∃ entry ∈ delta.continuous, ∃ sample ∈ entry.2, sample.value = value := by
  simp [values, List.mem_flatMap]

theorem reread_of_ok (ok : ∀ number ∈ delta.numbers, f number = .ok (h number)) :
    delta.reread f = .ok (delta.map h) := by
  have times : ∀ time ∈ delta.times, f time = .ok (h time) :=
    fun time member => ok time (List.mem_append_left _ member)
  have values : ∀ value ∈ delta.values, f value = .ok (h value) :=
    fun value member => ok value (List.mem_append_right _ member)
  have tick : f delta.time = .ok (h delta.time) := times _ (mem_times.mpr (.inl rfl))
  have continuous : delta.continuous.mapM (rereadUnder (Sample.reread f)) =
      .ok (delta.map h).continuous := by
    refine mapM_of_ok fun entry listed => rereadUnder_of_ok fun sample there => ?_
    exact Sample.reread_of_ok (times _ (mem_times.mpr (.inr (.inl ⟨entry, listed, sample, there, rfl⟩))))
      (values _ (mem_values.mpr ⟨entry, listed, sample, there, rfl⟩))
  obtain ⟨time, samples, events⟩ := delta
  rw [reread, tick, continuous]
  cases events with
  | none => rfl
  | some events =>
    have trains : events.mapM (rereadUnder (rereadUnder f)) =
        .ok (events.map fun entry => (entry.1, entry.2.map fun train => (train.1, train.2.map h))) := by
      refine mapM_of_ok fun entry listed => rereadUnder_of_ok fun train there =>
        rereadUnder_of_ok fun time member => ?_
      exact times _ (mem_times.mpr (.inr (.inr ⟨events, rfl, entry, listed, train, there, member⟩)))
    simp [trains, bind, Except.bind, pure, Except.pure, map]

theorem reread_values {answer : Delta} (ok : delta.reread f = .ok answer) :
    ∀ value ∈ delta.values, ∃ read, f value = .ok read := by
  intro value member
  obtain ⟨entry, listed, sample, there, rfl⟩ := mem_values.mp member
  cases tick : f delta.time with
  | error fault => simp [reread, tick, bind, Except.bind] at ok
  | ok time =>
    cases continuous : delta.continuous.mapM (rereadUnder (Sample.reread f)) with
    | error fault => simp [reread, tick, continuous, bind, Except.bind] at ok
    | ok answers =>
      obtain ⟨samples, under⟩ := mapM_success continuous entry listed
      obtain ⟨read, again⟩ := rereadUnder_success under sample there
      exact (Sample.reread_success again).2

@[simp] theorem map_id : delta.map id = delta := by
  obtain ⟨time, continuous, events⟩ := delta
  have samples : Sample.map id = id := rfl
  simp only [map, samples, List.map_id, id_eq, List.map_id_fun', Option.map_id_fun']

theorem times_map : (delta.map h).times = delta.times.map h := by
  obtain ⟨time, continuous, events⟩ := delta
  have samples : ((·.time) ∘ Sample.map h : Sample → Binary64) = h ∘ (·.time) := rfl
  cases events with
  | none => simp [times, map, List.flatMap_map, List.map_flatMap, samples]
  | some events => simp [times, map, List.flatMap_map, List.map_flatMap, samples]

end Delta
end Telemetry
