import Telemetry.Consumer
import Telemetry.Proofs.Codec
import Telemetry.Proofs.History.Gathered
import Telemetry.Proofs.Table.Series

/-! What every history keeps, whatever it reads: its bounds are finite and in order, and so is every
time in it finite. No reading, truncation or summary of such a history breaks a contract. -/
namespace Telemetry

theorem Delta.isFinite_of_sample {delta : Delta} (finite : delta.nonFiniteTime? = none)
    {pair : String × List Sample} (member : pair ∈ delta.continuous) {sample : Sample}
    (inside : sample ∈ pair.2) : sample.time.isFinite = true := by
  refine isFinite_of_mem_times finite (List.mem_cons_of_mem _ (List.mem_append_left _ ?_))
  exact List.mem_flatMap.mpr ⟨pair, member, List.mem_map_of_mem inside⟩

theorem Delta.isFinite_of_event {delta : Delta} (finite : delta.nonFiniteTime? = none)
    {pair : EventKey × List Binary64} (member : pair ∈ delta.trains) {time : Binary64}
    (inside : time ∈ pair.2) : time.isFinite = true := by
  obtain ⟨entry, channel, train⟩ := List.mem_flatMap.mp member
  obtain ⟨part, index, rfl⟩ := List.mem_map.mp train
  refine isFinite_of_mem_times finite (List.mem_append_right _ ?_)
  exact List.mem_flatMap.mpr ⟨entry, channel, List.mem_flatMap.mpr ⟨part, index, inside⟩⟩

namespace History
variable {history : History}

/-- Nothing was read yet, or the bounds are finite and in order. -/
inductive Bounded (history : History) : Prop
  | empty (earliest : history.earliest = none) (latest : history.latest = none)
      (messages : history.messages = 0)
  | between {first last : Binary64} (earliest : history.earliest = some first)
      (latest : history.latest = some last) (messages : 0 < history.messages)
      (start : first.isFinite = true) (stop : last.isFinite = true) (ordered : first ≤ last)

structure Sound (history : History) : Prop where
  bounded : history.Bounded
  samples : history.continuous.All fun sample => sample.time.isFinite = true
  times : history.events.All fun time => time.isFinite = true

theorem Sound.empty : Sound {} := ⟨.empty rfl rfl rfl, .empty, .empty⟩

theorem Bounded.first_le {delta : Delta} (bounded : history.Bounded)
    (finite : delta.time.isFinite = true)
    (forward : ∀ latest ∈ history.latest, ¬delta.time < latest) :
    (history.earliest.getD delta.time).isFinite = true ∧ history.earliest.getD delta.time ≤ delta.time := by
  have number := Binary64.isNaN_of_isFinite finite
  cases bounded with
  | empty earliest => simpa [earliest, finite] using Binary64.le_refl number
  | between earliest latest messages start stop ordered =>
    have later := Decidable.of_not_not fun above =>
      forward _ latest ((Binary64.not_le (Binary64.isNaN_of_isFinite stop) number).mp above)
    simpa [earliest, start] using Binary64.le_trans ordered later

theorem Sound.read (sound : history.Sound) {delta : Delta} (finite : delta.nonFiniteTime? = none) :
    (∃ reading, (read delta history).result = .ok reading) ∧ (read delta history).state.Sound := by
  have tick : delta.time.isFinite = true := Delta.isFinite_of_mem_times finite (by simp [Delta.times])
  have number := Binary64.isNaN_of_isFinite tick
  rcases history.back_or_forward delta.time with ⟨previous, latest, below⟩ | forward
  · obtain ⟨answer, after⟩ := read_restarted latest below
    rw [after]
    exact ⟨⟨_, answer⟩, .between rfl rfl (Nat.succ_pos _) tick tick (Binary64.le_refl number),
      Table.All.empty.gather fun _ member _ => Delta.isFinite_of_sample finite member,
      Table.All.empty.gather fun _ member _ => Delta.isFinite_of_event finite member⟩
  · obtain ⟨start, ordered⟩ := sound.bounded.first_le tick forward
    obtain ⟨answer, after⟩ := read_applied forward ordered
    rw [after]
    exact ⟨⟨_, answer⟩, .between rfl rfl (Nat.succ_pos _) start tick ordered,
      sound.samples.gather fun _ member _ => Delta.isFinite_of_sample finite member,
      sound.times.gather fun _ member _ => Delta.isFinite_of_event finite member⟩

theorem handle_of_read {delta : Delta} {reading : Reading}
    (answer : (read delta history).result = .ok reading) :
    (Consumer.handle (.delta delta) history).result = .ok () ∧
      (Consumer.handle (.delta delta) history).state = (read delta history).state := by
  rw [Consumer.handle, Action.bind_of_ok answer]
  cases reading with
  | applied => exact ⟨rfl, rfl⟩
  | restarted => exact ⟨rfl, rfl⟩

theorem Sound.cut (sound : history.Sound) (lower upper : Option Binary64) :
    (history.cut lower upper).Sound where
  bounded := by
    cases sound.bounded with
    | empty earliest latest messages => exact .empty earliest latest messages
    | between earliest latest messages start stop ordered =>
      exact .between earliest latest messages start stop ordered
  samples := sound.samples.cut _ lower upper
  times := sound.times.cut _ lower upper

theorem truncateBehind_answers (retention : Binary64) :
    Action.Answers Sound (Consumer.truncateBehind retention) := by
  intro history sound
  rw [Consumer.truncateBehind, Action.read_then]
  cases history.latest with
  | none => exact ⟨⟨_, rfl⟩, sound⟩
  | some latest => exact ⟨⟨_, rfl⟩, sound.cut _ _⟩

/-- A summary asks for a window that begins at the earliest time or later and ends at the latest. -/
theorem Sound.summary (sound : history.Sound) (window : Binary64) :
    (history.summary window).2 = none := by
  cases sound.bounded with
  | empty earliest latest => simp only [History.summary, earliest]
  | @between first last earliest latest messages start stop ordered =>
    have above : first ≤ (last - window).max first :=
      Binary64.le_max_right _ (Binary64.isNaN_of_isFinite start)
    have within : last ≤ last := Binary64.le_refl (Binary64.isNaN_of_isFinite stop)
    simp only [History.summary, continuousData, eventData, query, checkOptionalWindow, checkWindow, earliest,
      latest, above, within, not_true, if_false]
    rfl

end History
end Telemetry
