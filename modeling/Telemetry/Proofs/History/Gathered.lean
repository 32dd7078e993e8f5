import Telemetry.History
import Telemetry.Proofs.Action
import Telemetry.Proofs.Epoch
import Telemetry.Proofs.Table

/-! What a history holds after any sequence of deltas: the series of the deltas since the producer
clock last went back, the bounds of their times, and two counts over all deltas. -/
namespace Telemetry

/-- Event trains of a delta under their keys. -/
def Delta.trains (delta : Delta) : List (EventKey × List Binary64) :=
  (delta.events.getD []).flatMap fun entry =>
    entry.2.map fun train => (⟨entry.1, train.1⟩, train.2)

namespace History

def readAll : List Delta → Action History (List Reading)
  | [] => Action.done []
  | delta :: deltas => do
    let reading ← read delta
    let readings ← readAll deltas
    return reading :: readings

/-- The reading of a delta after one with the given time. -/
def judge (previous : Option Binary64) (now : Binary64) : Reading :=
  match previous with
  | some previous => if now < previous then .restarted previous else .applied
  | none => .applied

theorem judge_restarted {previous : Option Binary64} {now earlier : Binary64}
    (restarted : judge previous now = .restarted earlier) : previous = some earlier ∧ now < earlier := by
  cases previous with
  | none => simp [judge] at restarted
  | some time =>
    simp only [judge] at restarted
    split at restarted
    · rename_i below
      obtain rfl := Reading.restarted.inj restarted
      exact ⟨rfl, below⟩
    · simp at restarted

/-- The history of some deltas. -/
def gathered (deltas : List Delta) : History where
  continuous := Table.empty.gather ((epoch Delta.time deltas).flatMap Delta.continuous)
  events := Table.empty.gather ((epoch Delta.time deltas).flatMap Delta.trains)
  earliest := (epoch Delta.time deltas).head?.map Delta.time
  latest := (deltas.map Delta.time).getLast?
  messages := deltas.length
  restarts := descents (deltas.map Delta.time)

theorem extend_eq (history : History) (delta : Delta) :
    history.extend delta =
      { history with
        continuous := history.continuous.gather delta.continuous
        events := history.events.gather delta.trains
        messages := history.messages + 1 } := by
  simp only [extend, Delta.trains, Table.gather, List.foldl_flatMap, List.foldl_map]

/-- The clock went back, or it did not. -/
theorem back_or_forward (history : History) (now : Binary64) :
    (∃ previous, history.latest = some previous ∧ now < previous) ∨
      ∀ latest ∈ history.latest, ¬now < latest := by
  by_cases back : ∃ previous ∈ history.latest, now < previous
  · exact .inl back
  · exact .inr fun latest known below => back ⟨latest, known, below⟩

theorem read_restarted {history : History} {delta : Delta} {previous : Binary64}
    (latest : history.latest = some previous) (back : delta.time < previous) :
    (read delta history).result = .ok (.restarted previous) ∧
    (read delta history).state =
      { continuous := Table.empty.gather delta.continuous
        events := Table.empty.gather delta.trains
        earliest := some delta.time
        latest := some delta.time
        messages := history.messages + 1
        restarts := history.restarts + 1 } := by
  have judged : (history.latest.filter fun latest => decide (delta.time < latest)) = some previous := by
    simp [latest, back]
  have bounded : delta.time ≤ delta.time := Binary64.le_refl back.1
  rw [read, Action.read_then, judged]
  simp [Action.bind_of_ok, bounded, extend_eq]

theorem read_applied {history : History} {delta : Delta}
    (forward : ∀ latest ∈ history.latest, ¬delta.time < latest)
    (bounded : history.earliest.getD delta.time ≤ delta.time) :
    (read delta history).result = .ok .applied ∧
    (read delta history).state =
      { history with
        continuous := history.continuous.gather delta.continuous
        events := history.events.gather delta.trains
        earliest := some (history.earliest.getD delta.time)
        latest := some delta.time
        messages := history.messages + 1 } := by
  have judged : (history.latest.filter fun latest => decide (delta.time < latest)) = none := by
    simpa [Option.filter_eq_none_iff] using forward
  rw [read, Action.read_then, judged]
  simp [bounded, extend_eq]

theorem read_crossed {history : History} {delta : Delta}
    (forward : ∀ latest ∈ history.latest, ¬delta.time < latest)
    (crossed : ¬history.earliest.getD delta.time ≤ delta.time) :
    (read delta history).result =
      .error (.breach (.boundsInverted (history.earliest.getD delta.time) delta.time)) := by
  have judged : (history.latest.filter fun latest => decide (delta.time < latest)) = none := by
    simpa [Option.filter_eq_none_iff] using forward
  rw [read, Action.read_then, judged]
  simp [crossed]

/-- A delta that was read lies at the end of the bounds, which are in order. -/
theorem read_success {history : History} {delta : Delta} {reading : Reading}
    (answer : (read delta history).result = .ok reading) :
    ∃ first, first ≤ delta.time ∧ (read delta history).state.earliest = some first ∧
      (read delta history).state.latest = some delta.time ∧
      (read delta history).state.messages = history.messages + 1 := by
  rcases history.back_or_forward delta.time with ⟨previous, latest, below⟩ | forward
  · rw [(read_restarted latest below).2]
    exact ⟨_, Binary64.le_refl below.1, rfl, rfl, rfl⟩
  · by_cases bounded : history.earliest.getD delta.time ≤ delta.time
    · rw [(read_applied forward bounded).2]
      exact ⟨_, bounded, rfl, rfl, rfl⟩
    · rw [read_crossed forward bounded] at answer
      cases answer

theorem gathered_restarted {earlier : List Delta} {delta : Delta} {previous : Binary64}
    (latest : (earlier.map Delta.time).getLast? = some previous) (back : delta.time < previous) :
    gathered (earlier ++ [delta]) =
      { continuous := Table.empty.gather delta.continuous
        events := Table.empty.gather delta.trains
        earliest := some delta.time
        latest := some delta.time
        messages := earlier.length + 1
        restarts := descents (earlier.map Delta.time) + 1 } := by
  obtain ⟨last, final, same⟩ := Option.map_eq_some_iff.mp (List.getLast?_map.symm.trans latest)
  have unordered : ¬last.time ≤ delta.time := same ▸ (Binary64.not_le back.2.1 back.1).mpr back
  have alone : epoch Delta.time (earlier ++ [delta]) = [delta] := by
    simp [epoch_append_singleton, final, unordered]
  have counted : descents (earlier.map Delta.time ++ [delta.time]) =
      descents (earlier.map Delta.time) + 1 := by
    rw [descents_append_singleton, if_pos ⟨previous, latest, back⟩]
  simp [gathered, alone, counted]

theorem gathered_applied {earlier : List Delta} {delta : Delta}
    (numbers : ∀ item ∈ earlier ++ [delta], item.time.isNaN = false)
    (forward : ∀ latest ∈ (gathered earlier).latest, ¬delta.time < latest) :
    (gathered earlier).earliest.getD delta.time ≤ delta.time ∧
    gathered (earlier ++ [delta]) =
      { gathered earlier with
        continuous := (gathered earlier).continuous.gather delta.continuous
        events := (gathered earlier).events.gather delta.trains
        earliest := some ((gathered earlier).earliest.getD delta.time)
        latest := some delta.time
        messages := (gathered earlier).messages + 1 } := by
  have number : delta.time.isNaN = false := numbers delta (by simp)
  have ordered : ∀ before ∈ earlier.getLast?, before.time ≤ delta.time := by
    intro before final
    have old : before.time.isNaN = false :=
      numbers before (by simp [List.mem_of_getLast? final])
    have notBelow := forward before.time (by simp [gathered, Option.mem_def.mp final])
    exact Decidable.of_not_not fun above => notBelow ((Binary64.not_le old number).mp above)
  have grown : epoch Delta.time (earlier ++ [delta]) = epoch Delta.time earlier ++ [delta] := by
    rw [epoch_append_singleton, if_pos ordered]
  have counted : descents (earlier.map Delta.time ++ [delta.time]) =
      descents (earlier.map Delta.time) := by
    have kept : ¬∃ before ∈ (earlier.map Delta.time).getLast?, delta.time < before := by
      rintro ⟨before, found, below⟩
      exact forward before found below
    rw [descents_append_singleton, if_neg kept]
    rfl
  constructor
  · cases current : epoch Delta.time earlier with
    | nil => simpa [gathered, current] using Binary64.le_refl number
    | cons first rest =>
      have steady := epoch_steady Delta.time (earlier ++ [delta])
      rw [grown, current] at steady
      have old : first.time.isNaN = false := by
        have member : first ∈ epoch Delta.time earlier := by simp [current]
        exact numbers first (by simp [(epoch_suffix _ _).subset member])
      simpa [gathered, current] using steady.first_le old (by simp)
  · simp [gathered, grown, counted, Table.gather_append]

theorem read_gathered (earlier : List Delta) (delta : Delta)
    (numbers : ∀ item ∈ earlier ++ [delta], item.time.isNaN = false) :
    (read delta (gathered earlier)).result =
      .ok (judge (earlier.map Delta.time).getLast? delta.time) ∧
    (read delta (gathered earlier)).state = gathered (earlier ++ [delta]) := by
  rcases (gathered earlier).back_or_forward delta.time with ⟨previous, latest, below⟩ | forward
  · have found : (earlier.map Delta.time).getLast? = some previous := latest
    rw [gathered_restarted found below]
    obtain ⟨answer, after⟩ := read_restarted latest below
    exact ⟨by simpa [judge, found, below] using answer, after⟩
  · obtain ⟨bounded, grown⟩ := gathered_applied numbers forward
    obtain ⟨answer, after⟩ := read_applied forward bounded
    have applied : judge (earlier.map Delta.time).getLast? delta.time = .applied := by
      simp only [gathered] at forward
      cases found : (earlier.map Delta.time).getLast? with
      | none => rfl
      | some previous => simp [judge, forward previous found]
    exact ⟨by rw [answer, applied], by rw [after, grown]⟩

theorem readAll_gathered (earlier deltas : List Delta)
    (numbers : ∀ delta ∈ earlier ++ deltas, delta.time.isNaN = false) :
    (readAll deltas (gathered earlier)).result =
      .ok (List.zipWith judge
        ((earlier.map Delta.time).getLast? :: deltas.map (some ·.time)) (deltas.map Delta.time)) ∧
    (readAll deltas (gathered earlier)).state = gathered (earlier ++ deltas) := by
  induction deltas generalizing earlier with
  | nil => simp [readAll]
  | cons delta deltas ih =>
    obtain ⟨answer, after⟩ := read_gathered earlier delta (by grind)
    obtain ⟨answers, final⟩ := ih (earlier ++ [delta]) (by simpa using numbers)
    rw [readAll, Action.bind_of_ok answer, after, Action.bind_of_ok answers]
    simp [final]

theorem gathered_samplesOf (deltas : List Delta) (key : String) :
    (gathered deltas).samplesOf key =
      (epoch Delta.time deltas).flatMap fun delta => Table.itemsOf key delta.continuous := by
  rw [samplesOf, gathered, Table.series_gather, Table.series_empty, List.nil_append, Table.itemsOf_flatMap]

theorem gathered_timesOf (deltas : List Delta) (key : EventKey) :
    (gathered deltas).timesOf key =
      (epoch Delta.time deltas).flatMap fun delta => Table.itemsOf key delta.trains := by
  rw [timesOf, gathered, Table.series_gather, Table.series_empty, List.nil_append, Table.itemsOf_flatMap]

theorem mem_gathered_continuousKeys (deltas : List Delta) (key : String) :
    key ∈ (gathered deltas).continuousKeys ↔
      ∃ delta ∈ epoch Delta.time deltas, key ∈ delta.continuous.map (·.1) := by
  simp only [continuousKeys, gathered, Table.mem_keys_gather, Table.keys_empty, List.map_flatMap,
    List.mem_flatMap, List.not_mem_nil, false_or]

theorem mem_gathered_eventKeys (deltas : List Delta) (key : EventKey) :
    key ∈ (gathered deltas).eventKeys ↔
      ∃ delta ∈ epoch Delta.time deltas, key ∈ delta.trains.map (·.1) := by
  simp only [eventKeys, gathered, Table.mem_keys_gather, Table.keys_empty, List.map_flatMap,
    List.mem_flatMap, List.not_mem_nil, false_or]

theorem gathered_bounds {deltas : List Delta} (numbers : ∀ delta ∈ deltas, delta.time.isNaN = false)
    {earliest latest : Binary64} (lower : (gathered deltas).earliest = some earliest)
    (upper : (gathered deltas).latest = some latest) : earliest ≤ latest := by
  obtain ⟨first, head, rfl⟩ := Option.map_eq_some_iff.mp lower
  obtain ⟨rest, current⟩ := List.head?_eq_some_iff.mp head
  obtain ⟨front, whole⟩ := epoch_suffix Delta.time deltas
  simp only [gathered, List.getLast?_map] at upper
  obtain ⟨last, final, rfl⟩ := Option.map_eq_some_iff.mp upper
  have steady := epoch_steady Delta.time deltas
  rw [current] at whole steady
  have member : last ∈ first :: rest := by
    rw [← whole, List.getLast?_append_of_ne_nil _ (by simp)] at final
    exact List.mem_of_getLast? final
  exact steady.first_le (numbers first (by simp [← whole])) member

theorem gathered_of_restart {earlier : List Delta} {delta : Delta} {previous : Binary64}
    (numbers : ∀ item ∈ earlier ++ [delta], item.time.isNaN = false)
    (restarted : (read delta (gathered earlier)).result = .ok (.restarted previous)) :
    let history := gathered (earlier ++ [delta])
    let fresh := (read delta {}).state
    history.continuous = fresh.continuous ∧ history.events = fresh.events ∧
      history.earliest = fresh.earliest ∧ history.latest = fresh.latest := by
  obtain ⟨answer, -⟩ := read_gathered earlier delta numbers
  obtain ⟨latest, back⟩ := judge_restarted (Except.ok.inj (answer.symm.trans restarted))
  obtain ⟨-, alone⟩ := read_gathered [] delta fun item member => numbers item (by simp_all)
  have fresh : (read delta {}).state = gathered [delta] := alone
  rw [fresh, gathered_restarted latest back]
  simp [gathered, epoch, Steady]

/-- What any deltas leave in a fresh history. The epoch is the longest final run of deltas whose times
do not decrease. Series and bounds are those of the epoch, the counts are over all deltas, and a
delta is read as a restart exactly when its time lies below the one before. -/
theorem readAll_holds_epoch (deltas : List Delta)
    (numbers : ∀ delta ∈ deltas, delta.time.isNaN = false) :
    let times := deltas.map Delta.time
    let current := epoch Delta.time deltas
    let outcome := readAll deltas {}
    let history := outcome.state
    (current <:+ deltas ∧ Steady Delta.time current ∧
      ∀ tail, tail <:+ deltas → Steady Delta.time tail → tail <:+ current) ∧
    outcome.result = .ok (List.zipWith judge (none :: times.map some) times) ∧
    history.latest = times.getLast? ∧
    history.earliest = current.head?.map Delta.time ∧
    (∀ earliest latest, history.earliest = some earliest → history.latest = some latest →
      earliest ≤ latest) ∧
    history.messages = deltas.length ∧
    history.restarts = descents times ∧
    (∀ key, history.samplesOf key =
      current.flatMap fun delta => Table.itemsOf key delta.continuous) ∧
    (∀ key, history.timesOf key = current.flatMap fun delta => Table.itemsOf key delta.trains) ∧
    (∀ key, key ∈ history.continuousKeys ↔ ∃ delta ∈ current, key ∈ delta.continuous.map (·.1)) ∧
    (∀ key, key ∈ history.eventKeys ↔ ∃ delta ∈ current, key ∈ delta.trains.map (·.1)) ∧
    (history.continuousKeys.Nodup ∧ history.eventKeys.Nodup) ∧
    (∀ earlier delta previous, deltas = earlier ++ [delta] →
      (read delta (readAll earlier {}).state).result = .ok (.restarted previous) →
      let fresh := (read delta {}).state
      history.continuous = fresh.continuous ∧ history.events = fresh.events ∧
      history.earliest = fresh.earliest ∧ history.latest = fresh.latest) := by
  have start : ({} : History) = gathered [] := rfl
  obtain ⟨answers, final⟩ := readAll_gathered [] deltas numbers
  rw [List.nil_append, ← start] at final
  rw [← start] at answers
  intro times current outcome history
  have held : history = gathered deltas := final
  rw [held]
  refine ⟨⟨epoch_suffix _ _, epoch_steady _ _, fun tail => suffix_epoch⟩, ?_, rfl, rfl,
    fun _ _ => gathered_bounds numbers, rfl, rfl, gathered_samplesOf deltas, gathered_timesOf deltas,
    mem_gathered_continuousKeys deltas, mem_gathered_eventKeys deltas,
    ⟨Table.keys_nodup _, Table.keys_nodup _⟩, ?_⟩
  · simpa [outcome, times, Function.comp_def] using answers
  · rintro earlier delta previous rfl restarted
    obtain ⟨-, before⟩ := readAll_gathered [] earlier fun item member => numbers item (by simp_all)
    rw [List.nil_append, ← start] at before
    rw [before] at restarted
    exact gathered_of_restart numbers restarted

/-- A producer that starts again once; the key of the last delta comes twice. -/
def rewound : List Delta :=
  let sample (n : Nat) : Sample := ⟨.ofNat n, .ofNat (n + 1)⟩
  [{ time := .ofNat 5, continuous := [("reward", [sample 5])] },
    { time := .ofNat 10, continuous := [("reward", [sample 10])] },
    { time := .ofNat 3, continuous := [("reward", [sample 3])] },
    { time := .ofNat 4, continuous := [("reward", [sample 4]), ("reward", [sample 2])],
      events := some [("spikes", [(1, [.ofNat 4])])] }]

theorem readAll_rewound : (∀ delta ∈ rewound, delta.time.isNaN = false) ∧
    (readAll rewound {}).result = .ok [.applied, .applied, .restarted (.ofNat 10), .applied] ∧
    (readAll rewound {}).state.earliest = some (.ofNat 3) ∧
    (readAll rewound {}).state.restarts = 1 ∧
    ((readAll rewound {}).state.samplesOf "reward").map (·.time) = [.ofNat 3, .ofNat 4, .ofNat 2] := by
  have numbers : ∀ delta ∈ rewound, delta.time.isNaN = false := by decide +kernel
  obtain ⟨-, answers, -, first, -, -, restarts, samples, -⟩ := readAll_holds_epoch rewound numbers
  refine ⟨numbers, ?_, ?_, ?_, ?_⟩
  · exact answers.trans (by decide +kernel)
  · exact first.trans (by decide +kernel)
  · exact restarts.trans (by decide +kernel)
  · rw [samples]
    decide +kernel

end History
end Telemetry
