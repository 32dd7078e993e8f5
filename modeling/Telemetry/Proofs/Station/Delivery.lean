import Telemetry.Proofs.Recorder
import Telemetry.Proofs.Station.Allotment
import Mathlib.Data.List.Pairwise

/-! Where an event and a written value go. Within the width of its port an event ends in one buffer, and
the values of a port in one array, and nothing else is different. Beyond the width an index is refused only
when the last buffer has no room for it. -/
namespace Telemetry

theorem Recorder.append_held {recorder : Recorder} {number : Nat} {target : Buffer} {sample : Sample}
    (held : recorder.buffers[number]? = some target)
    (ordered : ∀ last ∈ target.times.getLast?, last ≤ sample.time) :
    append number sample recorder =
      ⟨{ recorder with
          buffers := recorder.buffers.set number
            { target with content := target.content.push sample, appended := target.appended + 1 } },
        .ok (), []⟩ := by
  have appended := Buffer.append_ordered (show ∀ last ∈ target.content.latest?, last ≤ sample.time from ordered)
  simp only [append, held, appended, Action.write_run]

/-- Appending is never refused; it may break the order of time. -/
theorem Recorder.append_faultless (recorder : Recorder) (number : Nat) (sample : Sample) (fault : Fault) :
    (append number sample recorder).result ≠ .error (.fault fault) := by
  unfold append
  cases recorder.buffers[number]? with
  | none => simp
  | some target => cases appended : target.append sample <;> simp [appended]

namespace Station
variable {station : Station} {port : String} {route : Route} {index slot number : Nat}
  {bound : List (Request × List Nat)} {binding : EventBinding} {buffers : List Nat}

/-- The buffer of a port at a place. -/
def holding (station : Station) (buffers : List Nat) (place : Nat) : Option Buffer :=
  buffers[place]?.bind (station.recorder.buffers[·]?)

/-- Two places that have one buffer are the same place. -/
theorem place_unique (distinct : (bound.flatMap (·.2)).Nodup) {entry other : Request × List Nat}
    (here : entry ∈ bound) (there : other ∈ bound) {place position : Nat}
    (placed : entry.2[place]? = some number) (also : other.2[position]? = some number) :
    entry = other ∧ place = position := by
  obtain ⟨each, disjoint⟩ := List.nodup_flatMap.mp distinct
  have same : entry = other := by
    by_contra different
    have : Std.Symm (Function.onFun List.Disjoint fun entry : Request × List Nat => entry.2) :=
      ⟨fun _ _ => List.Disjoint.symm⟩
    exact disjoint.forall here there different (List.mem_of_getElem? placed) (List.mem_of_getElem? also)
  subst same
  obtain ⟨inside, -⟩ := List.getElem?_eq_some_iff.mp placed
  exact ⟨rfl, (List.getElem?_inj inside (each entry here)).mp (placed.trans also.symm)⟩

theorem Sited.find_route (sited : Sited bound station) (member : (.eventInput binding, buffers) ∈ bound) :
    ∃ width, station.width? binding.port = some width ∧
      station.routes.find? binding.port = some ⟨buffers, binding.grouping⟩ ∧
      binding.grouping ≠ .aggregate 0 ∧ buffers.length = binding.grouping.places width.size := by
  obtain ⟨width, settled, routed, counted⟩ := sited.routed binding buffers member
  obtain ⟨grouped, count⟩ := Grouping.bufferCount_success counted
  exact ⟨width, settled, routed, grouped, count⟩

theorem Sited.held (sited : Sited bound station) {entry : Request × List Nat} (member : entry ∈ bound)
    {place : Nat} (inside : place < entry.2.length) :
    ∃ number target, entry.2[place]? = some number ∧ station.recorder.buffers[number]? = some target := by
  have there : entry.2[place] ∈ bound.flatMap (·.2) :=
    List.mem_flatMap.mpr ⟨entry, member, List.getElem_mem inside⟩
  exact ⟨_, _, List.getElem?_eq_getElem inside, List.getElem?_eq_getElem (sited.inside _ there)⟩

/-- One buffer of one port has one time more, and nothing else is different. -/
structure Delivers (bound : List (Request × List Nat)) (station : Station) (port : String)
    (buffers : List Nat) (place : Nat) (time : Binary64) (after : Station) : Prop where
  taken : ∃ target taken, station.holding buffers place = some target ∧
    after.holding buffers place = some taken ∧ taken.times = target.times ++ [time]
  others : ∀ entry ∈ bound, ∀ other, (entry.1.port, other) ≠ (port, place) →
    after.holding entry.2 other = station.holding entry.2 other
  rest : after = { station with recorder := { station.recorder with buffers := after.recorder.buffers } }

theorem Sited.deliver (sited : Sited bound station) (member : (.eventInput binding, buffers) ∈ bound)
    {target : Buffer} (held : station.holding buffers (binding.grouping.place index) = some target)
    {time : Binary64} (ordered : ∀ last ∈ target.times.getLast?, last ≤ time) :
    (station.deliverEvent binding.port index time).result = .ok () ∧
      Delivers bound station binding.port buffers (binding.grouping.place index) time
        (station.deliverEvent binding.port index time).state := by
  obtain ⟨width, settled, routed, grouped, counted⟩ := sited.find_route member
  obtain ⟨number, placed, there⟩ := Option.bind_eq_some_iff.mp held
  have ran := deliverEvent_placed routed (Grouping.slot_eq grouped index) placed time
  have sample : ∀ last ∈ target.times.getLast?, last ≤ (⟨time, .zero⟩ : Sample).time := ordered
  rw [ran, onRecorder, Action.within_run, Recorder.append_held there sample]
  obtain ⟨bounded, -⟩ := List.getElem?_eq_some_iff.mp there
  let taken : Buffer :=
    { target with content := target.content.push ⟨time, .zero⟩, appended := target.appended + 1 }
  refine ⟨rfl, ⟨target, taken, held, ?_, rfl⟩, fun entry other place different => ?_, rfl⟩
  · simp [holding, placed, bounded, taken]
  · refine Option.bind_congr fun position found => ?_
    have elsewhere : number ≠ position := by
      rintro rfl
      obtain ⟨rfl, rfl⟩ := place_unique sited.distinct member other placed found
      exact different rfl
    exact List.getElem?_set_ne elsewhere

/-- The array of one port has these values, and nothing else is different. -/
structure Writes (station : Station) (port : String) (values : List Binary64) (after : Station) : Prop where
  written : after.values? port = some values
  others : ∀ other ≠ port, after.values? other = station.values? other
  rest : after = { station with recorder := { station.recorder with arrays := after.recorder.arrays } }

theorem Sited.writes (sited : Sited bound station) {port : String} {array : Nat}
    (found : station.arrays.find? port = some array) (values : List Binary64) :
    Writes station port values { station with recorder := station.recorder.setArray array values } := by
  obtain ⟨width, -, held⟩ := sited.arrayed port array found
  obtain ⟨current, there, -⟩ := Option.map_eq_some_iff.mp held
  obtain ⟨bounded, -⟩ := List.getElem?_eq_some_iff.mp there
  refine ⟨?_, fun other different => ?_, rfl⟩
  · simp [values?, found, Recorder.setArray, Recorder.array, bounded]
  · cases sought : station.arrays.find? other with
    | none => simp [values?, sought]
    | some place =>
      have elsewhere : array ≠ place := by
        rintro rfl
        exact different (sited.apart other port array sought found)
      simp [values?, sought, Recorder.setArray, Recorder.array, elsewhere]

/-- A bound continuous port takes values of its width, and everything else is refused. -/
theorem Sited.write (sited : Sited bound station) (port : String) (values : List Binary64) :
    let outcome := station.writeContinuous port values
    outcome.result = .ok () ∧ (∃ entry ∈ bound, entry.1.port = port ∧ entry.1.Continuous) ∧
        (∃ width, station.width? port = some width ∧ values.length = width.size) ∧
        Writes station port values outcome.state ∨
      (∃ failure, outcome = ⟨station, .error failure, []⟩) ∧
        ((¬∃ entry ∈ bound, entry.1.port = port ∧ entry.1.Continuous) ∨
          ∃ width, station.width? port = some width ∧ values.length ≠ width.size) := by
  intro outcome
  rw [← sited.continuous port]
  cases found : station.arrays.find? port with
  | none => exact .inr ⟨⟨_, writeContinuous_unknown found values⟩, .inl (by simp)⟩
  | some array =>
    obtain ⟨width, settled, held⟩ := sited.arrayed port array found
    obtain ⟨current, there, size⟩ := Option.map_eq_some_iff.mp held
    have now : station.recorder.array array = current := by simp [Recorder.array, there]
    by_cases fits : current.length = values.length
    · have ran : outcome = _ := writeContinuous_fits found (now.symm ▸ fits)
      rw [ran]
      exact .inl ⟨rfl, ⟨array, rfl⟩, ⟨width, settled, fits ▸ size⟩, sited.writes found values⟩
    · have ran : outcome = _ := writeContinuous_misfits found (now.symm ▸ fits)
      exact .inr ⟨⟨_, ran⟩, .inr ⟨width, settled, by omega⟩⟩

/-- Every index below the width of an event input port has a buffer of that port, and every buffer a run of
such indices. An event goes there and nowhere else, and written values go to the array of their port, if it
is a continuous one that is as long. -/
theorem routing_exact (reached : Reached bound station) :
    (∀ binding buffers, (.eventInput binding, buffers) ∈ bound →
      let grouping := binding.grouping
      ∃ width, station.width? binding.port = some width ∧ buffers.length = grouping.places width.size ∧
        (∀ place < buffers.length, grouping.share * place < width.size ∧
          ∀ index, index < width.size ∧ grouping.place index = place ↔
            grouping.share * place ≤ index ∧
              index < min width.size (grouping.share * place + grouping.share)) ∧
        ∀ index < width.size, ∃ target, station.holding buffers (grouping.place index) = some target ∧
          ∀ time, (∀ last ∈ target.times.getLast?, last ≤ time) →
            let outcome := station.deliverEvent binding.port index time
            outcome.result = .ok () ∧
              Delivers bound station binding.port buffers (grouping.place index) time outcome.state) ∧
    ∀ port values, let outcome := station.writeContinuous port values
      ((∃ failure, outcome.result = .error failure) ↔
        (¬∃ entry ∈ bound, entry.1.port = port ∧ entry.1.Continuous) ∨
          ∃ width, station.width? port = some width ∧ values.length ≠ width.size) ∧
      (∀ failure, outcome.result = .error failure → outcome.state = station) ∧
      (outcome.result = .ok () → Writes station port values outcome.state) := by
  have sited := reached.sited
  constructor
  · intro binding buffers member grouping
    obtain ⟨width, settled, -, grouped, counted⟩ := sited.find_route member
    refine ⟨width, settled, counted, fun place inside => ⟨?_, fun index => Grouping.run_iff grouped⟩,
      fun index inside => ?_⟩
    · exact (Grouping.lt_places_iff grouped).mp (counted ▸ inside)
    · have placed : grouping.place index < buffers.length := counted ▸ Grouping.place_lt_places grouped inside
      obtain ⟨number, target, there, held⟩ := sited.held member placed
      have found : station.holding buffers (grouping.place index) = some target :=
        Option.bind_eq_some_iff.mpr ⟨number, there, held⟩
      exact ⟨target, found, fun time ordered => sited.deliver member found ordered⟩
  · intro port values outcome
    rcases sited.write port values with ⟨ok, known, ⟨width, settled, fits⟩, writes⟩ |
      ⟨⟨failure, refused⟩, cause⟩
    · have answered : outcome.result = .ok () := ok
      refine ⟨?_, by simp [answered], fun _ => writes⟩
      simp only [answered, reduceCtorEq, exists_false, false_iff, not_or, not_not]
      refine ⟨known, ?_⟩
      rintro ⟨other, found, misfits⟩
      obtain rfl := Option.some.inj (settled.symm.trans found)
      exact misfits fits
    · have answered : outcome = ⟨station, .error failure, []⟩ := refused
      rw [answered]
      exact ⟨⟨fun _ => cause, fun _ => ⟨failure, rfl⟩⟩, fun _ _ => rfl, nofun⟩

/-- Five indices in pairs, so that the last buffer is for one index only. -/
def paired : EventBinding := { port := "activity_in", fallbackWidth := some 5, grouping := .aggregate 2 }

/-- The station of `paired` and of two more ports, and what has been bound there. -/
def lobby : List (Request × List Nat) × Station :=
  let single : EventBinding := { port := "touch_in", fallbackWidth := some 2 }
  let reward : ContinuousBinding := { port := "reward_in", fallbackWidth := some 2 }
  let one := ((Request.eventInput paired).allot fresh).state
  let two := ((Request.eventInput single).allot one).state
  ([(.eventInput paired, [0, 1, 2]), (.eventInput single, [3, 4]), (.continuousInput reward, [5, 6])],
    ((Request.continuousInput reward).allot two).state)

theorem lobby_reached : Reached lobby.1 lobby.2 :=
  (((Reached.fresh .unconnected .warn .singleStep).bound (.eventInput paired) rfl).bound _ rfl).bound _ rfl

theorem lobby_routed :
    let outcome := lobby.2.deliverEvent "activity_in" 4 (.ofNat 1)
    Reached lobby.1 lobby.2 ∧ (.eventInput paired, [0, 1, 2]) ∈ lobby.1 ∧ outcome.result = .ok () ∧
      (outcome.state.holding [0, 1, 2] 2).map Buffer.times = some [.ofNat 1] ∧
      outcome.state.holding [3, 4] 0 = lobby.2.holding [3, 4] 0 ∧
      outcome.state.recorder.arrays = lobby.2.recorder.arrays ∧
      (lobby.2.writeContinuous "reward_in" [.one]).state = lobby.2 ∧
      (lobby.2.writeContinuous "activity_in" [.one]).state = lobby.2 := by
  intro outcome
  have member : (.eventInput paired, [0, 1, 2]) ∈ lobby.1 := List.mem_cons_self
  obtain ⟨events, values⟩ := routing_exact lobby_reached
  obtain ⟨width, settled, -, -, routed⟩ := events paired [0, 1, 2] member
  obtain rfl : PortWidth.fallback 5 = width := Option.some.inj settled
  obtain ⟨target, held, delivered⟩ := routed 4 (by decide)
  obtain rfl : Buffer.forEvents .retain = target := Option.some.inj held
  obtain ⟨ok, delivers⟩ := delivered (.ofNat 1) nofun
  obtain ⟨before, taken, found, there, times⟩ := delivers.taken
  obtain rfl : Buffer.forEvents .retain = before := Option.some.inj (held.symm.trans found)
  obtain ⟨short, kept, -⟩ := values "reward_in" [.one]
  obtain ⟨unknown, left, -⟩ := values "activity_in" [.one]
  refine ⟨lobby_reached, member, ok, ?_, ?_, ?_, ?_, ?_⟩
  · exact (congrArg (Option.map Buffer.times) there).trans (congrArg some times)
  · exact delivers.others _ (List.mem_cons_of_mem _ List.mem_cons_self) 0 (by decide)
  · have arrays := congrArg (·.recorder.arrays) delivers.rest
    exact arrays
  · obtain ⟨failure, refused⟩ := short.mpr (.inr ⟨.fallback 2, rfl, by decide⟩)
    exact kept failure refused
  · obtain ⟨failure, refused⟩ := unknown.mpr (.inl (by decide))
    exact left failure refused

theorem deliverEvent_refused_iff (routed : station.routes.find? port = some route)
    (slotted : route.grouping.slot index = .ok slot) (time : Binary64) :
    station.deliverEvent port index time = station.refusal port index route.buffers.length ↔
      route.buffers.length ≤ slot := by
  cases placed : route.buffers[slot]? with
  | none =>
    have beyond := List.getElem?_eq_none_iff.mp placed
    exact iff_of_true (deliverEvent_unplaced routed slotted placed time) beyond
  | some number =>
    obtain ⟨inside, -⟩ := List.getElem?_eq_some_iff.mp placed
    refine iff_of_false (fun refused => ?_) (by omega)
    rw [deliverEvent_placed routed slotted placed] at refused
    exact Recorder.append_faultless _ _ _ _ (congrArg Outcome.result refused)

/-- An index that the port does not have. Past the room of the last buffer it is refused; otherwise it is
taken for the last index of the port. So all such indices are refused only if every buffer is full. -/
theorem beyond_width (reached : Reached bound station) (member : (.eventInput binding, buffers) ∈ bound) :
    let refused (index : Nat) (time : Binary64) : Prop :=
      station.deliverEvent binding.port index time = station.refusal binding.port index buffers.length
    let share := binding.grouping.share
    ∃ width, station.width? binding.port = some width ∧
      (∀ index time, width.size ≤ index →
        (refused index time ↔ share * buffers.length ≤ index) ∧
        (index < share * buffers.length →
          station.deliverEvent binding.port index time =
            station.deliverEvent binding.port (width.size - 1) time)) ∧
      ((∀ index time, width.size ≤ index → refused index time) ↔ share ∣ width.size) := by
  intro refused share
  obtain ⟨width, settled, routed, grouped, counted⟩ := reached.sited.find_route member
  have refused_iff (index : Nat) (time : Binary64) : refused index time ↔ share * buffers.length ≤ index := by
    rw [counted, ← not_lt, ← Grouping.place_lt_places_iff grouped, not_lt, ← counted]
    exact deliverEvent_refused_iff routed (Grouping.slot_eq grouped index) time
  refine ⟨width, settled, fun index time beyond => ⟨refused_iff index time, fun inside => ?_⟩, ?_⟩
  · have placed : binding.grouping.place index < binding.grouping.places width.size := by
      rw [Grouping.place_lt_places_iff grouped, ← counted]
      exact inside
    have same := Grouping.place_beyond grouped beyond placed
    obtain ⟨number, -, there, -⟩ := reached.sited.held member (counted ▸ placed)
    rw [deliverEvent_placed routed (Grouping.slot_eq grouped index) there,
      deliverEvent_placed routed (Grouping.slot_eq grouped _) (same ▸ there)]
  · have room : width.size ≤ share * binding.grouping.places width.size :=
      Grouping.width_le_places grouped
    rw [← Grouping.places_exact_iff grouped]
    constructor
    · intro all
      have full := (refused_iff width.size .zero).mp (all width.size .zero (Nat.le_refl _))
      rw [counted] at full
      exact Nat.le_antisymm full room
    · intro full index time beyond
      rw [refused_iff, counted]
      exact full.le.trans beyond

theorem lobby_beyond_width :
    let refused (index : Nat) (time : Binary64) : Prop :=
      lobby.2.deliverEvent "activity_in" index time = lobby.2.refusal "activity_in" index 3
    Reached lobby.1 lobby.2 ∧ (.eventInput paired, [0, 1, 2]) ∈ lobby.1 ∧
      (∀ time, refused 6 time ∧ ¬refused 5 time ∧
        lobby.2.deliverEvent "activity_in" 5 time = lobby.2.deliverEvent "activity_in" 4 time) ∧
      ¬∀ index time, 5 ≤ index → refused index time := by
  intro refused
  have member : (.eventInput paired, [0, 1, 2]) ∈ lobby.1 := List.mem_cons_self
  obtain ⟨width, settled, beyond, all⟩ := beyond_width lobby_reached member
  obtain rfl : PortWidth.fallback 5 = width := Option.some.inj settled
  refine ⟨lobby_reached, member, fun time => ⟨?_, ?_, ?_⟩, mt all.mp (by decide)⟩
  · exact (beyond 6 time (by decide)).1.mpr (by decide)
  · exact mt (beyond 5 time (by decide)).1.mp (by decide)
  · exact (beyond 5 time (by decide)).2 (by decide)

/-- Not every index beyond the width is refused. -/
theorem beyond_width_recorded :
    ¬∀ (bound : List (Request × List Nat)) (station : Station) (binding : EventBinding)
      (buffers : List Nat) (width : PortWidth) (index : Nat) (time : Binary64), Reached bound station →
      (.eventInput binding, buffers) ∈ bound → station.width? binding.port = some width →
        width.size ≤ index → (∃ slots, station.deliverEvent binding.port index time =
          station.refusal binding.port index slots) := by
  intro all
  obtain ⟨slots, refused⟩ := all lobby.1 lobby.2 paired [0, 1, 2] (.fallback 5) 5 .one lobby_reached
    List.mem_cons_self rfl (by decide)
  have recorded : (lobby.2.deliverEvent "activity_in" 5 .one).result = .ok () := rfl
  cases recorded.symm.trans (congrArg Outcome.result refused)

end Station
end Telemetry
