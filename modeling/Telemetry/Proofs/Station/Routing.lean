import Telemetry.Proofs.Ledger
import Telemetry.Proofs.Table

/-! How a station follows a ledger: an accepted call changes both alike, and a refused call changes
nothing. -/
namespace Telemetry

namespace Station
variable {station : Station} {port : String} {array index slot number : Nat} {route : Route}
  {values : List Binary64}

theorem writeContinuous_unknown (unknown : station.arrays.find? port = none) (values : List Binary64) :
    station.writeContinuous port values = ⟨station, .error (.fault (.unknownPort port)), []⟩ := by
  rw [writeContinuous, Action.read_then]
  simp only [unknown, Action.fail_run]

theorem writeContinuous_fits (found : station.arrays.find? port = some array)
    (fits : (station.recorder.array array).length = values.length) :
    station.writeContinuous port values =
      ⟨{ station with recorder := station.recorder.setArray array values }, .ok (), []⟩ := by
  rw [writeContinuous, Action.read_then]
  simp only [found, fits, if_true, Action.write_run]

theorem writeContinuous_misfits (found : station.arrays.find? port = some array)
    (misfits : (station.recorder.array array).length ≠ values.length) :
    station.writeContinuous port values =
      ⟨station, .error (.fault (.width port (station.recorder.array array).length values.length)), []⟩ := by
  rw [writeContinuous, Action.read_then]
  simp only [found, misfits, if_false, Action.fail_run]

theorem deliverEvent_unknown (unknown : station.routes.find? port = none) (index : Nat)
    (time : Binary64) :
    station.deliverEvent port index time = ⟨station, .error (.fault (.unknownPort port)), []⟩ := by
  rw [deliverEvent, Action.read_then]
  simp only [unknown, Action.fail_run]

theorem deliverEvent_broken (routed : station.routes.find? port = some route) {broken : Breach}
    (slotted : route.grouping.slot index = .error broken) (time : Binary64) :
    station.deliverEvent port index time = ⟨station, .error (.breach broken), []⟩ := by
  rw [deliverEvent, Action.read_then]
  simp only [routed, slotted, Except.mapError, Action.settle_error_then]

/-- An index is refused, and nothing changes. -/
def refusal (station : Station) (port : String) (index buffers : Nat) : Outcome Station Unit :=
  ⟨station, .error (.fault (.indexOutOfRange port index buffers)), []⟩

theorem deliverEvent_unplaced (routed : station.routes.find? port = some route)
    (slotted : route.grouping.slot index = .ok slot) (unplaced : route.buffers[slot]? = none)
    (time : Binary64) :
    station.deliverEvent port index time = station.refusal port index route.buffers.length := by
  rw [deliverEvent, Action.read_then]
  simp only [routed, slotted, Except.mapError, Action.settle_ok_then, unplaced, Action.fail_run, refusal]

theorem deliverEvent_placed (routed : station.routes.find? port = some route)
    (slotted : route.grouping.slot index = .ok slot) (placed : route.buffers[slot]? = some number)
    (time : Binary64) :
    station.deliverEvent port index time = onRecorder (Recorder.append number ⟨time, .zero⟩) station := by
  rw [deliverEvent, Action.read_then]
  simp only [routed, slotted, Except.mapError, Action.settle_ok_then, placed]

end Station

/-- All ports are bound, each under a name of its own, and the arrays and buffers behind them hold
what the ledger says. -/
structure Station.Follows (station : Station) (ports : List String) (routes : List (String × Route))
    (ledger : Ledger) : Prop where
  distinct : (ports ++ routes.map (·.1)).Nodup
  claimed : ∀ port ∈ ports ++ routes.map (·.1), station.widths.contains port
  places : ∀ (place : Nat) (port : String), ports[place]? = some port →
    station.arrays.find? port = some place
  others : ∀ port ∉ ports, station.arrays.find? port = none
  routed : ∀ port, station.routes.find? port = (routes.find? (·.1 = port)).map (·.2)
  arrays : station.recorder.arrays = ports.map ledger.values
  numbered : Numbered station.recorder.arrays.flatten.length routes
  ready : station.recorder.Ready (ledger.eventContents routes)

namespace Station.Follows
variable {station : Station} {ports : List String} {routes : List (String × Route)} {ledger : Ledger}

theorem place_of_find? (follows : station.Follows ports routes ledger) {port : String} {array : Nat}
    (found : station.arrays.find? port = some array) : ports[array]? = some port := by
  have member : port ∈ ports := by
    apply Decidable.of_not_not
    intro absent
    simp [follows.others port absent] at found
  obtain ⟨place, there⟩ := List.mem_iff_getElem?.mp member
  rw [follows.places place port there] at found
  exact Option.some.inj found ▸ there

theorem values?_eq (follows : station.Follows ports routes ledger) {port : String}
    (member : port ∈ ports) : station.values? port = some (ledger.values port) := by
  obtain ⟨place, there⟩ := List.mem_iff_getElem?.mp member
  simp [values?, follows.places place port there, Recorder.array, follows.arrays, there]

theorem write (follows : station.Follows ports routes ledger) {port : String} {array : Nat}
    (there : ports[array]? = some port) {values : List Binary64}
    (fits : (ledger.values port).length = values.length) :
    { station with recorder := station.recorder.setArray array values }.Follows ports routes
      (ledger.write port values) := by
  have single : ports.Nodup := (List.nodup_append.mp follows.distinct).1
  have written : (station.recorder.setArray array values).arrays =
      ports.map (ledger.write port values).values := by
    rw [Recorder.setArray, follows.arrays]
    obtain ⟨bound, -⟩ := List.getElem?_eq_some_iff.mp there
    apply List.ext_getElem?
    intro place
    by_cases same : array = place
    · subst same
      rw [List.getElem?_map, there, List.getElem?_set_self (by simpa using bound)]
      simp [Ledger.write]
    · rw [List.getElem?_set_ne same, List.getElem?_map, List.getElem?_map]
      apply Option.map_congr
      intro other found
      have different : other ≠ port := by
        rintro rfl
        exact same ((List.getElem?_inj bound single).mp (there.trans found.symm))
      simp [Ledger.write, different]
  have widths : (station.recorder.setArray array values).arrays.map List.length =
      station.recorder.arrays.map List.length := by
    simp only [written, follows.arrays, List.map_map]
    apply List.map_congr_left
    intro other _
    by_cases same : other = port
    · simp [Ledger.write, same, fits]
    · simp [Ledger.write, same]
  have total : (station.recorder.setArray array values).arrays.flatten.length =
      station.recorder.arrays.flatten.length := by
    simp only [List.length_flatten, widths]
  exact
    { follows with
      arrays := written
      numbered := total ▸ follows.numbered
      ready :=
        { singleStep := follows.ready.singleStep
          taps := (Recorder.tapsOf_congr 0 0 widths) ▸ follows.ready.taps
          contents := by
            have before := follows.ready.contents
            rw [List.map_const'] at before ⊢
            rw [total]
            exact before } }

theorem writeContinuous (follows : station.Follows ports routes ledger) (port : String)
    (values : List Binary64) :
    (station.writeContinuous port values).result = .ok () ∧
        port ∈ ports ∧ (ledger.values port).length = values.length ∧
        (station.writeContinuous port values).state.Follows ports routes (ledger.write port values) ∨
      ∃ failure, (station.writeContinuous port values).result = .error failure ∧
        (station.writeContinuous port values).state = station := by
  cases found : station.arrays.find? port with
  | none =>
    rw [writeContinuous_unknown found]
    exact .inr ⟨_, rfl, rfl⟩
  | some array =>
    have there := follows.place_of_find? found
    have current : station.recorder.array array = ledger.values port := by
      simp [Recorder.array, follows.arrays, there]
    by_cases fits : (station.recorder.array array).length = values.length
    · rw [writeContinuous_fits found fits]
      rw [current] at fits
      exact .inl ⟨rfl, List.mem_of_getElem? there, fits, follows.write there fits⟩
    · rw [writeContinuous_misfits found fits]
      exact .inr ⟨_, rfl, rfl⟩

/-- A continuous port takes as many values as it has elements. -/
theorem writeContinuous_taken (follows : station.Follows ports routes ledger) {port : String}
    (member : port ∈ ports) {values : List Binary64} (fits : (ledger.values port).length = values.length) :
    (station.writeContinuous port values).result = .ok () := by
  obtain ⟨place, there⟩ := List.mem_iff_getElem?.mp member
  have current : station.recorder.array place = ledger.values port := by
    simp [Recorder.array, follows.arrays, there]
  rw [writeContinuous_fits (follows.places place port there) (current ▸ fits)]

theorem mem_of_find? (follows : station.Follows ports routes ledger) {port : String} {route : Route}
    (found : station.routes.find? port = some route) : (port, route) ∈ routes := by
  rw [follows.routed] at found
  obtain ⟨⟨name, own⟩, first, rfl⟩ := Option.map_eq_some_iff.mp found
  have same : name = port := by simpa using List.find?_some first
  exact same ▸ List.mem_of_find?_eq_some first

theorem refill (follows : station.Follows ports routes ledger) {next : Ledger} {after : Recorder}
    (same : next.values = ledger.values)
    (refills : station.recorder.Refills
      (station.recorder.arrays.flatten.map (fun _ => .ofSamples []) ++ next.eventContents routes) after) :
    { station with recorder := after }.Follows ports routes next := by
  obtain ⟨frame, filled⟩ := refills
  rw [frame] at filled ⊢
  exact
    { follows with
      arrays := same ▸ follows.arrays
      ready :=
        { singleStep := follows.ready.singleStep
          taps := follows.ready.taps
          contents := filled } }

theorem find?_route (follows : station.Follows ports routes ledger) {port : String} {route : Route}
    (member : (port, route) ∈ routes) : station.routes.find? port = some route := by
  have single : (routes.map (·.1)).Nodup := (List.nodup_append.mp follows.distinct).2.1
  rw [follows.routed, Table.find?_entries_of_mem single member, Option.map_some]

/-- The buffer of a slot holds what waits there, and one event more is one more time in this buffer. -/
theorem slot_held (follows : station.Follows ports routes ledger) {port : String} {route : Route}
    (member : (port, route) ∈ routes) {slot buffer : Nat} (target : route.buffers[slot]? = some buffer)
    (time : Binary64) :
    station.recorder.contents[buffer]? = some (.ofTimes (ledger.pending port slot)) ∧
      station.recorder.contents.set buffer (.ofTimes (ledger.pending port slot ++ [time])) =
        station.recorder.arrays.flatten.map (fun _ => .ofSamples []) ++
          (ledger.accept port slot time).eventContents routes := by
  have single : (routes.map (·.1)).Nodup := (List.nodup_append.mp follows.distinct).2.1
  obtain ⟨place, rfl, held, grown⟩ := follows.numbered.accept single member target ledger time
  have empty : (station.recorder.arrays.flatten.map fun _ => Content.ofSamples []).length =
      station.recorder.arrays.flatten.length := List.length_map _
  rw [follows.ready.contents, List.getElem?_append_right (by omega), List.set_append_right _ _ (by omega),
    empty, Nat.add_sub_cancel_left, held, grown]
  exact ⟨rfl, rfl⟩

/-- An event is accepted by one slot or changes nothing. -/
theorem deliverEvent (follows : station.Follows ports routes ledger) (port : String) (index : Nat)
    (time : Binary64) :
    (station.deliverEvent port index time).result = .ok () ∧
        (∃ route slot, (port, route) ∈ routes ∧ route.grouping.slot index = .ok slot ∧
          slot < route.buffers.length ∧
          (station.deliverEvent port index time).state.Follows ports routes
            (ledger.accept port slot time)) ∨
      ∃ failure, (station.deliverEvent port index time).result = .error failure ∧
        (station.deliverEvent port index time).state = station := by
  cases found : station.routes.find? port with
  | none =>
    rw [deliverEvent_unknown found]
    exact .inr ⟨_, rfl, rfl⟩
  | some route =>
    have member := follows.mem_of_find? found
    cases slotted : route.grouping.slot index with
    | error broken =>
      rw [deliverEvent_broken found slotted]
      exact .inr ⟨_, rfl, rfl⟩
    | ok slot =>
      cases target : route.buffers[slot]? with
      | none =>
        rw [deliverEvent_unplaced found slotted target]
        exact .inr ⟨_, rfl, rfl⟩
      | some buffer =>
        rw [deliverEvent_placed found slotted target]
        have bound : slot < route.buffers.length := (List.getElem?_eq_some_iff.mp target).1
        obtain ⟨there, grown⟩ := follows.slot_held member target time
        by_cases ordered : ∀ last ∈ (ledger.pending port slot).getLast?, last ≤ time
        · obtain ⟨appended, refilled⟩ :=
            Recorder.append_ordered ⟨time, .zero⟩ there ordered
          rw [Content.push_ofTimes, grown] at refilled
          exact .inl ⟨appended, route, slot, member, slotted, bound, follows.refill rfl refilled⟩
        · simp only [not_forall] at ordered
          obtain ⟨last, found, early⟩ := ordered
          have refused := Recorder.append_unordered ⟨time, .zero⟩ there found early
          have ran : onRecorder (Recorder.append buffer ⟨time, .zero⟩) station =
              ⟨station, .error (.breach (.unordered last time)), []⟩ := by
            rw [onRecorder, Action.within_run, refused]
          exact .inr ⟨_, congrArg Outcome.result ran, congrArg Outcome.state ran⟩

/-- A slot that the port has takes an event that is not before those that wait there. -/
theorem deliverEvent_taken (follows : station.Follows ports routes ledger) {port : String} {route : Route}
    (member : (port, route) ∈ routes) {index slot : Nat} (slotted : route.grouping.slot index = .ok slot)
    (bound : slot < route.buffers.length) {time : Binary64}
    (ordered : ∀ last ∈ (ledger.pending port slot).getLast?, last ≤ time) :
    (station.deliverEvent port index time).result = .ok () := by
  have target : route.buffers[slot]? = some route.buffers[slot] := List.getElem?_eq_getElem bound
  rw [deliverEvent_placed (follows.find?_route member) slotted target]
  exact (Recorder.append_ordered ⟨time, .zero⟩ (follows.slot_held member target time).1 ordered).1

theorem beginTick (follows : station.Follows ports routes ledger) (now : Binary64) :
    (station.beginTick now).result = .ok () ∧
      station.recorder.Refills
        (station.recorder.arrays.flatten.map (fun value => .ofSamples [⟨now, value⟩]) ++
          ledger.eventContents routes) (station.beginTick now).state.recorder :=
  follows.ready.beginTick now

theorem endTick (follows : station.Follows ports routes ledger) (now : Binary64) :
    let after := ((station.beginTick now).state.endTick now).state
    after.Follows ports routes ledger.clear ∧ ∀ buffer ∈ after.recorder.buffers, buffer.isEmpty := by
  obtain ⟨-, refilled⟩ := follows.beginTick now
  have single : (station.beginTick now).state.recorder.retention = .singleStep := by
    rw [refilled.1]
    exact follows.ready.singleStep
  have emptied := refilled.trans (Recorder.contents_endTick single now)
  rw [refilled.2, List.map_append, List.map_map, ← Ledger.eventContents_clear] at emptied
  exact ⟨follows.refill rfl emptied, Recorder.isEmpty_endTick single now⟩

end Station.Follows
end Telemetry
