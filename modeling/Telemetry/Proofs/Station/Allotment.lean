import Telemetry.Proofs.Station.Refusal

/-! Which buffers and arrays the ports of a station have. A port gets the next ones of the recorder when it
is bound. No call takes them away or changes the length of an array, so no two ports ever share any. -/
namespace Telemetry

namespace Recorder
variable {before middle after : Recorder}

/-- Number of elements of an array. -/
def extent? (recorder : Recorder) (array : Nat) : Option Nat := recorder.arrays[array]?.map List.length

/-- The arrays keep their lengths, and there are no fewer buffers. -/
structure Extends (before after : Recorder) : Prop where
  arrays : ∀ array width, before.extent? array = some width → after.extent? array = some width
  buffers : before.buffers.length ≤ after.buffers.length

theorem Extends.refl (recorder : Recorder) : recorder.Extends recorder := ⟨fun _ _ => id, Nat.le_refl _⟩

theorem Extends.trans (first : before.Extends middle) (second : middle.Extends after) :
    before.Extends after where
  arrays array width held := second.arrays array width (first.arrays array width held)
  buffers := first.buffers.trans second.buffers

theorem append_extends (recorder : Recorder) (buffer : Nat) (sample : Sample) :
    recorder.Extends (append buffer sample recorder).state := by
  rcases append_cases buffer sample recorder with same | ⟨_, _, _, _, after⟩
  · rw [same]
    exact .refl recorder
  · rw [after]
    exact ⟨fun _ _ => id, by simp⟩

theorem appendAll_extends (recorder : Recorder) (samples : List (Nat × Sample)) :
    recorder.Extends (appendAll samples recorder).state :=
  appendAll_keeps recorder.Extends
    (fun buffer sample after kept => kept.trans (after.append_extends buffer sample)) (.refl recorder) samples

theorem endTick_extends (recorder : Recorder) (now : Binary64) :
    recorder.Extends (recorder.endTick now) := by
  refine ⟨fun _ _ => id, ?_⟩
  cases kept : recorder.retention <;> simp [endTick, kept]

theorem setArray_extends {recorder : Recorder} {array : Nat} {values : List Binary64}
    (fits : (recorder.array array).length = values.length) :
    recorder.Extends (recorder.setArray array values) := by
  refine ⟨fun other width held => ?_, Nat.le_refl _⟩
  by_cases same : array = other
  · subst same
    obtain ⟨current, there, rfl⟩ := Option.map_eq_some_iff.mp held
    obtain ⟨bound, -⟩ := List.getElem?_eq_some_iff.mp there
    simp only [Recorder.array, List.getD_eq_getElem?_getD, there, Option.getD_some] at fits
    simp [extent?, setArray, bound, fits]
  · simpa [extent?, setArray, same] using held

theorem addArray_extends (recorder : Recorder) (values : List Binary64) :
    recorder.Extends (recorder.addArray values).1 ∧
      (recorder.addArray values).1.extent? recorder.arrays.length = some values.length := by
  refine ⟨⟨fun array width held => ?_, Nat.le_refl _⟩, by simp [extent?, addArray]⟩
  obtain ⟨current, there, rfl⟩ := Option.map_eq_some_iff.mp held
  obtain ⟨bound, -⟩ := List.getElem?_eq_some_iff.mp there
  simp [extent?, addArray, List.getElem?_append_left bound, there]

end Recorder

namespace Station

/-- Ports whose values lie in an array. -/
def Request.Continuous : Request → Prop
  | continuousInput _ | continuousOutput _ => True
  | eventInput _ | eventOutput _ _ => False

instance : DecidablePred Request.Continuous
  | .continuousInput _ | .continuousOutput _ => inferInstanceAs (Decidable True)
  | .eventInput _ | .eventOutput _ _ => inferInstanceAs (Decidable False)

/-- Binds a port; answers its buffers, of which an output has none. -/
def Request.allot : Request → Action Station (List Nat)
  | continuousInput binding => bindContinuousInput binding
  | continuousOutput binding => do
    let _ ← bindContinuousOutput binding
    return []
  | eventInput binding => bindEventInput binding
  | eventOutput port params => do
    let _ ← bindEventOutput port params
    return []

/-- What can be asked of a station once it has ports. -/
inductive Call
  | deliver (port : String) (index : Nat) (time : Binary64)
  | write (port : String) (values : List Binary64)
  /-- Whoever has been given a buffer may fill it as well. -/
  | append (buffer : Nat) (sample : Sample)
  | beginTick (now : Binary64)
  | endTick (now : Binary64)

def Call.after (station : Station) : Call → Station
  | deliver port index time => (station.deliverEvent port index time).state
  | write port values => (station.writeContinuous port values).state
  | append buffer sample => (onRecorder (Recorder.append buffer sample) station).state
  | beginTick now => (station.beginTick now).state
  | endTick now => (station.endTick now).state

/-- Stations after some requests and calls in any order, with the requests that were successful and the
buffers that they answered. -/
inductive Reached : List (Request × List Nat) → Station → Prop
  | fresh (directory : Directory) (policy : UnconnectedPolicy) (recorder : Recorder) :
      Reached [] (.ofDirectory directory policy recorder)
  | bound {bound : List (Request × List Nat)} {station : Station} (reached : Reached bound station)
      (request : Request) {buffers : List Nat} (ok : (request.allot station).result = .ok buffers) :
      Reached (bound ++ [(request, buffers)]) (request.allot station).state
  | refused {bound : List (Request × List Nat)} {station : Station} (reached : Reached bound station)
      (request : Request) {failure : Failure} (refused : (request.allot station).result = .error failure) :
      Reached bound (request.allot station).state
  | called {bound : List (Request × List Nat)} {station : Station} (reached : Reached bound station)
      (call : Call) : Reached bound (call.after station)

/-- What a successful request does. The port gets the next buffers of the recorder, and the next array when
it is a continuous one. -/
structure Allots (station : Station) (request : Request) (buffers : List Nat) (width : PortWidth)
    (after : Station) : Prop where
  free : station.widths.contains request.port = false
  widths : after.widths = station.widths.insert request.port width
  kept : station.recorder.Extends after.recorder
  numbered : buffers = List.range' station.recorder.buffers.length buffers.length
  grown : after.recorder.buffers.length = station.recorder.buffers.length + buffers.length
  array : request.Continuous →
    after.arrays = station.arrays.insert request.port station.recorder.arrays.length ∧
      after.recorder.extent? station.recorder.arrays.length = some width.size
  arrayless : ¬request.Continuous → after.arrays = station.arrays
  route : ∀ binding, request = .eventInput binding →
    after.routes = station.routes.insert request.port ⟨buffers, binding.grouping⟩ ∧
      binding.grouping.bufferCount width.size = .ok buffers.length
  routeless : (∀ binding, request ≠ .eventInput binding) → after.routes = station.routes

variable {station after : Station} {request : Request} {buffers : List Nat} {failure : Failure}

theorem bindContinuousInput_allots {binding : ContinuousBinding}
    (ok : (bindContinuousInput binding station).result = .ok buffers) :
    ∃ width, Allots station (.continuousInput binding) buffers width
      (bindContinuousInput binding station).state := by
  obtain ⟨width, published, values, free, -, size, -, numbered, bound⟩ := bindContinuousInput_success ok
  have counted : buffers.length = values.length := by rw [numbered, List.length_range']
  obtain ⟨kept, extent⟩ := station.recorder.addArray_extends values
  rw [bound]
  exact ⟨width,
    { free
      widths := rfl
      kept := ⟨kept.arrays, by simp [Recorder.recordArray]⟩
      numbered := by rw [counted]; exact numbered
      grown := by simp [Recorder.recordArray, counted]
      array := fun _ => ⟨rfl, size ▸ extent⟩
      arrayless := fun other => absurd trivial other
      route := nofun
      routeless := fun _ => rfl }⟩

theorem bindContinuousOutput_allots {binding : ContinuousBinding} {array : Nat}
    (ok : (bindContinuousOutput binding station).result = .ok array) :
    ∃ width, Allots station (.continuousOutput binding) [] width
      (bindContinuousOutput binding station).state := by
  obtain ⟨width, published, values, free, size, bound⟩ := bindContinuousOutput_success ok
  obtain ⟨kept, extent⟩ := station.recorder.addArray_extends values
  rw [bound]
  exact ⟨width,
    { free
      widths := rfl
      kept
      numbered := rfl
      grown := rfl
      array := fun _ => ⟨rfl, size ▸ extent⟩
      arrayless := fun other => absurd trivial other
      route := nofun
      routeless := fun _ => rfl }⟩

theorem bindEventInput_allots {binding : EventBinding}
    (ok : (bindEventInput binding station).result = .ok buffers) :
    ∃ width, Allots station (.eventInput binding) buffers width (bindEventInput binding station).state := by
  obtain ⟨width, published, free, -, counted, numbered, bound⟩ := bindEventInput_success ok
  rw [bound]
  exact ⟨width,
    { free
      widths := rfl
      kept := ⟨fun _ _ => id, by simp [Recorder.recordEvents]⟩
      numbered
      grown := by simp [Recorder.recordEvents]
      array := nofun
      arrayless := fun _ => rfl
      route := fun other same => by
        obtain rfl := Request.eventInput.inj same
        exact ⟨rfl, counted⟩
      routeless := fun other => absurd rfl (other binding) }⟩

theorem bindEventOutput_allots {port : String} {params : Params} {output : EventOutput}
    (ok : (bindEventOutput port params station).result = .ok output) :
    ∃ width, Allots station (.eventOutput port params) [] width
      (bindEventOutput port params station).state := by
  obtain ⟨free, width, published, bound⟩ := bindEventOutput_success ok
  rw [bound]
  exact ⟨width,
    { free
      widths := rfl
      kept := .refl _
      numbered := rfl
      grown := rfl
      array := nofun
      arrayless := fun _ => rfl
      route := nofun
      routeless := fun _ => rfl }⟩

theorem Request.allot_success (ok : (request.allot station).result = .ok buffers) :
    ∃ width, Allots station request buffers width (request.allot station).state := by
  cases request with
  | continuousInput binding => exact bindContinuousInput_allots ok
  | continuousOutput binding =>
    obtain ⟨array, bound, last, final⟩ := Action.bind_success ok
    obtain rfl := Except.ok.inj last
    exact final ▸ bindContinuousOutput_allots bound
  | eventInput binding => exact bindEventInput_allots ok
  | eventOutput port params =>
    obtain ⟨output, bound, last, final⟩ := Action.bind_success ok
    obtain rfl := Except.ok.inj last
    exact final ▸ bindEventOutput_allots bound

theorem Request.allot_refused (refused : (request.allot station).result = .error failure) :
    Refused station request.port failure (request.allot station).state := by
  cases request with
  | continuousInput binding => exact bindContinuousInput_refused refused
  | continuousOutput binding =>
    rcases Action.bind_failure refused with ⟨stopped, final⟩ | ⟨array, -, impossible, -⟩
    · exact final ▸ bindContinuousOutput_refused stopped
    · cases impossible
  | eventInput binding => exact bindEventInput_refused refused
  | eventOutput port params =>
    rcases Action.bind_failure refused with ⟨stopped, final⟩ | ⟨output, -, impossible, -⟩
    · exact final ▸ bindEventOutput_refused stopped
    · cases impossible

/-- The ports have buffers of their own, and the continuous ones arrays of their own, all of them there and
as many or as long as the widths ask for. -/
structure Sited (bound : List (Request × List Nat)) (station : Station) : Prop where
  distinct : (bound.flatMap (·.2)).Nodup
  inside : ∀ number ∈ bound.flatMap (·.2), number < station.recorder.buffers.length
  routed : ∀ binding buffers, (.eventInput binding, buffers) ∈ bound →
    ∃ width, station.width? binding.port = some width ∧
      station.routes.find? binding.port = some ⟨buffers, binding.grouping⟩ ∧
      binding.grouping.bufferCount width.size = .ok buffers.length
  arrayed : ∀ port array, station.arrays.find? port = some array →
    ∃ width, station.width? port = some width ∧ station.recorder.extent? array = some width.size
  apart : ∀ port other array, station.arrays.find? port = some array →
    station.arrays.find? other = some array → port = other
  continuous : ∀ port, (∃ array, station.arrays.find? port = some array) ↔
    ∃ entry ∈ bound, entry.1.port = port ∧ entry.1.Continuous

variable {bound : List (Request × List Nat)} {width : PortWidth} {port : String}

theorem ne_of_free {free : String} (untaken : station.widths.contains free = false)
    (found : station.width? port = some width) : port ≠ free := by
  rintro rfl
  rw [width?] at found
  simp [Table.contains, found] at untaken

namespace Allots

theorem settled (allots : Allots station request buffers width after) :
    after.width? request.port = some width := by
  rw [width?, allots.widths, Table.find?_insert_self]

theorem other_of_known (allots : Allots station request buffers width after) {known : PortWidth}
    (found : station.width? port = some known) : port ≠ request.port :=
  ne_of_free allots.free found

theorem width?_known (allots : Allots station request buffers width after) {known : PortWidth}
    (found : station.width? port = some known) : after.width? port = some known := by
  rw [width?, allots.widths, Table.find?_insert, if_neg (allots.other_of_known found)]
  exact found

theorem routes_other (allots : Allots station request buffers width after) (other : port ≠ request.port) :
    after.routes.find? port = station.routes.find? port := by
  by_cases event : ∃ binding, request = .eventInput binding
  · obtain ⟨binding, same⟩ := event
    rw [(allots.route binding same).1, Table.find?_insert, if_neg other]
  · rw [allots.routeless (not_exists.mp event)]

/-- An array of a port is that of the request, or one from before. -/
theorem arrays_find? (allots : Allots station request buffers width after) (port : String) :
    port = request.port ∧ request.Continuous ∧
        after.arrays.find? port = some station.recorder.arrays.length ∨
      ¬(port = request.port ∧ request.Continuous) ∧
        after.arrays.find? port = station.arrays.find? port := by
  by_cases continuous : request.Continuous
  · rw [(allots.array continuous).1, Table.find?_insert]
    by_cases same : port = request.port <;> simp [same, continuous]
  · rw [allots.arrayless continuous]
    exact .inr ⟨fun both => continuous both.2, rfl⟩

end Allots

theorem Sited.fresh (directory : Directory) (policy : UnconnectedPolicy) (recorder : Recorder) :
    Sited [] (.ofDirectory directory policy recorder) where
  distinct := List.nodup_nil
  inside := nofun
  routed := nofun
  arrayed := nofun
  apart := nofun
  continuous port := by simp [ofDirectory]

theorem Sited.unused (sited : Sited bound station) (port : String) :
    station.arrays.find? port ≠ some station.recorder.arrays.length := by
  intro found
  obtain ⟨width, -, held⟩ := sited.arrayed port _ found
  simp [Recorder.extent?] at held

theorem Sited.allot (sited : Sited bound station) (allots : Allots station request buffers width after) :
    Sited (bound ++ [(request, buffers)]) after where
  distinct := by
    rw [List.flatMap_append, List.flatMap_singleton, List.nodup_append, allots.numbered]
    refine ⟨sited.distinct, List.nodup_range', fun old before new later same => ?_⟩
    have below := sited.inside old before
    have above := (List.mem_range'_1.mp later).1
    omega
  inside := by
    rw [List.flatMap_append, List.flatMap_singleton, List.forall_mem_append, allots.grown]
    refine ⟨fun number old => Nat.lt_add_right _ (sited.inside number old), fun number new => ?_⟩
    rw [allots.numbered] at new
    exact (List.mem_range'_1.mp new).2
  routed binding own member := by
    rcases List.mem_append.mp member with old | new
    · obtain ⟨known, found, routed, counted⟩ := sited.routed binding own old
      refine ⟨known, allots.width?_known found, ?_, counted⟩
      rw [allots.routes_other (allots.other_of_known found), routed]
    · obtain ⟨rfl, rfl⟩ := Prod.mk.inj (List.mem_singleton.mp new)
      obtain ⟨routed, counted⟩ := allots.route binding rfl
      refine ⟨width, allots.settled, ?_, counted⟩
      simp [routed, Request.port]
  arrayed port array found := by
    rcases allots.arrays_find? port with ⟨rfl, continuous, new⟩ | ⟨-, old⟩
    · obtain rfl := Option.some.inj (new.symm.trans found)
      exact ⟨width, allots.settled, (allots.array continuous).2⟩
    · obtain ⟨known, settled, held⟩ := sited.arrayed port array (old.symm.trans found)
      exact ⟨known, allots.width?_known settled, allots.kept.arrays array _ held⟩
  apart port other array found also := by
    rcases allots.arrays_find? port with ⟨rfl, -, new⟩ | ⟨-, old⟩ <;>
      rcases allots.arrays_find? other with ⟨rfl, -, new'⟩ | ⟨-, old'⟩
    · rfl
    · rw [← found, new] at also
      exact absurd (old'.symm.trans also) (sited.unused other)
    · rw [← also, new'] at found
      exact absurd (old.symm.trans found) (sited.unused port)
    · exact sited.apart port other array (old.symm.trans found) (old'.symm.trans also)
  continuous port := by
    simp only [List.mem_append, List.mem_singleton, or_and_right, exists_or, exists_eq_left,
      ← sited.continuous port]
    rcases allots.arrays_find? port with ⟨rfl, continuous, new⟩ | ⟨other, old⟩
    · simp [new, continuous]
    · rw [old]
      exact (or_iff_left fun own => other ⟨own.1.symm, own.2⟩).symm

/-- A port that keeps its width, buffers and array keeps its site. -/
theorem Sited.keep (sited : Sited bound station) (kept : station.recorder.Extends after.recorder)
    (widths : ∀ port width, station.width? port = some width → after.width? port = some width)
    (arrays : after.arrays = station.arrays) (routes : after.routes = station.routes) :
    Sited bound after where
  distinct := sited.distinct
  inside number member := (sited.inside number member).trans_le kept.buffers
  routed binding buffers member := by
    obtain ⟨width, settled, routed, counted⟩ := sited.routed binding buffers member
    exact ⟨width, widths _ _ settled, routes ▸ routed, counted⟩
  arrayed port array found := by
    obtain ⟨width, settled, held⟩ := sited.arrayed port array (arrays ▸ found)
    exact ⟨width, widths _ _ settled, kept.arrays _ _ held⟩
  apart := arrays ▸ sited.apart
  continuous := arrays ▸ sited.continuous

theorem Sited.refuse (sited : Sited bound station) (refused : Refused station port failure after) :
    Sited bound after := by
  cases refused with
  | early => exact sited.keep (.refl _) (fun _ _ => id) rfl rfl
  | misfit length settled published misfits free =>
    refine sited.keep (.refl _) (fun known width found => ?_) rfl rfl
    rw [width?, Table.find?_insert, if_neg (ne_of_free free found)]
    exact found

/-- A call reaches nothing but the recorder. -/
theorem Call.after_extends (call : Call) (station : Station) :
    ∃ recorder, call.after station = { station with recorder } ∧ station.recorder.Extends recorder := by
  cases call with
  | deliver port index time =>
    rw [Call.after]
    cases routed : station.routes.find? port with
    | none =>
      rw [deliverEvent_unknown routed]
      exact ⟨_, rfl, .refl _⟩
    | some route =>
      cases slotted : route.grouping.slot index with
      | error broken =>
        rw [deliverEvent_broken routed slotted]
        exact ⟨_, rfl, .refl _⟩
      | ok slot =>
        cases placed : route.buffers[slot]? with
        | none =>
          rw [deliverEvent_unplaced routed slotted placed]
          exact ⟨_, rfl, .refl _⟩
        | some buffer =>
          rw [deliverEvent_placed routed slotted placed]
          exact ⟨_, rfl, station.recorder.append_extends buffer _⟩
  | write port values =>
    rw [Call.after]
    cases found : station.arrays.find? port with
    | none =>
      rw [writeContinuous_unknown found]
      exact ⟨_, rfl, .refl _⟩
    | some array =>
      by_cases fits : (station.recorder.array array).length = values.length
      · rw [writeContinuous_fits found fits]
        exact ⟨_, rfl, Recorder.setArray_extends fits⟩
      · rw [writeContinuous_misfits found fits]
        exact ⟨_, rfl, .refl _⟩
  | append buffer sample => exact ⟨_, rfl, station.recorder.append_extends buffer sample⟩
  | beginTick now => exact ⟨_, rfl, station.recorder.appendAll_extends _⟩
  | endTick now => exact ⟨_, rfl, station.recorder.endTick_extends now⟩

theorem Reached.sited (reached : Reached bound station) : Sited bound station := by
  induction reached with
  | fresh directory policy recorder => exact .fresh directory policy recorder
  | bound _ request ok ih =>
    obtain ⟨width, allots⟩ := Request.allot_success ok
    exact ih.allot allots
  | refused _ request refused ih => exact ih.refuse (Request.allot_refused refused)
  | called _ call ih =>
    obtain ⟨recorder, same, kept⟩ := call.after_extends _
    rw [same]
    exact ih.keep kept (fun _ _ => id) rfl rfl

end Station
end Telemetry
