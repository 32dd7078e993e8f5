import Telemetry.Command.Check
import Telemetry.Proofs.Producer.Peers
import Telemetry.Proofs.Station.Allotment
import Mathlib.Data.List.Forall2

/-! The summary of a producer's configuration describes the producer that is set up from it. A row of the
summary foretells what a station without peers answers when the port is bound. -/
namespace Telemetry
open Telemetry.Command (PortSummary ProducerSummary)

namespace Station
variable {station after : Station} {request : Request} {buffers own : List Nat} {width : PortWidth}
  {port : PortSummary}

/-- A port of the station with these buffers is as a row of the summary has it. -/
structure Describes (station : Station) (port : PortSummary) (buffers : List Nat) : Prop where
  width : station.width? port.name = some (.fallback port.width)
  count : buffers.length = port.buffers
  arrayed : port.flavour = .continuous →
    ∃ array, station.arrays.find? port.name = some array ∧ station.recorder.extent? array = some port.width
  routed : port.flavour = .event →
    (station.routes.find? port.name).map (·.buffers) = some buffers

/-- Ports that are bound later change nothing about the port. -/
theorem Describes.allot (described : station.Describes port own)
    (allots : Allots station request buffers width after) : after.Describes port own where
  width := allots.width?_known described.width
  count := described.count
  arrayed continuous := by
    obtain ⟨array, found, held⟩ := described.arrayed continuous
    have other := allots.other_of_known described.width
    rcases allots.arrays_find? port.name with ⟨same, -⟩ | ⟨-, kept⟩
    · exact absurd same other
    · exact ⟨array, kept.trans found, allots.kept.arrays array _ held⟩
  routed event := by
    rw [allots.routes_other (allots.other_of_known described.width)]
    exact described.routed event

/-- Without peers the port is bound as the row says. -/
def Foretells (port : PortSummary) (request : Request) : Prop :=
  ∀ (station : Station) (buffers : List Nat), station.directory = .unconnected →
    (request.allot station).result = .ok buffers →
      (request.allot station).state.directory = .unconnected ∧
        (request.allot station).state.Describes port buffers

theorem widthFor_unconnected (alone : station.directory = .unconnected) (publication : Publication)
    (fallback : Nat) : station.widthFor publication fallback = .fallback fallback := by
  rw [widthFor, alone]
  rfl

theorem foretells_continuous (name : String) (settings : ContinuousPort) (defaults : Params) :
    Foretells (.ofContinuous name settings) (.continuousInput (settings.binding name defaults)) := by
  intro station buffers alone ok
  obtain ⟨width, published, values, free, settled, size, -, numbered, bound⟩ :=
    bindContinuousInput_success ok
  obtain rfl : PortWidth.fallback settings.keys.length = width := by
    simpa [ContinuousPort.binding, widthFor_unconnected alone] using settled
  have extent := (station.recorder.addArray_extends values).2
  rw [Request.allot, bound]
  exact ⟨alone,
    { width := Table.find?_insert_self ..
      count := by rw [numbered, List.length_range', size]; rfl
      arrayed := fun _ => ⟨_, Table.find?_insert_self .., extent.trans (congrArg some size)⟩
      routed := fun event => by cases event }⟩

theorem ofEvents_buffers {settings : EventPort} {count : Nat}
    (counted : settings.grouping.bufferCount settings.keys = .ok count) (name : String) :
    (PortSummary.ofEvents name settings).buffers = count := by
  obtain ⟨keys, given, aggregate, params⟩ := settings
  cases aggregate with
  | none =>
    obtain rfl := Except.ok.inj counted
    exact Nat.div_one keys
  | some size =>
    by_cases zero : size = 0
    · simp [EventPort.grouping, Grouping.bufferCount, zero] at counted
    · simp only [EventPort.grouping, Grouping.bufferCount, zero, if_false] at counted
      exact Except.ok.inj counted

theorem foretells_events (name : String) (settings : EventPort) (defaults : Params) :
    Foretells (.ofEvents name settings) (.eventInput (settings.binding name defaults)) := by
  intro station buffers alone ok
  obtain ⟨width, published, free, settled, counted, numbered, bound⟩ := bindEventInput_success ok
  obtain rfl : PortWidth.fallback settings.keys = width := by
    simpa [EventPort.binding, widthFor_unconnected alone] using settled
  rw [Request.allot, bound]
  exact ⟨alone,
    { width := Table.find?_insert_self ..
      count := (ofEvents_buffers counted name).symm
      arrayed := fun continuous => by cases continuous
      routed := fun _ => congrArg _ (Table.find?_insert_self ..) }⟩

/-- Binds ports one after the other, up to the first that is refused; answers the buffers of each. -/
def Request.allotAll : List Request → Action Station (List (List Nat))
  | [] => Action.done []
  | request :: requests => do
    let buffers ← request.allot
    let others ← allotAll requests
    return buffers :: others

theorem allotAll_cons_success {requests : List Request} {answers : List (List Nat)}
    (ok : (Request.allotAll (request :: requests) station).result = .ok answers) :
    ∃ buffers others, answers = buffers :: others ∧ (request.allot station).result = .ok buffers ∧
      (Request.allotAll requests (request.allot station).state).result = .ok others ∧
      (Request.allotAll (request :: requests) station).state =
        (Request.allotAll requests (request.allot station).state).state := by
  obtain ⟨buffers, first, rest, final⟩ := Action.bind_success ok
  obtain ⟨others, later, last, ended⟩ := Action.bind_success rest
  exact ⟨buffers, others, (Except.ok.inj last).symm, first, later, final.trans ended⟩

theorem allotAll_cons_of_ok {requests : List Request} {others : List (List Nat)}
    (first : (request.allot station).result = .ok buffers)
    (later : (Request.allotAll requests (request.allot station).state).result = .ok others) :
    (Request.allotAll (request :: requests) station).result = .ok (buffers :: others) ∧
      (Request.allotAll (request :: requests) station).state =
        (Request.allotAll requests (request.allot station).state).state := by
  rw [Request.allotAll, Action.bind_of_ok first, Action.bind_of_ok later]
  exact ⟨rfl, rfl⟩

theorem Describes.allotAll (described : station.Describes port own) {requests : List Request}
    {answers : List (List Nat)} (ok : (Request.allotAll requests station).result = .ok answers) :
    (Request.allotAll requests station).state.Describes port own := by
  induction requests generalizing station answers with
  | nil => exact described
  | cons request requests ih =>
    obtain ⟨buffers, others, -, first, later, final⟩ := allotAll_cons_success ok
    obtain ⟨width, allots⟩ := Request.allot_success first
    rw [final]
    exact ih (described.allot allots) later

theorem allotAll_describes {ports : List PortSummary} {requests : List Request}
    (foretold : List.Forall₂ Foretells ports requests) (alone : station.directory = .unconnected)
    {answers : List (List Nat)} (ok : (Request.allotAll requests station).result = .ok answers) :
    List.Forall₂ (Request.allotAll requests station).state.Describes ports answers := by
  induction foretold generalizing station answers with
  | nil =>
    obtain rfl : [] = answers := Except.ok.inj ok
    exact .nil
  | cons foretells others ih =>
    obtain ⟨buffers, more, rfl, first, later, final⟩ := allotAll_cons_success ok
    obtain ⟨still, described⟩ := foretells station buffers alone first
    -- The row of the first port has to outlast the ports after it.
    rw [final]
    exact .cons (described.allotAll later) (ih still later)

/-- The ports get all the new buffers of the recorder, in order. -/
theorem allotAll_numbered {requests : List Request} {answers : List (List Nat)}
    (ok : (Request.allotAll requests station).result = .ok answers) :
    answers.flatten = List.range' station.recorder.buffers.length answers.flatten.length ∧
      (Request.allotAll requests station).state.recorder.buffers.length =
        station.recorder.buffers.length + answers.flatten.length := by
  induction requests generalizing station answers with
  | nil =>
    obtain rfl : [] = answers := Except.ok.inj ok
    exact ⟨rfl, rfl⟩
  | cons request requests ih =>
    obtain ⟨buffers, others, rfl, first, later, final⟩ := allotAll_cons_success ok
    obtain ⟨width, allots⟩ := Request.allot_success first
    obtain ⟨numbered, grown⟩ := ih later
    rw [allots.grown] at numbered grown
    rw [final, grown, List.flatten_cons, List.length_append]
    refine ⟨?_, Nat.add_assoc _ _ _⟩
    rw [← List.range'_append_1, ← allots.numbered, ← numbered]

theorem allotAll_append {first last : List Request} {answers more : List (List Nat)}
    (ok : (Request.allotAll first station).result = .ok answers)
    (later : (Request.allotAll last (Request.allotAll first station).state).result = .ok more) :
    (Request.allotAll (first ++ last) station).result = .ok (answers ++ more) ∧
      (Request.allotAll (first ++ last) station).state =
        (Request.allotAll last (Request.allotAll first station).state).state := by
  induction first generalizing station answers with
  | nil =>
    obtain rfl : [] = answers := Except.ok.inj ok
    exact ⟨later, rfl⟩
  | cons request first ih =>
    obtain ⟨buffers, others, rfl, bound, rest, final⟩ := allotAll_cons_success ok
    rw [final] at later ⊢
    obtain ⟨result, state⟩ := ih rest later
    obtain ⟨result, whole⟩ := allotAll_cons_of_ok bound result
    exact ⟨result, whole.trans state⟩

end Station

/-- The ports of a configuration, in the order in which they are bound. -/
def ProducerConfig.requests (config : ProducerConfig) : List Station.Request :=
  config.continuousBindings.map .continuousInput ++ config.eventBindings.map .eventInput

namespace Wiring
open Telemetry.Station (Request)

/-- Wired without an error, the action leaves the station that binding the requests leaves. -/
def Binds (requests : List Request) (action : Action Wiring Unit) : Prop :=
  ∀ wiring : Wiring, (action wiring).result = .ok () →
    (∃ answers, (Request.allotAll requests wiring.station).result = .ok answers) ∧
      (Request.allotAll requests wiring.station).state = (action wiring).state.station

theorem Binds.nothing : Binds [] (Action.done ()) := fun _ _ => ⟨⟨_, rfl⟩, rfl⟩

/-- The channels of a port do not touch the station. -/
theorem Binds.port {requests : List Request} {others : Action Wiring Unit} (binds : Binds requests others)
    (request : Request) (channels : List Nat → Action ChannelMap Unit) :
    Binds (request :: requests) (do
      let buffers ← onStation request.allot
      onChannels (channels buffers)
      others) := by
  intro wiring ok
  obtain ⟨buffers, bound, rest, final⟩ := Action.bind_success ok
  obtain ⟨⟨⟩, -, last, ended⟩ := Action.bind_success rest
  obtain ⟨⟨answers, later⟩, state⟩ := binds _ last
  have first : (request.allot wiring.station).result = .ok buffers := bound
  obtain ⟨result, whole⟩ := Station.allotAll_cons_of_ok first later
  rw [final, ended]
  exact ⟨⟨_, result⟩, whole.trans state⟩

theorem Binds.andThen {requests more : List Request} {first last : Action Wiring Unit}
    (binds : Binds requests first) (after : Binds more last) :
    Binds (requests ++ more) (do first; last) := by
  intro wiring ok
  obtain ⟨⟨⟩, start, rest, final⟩ := Action.bind_success ok
  obtain ⟨⟨answers, allotted⟩, between⟩ := binds wiring start
  obtain ⟨⟨others, later⟩, state⟩ := after _ rest
  rw [← between] at later state
  obtain ⟨result, whole⟩ := Station.allotAll_append allotted later
  rw [final]
  exact ⟨⟨_, result⟩, whole.trans state⟩

theorem wireContinuous_binds (defaults : Params) (ports : List (String × ContinuousPort)) :
    Binds (ports.map fun entry => .continuousInput (entry.2.binding entry.1 defaults))
      (wireContinuous defaults ports) := by
  induction ports with
  | nil => exact .nothing
  | cons entry ports ih => exact ih.port (.continuousInput (entry.2.binding entry.1 defaults)) _

theorem wireEvents_binds (defaults : Params) (ports : List (String × EventPort)) :
    Binds (ports.map fun entry => .eventInput (entry.2.binding entry.1 defaults))
      (wireEvents defaults ports) := by
  induction ports with
  | nil => exact .nothing
  | cons entry ports ih => exact ih.port (.eventInput (entry.2.binding entry.1 defaults)) _

theorem wire_binds (config : ProducerConfig) : Binds config.requests (wire config) := by
  rw [ProducerConfig.requests, ProducerConfig.continuousBindings, ProducerConfig.eventBindings,
    List.map_map, List.map_map]
  exact (wireContinuous_binds _ _).andThen (wireEvents_binds _ _)

end Wiring

namespace Producer
variable {config : ProducerConfig} {producer : Producer} {sink : Sink}

theorem ports_foretell (config : ProducerConfig) :
    List.Forall₂ Station.Foretells (ProducerSummary.ofConfig config).ports config.requests := by
  rw [ProducerSummary.ofConfig, ProducerConfig.requests, ProducerConfig.continuousBindings,
    ProducerConfig.eventBindings, List.map_map, List.map_map]
  refine List.rel_append ?_ ?_
  · exact List.forall₂_map_left_iff.mpr (List.forall₂_map_right_iff.mpr (List.forall₂_same.mpr
      fun entry _ => Station.foretells_continuous entry.1 entry.2 config.continuousDefaults))
  · exact List.forall₂_map_left_iff.mpr (List.forall₂_map_right_iff.mpr (List.forall₂_same.mpr
      fun entry _ => Station.foretells_events entry.1 entry.2 config.eventDefaults))

theorem ports_names (config : ProducerConfig) :
    (ProducerSummary.ofConfig config).ports.map (·.name) = config.continuous.keys ++ config.events.keys := by
  simp only [ProducerSummary.ofConfig, List.map_append, List.map_map]
  rfl

theorem describes_of_mem
    (built : (ofConfig config sink (unwired config .unconnected)).result = .ok producer)
    {port : PortSummary} (listed : port ∈ (ProducerSummary.ofConfig config).ports) :
    ∃ buffers, producer.station.Describes port buffers := by
  obtain ⟨-, wired, codec, rfl⟩ := ofConfig_eq built
  obtain ⟨⟨answers, bound⟩, state⟩ := Wiring.wire_binds config _ wired
  have described := Station.allotAll_describes (ports_foretell config) rfl bound
  rw [state] at described
  obtain ⟨same, rows⟩ := List.forall₂_iff_get.mp described
  obtain ⟨place, inside, rfl⟩ := List.mem_iff_getElem.mp listed
  exact ⟨_, rows place inside (same ▸ inside)⟩

/-- The summary of a configuration that a producer can be set up from without peers. It names every port
once. Binding the ports one after the other makes the station of the producer, and each is there with the
width and as many buffers as its row says; together these are all the buffers. The number of channels is
that of the producer as well. -/
theorem summary_describes
    (built : (ofConfig config sink (unwired config .unconnected)).result = .ok producer) :
    let summary := ProducerSummary.ofConfig config
    let station := producer.station
    let allotted := Station.Request.allotAll config.requests (unwired config .unconnected).station
    summary.ports.map (·.name) = config.continuous.keys ++ config.events.keys ∧
    (summary.ports.map (·.name)).Nodup ∧
    (∃ answers, allotted.result = .ok answers ∧ allotted.state = station ∧
      List.Forall₂ station.Describes summary.ports answers ∧
      answers.flatten = List.range station.recorder.buffers.length) ∧
    (summary.ports.map (·.buffers)).sum = station.recorder.buffers.length ∧
    summary.channels = producer.channels.size := by
  intro summary station allotted
  obtain ⟨routes, follows⟩ := Follows.ofConfig built
  obtain ⟨-, wired, codec, made⟩ := ofConfig_eq built
  obtain ⟨⟨answers, bound⟩, state⟩ := Wiring.wire_binds config _ wired
  have same : allotted.state = station := state.trans (congrArg Producer.station made).symm
  have described := Station.allotAll_describes (ports_foretell config) rfl bound
  obtain ⟨numbered, grown⟩ := Station.allotAll_numbered bound
  rw [show (Station.Request.allotAll config.requests (unwired config .unconnected).station).state =
    station from same] at described grown
  have whole : station.recorder.buffers.length = answers.flatten.length := grown.trans (Nat.zero_add _)
  -- The rows promise the numbers of buffers, and the answers are the buffers themselves.
  have counts : summary.ports.map (·.buffers) = answers.map List.length := by
    have equal := described.imp fun port buffers row => row.count.symm
    rw [← List.forall₂_eq_eq_eq]
    exact List.forall₂_map_left_iff.mpr (List.forall₂_map_right_iff.mpr equal)
  have distinct : (summary.ports.map (·.name)).Nodup := by
    rw [ports_names, ← follows.names]
    exact follows.station.distinct
  refine ⟨ports_names config, distinct, ⟨answers, bound, same, described, ?_⟩, ?_,
    follows.channels_size.symm⟩
  · rw [whole, List.range_eq_range']
    exact numbered
  · rw [counts, whole, List.length_flatten]

/-- The last buffer of the grouped port has one index. -/
def cohort : ProducerConfig where
  timestep := .one
  continuous := { entries := [("pose", { keys := ["x", "heading"] })] }
  events := { entries := [("spikes", { keys := 5, aggregate := some 2 }), ("touch", { keys := 1 })] }

theorem cohort_described :
    ∃ producer, (ofConfig cohort (.capture { address := "memory" })
        (unwired cohort .unconnected)).result = .ok producer ∧
      (ProducerSummary.ofConfig cohort).ports.map (fun port => (port.name, port.width, port.buffers)) =
        [("pose", 2, 2), ("spikes", 5, 3), ("touch", 1, 1)] ∧
      producer.station.recorder.buffers.length = 6 ∧ producer.channels.size = 4 := by
  have answered : (ofConfig cohort (.capture { address := "memory" })
      (unwired cohort .unconnected)).result.toOption.isSome := by decide +kernel
  cases built : (ofConfig cohort (.capture { address := "memory" })
      (unwired cohort .unconnected)).result with
  | error failure => simp [built, Except.toOption] at answered
  | ok producer =>
    obtain ⟨-, -, -, buffers, channels⟩ := summary_describes built
    exact ⟨producer, rfl, by decide +kernel, buffers.symm, channels.symm⟩

end Producer
end Telemetry
