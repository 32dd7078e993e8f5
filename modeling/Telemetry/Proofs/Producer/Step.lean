import Telemetry.Proofs.Transport.Sink
import Telemetry.Proofs.Wiring

/-! What a step does: it publishes the delta of the ledger, empties every buffer whether or not the
sink takes the payload, and counts only what the sink took. -/
namespace Telemetry

namespace ProducerConfig

def keyed (config : ProducerConfig) : List (String × List String) :=
  config.continuous.entries.map fun (port, settings) => (port, settings.keys)

/-- The slot of an event port that takes an index. -/
def slot? (config : ProducerConfig) (port : String) (index : Nat) : Option Nat :=
  (config.events.find? port).bind fun settings => (settings.grouping.slot index).toOption

theorem keyed_nodup {config : ProducerConfig} (valid : config.validate = .ok ()) :
    (config.keyed.flatMap (·.2)).Nodup := by
  have distinct := (List.nodup_append.mp (channelNames_nodup valid)).1
  rw [keyed, List.flatMap_map]
  rwa [Table.values, List.flatMap_map] at distinct

end ProducerConfig

namespace Producer

/-- Event channels with their numbers of buffers. -/
def slots (producer : Producer) : List (String × Nat) :=
  producer.channels.events.map fun (port, members) => (port, members.length)

def dump (now : Binary64) (producer : Producer) : Delta :=
  producer.channels.delta (producer.station.beginTick now).state.recorder.buffers now

def payload (now : Binary64) (producer : Producer) : Bytes :=
  producer.codec.encode (producer.dump now)

theorem publish_eq (producer : Producer) (now : Binary64) :
    let payload := producer.codec.encode (producer.delta now)
    let sent := Sink.send payload producer.sink
    (publish now producer).result =
        sent.result.map (fun _ => (payload.length, (producer.delta now).eventCount)) ∧
      (publish now producer).state = { producer with sink := sent.state } := by
  intro payload sent
  rw [publish, Action.read_then]
  cases answer : sent.result with
  | ok =>
    have took : (onSink (Sink.send payload) producer).result = .ok () := answer
    rw [Action.bind_of_ok took]
    exact ⟨rfl, rfl⟩
  | error failure =>
    have refused : (onSink (Sink.send payload) producer).result = .error failure := answer
    rw [Action.bind_of_error refused]
    exact ⟨rfl, rfl⟩

/-- A step whose recorder is in order answers what the sink answers. -/
theorem step_eq {producer : Producer} {now : Binary64}
    (began : (producer.station.beginTick now).result = .ok ()) :
    let sent := Sink.send (producer.payload now) producer.sink
    (step now producer).result = sent.result.map (fun _ => (producer.payload now).length) ∧
    (step now producer).state =
      { producer with
        station := ((producer.station.beginTick now).state.endTick now).state
        sink := sent.state
        stats :=
          match sent.result with
          | .ok () => producer.stats.record now (producer.payload now).length
              (producer.dump now).eventCount
          | .error _ => producer.stats } := by
  intro sent
  have begun : (onStation (Station.beginTick now) producer).result = .ok () := began
  obtain ⟨answered, after⟩ := publish_eq (onStation (Station.beginTick now) producer).state now
  rw [step, Action.bind_of_ok begun, Action.attempt_then, after, answered]
  have same : (Sink.send ((onStation (Station.beginTick now) producer).state.codec.encode
      ((onStation (Station.beginTick now) producer).state.delta now))
        (onStation (Station.beginTick now) producer).state.sink).result = sent.result := rfl
  rw [same]
  cases answer : sent.result with
  | ok => exact ⟨rfl, rfl⟩
  | error failure => exact ⟨rfl, rfl⟩

/-- A producer whose station follows a ledger, with the ports of a configuration. -/
structure Follows (producer : Producer) (config : ProducerConfig) (routes : List (String × Route))
    (ledger : Ledger) : Prop where
  station : producer.station.Follows config.continuous.keys routes ledger
  keyed : producer.channels.continuous = (config.keyed.flatMap (·.2)).zipIdx
  routed : producer.channels.events = routes.map fun entry => (entry.1, entry.2.buffers)
  grouped : routes.map (fun entry => (entry.1, entry.2.grouping)) =
    config.events.entries.map (fun entry => (entry.1, entry.2.grouping))
  widths : ∀ entry ∈ config.keyed, (ledger.values entry.1).length = entry.2.length

namespace Follows
variable {producer : Producer} {config : ProducerConfig} {routes : List (String × Route)}
  {ledger : Ledger}

theorem ofConfig {directory : Directory} {sink : Sink}
    (ok : (ofConfig config sink (unwired config directory)).result = .ok producer) :
    ∃ routes, producer.Follows config routes (.ofPorts config.continuous.entries) := by
  obtain ⟨-, -, -, routes, same, laid⟩ := ofConfig_success ok
  refine ⟨routes, laid.follows, ?_, laid.routed, same, ?_⟩
  · rw [laid.keyed, ProducerConfig.keyed, List.flatMap_map]
  · intro entry member
    obtain ⟨bound, there, rfl⟩ := List.mem_map.mp member
    exact laid.widths bound there

theorem names (follows : producer.Follows config routes ledger) :
    routes.map (·.1) = config.events.keys := by
  have first := congrArg (List.map Prod.fst) follows.grouped
  simpa [Table.keys, Function.comp_def] using first

theorem slots_eq (follows : producer.Follows config routes ledger) :
    producer.slots = routes.map fun entry => (entry.1, entry.2.buffers.length) := by
  rw [slots, follows.routed, List.map_map]
  rfl

theorem slots_names (follows : producer.Follows config routes ledger) :
    producer.slots.map (·.1) = config.events.keys := by
  rw [follows.slots_eq, ← follows.names]
  simp [Function.comp_def]

/-- A step publishes the delta of the ledger. -/
theorem dump_eq (follows : producer.Follows config routes ledger) (now : Binary64) :
    producer.dump now = ledger.delta config.keyed producer.slots now := by
  obtain ⟨-, refilled⟩ := follows.station.beginTick now
  have arrays : producer.station.recorder.arrays.flatten =
      config.keyed.flatMap fun entry => ledger.values entry.1 := by
    rw [follows.station.arrays, ProducerConfig.keyed, List.flatMap_map, Table.keys, List.map_map,
      List.flatMap_def]
    rfl
  have numbered := follows.station.numbered
  have held := refilled.2
  rw [arrays] at numbered held
  rw [follows.slots_eq]
  exact ChannelMap.delta_of_contents follows.keyed follows.routed follows.widths numbered held

theorem step (follows : producer.Follows config routes ledger) (now : Binary64) :
    let after := (step now producer).state
    after.Follows config routes ledger.clear ∧
      ∀ buffer ∈ after.station.recorder.buffers, buffer.isEmpty := by
  obtain ⟨began, -⟩ := follows.station.beginTick now
  obtain ⟨-, stepped⟩ := step_eq began
  obtain ⟨ended, empty⟩ := follows.station.endTick now
  intro after
  rw [show after = _ from stepped]
  exact ⟨{ follows with station := ended }, empty⟩

theorem writeContinuous (follows : producer.Follows config routes ledger) (port : String)
    (values : List Binary64) :
    (writeContinuous port values producer).result = .ok () ∧
        (∃ keys, (port, keys) ∈ config.keyed ∧ values.length = keys.length) ∧
        (writeContinuous port values producer).state.Follows config routes (ledger.write port values) ∨
      ∃ failure, (writeContinuous port values producer).result = .error failure ∧
        (Producer.writeContinuous port values producer).state = producer := by
  rcases follows.station.writeContinuous port values with
    ⟨took, bound, fits, next⟩ | ⟨failure, refused, same⟩
  · obtain ⟨⟨name, settings⟩, there, rfl⟩ := List.mem_map.mp bound
    have member : (name, settings.keys) ∈ config.keyed := List.mem_map_of_mem there
    have widths : ∀ entry ∈ config.keyed,
        ((ledger.write name values).values entry.1).length = entry.2.length := by
      intro entry member
      have width := follows.widths entry member
      by_cases written : entry.1 = name
      · simpa [Ledger.write, written, ← fits] using width
      · simpa [Ledger.write, written] using width
    have whole : values.length = settings.keys.length := fits ▸ follows.widths _ member
    exact .inl ⟨took, ⟨settings.keys, member, whole⟩, { follows with station := next, widths }⟩
  · exact .inr ⟨failure, refused, congrArg (fun station => { producer with station }) same⟩

theorem writeContinuous_taken (follows : producer.Follows config routes ledger) {port : String}
    {keys : List String} (member : (port, keys) ∈ config.keyed) {values : List Binary64}
    (fits : values.length = keys.length) :
    (Producer.writeContinuous port values producer).result = .ok () ∧
      (Producer.writeContinuous port values producer).state.Follows config routes
        (ledger.write port values) := by
  obtain ⟨⟨name, settings⟩, there, same⟩ := List.mem_map.mp member
  obtain ⟨rfl, rfl⟩ := Prod.mk.inj same
  have took : (Producer.writeContinuous name values producer).result = .ok () :=
    follows.station.writeContinuous_taken (List.mem_map_of_mem there)
      ((follows.widths _ member).trans fits.symm)
  rcases follows.writeContinuous name values with ⟨-, -, next⟩ | ⟨failure, refused, -⟩
  · exact ⟨took, next⟩
  · exact nomatch took.symm.trans refused

theorem slot?_eq (follows : producer.Follows config routes ledger) {port : String} {route : Route}
    (member : (port, route) ∈ routes) {index slot : Nat}
    (slotted : route.grouping.slot index = .ok slot) : config.slot? port index = some slot := by
  have configured : (port, route.grouping) ∈ config.events.entries.map fun entry =>
      (entry.1, entry.2.grouping) := follows.grouped ▸ List.mem_map_of_mem member
  obtain ⟨⟨name, settings⟩, there, equal⟩ := List.mem_map.mp configured
  obtain ⟨rfl, grouped⟩ := Prod.mk.inj equal
  have found := Table.find?_of_mem there
  simp only at grouped
  simp [ProducerConfig.slot?, found, grouped, slotted, Except.toOption]

theorem deliverEvent (follows : producer.Follows config routes ledger) (port : String) (index : Nat)
    (time : Binary64) :
    (deliverEvent port index time producer).result = .ok () ∧
        (∃ slot count, config.slot? port index = some slot ∧ (port, count) ∈ producer.slots ∧
          slot < count ∧
          (deliverEvent port index time producer).state.Follows config routes
            (ledger.accept port slot time)) ∨
      ∃ failure, (deliverEvent port index time producer).result = .error failure ∧
        (Producer.deliverEvent port index time producer).state = producer := by
  rcases follows.station.deliverEvent port index time with
    ⟨took, route, slot, member, slotted, bound, next⟩ | ⟨failure, refused, same⟩
  · have counted : (port, route.buffers.length) ∈ producer.slots := by
      rw [follows.slots_eq]
      exact List.mem_map_of_mem member
    have configured := follows.slot?_eq member slotted
    exact .inl ⟨took, slot, _, configured, counted, bound, { follows with station := next }⟩
  · exact .inr ⟨failure, refused, congrArg (fun station => { producer with station }) same⟩

theorem deliverEvent_taken (follows : producer.Follows config routes ledger) {port : String}
    {route : Route} (member : (port, route) ∈ routes) {index slot : Nat}
    (slotted : route.grouping.slot index = .ok slot) (bound : slot < route.buffers.length)
    {time : Binary64} (ordered : ∀ last ∈ (ledger.pending port slot).getLast?, last ≤ time) :
    (Producer.deliverEvent port index time producer).result = .ok () ∧
      (Producer.deliverEvent port index time producer).state.Follows config routes
        (ledger.accept port slot time) := by
  have took : (Producer.deliverEvent port index time producer).result = .ok () :=
    follows.station.deliverEvent_taken member slotted bound ordered
  rcases follows.deliverEvent port index time with
    ⟨-, place, -, placed, -, -, next⟩ | ⟨failure, refused, -⟩
  · obtain rfl := Option.some.inj ((follows.slot?_eq member slotted).symm.trans placed)
    exact ⟨took, next⟩
  · exact nomatch took.symm.trans refused

end Follows

end Producer
end Telemetry
