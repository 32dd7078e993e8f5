import Telemetry.Producer
import Telemetry.Proofs.ChannelMap
import Telemetry.Proofs.ChannelMap.Mapping
import Telemetry.Proofs.Station.Binding

/-! What wiring a configuration leaves: ports that follow a fresh ledger, and a channel map that
numbers the keys and the event buffers in the order of the configuration. -/
namespace Telemetry

def ContinuousPort.start (settings : ContinuousPort) : List Binary64 :=
  settings.initial.getD (List.replicate settings.keys.length .zero)

/-- The ledger before the first call. -/
def Ledger.ofPorts (ports : List (String × ContinuousPort)) : Ledger where
  values port := ((ports.find? (·.1 = port)).map (·.2.start)).getD []
  pending _ _ := []

theorem Ledger.ofPorts_append_other {ports : List (String × ContinuousPort)} {port other : String}
    (different : other ≠ port) (settings : ContinuousPort) :
    (ofPorts (ports ++ [(port, settings)])).values other = (ofPorts ports).values other := by
  simp only [ofPorts, List.find?_append]
  simp [Ne.symm different]

theorem Ledger.ofPorts_append_self {ports : List (String × ContinuousPort)} {port : String}
    (fresh : port ∉ ports.map (·.1)) (settings : ContinuousPort) :
    (ofPorts (ports ++ [(port, settings)])).values port = settings.start := by
  have absent : ports.find? (·.1 = port) = none := by
    refine List.find?_eq_none.mpr fun entry member => ?_
    simpa using fun same => fresh (List.mem_map.mpr ⟨entry, member, same⟩)
  simp [ofPorts, List.find?_append, absent]

namespace Wiring

/-- Some ports are bound and mapped, and nothing has happened since. -/
structure Laid (wiring : Wiring) (ports : List (String × ContinuousPort))
    (routes : List (String × Route)) : Prop where
  follows : wiring.station.Follows (ports.map (·.1)) routes (.ofPorts ports)
  keyed : wiring.channels.continuous = (ports.flatMap (·.2.keys)).zipIdx
  routed : wiring.channels.events = routes.map fun entry => (entry.1, entry.2.buffers)
  widths : ∀ entry ∈ ports, ((Ledger.ofPorts ports).values entry.1).length = entry.2.keys.length

variable {wiring : Wiring} {ports : List (String × ContinuousPort)} {routes : List (String × Route)}

theorem Laid.length_arrays (laid : wiring.Laid ports routes) :
    wiring.station.recorder.arrays.flatten.length = (ports.flatMap (·.2.keys)).length := by
  rw [laid.follows.arrays, List.map_map, List.length_flatten, List.length_flatMap, List.map_map]
  exact congrArg List.sum (List.map_congr_left laid.widths)

theorem Laid.bindContinuous (laid : wiring.Laid ports []) {port : String} {settings : ContinuousPort}
    {defaults : Params} {buffers : List Nat}
    (bound : (Station.bindContinuousInput (settings.binding port defaults) wiring.station).result =
      .ok buffers)
    (mapped : (ChannelMap.mapContinuous settings.keys buffers wiring.channels).result = .ok ()) :
    Laid
      { station := (Station.bindContinuousInput (settings.binding port defaults) wiring.station).state
        channels := (ChannelMap.mapContinuous settings.keys buffers wiring.channels).state }
      (ports ++ [(port, settings)]) [] := by
  obtain ⟨width, published, values, free, -, -, chosen, numbered, after⟩ :=
    Station.bindContinuousInput_success bound
  obtain ⟨counted, wired⟩ := ChannelMap.mapContinuous_success mapped
  have keyed := congrArg ChannelMap.continuous wired
  have routed := congrArg ChannelMap.events wired
  have free : wiring.station.widths.contains port = false := free
  have fresh : port ∉ ports.map (·.1) := by simpa using laid.follows.fresh_of_free free
  have started : values = settings.start := by
    rw [chosen, ← counted]
    rfl
  have own := Ledger.ofPorts_append_self fresh settings
  have kept : ∀ name ∈ ports.map (·.1),
      (Ledger.ofPorts (ports ++ [(port, settings)])).values name = (Ledger.ofPorts ports).values name :=
    fun name member => Ledger.ofPorts_append_other (ne_of_mem_of_not_mem member fresh) settings
  have size : settings.start.length = settings.keys.length := by
    rw [counted, numbered, List.length_range', started]
  have first : wiring.station.recorder.buffers.length = (ports.flatMap (·.2.keys)).length :=
    laid.follows.ready.length_buffers.trans laid.length_arrays
  constructor
  · rw [List.map_append, after, started, ← own]
    exact laid.follows.bindArray free kept width published
  · rw [keyed, laid.keyed, numbered, started, size, List.flatMap_append, List.zipIdx_append]
    simp [List.zipIdx_eq_zip_range', first]
  · rw [routed]
    exact laid.routed
  · intro entry member
    rcases List.mem_append.mp member with old | new
    · rw [kept entry.1 (List.mem_map_of_mem old)]
      exact laid.widths entry old
    · obtain rfl := List.mem_singleton.mp new
      rw [own, size]

theorem wireContinuous_laid (laid : wiring.Laid ports []) (defaults : Params)
    (more : List (String × ContinuousPort))
    (ok : (wireContinuous defaults more wiring).result = .ok ()) :
    (wireContinuous defaults more wiring).state.Laid (ports ++ more) [] := by
  induction more generalizing wiring ports with
  | nil =>
    rw [List.append_nil]
    exact laid
  | cons entry more ih =>
    obtain ⟨port, settings⟩ := entry
    obtain ⟨buffers, bound, rest, final⟩ := Action.bind_success ok
    obtain ⟨⟨⟩, mapped, last, ended⟩ := Action.bind_success rest
    have next := ih (laid.bindContinuous bound mapped) last
    rw [List.append_assoc] at next
    rw [wireContinuous, final, ended]
    exact next

theorem Laid.bindEvents (laid : wiring.Laid ports routes) {port : String} {settings : EventPort}
    {defaults : Params} {buffers : List Nat}
    (bound : (Station.bindEventInput (settings.binding port defaults) wiring.station).result =
      .ok buffers)
    (mapped : (ChannelMap.mapEvents port buffers wiring.channels).result = .ok ()) :
    Laid
      { station := (Station.bindEventInput (settings.binding port defaults) wiring.station).state
        channels := (ChannelMap.mapEvents port buffers wiring.channels).state }
      ports (routes ++ [(port, ⟨buffers, settings.grouping⟩)]) := by
  obtain ⟨width, published, free, -, -, numbered, after⟩ := Station.bindEventInput_success bound
  have wired := ChannelMap.mapEvents_success mapped
  have keyed := congrArg ChannelMap.continuous wired
  have routed := congrArg ChannelMap.events wired
  constructor
  · rw [after]
    exact laid.follows.bindBuffers free numbered (fun _ => rfl) settings.grouping width published
  · rw [keyed]
    exact laid.keyed
  · rw [routed, laid.routed, List.map_append]
    rfl
  · exact laid.widths

theorem wireEvents_laid (laid : wiring.Laid ports routes) (defaults : Params)
    (more : List (String × EventPort)) (ok : (wireEvents defaults more wiring).result = .ok ()) :
    ∃ added : List (String × Route),
      added.map (fun entry => (entry.1, entry.2.grouping)) =
        more.map (fun entry => (entry.1, entry.2.grouping)) ∧
      (wireEvents defaults more wiring).state.Laid ports (routes ++ added) := by
  induction more generalizing wiring routes with
  | nil => exact ⟨[], rfl, by rwa [List.append_nil]⟩
  | cons entry more ih =>
    obtain ⟨port, settings⟩ := entry
    obtain ⟨buffers, bound, rest, final⟩ := Action.bind_success ok
    obtain ⟨⟨⟩, mapped, last, ended⟩ := Action.bind_success rest
    obtain ⟨added, same, next⟩ := ih (laid.bindEvents bound mapped) last
    rw [List.append_assoc] at next
    rw [wireEvents, final, ended]
    exact ⟨_, by simp [same], next⟩

theorem wire_laid {config : ProducerConfig} {directory : Directory}
    (ok : (wire config (Producer.unwired config directory)).result = .ok ()) :
    ∃ routes : List (String × Route),
      routes.map (fun entry => (entry.1, entry.2.grouping)) =
        config.events.entries.map (fun entry => (entry.1, entry.2.grouping)) ∧
      (wire config (Producer.unwired config directory)).state.Laid config.continuous.entries routes := by
  have start : (Producer.unwired config directory).Laid [] [] :=
    { follows := .nothing rfl rfl rfl _
      keyed := rfl
      routed := rfl
      widths := by simp }
  obtain ⟨⟨⟩, wired, rest, final⟩ := Action.bind_success ok
  obtain ⟨routes, same, laid⟩ := wireEvents_laid (wireContinuous_laid start _ _ wired) _ _ rest
  rw [wire, final]
  exact ⟨routes, same, laid⟩

end Wiring

namespace ProducerConfig

theorem nodup_of_firstRepeated {names seen : List String} (none : firstRepeated seen names = none) :
    names.Nodup ∧ ∀ name ∈ names, name ∉ seen := by
  induction names generalizing seen with
  | nil => simp
  | cons name names ih =>
    simp only [firstRepeated] at none
    split at none
    · simp at none
    · rename_i unseen
      obtain ⟨distinct, others⟩ := ih none
      grind

theorem channelNames_nodup {config : ProducerConfig} (valid : config.validate = .ok ()) :
    config.channelNames.Nodup := by
  cases repeated : firstRepeated [] config.channelNames with
  | none => exact (nodup_of_firstRepeated repeated).1
  | some name =>
    unfold validate at valid
    rw [repeated] at valid
    simp only [bind, Except.bind, throw, throwThe, MonadExceptOf.throw] at valid
    -- Whatever the checks before say, the repeated name is the last of them.
    repeat' split at valid
    all_goals cases valid

end ProducerConfig

namespace Producer

/-- A producer that was set up has the wiring of its configuration. -/
theorem ofConfig_eq {config : ProducerConfig} {directory : Directory} {sink : Sink}
    {producer : Producer}
    (ok : (ofConfig config sink (unwired config directory)).result = .ok producer) :
    let wired := Wiring.wire config (unwired config directory)
    config.validate = .ok () ∧ wired.result = .ok () ∧
      ∃ codec, producer =
        { station := wired.state.station, channels := wired.state.channels, codec, sink,
          timestep := config.timestep, totalTime := config.totalTime } := by
  unfold ofConfig at ok
  obtain ⟨⟨⟩, valid, rest, -⟩ := Action.bind_success ok
  rw [Action.settle_state] at rest
  obtain ⟨codec, chosen, rest, -⟩ := Action.bind_success rest
  rw [Action.settle_state] at rest
  obtain ⟨⟨⟩, -, rest, -⟩ := Action.bind_success rest
  obtain ⟨⟨⟩, wired, rest, -⟩ := Action.bind_success rest
  obtain rfl := Except.ok.inj rest
  have passed : config.validate = .ok () := by
    cases checked : config.validate with
    | ok => rfl
    | error fault => simp [checked, Except.mapError] at valid
  exact ⟨passed, wired, codec, rfl⟩

/-- A producer that was set up has laid all its ports and sent nothing yet. -/
theorem ofConfig_success {config : ProducerConfig} {directory : Directory} {sink : Sink}
    {producer : Producer}
    (ok : (ofConfig config sink (unwired config directory)).result = .ok producer) :
    config.validate = .ok () ∧ producer.sink = sink ∧ producer.stats = {} ∧
      ∃ routes : List (String × Route),
        routes.map (fun entry => (entry.1, entry.2.grouping)) =
          config.events.entries.map (fun entry => (entry.1, entry.2.grouping)) ∧
        Wiring.Laid ⟨producer.station, producer.channels⟩ config.continuous.entries routes := by
  obtain ⟨passed, wired, codec, rfl⟩ := ofConfig_eq ok
  obtain ⟨routes, same, laid⟩ := Wiring.wire_laid wired
  exact ⟨passed, rfl, rfl, routes, same, laid⟩

end Producer
end Telemetry
