import Telemetry.ChannelMap
import Telemetry.Clock
import Telemetry.Config
import Telemetry.Duration
import Telemetry.Transport.Sink

/-! A producer: the station of a simulation together with the channel map and the sink of its
deltas. Once per tick it records the continuous ports, publishes what the buffers hold, and then
clears them, so that an event travels with the next tick after it, exactly once. -/
namespace Telemetry

/-- Counts over the ticks that were published. -/
structure ProducerStats where
  ticks : Nat := 0
  bytes : Nat := 0
  events : Nat := 0
  lastTime : Option Binary64 := none
  deriving DecidableEq, Repr

namespace ProducerStats

def record (time : Binary64) (bytes events : Nat) (stats : ProducerStats) : ProducerStats :=
  { ticks := stats.ticks + 1, bytes := stats.bytes + bytes, events := stats.events + events,
    lastTime := some time }

/-- Mean length of a tick when all of them took `total` together. -/
def meanCycle (stats : ProducerStats) (total : Duration) : Duration := total.mean stats.ticks

end ProducerStats

structure Wiring where
  station : Station
  channels : ChannelMap := {}

namespace Wiring

def onStation {α : Type} (action : Action Station α) : Action Wiring α :=
  action.within (·.station) fun wiring station => { wiring with station }

def onChannels {α : Type} (action : Action ChannelMap α) : Action Wiring α :=
  action.within (·.channels) fun wiring channels => { wiring with channels }

def wireContinuous (defaults : Params) : List (String × ContinuousPort) → Action Wiring Unit
  | [] => Action.done ()
  | (port, settings) :: ports => do
    let buffers ← onStation (Station.bindContinuousInput (settings.binding port defaults))
    onChannels (ChannelMap.mapContinuous settings.keys buffers)
    wireContinuous defaults ports

def wireEvents (defaults : Params) : List (String × EventPort) → Action Wiring Unit
  | [] => Action.done ()
  | (port, settings) :: ports => do
    let buffers ← onStation (Station.bindEventInput (settings.binding port defaults))
    onChannels (ChannelMap.mapEvents port buffers)
    wireEvents defaults ports

def wire (config : ProducerConfig) : Action Wiring Unit := do
  wireContinuous config.continuousDefaults config.continuous.entries
  wireEvents config.eventDefaults config.events.entries

end Wiring

structure Producer where
  station : Station
  channels : ChannelMap
  codec : Codec
  sink : Sink
  timestep : Binary64
  totalTime : Option Binary64
  stats : ProducerStats := {}

namespace Producer

/-- Wiring of a configuration before its first port. -/
def unwired (config : ProducerConfig) (directory : Directory) : Wiring :=
  { station := .ofDirectory directory config.unconnected .singleStep }

/-- Sets a producer up, on the wiring that `unwired` gives. -/
def ofConfig (config : ProducerConfig) (sink : Sink) : Action Wiring Producer := do
  Action.settle (config.validate.mapError .fault)
  let codec ← Action.settle (config.link.codec.mapError .fault)
  Action.log .info "Opening buffered ports..."
  Wiring.wire config
  let wiring ← Action.read
  let ports := config.continuous.entries.length + config.events.entries.length
  Action.log .info
    (s!"Producer ready: {ports} ports, {wiring.channels.size} channels, " ++
      s!"{wiring.station.recorder.buffers.length} buffers, codec {codec}, " ++
      s!"publishing on {sink.address}")
  return { station := wiring.station, channels := wiring.channels, codec, sink,
           timestep := config.timestep, totalTime := config.totalTime }

def onStation {α : Type} (action : Action Station α) : Action Producer α :=
  action.within (·.station) fun producer station => { producer with station }

def onSink {α : Type} (action : Action Sink α) : Action Producer α :=
  action.within (·.sink) fun producer sink => { producer with sink }

def deliverEvent (port : String) (index : Nat) (time : Binary64) : Action Producer Unit :=
  onStation (Station.deliverEvent port index time)

def writeContinuous (port : String) (values : List Binary64) : Action Producer Unit :=
  onStation (Station.writeContinuous port values)

def delta (producer : Producer) (now : Binary64) : Delta :=
  producer.channels.delta producer.station.recorder.buffers now

/-- Sends the delta of a tick; answers its size and its number of events. -/
def publish (now : Binary64) : Action Producer (Nat × Nat) := do
  let producer ← Action.read
  let delta := producer.delta now
  let payload := producer.codec.encode delta
  onSink (Sink.send payload)
  return (payload.length, delta.eventCount)

/-- One tick; answers the size of the payload. The buffers are cleared when sending fails, too,
so that no event of a failed tick shows up in a later one. -/
def step (now : Binary64) : Action Producer Nat := do
  onStation (Station.beginTick now)
  let published ← Action.attempt (publish now)
  onStation (Station.endTick now)
  let (bytes, events) ← Action.settle published
  Action.change fun producer => { producer with stats := producer.stats.record now bytes events }
  return bytes

def steps : List Binary64 → Action Producer Unit
  | [] => Action.done ()
  | now :: times => do
    let _ ← step now
    steps times

/-- Steps through the times that lie within the runtime. -/
def run (times : List Binary64) : Action Producer ProducerStats := do
  let producer ← Action.read
  Action.log .info s!"Dropping to runtime with timestep {producer.timestep}..."
  steps (Clock.runtime producer.timestep producer.totalTime times)
  let stats := (← Action.read).stats
  Action.log .info
    (s!"Producer finished after {stats.ticks} ticks ({stats.bytes} bytes, " ++
      s!"mean cycle {Duration.unspecified}, max cycle {Duration.unspecified})")
  return stats

def close : Action Producer Unit := onSink Sink.close

end Producer
end Telemetry
