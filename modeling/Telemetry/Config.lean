import Telemetry.Codec
import Telemetry.Station

/-! Settings of producers and consumers, and what makes them valid. Validation answers the first
thing that is wrong, in a fixed order. -/
namespace Telemetry

structure Endpoint where
  transport : String
  host : String
  port : Nat
  deriving DecidableEq, Repr

instance : ToString Endpoint :=
  ⟨fun endpoint => s!"{endpoint.transport}://{endpoint.host}:{endpoint.port}"⟩

def Codec.ofName (name : String) : Except Fault Codec :=
  match Codec.ofName? name with
  | some codec => .ok codec
  | none => .error (.config (.unknownCodec name Codec.names))

structure Link where
  format : String := Codec.standard.name
  transport : String := "tcp"
  host : String := "127.0.0.1"
  port : Nat := 8001
  topic : String := ""
  deriving DecidableEq, Repr

def Link.endpoint (link : Link) : Endpoint := ⟨link.transport, link.host, link.port⟩

def Link.codec (link : Link) : Except Fault Codec := Codec.ofName link.format

/-- A continuous input port: one channel per element. -/
structure ContinuousPort where
  keys : List String
  /-- The number of keys, when given. -/
  fallbackWidth : Option Nat := none
  initial : Option (List Binary64) := none
  params : Params := .empty
  deriving Repr

/-- An event input port. -/
structure EventPort where
  keys : Nat
  /-- The number of indices, when given. -/
  fallbackWidth : Option Nat := none
  /-- So many consecutive indices share a buffer. -/
  aggregate : Option Nat := none
  params : Params := .empty
  deriving Repr

structure ProducerConfig where
  link : Link := {}
  /-- Simulation time between ticks. -/
  timestep : Binary64
  /-- Last tick; without one there is no end. -/
  totalTime : Option Binary64 := none
  unconnected : UnconnectedPolicy := .warn
  continuous : Table String ContinuousPort := .empty
  events : Table String EventPort := .empty
  continuousDefaults : Params := .empty
  eventDefaults : Params := .empty
  deriving Repr

structure ConsumerConfig where
  subscriptions : List Link
  /-- Simulation time that a display shows. -/
  displayWindow : Binary64 := .ofNat 10
  redrawInterval : Nat := 50
  truncateInterval : Nat := 5000
  /-- Simulation time kept beyond the display window. -/
  truncateSlack : Binary64 := .one
  /-- Microseconds that a poll waits for a message. -/
  pollTimeout : Nat := 0
  /-- Milliseconds to sleep after a tick that delivered nothing. -/
  idleBackoff : Nat := 1
  deriving Repr

def ContinuousPort.binding (config : ContinuousPort) (port : String) (defaults : Params) :
    ContinuousBinding :=
  ⟨port, some config.keys.length, config.initial, defaults.merge config.params⟩

def EventPort.grouping (config : EventPort) : Grouping :=
  match config.aggregate with
  | none => .identity
  | some size => .aggregate size

def EventPort.binding (config : EventPort) (port : String) (defaults : Params) : EventBinding :=
  ⟨port, some config.keys, config.grouping, defaults.merge config.params⟩

def ensure (condition : Bool) (cause : ConfigFault) : Except Fault Unit :=
  if condition then .ok () else .error (.config cause)

def checkPositive (setting : String) (value : Binary64) : Except Fault Unit :=
  ensure (value.isFinite && Binary64.zero < value) (.notPositive setting value)

def checkNonNegative (setting : String) (value : Binary64) : Except Fault Unit :=
  ensure (value.isFinite && Binary64.zero ≤ value) (.negative setting value)

def ContinuousPort.validate (port : String) (config : ContinuousPort) : Except Fault Unit := do
  let keys := config.keys.length
  ensure (keys ≠ 0) (.continuousWithoutKeys port)
  match config.fallbackWidth with
  | some width => ensure (width = keys) (.continuousWidth port width keys)
  | none => pure ()
  match config.initial with
  | some initial => ensure (initial.length = keys) (.continuousInitial port initial.length keys)
  | none => pure ()

def EventPort.validate (port : String) (config : EventPort) : Except Fault Unit := do
  ensure (config.keys ≠ 0) (.eventWithoutKeys port)
  match config.fallbackWidth with
  | some width => ensure (width = config.keys) (.eventWidth port width config.keys)
  | none => pure ()
  ensure (config.aggregate ≠ some 0) (.eventGroup port)

/-- First name that stands further in front already. -/
def firstRepeated (seen : List String) : List String → Option String
  | [] => none
  | name :: names => if seen.contains name then some name else firstRepeated (name :: seen) names

namespace ProducerConfig

/-- Channel names on the wire: the keys of the continuous ports and the names of the event
ports. -/
def channelNames (config : ProducerConfig) : List String :=
  config.continuous.values.flatMap (·.keys) ++ config.events.keys

def validate (config : ProducerConfig) : Except Fault Unit := do
  let _ ← config.link.codec
  checkPositive "timestep" config.timestep
  match config.totalTime with
  | some total => checkNonNegative "total_time" total
  | none => pure ()
  config.continuous.entries.forM fun (port, config) => config.validate port
  config.events.entries.forM fun (port, config) => config.validate port
  match firstRepeated [] config.channelNames with
  | some name => throw (.config (.channelConfiguredTwice name))
  | none => return ()

def channelCount (config : ProducerConfig) : Nat :=
  (config.continuous.values.flatMap (·.keys)).length + config.events.entries.length

def continuousBindings (config : ProducerConfig) : List ContinuousBinding :=
  config.continuous.entries.map fun (port, settings) =>
    settings.binding port config.continuousDefaults

def eventBindings (config : ProducerConfig) : List EventBinding :=
  config.events.entries.map fun (port, settings) => settings.binding port config.eventDefaults

end ProducerConfig

namespace ConsumerConfig

def validate (config : ConsumerConfig) : Except Fault Unit := do
  ensure (!config.subscriptions.isEmpty) .noSubscription
  config.subscriptions.forM fun link => do let _ ← link.codec
  checkPositive "display_window" config.displayWindow
  checkNonNegative "truncate_slack" config.truncateSlack
  ensure (config.redrawInterval ≠ 0 && config.truncateInterval ≠ 0) .taskInterval

/-- Simulation time behind the newest tick that is kept. -/
def retention (config : ConsumerConfig) : Binary64 := config.displayWindow + config.truncateSlack

end ConsumerConfig
end Telemetry
