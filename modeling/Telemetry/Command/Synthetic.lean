import Telemetry.Command.Arguments
import Telemetry.Command.Terminal

/-! The `synthetic` command: publishes synthetic data for all ports of a configuration. -/
namespace Telemetry.Command

def acceptsProbability (probability : Binary64) : Bool :=
  Binary64.zero ≤ probability && probability ≤ Binary64.one

/-- Wall time between two ticks. A clock cannot tick without any time in between. -/
def pacing (timestep : Binary64) : Except Breach Duration := do
  let period ← Duration.ofSeconds timestep
  if period = .zero then throw .zeroPeriod
  return period

/-- Times to publish at: ticks of the simulation clock from the first timestep on, up to the
total time and to the limit on their number. -/
def publishingTimes (host : Host) (config : ProducerConfig) (limit : Option Nat) :
    List Binary64 :=
  let count :=
    match limit, config.totalTime with
    | some limit, some total =>
      min (limit + 1) (Clock.horizon config.timestep (total + config.timestep))
    | some limit, none => limit + 1
    | none, some total => Clock.horizon config.timestep (total + config.timestep)
    | none, none => host.patience + 1
  let times := Clock.runtime config.timestep config.totalTime (Clock.ticks config.timestep count)
  match limit with
  | some limit => times.take limit
  | none => times

def totalsToJson (stats : ProducerStats) : Json.Value :=
  .object [("ticks", .natural stats.ticks), ("bytes_sent", .natural stats.bytes),
    ("events_sent", .natural stats.events), ("last_sim_time", .optional .real stats.lastTime)]

def publishedLine (stats : ProducerStats) : String :=
  s!"Published {stats.ticks} ticks ({stats.bytes} bytes, {stats.events} events), " ++
    s!"mean cycle {Duration.unspecified}"

/-- Binds a publisher and sets a producer up on it. No port has a peer here, and all of them run
on their configured widths. -/
def openProducer (host : Host) (config : ProducerConfig) : Action Wiring Producer := do
  let endpoint := toString config.link.endpoint
  match host.bind endpoint with
  | .error text => Action.fail (.connection text)
  | .ok () =>
    let publisher ← Publisher.bind endpoint config.link.topic
    Producer.ofConfig config (.socket publisher)

def runSynthetic (host : Host) (arguments : SyntheticArguments) (config : ProducerConfig) :
    Action Terminal Nat := do
  match ← Terminal.inside (openProducer host config)
      (Producer.unwired config Directory.unconnected) with
  | (_, .error fault) => Terminal.report fault
  | (_, .ok producer) =>
    let _ ← Action.settle ((pacing config.timestep).mapError .breach)
    Terminal.print s!"Publishing synthetic telemetry on {producer.sink.address}"
    let draws := host.draws arguments.seed arguments.eventProbability
    let times := publishingTimes host config arguments.ticks
    let (finished, published) ← Terminal.inside (SyntheticRun.run draws 0 times)
      ⟨.ofConfig config, producer⟩
    let code ←
      match published with
      | .ok () => pure successCode
      | .error fault => Terminal.report fault
    let (closed, closing) ← Terminal.inside Producer.close finished.producer
    match closing with
    | .ok () => pure ()
    | .error fault => Action.log .warn s!"Failed to close publisher: {fault.message}"
    Terminal.print (publishedLine closed.stats)
    Terminal.writeStats host arguments.statsOut (totalsToJson closed.stats) code

def synthetic (host : Host) (arguments : SyntheticArguments) : Action Terminal Nat := do
  if !acceptsProbability arguments.eventProbability then
    Terminal.printError
      s!"--event-probability must be within [0, 1], got {arguments.eventProbability}"
    return inputErrorCode
  else
    match ProducerConfig.load (host.fileContent arguments.config) with
    | .error fault => Terminal.report fault
    | .ok config => runSynthetic host arguments { config with unconnected := .warn }

end Telemetry.Command
