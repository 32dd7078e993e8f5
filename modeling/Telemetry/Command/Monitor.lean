import Telemetry.Command.Arguments
import Telemetry.Command.Terminal
import Telemetry.Consumer

/-! The `monitor` command: subscribes to producers and prints a summary of what arrives. -/
namespace Telemetry.Command

def countersToJson (stats : ConsumerStats) : Json.Value :=
  .object [("ticks", .natural stats.ticks), ("messages", .natural stats.messages),
    ("filtered", .natural stats.filtered), ("failures", .natural stats.failures),
    ("tasks_run", .natural stats.tasksRun)]

def monitorStats (consumer : Consumer) : Json.Value :=
  .object [("consumer", countersToJson consumer.stats),
    ("restarts", .natural consumer.history.restarts),
    ("min_time", .optional .real consumer.history.earliest),
    ("max_time", .optional .real consumer.history.latest),
    ("retained_samples", .natural consumer.history.sampleCount)]

def monitorLine (consumer : Consumer) : String :=
  s!"Received {consumer.stats.messages} deltas ({consumer.stats.filtered} filtered, " ++
    s!"{consumer.stats.failures} failures, {consumer.history.restarts} restarts)"

/-- A duration is a finite number of seconds that is not negative. -/
def acceptsDuration (duration : Binary64) : Bool :=
  duration.isFinite && Binary64.zero ≤ duration

def watch (host : Host) (config : ConsumerConfig) : Action Consumer Unit := do
  Consumer.configure config host.reach
  let _ ← Consumer.addTask "redraw" (.redraw config.displayWindow) config.redrawInterval

def runMonitor (host : Host) (arguments : MonitorArguments) (config : ConsumerConfig) :
    Action Terminal Nat := do
  match ← Terminal.inside (watch host config) {} with
  | (_, .error fault) => Terminal.report fault
  | (consumer, .ok ()) =>
    let duration : Option Duration ←
      match arguments.duration with
      | none => pure none
      | some seconds => do
        pure (some (← Action.settle ((Duration.ofSeconds seconds).mapError .breach)))
    match ← Terminal.inside (Consumer.run (host.readings duration)) consumer with
    | (_, .error fault) => Terminal.report fault
    | (consumer, .ok _) =>
      Terminal.printAll consumer.printed
      Terminal.print (monitorLine consumer)
      Terminal.writeStats host arguments.statsOut (monitorStats consumer) successCode

def monitor (host : Host) (arguments : MonitorArguments) : Action Terminal Nat := do
  match arguments.duration.filter (!acceptsDuration ·) with
  | some duration =>
    Terminal.printError s!"--duration must be a non-negative number of seconds, got {duration}"
    return inputErrorCode
  | none =>
    match ConsumerConfig.load (host.fileContent arguments.config) with
    | .error fault => Terminal.report fault
    | .ok config => runMonitor host arguments config

end Telemetry.Command
