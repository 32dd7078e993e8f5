import Telemetry.Config
import Telemetry.History.Summary
import Telemetry.Multiplexer
import Telemetry.Schedule

/-! A consumer: subscriptions that feed one history, and periodic tasks. One tick drains the
subscriptions and then runs the tasks that are due. -/
namespace Telemetry

structure ConsumerStats where
  ticks : Nat := 0
  messages : Nat := 0
  filtered : Nat := 0
  failures : Nat := 0
  tasksRun : Nat := 0
  deriving DecidableEq, Repr

def ConsumerStats.record (report : TickReport) (tasksRun : Nat) (stats : ConsumerStats) :
    ConsumerStats where
  ticks := stats.ticks + 1
  messages := stats.messages + report.delivered
  filtered := stats.filtered + report.filtered
  failures := stats.failures + report.failures.length
  tasksRun := stats.tasksRun + tasksRun

/-- What a periodic task does. -/
inductive Job
  /-- Drops what lies further back than this behind the latest tick. -/
  | truncate (retention : Binary64)
  /-- Prints a summary of this much simulation time. -/
  | redraw (window : Binary64)
  /-- Work of the caller's own, outside the consumer. -/
  | external
  deriving DecidableEq, Repr

structure Consumer where
  multiplexer : Multiplexer := {}
  schedule : Schedule Job := []
  history : History := {}
  cancelled : Bool := false
  stats : ConsumerStats := {}
  printed : List String := []

namespace Consumer

def onMultiplexer {α : Type} (action : Action Multiplexer α) : Action Consumer α :=
  action.within (·.multiplexer) fun consumer multiplexer => { consumer with multiplexer }

def onSchedule {α : Type} (action : Action (Schedule Job) α) : Action Consumer α :=
  action.within (·.schedule) fun consumer schedule => { consumer with schedule }

def onHistory {α : Type} (action : Action History α) : Action Consumer α :=
  action.within (·.history) fun consumer history => { consumer with history }

def subscribe (source : Source) (topic : Bytes) (codec : Codec) : Action Consumer Unit :=
  onMultiplexer (Multiplexer.subscribe ⟨source, topic, some codec⟩)

def addTask (name : String) (job : Job) (interval : Nat) : Action Consumer Nat :=
  onSchedule (Schedule.add name job interval)

def addTruncateTask (retention : Binary64) (interval : Nat) : Action Consumer Nat :=
  addTask "truncate" (.truncate retention) interval

def handle : Payload → Action History Unit
  | .raw _ => Action.done ()
  | .delta delta => do
    match ← History.read delta with
    | .applied => return ()
    | .restarted _ => Action.log .debug "Receiver history reset by producer restart"

def drainSubscriptions : Action Consumer TickReport := do
  let consumer ← Action.read
  let (multiplexer, report) ← onHistory (consumer.multiplexer.tick fun _ => handle)
  Action.change fun consumer =>
    { consumer with multiplexer, cancelled := consumer.cancelled || multiplexer.stopped }
  return report

def truncateBehind (retention : Binary64) : Action History Unit := do
  match (← Action.read).latest with
  | none => return ()
  | some latest => do let _ ← History.truncate (some (latest - retention)) none

def redraw (window : Binary64) : Action Consumer Unit := do
  let (lines, breach) := (← Action.read).history.summary window
  Action.change fun consumer => { consumer with printed := consumer.printed ++ lines }
  match breach with
  | none => return ()
  | some breach => Action.breach breach

def perform : Job → Action Consumer Unit
  | .truncate retention => onHistory (truncateBehind retention)
  | .redraw window => redraw window
  | .external => Action.done ()

def performAll : List (Task Job) → Action Consumer Unit
  | [] => Action.done ()
  | task :: tasks => do
    perform task.job
    performAll tasks

/-- Runs the tasks that are due; answers how many there were. -/
def runTasks (now : Nat) : Action Consumer Nat := do
  let schedule := (← Action.read).schedule
  let due := schedule.due now
  performAll due
  Action.change fun consumer => { consumer with schedule := schedule.tick now }
  return due.length

def tick (now : Nat) : Action Consumer TickReport := do
  let report ← drainSubscriptions
  let tasksRun ← runTasks now
  Action.change fun consumer => { consumer with stats := consumer.stats.record report tasksRun }
  return report

def cancel : Action Consumer Unit := Action.change fun consumer => { consumer with cancelled := true }

/-- Ticks at the given clock readings until the run is cancelled, at the latest after the last of
them. -/
def ticks : List Nat → Action Consumer Unit
  | [] => Action.done ()
  | now :: readings => do
    if (← Action.read).cancelled then return ()
    let report ← tick now
    if readings.isEmpty then cancel
    if report.isIdle && (← Action.read).cancelled then
      Action.log .info "Consumer loop cancelled"
    ticks readings

/-- Runs until cancelled, and closes all subscriptions. -/
def run (readings : List Nat) : Action Consumer ConsumerStats := do
  let consumer ← Action.read
  Action.log .info
    (s!"Consumer running with {consumer.multiplexer.subscriptions.length} subscriptions and " ++
      s!"{consumer.schedule.length} periodic tasks")
  ticks readings
  onMultiplexer Multiplexer.close
  let stats := (← Action.read).stats
  Action.log .info
    (s!"Consumer stopped after {stats.ticks} ticks ({stats.messages} messages, " ++
      s!"{stats.failures} failures)")
  return stats

/-- The network as a consumer finds it: what connecting to an endpoint meets. -/
abbrev Reach := String → Except String Unit

def connect (reach : Reach) (link : Link) : Action Consumer Unit := do
  let codec ← Action.settle (link.codec.mapError .fault)
  let endpoint := toString link.endpoint
  let subscriber ← Subscriber.connect endpoint link.topic (reach endpoint)
  subscribe (.socket subscriber) (Bytes.ofText link.topic) codec

def connectAll (reach : Reach) : List Link → Action Consumer Unit
  | [] => Action.done ()
  | link :: links => do
    connect reach link
    connectAll reach links

/-- Sets up an empty consumer: subscriptions, and a task that truncates the history. -/
def configure (config : ConsumerConfig) (reach : Reach) : Action Consumer Unit := do
  Action.settle (config.validate.mapError .fault)
  connectAll reach config.subscriptions
  let _ ← addTruncateTask config.retention config.truncateInterval

end Consumer
end Telemetry
