import Telemetry.Command.Arguments
import Telemetry.Command.Terminal

/-! The `check` command: validates a configuration file and describes what it sets up. -/
namespace Telemetry.Command

inductive PortFlavour
  | continuous
  | event
  deriving DecidableEq, Repr

def PortFlavour.name : PortFlavour → String
  | .continuous => "continuous"
  | .event => "event"

structure PortSummary where
  name : String
  flavour : PortFlavour
  width : Nat
  /-- Buffers after indices were grouped. -/
  buffers : Nat
  deriving DecidableEq, Repr

structure ProducerSummary where
  endpoint : Endpoint
  format : String
  timestep : Binary64
  totalTime : Option Binary64
  channels : Nat
  ports : List PortSummary
  deriving DecidableEq, Repr

structure ConsumerSummary where
  subscriptions : List (Endpoint × String)
  displayWindow : Binary64
  redrawInterval : Nat
  truncateInterval : Nat
  deriving DecidableEq, Repr

def PortSummary.ofContinuous (name : String) (port : ContinuousPort) : PortSummary :=
  ⟨name, .continuous, port.keys.length, port.keys.length⟩

/-- One buffer for each group of indices, the last of which may be smaller. -/
def PortSummary.ofEvents (name : String) (port : EventPort) : PortSummary :=
  let group := port.aggregate.getD 1
  ⟨name, .event, port.keys, (port.keys + (group - 1)) / group⟩

def ProducerSummary.ofConfig (config : ProducerConfig) : ProducerSummary where
  endpoint := config.link.endpoint
  format := config.link.format
  timestep := config.timestep
  totalTime := config.totalTime
  channels := config.channelCount
  ports :=
    config.continuous.entries.map (fun (name, port) => .ofContinuous name port) ++
      config.events.entries.map fun (name, port) => .ofEvents name port

def ConsumerSummary.ofConfig (config : ConsumerConfig) : ConsumerSummary where
  subscriptions := config.subscriptions.map fun link => (link.endpoint, link.format)
  displayWindow := config.displayWindow
  redrawInterval := config.redrawInterval
  truncateInterval := config.truncateInterval

inductive Summary
  | producer (summary : ProducerSummary)
  | consumer (summary : ConsumerSummary)
  deriving DecidableEq, Repr

def PortSummary.line (port : PortSummary) : String :=
  "  " ++ Column.left 24 port.name ++ " " ++ Column.left 10 port.flavour.name ++ " width " ++
    Column.right 4 (toString port.width) ++ ", " ++ Column.right 4 (toString port.buffers) ++
    " buffers"

def ProducerSummary.lines (summary : ProducerSummary) : List String :=
  [s!"Publishing on {summary.endpoint} ({summary.format}), timestep {summary.timestep}",
    match summary.totalTime with
    | some total => s!"Runtime: {total} (simulation time)"
    | none => "Runtime: unbounded",
    s!"{summary.channels} channels on {summary.ports.length} ports:"] ++
    summary.ports.map PortSummary.line

def subscriptionText (subscription : Endpoint × String) : String :=
  s!"{subscription.1} ({subscription.2})"

def ConsumerSummary.lines (summary : ConsumerSummary) : List String :=
  "Subscriptions:" :: summary.subscriptions.map ("  " ++ subscriptionText ·) ++
    [s!"Display window {summary.displayWindow}, redraw every {summary.redrawInterval} ms, " ++
      s!"truncate every {summary.truncateInterval} ms"]

def Summary.lines : Summary → List String
  | .producer summary => summary.lines
  | .consumer summary => summary.lines

def PortSummary.toJson (port : PortSummary) : Json.Value :=
  .object [("name", .text port.name), ("kind", .text port.flavour.name),
    ("width", .natural port.width), ("buffers", .natural port.buffers)]

def Summary.fields : Summary → List (String × Json.Value)
  | .producer summary =>
    [("role", .text "producer"), ("endpoint", .text (toString summary.endpoint)),
      ("format", .text summary.format), ("timestep", .real summary.timestep),
      ("total_time", .optional .real summary.totalTime), ("channels", .natural summary.channels),
      ("ports", .array (summary.ports.map PortSummary.toJson))]
  | .consumer summary =>
    [("role", .text "consumer"),
      ("subscriptions", .array (summary.subscriptions.map fun s => .text (subscriptionText s))),
      ("display_window", .real summary.displayWindow),
      ("redraw_interval_ms", .natural summary.redrawInterval),
      ("truncate_interval_ms", .natural summary.truncateInterval)]

def checkResult (file : String) (checked : Except Fault Summary) : Json.Value :=
  match checked with
  | .ok summary =>
    .object ([("file", .text file), ("valid", .bool true)] ++ summary.fields ++ [("error", .null)])
  | .error fault =>
    .object [("file", .text file), ("valid", .bool false), ("error", .text fault.message)]

def CheckTarget.path : CheckTarget → String
  | .producer path => path
  | .consumer path => path

def CheckTarget.load (target : CheckTarget) (host : Host) : Except Fault Summary :=
  match target with
  | .producer path =>
    (ProducerConfig.load (host.fileContent path)).map fun config => .producer (.ofConfig config)
  | .consumer path =>
    (ConsumerConfig.load (host.fileContent path)).map fun config => .consumer (.ofConfig config)

def check (host : Host) (target : CheckTarget) (json : Bool) : Action Terminal Nat := do
  let checked := target.load host
  if json then Terminal.print (Terminal.pretty (checkResult target.path checked))
  else
    match checked with
    | .ok summary =>
      Terminal.printAll (s!"Configuration '{target.path}' is valid" :: summary.lines)
    | .error fault => Terminal.printError fault.message
  match checked with
  | .ok _ => return successCode
  | .error fault => return exitCode fault

end Telemetry.Command
