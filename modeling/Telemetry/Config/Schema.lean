import Telemetry.Config
import Telemetry.History
import Telemetry.Json.Schema

/-! JSON form of settings and of the types they are made of. -/
namespace Telemetry
open Json Json.Schema

namespace Sample

def decode : Decoder Sample := fun document => do
  let (time, value) ← Schema.pair Schema.real Schema.real document
  return ⟨time, value⟩

def toJson (sample : Sample) : Value := Wire.JsonText.ofSample sample

end Sample

namespace EventKey

def decode : Decoder EventKey :=
  record [⟨"channel", true⟩, ⟨"index", true⟩] ⟨"", 0⟩ fun name document key =>
    match name with
    | "channel" => do return { key with channel := ← Schema.text document }
    | _ => do return { key with index := ← word document }

def toJson (key : EventKey) : Value :=
  .object [("channel", .text key.channel), ("index", .natural key.index)]

end EventKey

namespace Pruning

def decode : Decoder Pruning :=
  variant ["Retain", "SlidingWindow"] fun name payload =>
    match name with
    | "Retain" => plain .retain payload
    | _ => carrying (fun document => do return .sliding (← Schema.real document)) payload

def toJson : Pruning → Value
  | .retain => .text "Retain"
  | .sliding window => .object [("SlidingWindow", .real window)]

end Pruning

namespace BufferMetrics

def decode : Decoder BufferMetrics :=
  record [⟨"total_appended", true⟩, ⟨"total_pruned", true⟩, ⟨"current_size", true⟩] ⟨0, 0, 0⟩
    fun name document metrics =>
      match name with
      | "total_appended" => do return { metrics with appended := ← word document }
      | "total_pruned" => do return { metrics with pruned := ← word document }
      | _ => do return { metrics with size := ← word document }

def toJson (metrics : BufferMetrics) : Value :=
  .object [("total_appended", .natural metrics.appended), ("total_pruned", .natural metrics.pruned),
    ("current_size", .natural metrics.size)]

end BufferMetrics

namespace Retention

def tag : Decoder Bool
  | .text (some "windowed") => .ok true
  | .text (some "single_step") => .ok false
  | .text (some name) => .error (.unknownVariant name ["windowed", "single_step"])
  | _ => .error .malformed

def realOf : Value → Except SchemaFault Binary64
  | .number (.integer n) => .ok (.ofInt n)
  | .number (.real x) => .ok x
  | _ => .error .malformed

/-- Fields of a tagged object in the order of the text: the tag, and the other fields as free
values. -/
def tagged (policy : Option Bool) (others : List (String × Value)) :
    List (Option String × Document) → Except SchemaFault (Option Bool × List (String × Value))
  | [] => .ok (policy, others.reverse)
  | (none, _) :: _ => .error .malformed
  | (some name, document) :: rest =>
    if name = "policy" then
      if policy.isSome then .error (.duplicateField name)
      else do tagged (some (← tag document)) others rest
    else do tagged policy ((name, ← value (depthLimit - 1) document) :: others) rest

/-- The tag may stand anywhere among the fields; an array starts with it. -/
def decode : Decoder Retention
  | .object fields closed => do
    let (policy, others) ← tagged none [] fields
    if !closed then throw .malformed
    match policy with
    | none => throw (.missingField "policy")
    | some false => return .singleStep
    | some true =>
      match others.filter (·.1 = "window") with
      | [] => throw (.missingField "window")
      | [(_, window)] => return .windowed (← realOf window)
      | (_, window) :: _ =>
        let _ ← realOf window
        throw (.duplicateField "window")
  | .array [] true => .error (.missingField "policy")
  | .array (first :: rest) closed => do
    let isWindowed ← tag first
    let others ← values (depthLimit - 1) rest
    if !closed then throw .malformed
    match isWindowed, others with
    | false, [] => return .singleStep
    | true, [window] => return .windowed (← realOf window)
    | _, _ => throw .malformed
  | _ => .error .malformed

def toJson : Retention → Value
  | .windowed window => .object [("policy", .text "windowed"), ("window", .real window)]
  | .singleStep => .object [("policy", .text "single_step")]

end Retention

namespace PortKind

def wireName : PortKind → String
  | .continuousInput => "continuous_input"
  | .continuousOutput => "continuous_output"
  | .eventInput => "event_input"
  | .eventOutput => "event_output"

def decode : Decoder PortKind :=
  variant ["continuous_input", "continuous_output", "event_input", "event_output"]
    fun name payload =>
      match name with
      | "continuous_input" => plain .continuousInput payload
      | "continuous_output" => plain .continuousOutput payload
      | "event_input" => plain .eventInput payload
      | _ => plain .eventOutput payload

def toJson (kind : PortKind) : Value := .text kind.wireName

end PortKind

namespace PortWidth

def decode : Decoder PortWidth :=
  variant ["Connected", "Fallback"] fun name payload =>
    match name with
    | "Connected" => carrying (fun document => do return .connected (← word document)) payload
    | _ => carrying (fun document => do return .fallback (← word document)) payload

def toJson : PortWidth → Value
  | .connected width => .object [("Connected", .natural width)]
  | .fallback width => .object [("Fallback", .natural width)]

end PortWidth

namespace UnconnectedPolicy

def decode : Decoder UnconnectedPolicy :=
  variant ["warn", "fail"] fun name payload =>
    match name with
    | "warn" => plain .warn payload
    | _ => plain .fail payload

def toJson : UnconnectedPolicy → Value
  | .warn => .text "warn"
  | .fail => .text "fail"

end UnconnectedPolicy

namespace Grouping

def decode : Decoder Grouping :=
  variant ["identity", "aggregate"] fun name payload =>
    match name with
    | "identity" => plain .identity payload
    | _ => carrying (fun document => do return .aggregate (← word document)) payload

def toJson : Grouping → Value
  | .identity => .text "identity"
  | .aggregate size => .object [("aggregate", .natural size)]

end Grouping

namespace Codec

def decodeName : Decoder Codec :=
  variant names fun name payload =>
    match ofName? name with
    | some codec => plain codec payload
    | none => .error .malformed

def toJson (codec : Codec) : Value := .text codec.name

end Codec

def portNumber : Decoder Nat := natural UInt16.size

namespace Endpoint

def decode : Decoder Endpoint :=
  record [⟨"transport", true⟩, ⟨"host", true⟩, ⟨"port", true⟩] ⟨"", "", 0⟩
    fun name document endpoint =>
      match name with
      | "transport" => do return { endpoint with transport := ← Schema.text document }
      | "host" => do return { endpoint with host := ← Schema.text document }
      | _ => do return { endpoint with port := ← portNumber document }

def toJson (endpoint : Endpoint) : Value :=
  .object [("transport", .text endpoint.transport), ("host", .text endpoint.host),
    ("port", .natural endpoint.port)]

end Endpoint

namespace Link

def set (name : String) (document : Document) (link : Link) : Except SchemaFault Link := do
  match name with
  | "format" => return { link with format := ← Schema.text document }
  | "transport" => return { link with transport := ← Schema.text document }
  | "host" => return { link with host := ← Schema.text document }
  | "port" => return { link with port := ← portNumber document }
  | _ => return { link with topic := ← Schema.text document }

def decode : Decoder Link :=
  record [⟨"format", false⟩, ⟨"transport", false⟩, ⟨"host", false⟩, ⟨"port", false⟩,
    ⟨"topic", false⟩] {} set

def toJson (link : Link) : Value :=
  .object [("format", .text link.format), ("transport", .text link.transport),
    ("host", .text link.host), ("port", .natural link.port), ("topic", .text link.topic)]

/-- A subscription has the fields of a link in an order of its own. -/
def decodeSubscription : Decoder Link :=
  record [⟨"host", false⟩, ⟨"port", false⟩, ⟨"transport", false⟩, ⟨"topic", false⟩,
    ⟨"format", false⟩] {} set

def subscriptionToJson (link : Link) : Value :=
  .object [("host", .text link.host), ("port", .natural link.port),
    ("transport", .text link.transport), ("topic", .text link.topic), ("format", .text link.format)]

end Link

def Params.toJson (params : Params) : Value := .object params.entries

namespace ContinuousPort

def decode : Decoder ContinuousPort :=
  record [⟨"keys", true⟩, ⟨"fallback_width", false⟩, ⟨"initial_value", false⟩, ⟨"params", false⟩]
    { keys := [] } fun name document port => do
      match name with
      | "keys" => return { port with keys := ← list Schema.text document }
      | "fallback_width" => return { port with fallbackWidth := ← Schema.optional word document }
      | "initial_value" =>
        return { port with initial := ← Schema.optional (list Schema.real) document }
      | _ => return { port with params := ← freeTable 3 document }

def toJson (port : ContinuousPort) : Value :=
  .object [("keys", .array (port.keys.map .text)),
    ("fallback_width", .optional .natural port.fallbackWidth),
    ("initial_value", .optional (fun values => .array (values.map .real)) port.initial),
    ("params", Params.toJson port.params)]

end ContinuousPort

namespace EventPort

def decode : Decoder EventPort :=
  record [⟨"keys", true⟩, ⟨"fallback_width", false⟩, ⟨"aggregate", false⟩, ⟨"params", false⟩]
    { keys := 0 } fun name document port => do
      match name with
      | "keys" => return { port with keys := ← word document }
      | "fallback_width" => return { port with fallbackWidth := ← Schema.optional word document }
      | "aggregate" => return { port with aggregate := ← Schema.optional word document }
      | _ => return { port with params := ← freeTable 3 document }

def toJson (port : EventPort) : Value :=
  .object [("keys", .natural port.keys),
    ("fallback_width", .optional .natural port.fallbackWidth),
    ("aggregate", .optional .natural port.aggregate), ("params", Params.toJson port.params)]

end EventPort

def tableToJson {α : Type} (write : α → Value) (table : Table String α) : Value :=
  .object (table.map write).entries

namespace ProducerConfig

def decode : Decoder ProducerConfig :=
  record [⟨"communication", false⟩, ⟨"timestep", true⟩, ⟨"total_time", false⟩,
    ⟨"unconnected", false⟩, ⟨"continuous", false⟩, ⟨"events", false⟩,
    ⟨"continuous_defaults", false⟩, ⟨"event_defaults", false⟩] { timestep := .zero }
    fun name document config => do
      match name with
      | "communication" => return { config with link := ← Link.decode document }
      | "timestep" => return { config with timestep := ← Schema.real document }
      | "total_time" => return { config with totalTime := ← Schema.optional Schema.real document }
      | "unconnected" => return { config with unconnected := ← UnconnectedPolicy.decode document }
      | "continuous" =>
        return { config with continuous := ← Schema.table ContinuousPort.decode document }
      | "events" => return { config with events := ← Schema.table EventPort.decode document }
      | "continuous_defaults" =>
        return { config with continuousDefaults := ← freeTable 1 document }
      | _ => return { config with eventDefaults := ← freeTable 1 document }

def toJson (config : ProducerConfig) : Value :=
  .object [("communication", config.link.toJson), ("timestep", .real config.timestep),
    ("total_time", .optional .real config.totalTime),
    ("unconnected", config.unconnected.toJson),
    ("continuous", tableToJson ContinuousPort.toJson config.continuous),
    ("events", tableToJson EventPort.toJson config.events),
    ("continuous_defaults", Params.toJson config.continuousDefaults),
    ("event_defaults", Params.toJson config.eventDefaults)]

end ProducerConfig

namespace ConsumerConfig

def decode : Decoder ConsumerConfig :=
  record [⟨"subscriptions", true⟩, ⟨"display_window", false⟩, ⟨"redraw_interval_ms", false⟩,
    ⟨"truncate_interval_ms", false⟩, ⟨"truncate_slack", false⟩, ⟨"poll_timeout_us", false⟩,
    ⟨"idle_backoff_ms", false⟩] { subscriptions := [] } fun name document config => do
      match name with
      | "subscriptions" =>
        return { config with subscriptions := ← list Link.decodeSubscription document }
      | "display_window" => return { config with displayWindow := ← Schema.real document }
      | "redraw_interval_ms" => return { config with redrawInterval := ← word document }
      | "truncate_interval_ms" => return { config with truncateInterval := ← word document }
      | "truncate_slack" => return { config with truncateSlack := ← Schema.real document }
      | "poll_timeout_us" => return { config with pollTimeout := ← word document }
      | _ => return { config with idleBackoff := ← word document }

def toJson (config : ConsumerConfig) : Value :=
  .object [("subscriptions", .array (config.subscriptions.map Link.subscriptionToJson)),
    ("display_window", .real config.displayWindow),
    ("redraw_interval_ms", .natural config.redrawInterval),
    ("truncate_interval_ms", .natural config.truncateInterval),
    ("truncate_slack", .real config.truncateSlack),
    ("poll_timeout_us", .natural config.pollTimeout),
    ("idle_backoff_ms", .natural config.idleBackoff)]

end ConsumerConfig

/-- What reading a file gave: its bytes, or the words of the system for why there are none. -/
abbrev FileContent := Except String Bytes

def load {α : Type} (decoder : Decoder α) (validate : α → Except Fault Unit)
    (content : FileContent) : Except Fault α := do
  let bytes ← content.mapError .io
  match bytes.toText? with
  | none => throw (.io "stream did not contain valid UTF-8")
  | some _ =>
    let config ← (Schema.decode decoder bytes).mapError .json
    validate config
    return config

def ProducerConfig.load : FileContent → Except Fault ProducerConfig :=
  Telemetry.load ProducerConfig.decode ProducerConfig.validate

def ConsumerConfig.load : FileContent → Except Fault ConsumerConfig :=
  Telemetry.load ConsumerConfig.decode ConsumerConfig.validate

def Json.Value.toText (value : Value) : String := value.render .json

end Telemetry
