import Telemetry.Decimal.Text
import Telemetry.Wire.Node

/-! What can go wrong, by cause, and the wording of each cause. A fault is an answer of the
library; a breach is a call that breaks the contract of an operation. -/
namespace Telemetry

inductive ConfigFault
  | unknownCodec (name : String) (available : List String)
  | window (window : Binary64)
  | notPositive (setting : String) (value : Binary64)
  | negative (setting : String) (value : Binary64)
  | continuousWithoutKeys (port : String)
  | continuousWidth (port : String) (width keys : Nat)
  | continuousInitial (port : String) (length keys : Nat)
  | eventWithoutKeys (port : String)
  | eventWidth (port : String) (width keys : Nat)
  | eventGroup (port : String)
  | channelConfiguredTwice (channel : String)
  | noSubscription
  | taskInterval
  | publishedTwice (port : String)
  | noFallbackWidth (port : String)
  | initialLength (port : String) (length width : Nat)
  | groupZero (port : String)
  | mappedTwice (channel : String)
  | keyCount (keys buffers : Nat)
  | other (text : String)
  deriving DecidableEq, Repr

namespace ConfigFault

def message : ConfigFault → String
  | unknownCodec name available =>
    s!"unknown serializer '{name}' (available: " ++ ", ".intercalate available ++ ")"
  | window w => s!"time window must be positive and finite, got {w}"
  | notPositive setting value => s!"{setting} must be positive, got {value}"
  | negative setting value => s!"{setting} must be >= 0, got {value}"
  | continuousWithoutKeys port => s!"continuous port '{port}' has no keys"
  | continuousWidth port width keys =>
    s!"continuous port '{port}': fallback_width {width} does not match {keys} keys"
  | continuousInitial port length keys =>
    s!"continuous port '{port}': initial_value has {length} elements for {keys} keys"
  | eventWithoutKeys port => s!"event port '{port}' has no keys"
  | eventWidth port width keys =>
    s!"event port '{port}': fallback_width {width} does not match {keys} keys"
  | eventGroup port => s!"event port '{port}': aggregate must be >= 1"
  | channelConfiguredTwice channel => s!"channel '{channel}' is configured twice"
  | noSubscription => "at least one subscription is required"
  | taskInterval => "task intervals must be positive"
  | publishedTwice port => s!"a port name may only be published once: '{port}'"
  | noFallbackWidth port => s!"missing fallback width for port '{port}'"
  | initialLength port length width =>
    s!"initial value of port '{port}' has {length} elements, port width is {width}"
  | groupZero port => s!"aggregation group of port '{port}' must be at least 1"
  | mappedTwice channel => s!"channel '{channel}' is mapped twice"
  | keyCount keys buffers => s!"{keys} continuous keys for {buffers} buffers"
  | other text => text

end ConfigFault

inductive SchemaFault
  | missingField (name : String)
  | duplicateField (name : String)
  | unknownVariant (name : String) (known : List String)
  | malformed
  deriving DecidableEq, Repr

namespace SchemaFault

def quoted (name : String) : String := "`" ++ name ++ "`"

/-- Two known names are joined by a word, more of them are listed. -/
def message : SchemaFault → String
  | missingField name => "missing field " ++ quoted name
  | duplicateField name => "duplicate field " ++ quoted name
  | unknownVariant name known =>
    "unknown variant " ++ quoted name ++
      match known with
      | [only] => ", expected " ++ quoted only
      | [first, second] => ", expected " ++ quoted first ++ " or " ++ quoted second
      | _ => ", expected one of " ++ ", ".intercalate (known.map quoted)
  | malformed => "malformed document"

end SchemaFault

def Wire.DecodeFault.message : Wire.DecodeFault → String
  | length found expected => s!"invalid length {found}, expected {expected.name}"
  | nonFiniteTime tick time => s!"delta at sim time {tick} carries non-finite time {time}"
  | kind found expected => s!"invalid type: {found}, expected {expected.name}"
  | range found expected => s!"invalid value: {found}, expected {expected.name}"
  | malformed text => text
  | located fault line column => fault.message ++ s!" at line {line} column {column}"
  | pinned (malformed text) index => s!"{text} at character {index}"
  | pinned fault index => "Serde(" ++ Text.quoted fault.message ++ s!") at character {index}"

inductive Fault
  | config (cause : ConfigFault)
  | unconnectedPort (port : String)
  | unknownPort (port : String)
  | indexOutOfRange (port : String) (index buffers : Nat)
  | width (port : String) (expected actual : Nat)
  | serialization (codec text : String)
  | deserialization (codec : String) (cause : Wire.DecodeFault)
  | connection (text : String)
  | network (text : String)
  | channelClosed
  | io (text : String)
  | json (cause : SchemaFault)
  deriving DecidableEq, Repr

namespace Fault

/-- Faults of a configuration are final: trying again cannot help. -/
def isConfig : Fault → Bool
  | config _ => true
  | unconnectedPort _ => true
  | _ => false

def message : Fault → String
  | config cause => "Invalid configuration: " ++ cause.message
  | unconnectedPort port => s!"Port '{port}' is not connected"
  | unknownPort port => s!"Unknown port: {port}"
  | indexOutOfRange port index buffers =>
    s!"Channel index {index} out of range for port '{port}' ({buffers} buffers)"
  | width port expected actual => s!"Port '{port}' has width {expected}, got {actual} values"
  | serialization codec text => s!"Serialization error ({codec}): {text}"
  | deserialization codec cause => s!"Deserialization error ({codec}): " ++ cause.message
  | connection text => s!"Connection error: {text}"
  | network text => s!"Network error: {text}"
  | channelClosed => "Channel closed"
  | io text => s!"IO error: {text}"
  | json cause => "JSON error: " ++ cause.message

end Fault

inductive Breach
  | unordered (last time : Binary64)
  | divisionByZero
  | boundsInverted (earliest latest : Binary64)
  | windowBeforeData (lower upper : Binary64)
  | windowTooEarly (lower earliest : Binary64)
  | windowTooLate (upper latest : Binary64)
  | noBound
  | boundsOutOfOrder (lower upper : Binary64)
  | zeroPeriod
  | durationNegative
  | durationTooLong
  deriving DecidableEq, Repr

namespace Breach

def message : Breach → String
  | unordered last time =>
    "samples must arrive in time order (Some(" ++ NumberStyle.diagnostic.text last ++
      s!") > {time})"
  | divisionByZero => "attempt to divide by zero"
  | boundsInverted earliest latest => s!"{earliest} should be <= {latest}"
  | windowBeforeData lower upper => s!"window [{lower}, {upper}) requested before any delta arrived"
  | windowTooEarly lower earliest => s!"window lower bound {lower} precedes min time {earliest}"
  | windowTooLate upper latest => s!"window upper bound {upper} exceeds max time {latest}"
  | noBound => "truncate needs at least one bound"
  | boundsOutOfOrder lower upper => s!"truncate bounds out of order: {lower} > {upper}"
  | zeroPeriod => "`period` must be non-zero."
  | durationNegative => "cannot convert float seconds to Duration: value is negative"
  | durationTooLong => "cannot convert float seconds to Duration: value is either too big or NaN"

end Breach

inductive Failure
  | fault (fault : Fault)
  | breach (breach : Breach)
  deriving DecidableEq, Repr

end Telemetry
