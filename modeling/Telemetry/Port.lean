import Telemetry.Action
import Telemetry.Json.Value

/-! Ports of a simulation: what is published about them, what the middleware answers, and how
physical event indices share buffers. -/
namespace Telemetry

/-- Parameters of a port, handed to the middleware as they are. -/
abbrev Params := Table String Json.Value

inductive PortKind
  | continuousInput
  | continuousOutput
  | eventInput
  | eventOutput
  deriving DecidableEq, Repr

def PortKind.label : PortKind → String
  | .continuousInput => "ContinuousInput"
  | .continuousOutput => "ContinuousOutput"
  | .eventInput => "EventInput"
  | .eventOutput => "EventOutput"

structure Publication where
  port : String
  kind : PortKind
  params : Params
  deriving Repr

/-- Answers of the middleware: the width of the peer behind a published port, or `none` without
a peer. An answer may depend on everything published before. -/
abbrev Directory := List Publication → Publication → Option Nat

namespace Directory

def unconnected : Directory := fun _ _ => none

/-- The peers are known ahead of time. -/
def ofWidths (widths : Table String Nat) : Directory := fun _ publication =>
  widths.find? publication.port

end Directory

/-- Width of a bound port and where it comes from. -/
inductive PortWidth
  | connected (width : Nat)
  | fallback (width : Nat)
  deriving DecidableEq, Repr

def PortWidth.size : PortWidth → Nat
  | .connected width => width
  | .fallback width => width

/-- What to do about a port without a peer. -/
inductive UnconnectedPolicy
  | warn
  | fail
  deriving DecidableEq, Repr

/-- How physical event indices map onto buffers. -/
inductive Grouping
  | identity
  | aggregate (size : Nat)
  deriving DecidableEq, Repr

namespace Grouping

def bufferCount : Grouping → Nat → Except Breach Nat
  | identity, width => .ok width
  | aggregate size, width =>
    if size = 0 then .error .divisionByZero else .ok ((width + (size - 1)) / size)

def slot : Grouping → Nat → Except Breach Nat
  | identity, index => .ok index
  | aggregate size, index => if size = 0 then .error .divisionByZero else .ok (index / size)

end Grouping
end Telemetry
