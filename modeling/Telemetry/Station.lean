import Telemetry.Port
import Telemetry.Recorder

/-! The station of a process: its ports, bound to the arrays and buffers of its recorder. Ports
are bound once, before the first tick; afterwards incoming events and values are routed through
the station by port name. -/
namespace Telemetry

/-- Buffers of an event input port, by slot. -/
structure Route where
  buffers : List Nat
  grouping : Grouping
  deriving DecidableEq, Repr

structure Station where
  directory : Directory
  policy : UnconnectedPolicy
  recorder : Recorder
  widths : Table String PortWidth := .empty
  arrays : Table String Nat := .empty
  routes : Table String Route := .empty
  published : List Publication := []

structure ContinuousBinding where
  port : String
  fallbackWidth : Option Nat
  initial : Option (List Binary64) := none
  params : Params := .empty
  deriving Repr

structure EventBinding where
  port : String
  fallbackWidth : Option Nat
  grouping : Grouping := .identity
  params : Params := .empty
  deriving Repr

structure OutgoingEvent where
  time : Binary64
  index : Nat
  deriving DecidableEq, Repr

/-- An event output port; what is inserted waits for the middleware. -/
structure EventOutput where
  port : String
  width : Nat
  connected : Bool
  pending : List OutgoingEvent := []
  deriving DecidableEq, Repr

namespace EventOutput

/-- Events for an unconnected port are dropped. -/
def insert (output : EventOutput) (time : Binary64) (index : Nat) : Except Fault EventOutput :=
  if !output.connected then .ok output
  else if output.width ≤ index then .error (.indexOutOfRange output.port index output.width)
  else .ok { output with pending := output.pending ++ [⟨time, index⟩] }

def drain (output : EventOutput) : EventOutput × List OutgoingEvent :=
  ({ output with pending := [] }, output.pending)

end EventOutput

namespace Station

def ofDirectory (directory : Directory) (policy : UnconnectedPolicy) (recorder : Recorder) :
    Station := { directory, policy, recorder }

def onRecorder {α : Type} (action : Action Recorder α) : Action Station α :=
  action.within (·.recorder) fun station recorder => { station with recorder }

/-- A port name is published once. -/
def claimName (port : String) : Action Station Unit := do
  let station ← Action.read
  if station.widths.contains port then Action.refuse (.publishedTwice port)

def publish (publication : Publication) : Action Station (Option Nat) := fun station =>
  let width := station.directory station.published publication
  ⟨{ station with published := station.published ++ [publication] }, .ok width, []⟩

def acceptUnconnected (port : String) (kind : PortKind) : Action Station Unit := do
  match (← Action.read).policy with
  | .fail => Action.fail (.unconnectedPort port)
  | .warn => Action.log .warn s!"{kind.label} port {port} is not connected"

def setWidth (port : String) (width : PortWidth) : Action Station Unit :=
  Action.change fun station => { station with widths := station.widths.insert port width }

/-- Publishes a port and settles its width: the peer's, or the fallback without a peer. -/
def resolveWidth (publication : Publication) (fallback : Option Nat) :
    Action Station PortWidth := do
  claimName publication.port
  match fallback with
  | none => Action.refuse (.noFallbackWidth publication.port)
  | some fallback =>
    let width : PortWidth ←
      match ← publish publication with
      | some width => pure (.connected width)
      | none => do
        acceptUnconnected publication.port publication.kind
        pure (.fallback fallback)
    setWidth publication.port width
    return width

/-- Starting values of a port array: the initial value, which must fit, or zeros. -/
def startValues (port : String) (width : Nat) :
    Option (List Binary64) → Action Station (List Binary64)
  | none => return List.replicate width .zero
  | some initial =>
    if initial.length = width then return initial
    else Action.refuse (.initialLength port initial.length width)

def setArray (port : String) (array : Nat) : Action Station Unit :=
  Action.change fun station => { station with arrays := station.arrays.insert port array }

/-- Settles width and starting values of a continuous port. -/
def prepareContinuous (binding : ContinuousBinding) (kind : PortKind) :
    Action Station (List Binary64) := do
  let width ← resolveWidth ⟨binding.port, kind, binding.params⟩ binding.fallbackWidth
  startValues binding.port width.size binding.initial

/-- Binds a continuous input port: one buffer per element of its array. -/
def bindContinuousInput (binding : ContinuousBinding) : Action Station (List Nat) := do
  let values ← prepareContinuous binding .continuousInput
  let station ← Action.read
  let (recorder, buffers) := station.recorder.recordArray values
  Action.write { station with recorder }
  setArray binding.port station.recorder.arrays.length
  return buffers

/-- Binds a continuous output port; answers its array. -/
def bindContinuousOutput (binding : ContinuousBinding) : Action Station Nat := do
  let values ← prepareContinuous binding .continuousOutput
  let station ← Action.read
  let (recorder, array) := station.recorder.addArray values
  Action.write { station with recorder }
  setArray binding.port array
  return array

/-- Binds an event input port: as many buffers as its grouping asks for. -/
def bindEventInput (binding : EventBinding) : Action Station (List Nat) := do
  if binding.grouping = .aggregate 0 then Action.refuse (.groupZero binding.port)
  let width ← resolveWidth ⟨binding.port, .eventInput, binding.params⟩ binding.fallbackWidth
  let count ← Action.settle ((binding.grouping.bufferCount width.size).mapError .breach)
  let station ← Action.read
  let (recorder, buffers) := station.recorder.recordEvents count
  Action.write
    { station with
      recorder
      routes := station.routes.insert binding.port ⟨buffers, binding.grouping⟩ }
  return buffers

/-- Binds an event output port. Without a peer its width is zero. -/
def bindEventOutput (port : String) (params : Params) : Action Station EventOutput := do
  claimName port
  match ← publish ⟨port, .eventOutput, params⟩ with
  | some width =>
    setWidth port (.connected width)
    return { port, width, connected := true }
  | none =>
    acceptUnconnected port .eventOutput
    setWidth port (.fallback 0)
    return { port, width := 0, connected := false }

/-- An incoming event goes to the buffer of its slot. -/
def deliverEvent (port : String) (index : Nat) (time : Binary64) : Action Station Unit := do
  match (← Action.read).routes.find? port with
  | none => Action.fail (.unknownPort port)
  | some route =>
    let slot ← Action.settle ((route.grouping.slot index).mapError .breach)
    match route.buffers[slot]? with
    | none => Action.fail (.indexOutOfRange port index route.buffers.length)
    | some buffer => onRecorder (Recorder.append buffer ⟨time, .zero⟩)

def writeContinuous (port : String) (values : List Binary64) : Action Station Unit := do
  let station ← Action.read
  match station.arrays.find? port with
  | none => Action.fail (.unknownPort port)
  | some array =>
    let current := station.recorder.array array
    if current.length = values.length then
      Action.write { station with recorder := station.recorder.setArray array values }
    else Action.fail (.width port current.length values.length)

def beginTick (now : Binary64) : Action Station Unit := onRecorder (Recorder.beginTick now)

def endTick (now : Binary64) : Action Station Unit :=
  Action.change fun station => { station with recorder := station.recorder.endTick now }

def values? (station : Station) (port : String) : Option (List Binary64) :=
  (station.arrays.find? port).map station.recorder.array

def width? (station : Station) (port : String) : Option PortWidth := station.widths.find? port

/-- Names of all bound ports in increasing order. -/
def portNames (station : Station) : List String := station.widths.keys

end Station
end Telemetry
