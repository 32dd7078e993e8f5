import Telemetry.Codec
import Telemetry.Transport.Sink
import Telemetry.Transport.Source

/-! The multiplexer of a process: subscriptions that are drained together, and publishers. One
tick polls the subscriptions in turn, again and again, until a whole cycle finds no message, so
that a burst of messages is gone after one tick. -/
namespace Telemetry

inductive Payload
  | raw (body : Bytes)
  | delta (delta : Delta)
  deriving DecidableEq, Repr

structure Subscription where
  source : Source
  /-- Messages that do not begin with the topic are dropped. -/
  topic : Bytes
  /-- Bodies stay raw without a codec. -/
  codec : Option Codec
  deriving DecidableEq, Repr

namespace Subscription

/-- Takes the topic off and decodes; nothing for a message of another topic. -/
def decode {σ : Type} (subscription : Subscription) (message : Bytes) :
    Action σ (Option Payload) := do
  if !subscription.topic.isPrefixOf message then return none
  let body := message.drop subscription.topic.length
  match subscription.codec with
  | some codec => return some (.delta (← codec.accept body))
  | none => return some (.raw body)

/-- Hands a message to the handler; false for a message of another topic. -/
def dispatch {σ : Type} (subscription : Subscription) (handle : Payload → Action σ Unit)
    (message : Bytes) : Action σ Bool := do
  match ← subscription.decode message with
  | none => return false
  | some payload =>
    handle payload
    return true

end Subscription

structure TickReport where
  delivered : Nat := 0
  filtered : Nat := 0
  /-- Faults with the addresses of the subscriptions they stopped. -/
  failures : List (String × Fault) := []
  deriving DecidableEq, Repr

namespace TickReport

def isIdle (report : TickReport) : Bool := report.delivered == 0 && report.failures.isEmpty

instance : Append TickReport :=
  ⟨fun a b => ⟨a.delivered + b.delivered, a.filtered + b.filtered, a.failures ++ b.failures⟩⟩

end TickReport

/-- A subscription during a tick. Once it failed it is left alone until the next tick. -/
structure Seat where
  subscription : Subscription
  suspended : Bool := false
  deriving DecidableEq, Repr

namespace Seat

def suspend {σ : Type} (seat : Seat) (fault : Fault) : Action σ (Seat × TickReport) := do
  let address := seat.subscription.source.address
  Action.log .error
    (s!"Subscription {address} failed, skipping it for this tick: " ++ fault.message)
  return ({ seat with suspended := true }, { failures := [(address, fault)] })

/-- Polls the subscription once; also answers whether there was a message. -/
def turn {σ : Type} (handle : Payload → Action σ Unit) (seat : Seat) :
    Action σ (Seat × TickReport × Bool) := do
  if seat.suspended then return (seat, {}, false)
  let poll := seat.subscription.source.poll
  Action.logAll poll.log
  let polled := { seat with subscription := { seat.subscription with source := poll.state } }
  match poll.result with
  | .ok none => return (polled, {}, false)
  | .ok (some message) =>
    match ← Action.attempt (polled.subscription.dispatch handle message) with
    | .ok true => return (polled, { delivered := 1 }, true)
    | .ok false => return (polled, { filtered := 1 }, true)
    | .error (.fault fault) =>
      let (seat, report) ← polled.suspend fault
      return (seat, report, true)
    | .error (.breach breach) => Action.breach breach
  | .error (.fault fault) =>
    let (seat, report) ← polled.suspend fault
    return (seat, report, false)
  | .error (.breach breach) => Action.breach breach

end Seat

/-- One poll of every seat from the given index on; also answers whether any had a message. -/
def cycle {σ : Type} (handle : Nat → Payload → Action σ Unit) :
    Nat → List Seat → Action σ (List Seat × TickReport × Bool)
  | _, [] => return ([], {}, false)
  | index, seat :: seats => do
    let (seat, report, found) ← seat.turn (handle index)
    let (seats, more, foundMore) ← cycle handle (index + 1) seats
    return (seat :: seats, report ++ more, found || foundMore)

/-- Cycles until one finds no message, and at most as many as are allowed. -/
def drain {σ : Type} (handle : Nat → Payload → Action σ Unit) :
    Nat → List Seat → Action σ (List Seat × TickReport)
  | 0, seats => return (seats, {})
  | cycles + 1, seats => do
    let (seats, report, found) ← cycle handle 0 seats
    if found then
      let (seats, more) ← drain handle cycles seats
      return (seats, report ++ more)
    else return (seats, report)

structure Multiplexer where
  subscriptions : List Subscription := []
  publishers : List Sink := []

namespace Multiplexer

def subscribe (subscription : Subscription) : Action Multiplexer Unit := do
  let codec := (subscription.codec.map Codec.name).getD "raw"
  Action.log .info s!"Registered subscription {subscription.source.address} (codec: {codec})"
  Action.change fun multiplexer =>
    { multiplexer with subscriptions := multiplexer.subscriptions ++ [subscription] }

/-- Answers the number that the sink publishes under. -/
def addPublisher (sink : Sink) : Action Multiplexer Nat := do
  Action.log .info s!"Registered publisher {sink.address}"
  let multiplexer ← Action.read
  Action.write { multiplexer with publishers := multiplexer.publishers ++ [sink] }
  return multiplexer.publishers.length

def publish (number : Nat) (payload : Bytes) : Action Multiplexer Unit := do
  match (← Action.read).publishers[number]? with
  | none => Action.fail (.unknownPort s!"publisher #{number}")
  | some sink =>
    Action.within (fun _ => sink)
      (fun multiplexer sink =>
        { multiplexer with publishers := multiplexer.publishers.set number sink })
      (Sink.send payload)

/-- Polls that can still find something. -/
def backlog (multiplexer : Multiplexer) : Nat :=
  multiplexer.subscriptions.foldl (fun polls s => polls + s.source.backlog) 0

/-- Drains all subscriptions. Every cycle but the last takes a message, so there is one cycle
more than polls that can find something, at most. The handler is told the index of the
subscription. -/
def tick {σ : Type} (handle : Nat → Payload → Action σ Unit) (multiplexer : Multiplexer) :
    Action σ (Multiplexer × TickReport) := do
  let seats := multiplexer.subscriptions.map fun subscription => { subscription : Seat }
  let (seats, report) ← drain handle (multiplexer.backlog + 1) seats
  return ({ multiplexer with subscriptions := seats.map (·.subscription) }, report)

def closePart {σ ρ : Type} (address : σ → String) (close : Action σ Unit) (part : σ) :
    Action ρ σ := do
  let closed := close part
  Action.logAll closed.log
  match closed.result with
  | .error (.fault fault) => Action.log .warn s!"Error closing {address part}: {fault.message}"
  | .error (.breach breach) => Action.breach breach
  | .ok () => pure ()
  return closed.state

def close : Action Multiplexer Unit := do
  let multiplexer ← Action.read
  Action.log .info
    (s!"Closing {multiplexer.subscriptions.length} subscriptions and " ++
      s!"{multiplexer.publishers.length} publishers")
  let subscriptions ← multiplexer.subscriptions.mapM fun subscription => do
    let source ← closePart Source.address Source.close subscription.source
    return { subscription with source }
  let publishers ← multiplexer.publishers.mapM (closePart Sink.address Sink.close)
  Action.write { multiplexer with subscriptions, publishers }

def stopped (multiplexer : Multiplexer) : Bool :=
  multiplexer.subscriptions.any (·.source.stopped)

end Multiplexer
end Telemetry
