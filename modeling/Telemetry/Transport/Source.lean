import Telemetry.Transport.Channel
import Telemetry.Transport.Socket

/-! Sources of messages: a channel, a socket, or a replay of polls that are known ahead of
time. -/
namespace Telemetry

inductive Arrival
  | message (payload : Bytes)
  | nothing
  | failure (fault : Fault)
  | stop
  deriving DecidableEq, Repr

structure Replay where
  address : String
  arrivals : List Arrival := []
  closing : Option Fault := none
  /-- The end of the run was asked for, as it is when nothing is left to replay. -/
  stopped : Bool := false
  deriving DecidableEq, Repr

namespace Replay

def poll : Action Replay (Option Bytes) := do
  let replay ← Action.read
  match replay.arrivals with
  | [] =>
    Action.write { replay with stopped := true }
    return none
  | arrival :: arrivals =>
    let rest := { replay with arrivals }
    match arrival with
    | .message payload =>
      Action.write rest
      return some payload
    | .nothing =>
      Action.write rest
      return none
    | .failure fault =>
      Action.write rest
      Action.fail fault
    | .stop =>
      Action.write { rest with stopped := true }
      return none

def close : Action Replay Unit := do
  match (← Action.read).closing with
  | none => return ()
  | some fault => Action.fail fault

end Replay

inductive Source
  | channel (channel : Channel)
  | socket (subscriber : Subscriber)
  | replay (replay : Replay)
  deriving DecidableEq, Repr

namespace Source

def address : Source → String
  | channel c => c.address
  | socket s => s.endpoint
  | replay r => r.address

/-- Number of polls that can still find something. -/
def backlog : Source → Nat
  | channel c => c.queue.length
  | socket s => s.queue.length
  | replay r => r.arrivals.length

def stopped : Source → Bool
  | replay r => r.stopped
  | _ => false

/-- Runs one of three operations, whichever fits the kind of the source. -/
def dispatch {α : Type} (onChannel : Action Channel α) (onSocket : Action Subscriber α)
    (onReplay : Action Replay α) : Action Source α
  | channel c => onChannel.within (fun _ => c) (fun _ c => channel c) (channel c)
  | socket s => onSocket.within (fun _ => s) (fun _ s => socket s) (socket s)
  | replay r => onReplay.within (fun _ => r) (fun _ r => replay r) (replay r)

def poll : Action Source (Option Bytes) := dispatch Channel.poll Subscriber.poll Replay.poll

def close : Action Source Unit := dispatch Channel.closeSource Subscriber.close Replay.close

end Source
end Telemetry
