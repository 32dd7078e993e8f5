import Telemetry.Transport.Channel
import Telemetry.Transport.Socket

/-! Sinks for messages: a channel, a socket, or a capture that keeps what it is sent. -/
namespace Telemetry

/-- Keeps the payloads it accepts. -/
structure Capture where
  address : String
  /-- Why the send with a given number fails, if it does. -/
  refusal : Nat → Option Fault := fun _ => none
  closing : Option Fault := none
  /-- Sends so far, the failed ones included. -/
  sends : Nat := 0
  payloads : List Bytes := []

namespace Capture

def send (payload : Bytes) : Action Capture Unit := do
  let capture ← Action.read
  let counted := { capture with sends := capture.sends + 1 }
  match capture.refusal capture.sends with
  | some fault =>
    Action.write counted
    Action.fail fault
  | none => Action.write { counted with payloads := capture.payloads ++ [payload] }

def close : Action Capture Unit := do
  match (← Action.read).closing with
  | none => return ()
  | some fault => Action.fail fault

end Capture

inductive Sink
  | channel (channel : Channel)
  | socket (publisher : Publisher)
  | capture (capture : Capture)

namespace Sink

def address : Sink → String
  | channel c => c.address
  | socket p => p.endpoint
  | capture c => c.address

/-- Runs one of three operations, whichever fits the kind of the sink. -/
def dispatch {α : Type} (onChannel : Action Channel α) (onSocket : Action Publisher α)
    (onCapture : Action Capture α) : Action Sink α
  | channel c => onChannel.within (fun _ => c) (fun _ c => channel c) (channel c)
  | socket p => onSocket.within (fun _ => p) (fun _ p => socket p) (socket p)
  | capture c => onCapture.within (fun _ => c) (fun _ c => capture c) (capture c)

def payloads : Sink → List Bytes
  | capture c => c.payloads
  | _ => []

def forget : Sink → Sink
  | capture c => capture { c with payloads := [] }
  | sink => sink

def send (payload : Bytes) : Action Sink Unit :=
  dispatch (Channel.send payload)
    (do let _ ← Publisher.send payload)
    (Capture.send payload)

def close : Action Sink Unit := dispatch Channel.closeSink Publisher.close Capture.close

end Sink
end Telemetry
