import Telemetry.Action
import Telemetry.Text.Quoted
import Telemetry.Text.Utf8

/-! Publish and subscribe sockets. A publisher puts its topic in front of every payload, and a
subscriber gets the frames that begin with its own topic. -/
namespace Telemetry

/-- The sockets report every so many messages. -/
def messagesPerReport : Nat := 1000

structure Publisher where
  endpoint : String
  topic : Bytes
  isOpen : Bool := true
  messages : Nat := 0
  deriving DecidableEq, Repr

namespace Publisher

def bind {σ : Type} (endpoint topic : String) : Action σ Publisher := do
  Action.log .info s!"Publishing on {endpoint}"
  return { endpoint, topic := Bytes.ofText topic }

def send (payload : Bytes) : Action Publisher Bytes := do
  let publisher ← Action.read
  if !publisher.isOpen then Action.fail .channelClosed
  let messages := publisher.messages + 1
  Action.write { publisher with messages }
  if messages % messagesPerReport = 0 then
    Action.log .debug s!"Published {messages} ZMQ messages on {publisher.endpoint}"
  return publisher.topic ++ payload

/-- Closing a closed socket does nothing. -/
def close : Action Publisher Unit := do
  let publisher ← Action.read
  if publisher.isOpen then
    Action.log .info
      s!"Closing ZMQ PUB socket {publisher.endpoint} (sent {publisher.messages} messages)"
    Action.write { publisher with isOpen := false }

end Publisher

structure Subscriber where
  endpoint : String
  topic : String
  queue : List Bytes := []
  isOpen : Bool := true
  messages : Nat := 0
  deriving DecidableEq, Repr

namespace Subscriber

/-- Subscribes at an endpoint; the network says whether it can be reached. -/
def connect {σ : Type} (endpoint topic : String) (reached : Except String Unit) :
    Action σ Subscriber := do
  Action.log .info (s!"Subscribing to {endpoint} (topic: " ++ Text.quoted topic ++ ")")
  match reached with
  | .ok () => return { endpoint, topic }
  | .error text => Action.fail (.connection text)

def arrive (frame : Bytes) (subscriber : Subscriber) : Subscriber :=
  if subscriber.isOpen && (Bytes.ofText subscriber.topic).isPrefixOf frame then
    { subscriber with queue := subscriber.queue ++ [frame] }
  else subscriber

def poll : Action Subscriber (Option Bytes) := do
  let subscriber ← Action.read
  if !subscriber.isOpen then Action.fail .channelClosed
  match subscriber.queue with
  | [] => return none
  | frame :: queue =>
    let messages := subscriber.messages + 1
    Action.write { subscriber with queue, messages }
    if messages % messagesPerReport = 0 then
      Action.log .debug s!"Received {messages} ZMQ messages from {subscriber.endpoint}"
    return some frame

def close : Action Subscriber Unit := do
  let subscriber ← Action.read
  if subscriber.isOpen then
    Action.log .info
      s!"Closing ZMQ SUB socket {subscriber.endpoint} (received {subscriber.messages} messages)"
    Action.write { subscriber with queue := [], isOpen := false }

end Subscriber
end Telemetry
