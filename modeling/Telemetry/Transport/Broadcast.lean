import Telemetry.Transport.Socket

/-! Publishers in company: one that is there while something else goes on, and one that a subscriber
has joined. -/
namespace Telemetry

/-- Runs an operation while a publisher without a topic is bound to an endpoint. -/
def Publisher.beside {σ α : Type} (endpoint : String) (action : Action σ α) : Action σ α := do
  let publisher ← Publisher.bind endpoint ""
  let result ← Action.attempt action
  Action.logAll (Publisher.close publisher).log
  Action.settle result

structure Broadcast where
  publisher : Publisher
  subscriber : Subscriber
  deriving DecidableEq, Repr

namespace Broadcast

/-- Both sockets are opened on one endpoint, each with a topic of its own. -/
def join {σ : Type} (endpoint topic subscribed : String) : Action σ Broadcast := do
  let publisher ← Publisher.bind endpoint topic
  let subscriber ← Subscriber.connect endpoint subscribed (.ok ())
  return { publisher, subscriber }

def onPublisher {α : Type} (action : Action Publisher α) : Action Broadcast α :=
  action.within (·.publisher) fun broadcast publisher => { broadcast with publisher }

def onSubscriber {α : Type} (action : Action Subscriber α) : Action Broadcast α :=
  action.within (·.subscriber) fun broadcast subscriber => { broadcast with subscriber }

/-- A frame that goes out arrives at once. -/
def send (payload : Bytes) : Action Broadcast Unit := do
  let frame ← onPublisher (Publisher.send payload)
  onSubscriber (Action.change (Subscriber.arrive frame))

def poll : Action Broadcast (Option Bytes) := onSubscriber Subscriber.poll

end Broadcast
end Telemetry
