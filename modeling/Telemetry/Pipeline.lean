import Telemetry.Consumer
import Telemetry.Producer

/-! A producer and a consumer joined by a channel inside one process. -/
namespace Telemetry

structure Pipeline where
  producer : Producer
  consumer : Consumer

namespace Pipeline

def address : String := "inproc://pipeline"

def sink : Sink := .channel { address }

def attach (codec : Codec) : Action Consumer Unit :=
  Consumer.subscribe (.channel { address }) [] codec

/-- A consumer at the source of the channel, with a truncation task if one is asked for. -/
def receive (codec : Codec) (truncation : Option (Binary64 × Nat)) : Action Consumer Unit := do
  attach codec
  match truncation with
  | some (retention, interval) => do let _ ← Consumer.addTruncateTask retention interval
  | none => return ()

/-- Sets both ends up. The consumer reads with the codec of the producer unless it is told to
use another one. -/
def ofConfig (config : ProducerConfig) (reader : Option Codec)
    (truncation : Option (Binary64 × Nat)) : Action Wiring Pipeline := do
  let producer ← Producer.ofConfig config sink
  let received := receive (reader.getD producer.codec) truncation {}
  Action.logAll received.log
  let _ ← Action.settle received.result
  return { producer, consumer := received.state }

/-- Moves the queue of the sending end to the receiving end. -/
def move : Sink → List Subscription → Sink × List Subscription
  | .channel sent, { source := .channel received, topic, codec } :: rest =>
    (.channel { sent with queue := [] },
      { source := .channel { received with queue := received.queue ++ sent.queue }, topic, codec }
        :: rest)
  | sink, subscriptions => (sink, subscriptions)

/-- What the producer sent is there for the consumer. -/
def carry (pipeline : Pipeline) : Pipeline :=
  let (sink, subscriptions) :=
    move pipeline.producer.sink pipeline.consumer.multiplexer.subscriptions
  { producer := { pipeline.producer with sink }
    consumer :=
      { pipeline.consumer with
        multiplexer := { pipeline.consumer.multiplexer with subscriptions } } }

def produce {α : Type} (action : Action Producer α) : Action Pipeline α := fun pipeline =>
  (action.within (·.producer) fun pipeline producer => carry { pipeline with producer }) pipeline

def consume {α : Type} (action : Action Consumer α) : Action Pipeline α :=
  action.within (·.consumer) fun pipeline consumer => { pipeline with consumer }

end Pipeline
end Telemetry
