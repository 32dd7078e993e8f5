import Telemetry.Consumer

/-! A consumer from outside: messages arrive at its sources, and it ticks. -/
namespace Telemetry

/-- A message comes to the end of what waits. A closed source and a socket with another topic do not
take it. -/
def Source.arrive (message : Bytes) : Source → Source
  | channel c => channel (Channel.send message c).state
  | socket s => socket (s.arrive message)
  | replay r => replay { r with arrivals := r.arrivals ++ [.message message] }

namespace Consumer

def arrive (index : Nat) (message : Bytes) (consumer : Consumer) : Consumer :=
  { consumer with
    multiplexer :=
      { consumer.multiplexer with
        subscriptions := consumer.multiplexer.subscriptions.modify index fun subscription =>
          { subscription with source := subscription.source.arrive message } } }

inductive Step
  | arrive (index : Nat) (message : Bytes)
  /-- A tick at a clock reading. -/
  | tick (now : Nat)
  deriving DecidableEq, Repr

def Step.perform : Step → Consumer → Consumer
  | .arrive index message, consumer => consumer.arrive index message
  | .tick now, consumer => (Consumer.tick now consumer).state

def after (steps : List Step) (consumer : Consumer) : Consumer :=
  steps.foldl (fun consumer step => step.perform consumer) consumer

@[simp] theorem after_nil (consumer : Consumer) : after [] consumer = consumer := rfl

@[simp] theorem after_cons (step : Step) (steps : List Step) (consumer : Consumer) :
    after (step :: steps) consumer = after steps (step.perform consumer) := rfl

end Consumer
end Telemetry
