import Telemetry.Producer

/-! Synthetic data for a producer: random walks on its continuous ports, and independent events
on the indices of its event ports. The random draws come from outside. -/
namespace Telemetry

/-- The random draws of one tick. -/
structure Draws where
  /-- Step of the walk on an element of a continuous port. -/
  walk : String → Nat → Binary64
  /-- Nothing when an index of an event port stays silent; otherwise how far before the tick its
  event lies, as a part of the timestep. -/
  event : String → Nat → Option Binary64

structure Synthetic where
  walks : Table String (List Binary64)
  eventPorts : List (String × Nat)
  timestep : Binary64
  deriving Repr

structure DrawnEvent where
  time : Binary64
  port : String
  index : Nat
  deriving DecidableEq, Repr

namespace Synthetic

/-- Walks start from the initial values of the ports, or from zeros. -/
def ofConfig (config : ProducerConfig) : Synthetic where
  walks := config.continuous.map fun port =>
    port.initial.getD (List.replicate port.keys.length .zero)
  eventPorts := config.events.entries.map fun (name, port) => (name, port.keys)
  timestep := config.timestep

/-- One step of the walks of a port. -/
def advance (draws : Draws) (port : String) (values : List Binary64) : List Binary64 :=
  values.zipIdx.map fun (value, index) => value + draws.walk port index

/-- Events of one tick, port by port and index by index. -/
def drawn (synthetic : Synthetic) (draws : Draws) (now : Binary64) : List DrawnEvent :=
  synthetic.eventPorts.flatMap fun (port, width) =>
    (List.range width).filterMap fun index =>
      (draws.event port index).map fun offset => ⟨now - offset * synthetic.timestep, port, index⟩

/-- Events in the order of their times; equal times stay in the order of drawing. -/
def inOrder (events : List DrawnEvent) : List DrawnEvent :=
  events.mergeSort fun a b => decide (a.time.rank ≤ b.time.rank)

end Synthetic

structure SyntheticRun where
  synthetic : Synthetic
  producer : Producer

namespace SyntheticRun

def onProducer {α : Type} (action : Action Producer α) : Action SyntheticRun α :=
  action.within (·.producer) fun run producer => { run with producer }

def feedWalks (draws : Draws) : List (String × List Binary64) → Action SyntheticRun Unit
  | [] => Action.done ()
  | (port, values) :: walks => do
    let values := Synthetic.advance draws port values
    Action.change fun run =>
      { run with synthetic := { run.synthetic with walks := run.synthetic.walks.insert port values } }
    onProducer (Producer.writeContinuous port values)
    feedWalks draws walks

def feedEvents : List DrawnEvent → Action SyntheticRun Unit
  | [] => Action.done ()
  | event :: events => do
    onProducer (Producer.deliverEvent event.port event.index event.time)
    feedEvents events

/-- Feeds the data of the tick that ends at `now`. Indices may share a buffer, so the events are
delivered in the order of their times. -/
def feed (draws : Draws) (now : Binary64) : Action SyntheticRun Unit := do
  let synthetic := (← Action.read).synthetic
  feedWalks draws synthetic.walks.entries
  feedEvents (Synthetic.inOrder (synthetic.drawn draws now))

/-- Feeds and publishes tick after tick; the draws are numbered from `number` on. -/
def run (draws : Nat → Draws) (number : Nat) : List Binary64 → Action SyntheticRun Unit
  | [] => Action.done ()
  | now :: times => do
    feed (draws number) now
    let _ ← onProducer (Producer.step now)
    run draws (number + 1) times

end SyntheticRun
end Telemetry
