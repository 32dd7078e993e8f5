import Telemetry.Binary64

/-! The delta of one tick: what a producer recorded since the tick before. -/
namespace Telemetry

structure Sample where
  time : Binary64
  value : Binary64
  deriving DecidableEq, Repr, Inhabited

/-- Everything one tick changed. Continuous channels are listed with their samples, event
channels with their non-empty sub-indices and the times of their events. A tick without events
has no event section. -/
structure Delta where
  time : Binary64
  continuous : List (String × List Sample) := []
  events : Option (List (String × List (Nat × List Binary64))) := none
  deriving DecidableEq, Repr, Inhabited

namespace Delta

/-- Tick, sample and event times in the order of the message. -/
def times (delta : Delta) : List Binary64 :=
  delta.time :: delta.continuous.flatMap (fun (_, samples) => samples.map (·.time)) ++
    (delta.events.getD []).flatMap fun (_, perIndex) => perIndex.flatMap (·.2)

/-- First time that is NaN or infinite. -/
def nonFiniteTime? (delta : Delta) : Option Binary64 := delta.times.find? (!·.isFinite)

def eventCount (delta : Delta) : Nat :=
  ((delta.events.getD []).flatMap fun (_, perIndex) => perIndex.flatMap (·.2)).length

/-- Nothing but the tick time, which is a number. -/
def isQuiet (delta : Delta) : Bool :=
  !delta.time.isNaN && delta.continuous.isEmpty && delta.events.isNone

end Delta
end Telemetry
