import Telemetry.Fault

/-! Spans of real time in whole nanoseconds. -/
namespace Telemetry

structure Duration where
  nanoseconds : Nat
  deriving DecidableEq, Repr

namespace Duration

def zero : Duration := ⟨0⟩

def nanosecondsPerSecond : Nat := 1000000000

def secondLimit : Nat := UInt64.size

/-- Seconds rounded to whole nanoseconds, ties to even. -/
def ofSeconds (seconds : Binary64) : Except Breach Duration :=
  if seconds < Binary64.zero then .error .durationNegative
  else if !seconds.isFinite || secondLimit * Binary64.unitsOfOne ≤ seconds.units then
    .error .durationTooLong
  else
    .ok ⟨Binary64.roundedQuotient (seconds.units * nanosecondsPerSecond) Binary64.unitsOfOne⟩

def seconds (duration : Duration) : Nat := duration.nanoseconds / nanosecondsPerSecond

def fraction (duration : Duration) : Nat := duration.nanoseconds % nanosecondsPerSecond

/-- Mean over a number of ticks, rounded down. No ticks, and more of them than 32 bits count,
have a mean of zero. -/
def mean (total : Duration) (ticks : Nat) : Duration :=
  if 0 < ticks ∧ ticks < UInt32.size then ⟨total.nanoseconds / ticks⟩ else zero

/-- Stands for a measured span in texts, which are the same for every run on equal input. -/
def unspecified : String := "*"

end Duration
end Telemetry
