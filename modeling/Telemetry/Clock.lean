import Telemetry.Binary64

/-! The clock of a simulation and the part of it that a producer runs through. Times are numbers
of any kind that can be scaled, added and compared. -/
namespace Telemetry.Clock
variable {τ : Type}

section Ticks
variable [NatCast τ] [Mul τ]

def tick (timestep : τ) (number : Nat) : τ := (number : τ) * timestep

/-- The first `count` ticks: `0, timestep, 2 * timestep, …`. -/
def ticks (timestep : τ) (count : Nat) : List τ := (List.range count).map (tick timestep)

end Ticks

section Runtime
variable [LT τ] [DecidableLT τ] [Add τ]

/-- The run starts with the first tick that is not before `timestep` and ends before
`total + timestep`; without a total it goes on to the end. -/
def runtime (timestep : τ) (total : Option τ) (times : List τ) : List τ :=
  (times.dropWhile fun t => decide (t < timestep)).takeWhile fun t =>
    match total with
    | some total => decide (t < total + timestep)
    | none => true

end Runtime

/-- A number of ticks within which a clock reaches any finite time: no tick of a later number
lies before `bound`. -/
def horizon (timestep bound : Binary64) : Nat := bound.units / timestep.units + 2

end Telemetry.Clock
