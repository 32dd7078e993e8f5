import Telemetry.Action

/-! Periodic tasks. A task runs on the first tick after its interval has passed, and its next
interval counts from that tick. Clock readings are whole milliseconds that start at 0; a clock
that goes back runs nothing. -/
namespace Telemetry

structure Task (κ : Type) where
  name : String
  job : κ
  interval : Nat
  lastRun : Nat := 0
  runs : Nat := 0
  deriving DecidableEq, Repr

abbrev Schedule (κ : Type) := List (Task κ)

namespace Task
variable {κ : Type}

def isDue (now : Nat) (task : Task κ) : Bool := decide (task.interval < now - task.lastRun)

def ran (now : Nat) (task : Task κ) : Task κ := { task with lastRun := now, runs := task.runs + 1 }

end Task

namespace Schedule
variable {κ : Type}

/-- The index of the new task is the number of tasks before it. -/
def add (name : String) (job : κ) (interval : Nat) : Action (Schedule κ) Nat := do
  let schedule ← Action.read
  Action.log .debug s!"Scheduling task '{name}' every {interval} ms"
  Action.write (schedule ++ [{ name := name, job, interval }])
  return schedule.length

def due (schedule : Schedule κ) (now : Nat) : List (Task κ) := schedule.filter (·.isDue now)

def tick (schedule : Schedule κ) (now : Nat) : Schedule κ :=
  schedule.map fun task => if task.isDue now then task.ran now else task

def runCount? (schedule : Schedule κ) (index : Nat) : Option Nat := schedule[index]?.map (·.runs)

def names (schedule : Schedule κ) : List String := schedule.map (·.name)

end Schedule
end Telemetry
