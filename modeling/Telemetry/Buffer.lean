import Telemetry.Action
import Telemetry.Delta

/-! Buffers of one channel: event times, or times with a store of values beside them, in time order. A
buffer keeps everything until it is cleared, or only what lies in a sliding time window. -/
namespace Telemetry

inductive Pruning
  /-- Nothing is dropped; the owner clears the buffer. -/
  | retain
  /-- Samples older than the window are dropped. -/
  | sliding (window : Binary64)
  deriving DecidableEq, Repr

/-- A window must be positive and finite. -/
def Pruning.ofWindow (window : Binary64) : Except Fault Pruning :=
  if window.isFinite ∧ Binary64.zero < window then .ok (.sliding window)
  else .error (.config (.window window))

/-- The two stores of a buffer. The times and the values lie side by side, each in the order they came;
an event buffer has times alone. -/
structure Content where
  times : List Binary64
  values? : Option (List Binary64)
  deriving DecidableEq, Repr

namespace Content

/-- The value goes to the second store, where there is one. -/
def push (sample : Sample) (content : Content) : Content where
  times := content.times ++ [sample.time]
  values? := content.values?.map (· ++ [sample.value])

def latest? (content : Content) : Option Binary64 := content.times.getLast?

/-- Pops times off the front while they lie before the threshold, and counts them on. -/
def popBefore (threshold : Binary64) (removed : Nat) : List Binary64 → List Binary64 × Nat
  | [] => ([], removed)
  | time :: times =>
    if time < threshold then popBefore threshold (removed + 1) times else (time :: times, removed)

/-- Pops the times before the threshold, and drains as many values as times were popped. -/
def prune (threshold : Binary64) (content : Content) : Content × Nat :=
  let (times, removed) := popBefore threshold 0 content.times
  (⟨times, content.values?.map (·.drop removed)⟩, removed)

def clear (content : Content) : Content where
  times := []
  values? := content.values?.map fun _ => []

end Content

structure Buffer where
  content : Content
  pruning : Pruning
  appended : Nat := 0
  pruned : Nat := 0
  deriving DecidableEq, Repr

structure BufferMetrics where
  appended : Nat
  pruned : Nat
  size : Nat
  deriving DecidableEq, Repr

namespace Buffer

def forEvents (pruning : Pruning) : Buffer := ⟨⟨[], none⟩, pruning, 0, 0⟩

def forValues (pruning : Pruning) : Buffer := ⟨⟨[], some []⟩, pruning, 0, 0⟩

def holdsValues (buffer : Buffer) : Bool := buffer.content.values?.isSome

def times (buffer : Buffer) : List Binary64 := buffer.content.times

/-- Stored values; an event buffer has none. -/
def values (buffer : Buffer) : List Binary64 := buffer.content.values?.getD []

/-- Times paired with values; an event buffer has none. -/
def samples (buffer : Buffer) : List Sample := List.zipWith Sample.mk buffer.times buffer.values

def size (buffer : Buffer) : Nat := buffer.times.length

def isEmpty (buffer : Buffer) : Bool := buffer.times.isEmpty

/-- An event buffer takes the time alone. A time must not lie before the last one; that is checked before
anything is stored. -/
def append (buffer : Buffer) (sample : Sample) : Except Breach Buffer :=
  let extended : Buffer :=
    { buffer with content := buffer.content.push sample, appended := buffer.appended + 1 }
  match buffer.content.latest? with
  | some last => if last ≤ sample.time then .ok extended else .error (.unordered last sample.time)
  | none => .ok extended

/-- An event; a value buffer pairs its time with zero. -/
def appendTime (buffer : Buffer) (time : Binary64) : Except Breach Buffer :=
  buffer.append ⟨time, .zero⟩

/-- Drops samples at the front while they lie before `now - window`, and counts them. -/
def prune (buffer : Buffer) (now : Binary64) : Buffer × Nat :=
  match buffer.pruning with
  | .retain => (buffer, 0)
  | .sliding window =>
    let (content, removed) := buffer.content.prune (now - window)
    ({ buffer with content, pruned := buffer.pruned + removed }, removed)

def clear (buffer : Buffer) : Buffer := { buffer with content := buffer.content.clear }

def rate (buffer : Buffer) : Option Binary64 :=
  match buffer.pruning with
  | .retain => none
  | .sliding window => some (Binary64.ofNat buffer.size / window)

def metrics (buffer : Buffer) : BufferMetrics := ⟨buffer.appended, buffer.pruned, buffer.size⟩

end Buffer
end Telemetry
