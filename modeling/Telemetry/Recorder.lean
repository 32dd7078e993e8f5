import Telemetry.Buffer

/-! The recorder of a process: the value arrays of its continuous ports and all its buffers. At
the start of a tick it captures the arrays, at the end it prunes or clears the buffers. -/
namespace Telemetry

/-- What becomes of recorded samples at the end of a tick. -/
inductive Retention
  | windowed (window : Binary64)
  | singleStep
  deriving DecidableEq, Repr

def Retention.pruning : Retention → Except Fault Pruning
  | .windowed window => Pruning.ofWindow window
  | .singleStep => .ok .retain

/-- Buffers `first` to `first + width - 1` record the elements of one array. -/
structure Tap where
  array : Nat
  first : Nat
  width : Nat
  deriving DecidableEq, Repr

structure Recorder where
  retention : Retention
  pruning : Pruning
  arrays : List (List Binary64) := []
  taps : List Tap := []
  buffers : List Buffer := []
  deriving DecidableEq, Repr

namespace Recorder

def singleStep : Recorder := { retention := .singleStep, pruning := .retain }

def ofRetention (retention : Retention) : Except Fault Recorder := do
  return { retention, pruning := ← retention.pruning }

/-- A new array that nothing records; answers its index. -/
def addArray (recorder : Recorder) (values : List Binary64) : Recorder × Nat :=
  ({ recorder with arrays := recorder.arrays ++ [values] }, recorder.arrays.length)

def array (recorder : Recorder) (index : Nat) : List Binary64 := recorder.arrays.getD index []

def setArray (recorder : Recorder) (index : Nat) (values : List Binary64) : Recorder :=
  { recorder with arrays := recorder.arrays.set index values }

def fresh (recorder : Recorder) (count : Nat) : List Nat :=
  List.range' recorder.buffers.length count

/-- A new array with one value buffer per element; answers the buffers. -/
def recordArray (recorder : Recorder) (values : List Binary64) : Recorder × List Nat :=
  let (extended, index) := recorder.addArray values
  ({ extended with
      taps := recorder.taps ++ [⟨index, recorder.buffers.length, values.length⟩]
      buffers := recorder.buffers ++ List.replicate values.length (.forValues recorder.pruning) },
    recorder.fresh values.length)

/-- One value buffer per element of an array that is there already; answers the buffers. Nothing forbids
to record an array twice. -/
def tap (recorder : Recorder) (array : Nat) : Recorder × List Nat :=
  let width := (recorder.array array).length
  ({ recorder with
      taps := recorder.taps ++ [⟨array, recorder.buffers.length, width⟩]
      buffers := recorder.buffers ++ List.replicate width (.forValues recorder.pruning) },
    recorder.fresh width)

/-- New event buffers, filled from outside; answers them. -/
def recordEvents (recorder : Recorder) (count : Nat) : Recorder × List Nat :=
  ({ recorder with
      buffers := recorder.buffers ++ List.replicate count (.forEvents recorder.pruning) },
    recorder.fresh count)

/-- Samples that a tick takes from the arrays, each with the buffer it goes to. -/
def captures (recorder : Recorder) (now : Binary64) : List (Nat × Sample) :=
  recorder.taps.flatMap fun tap =>
    (((recorder.array tap.array).take tap.width).zipIdx tap.first).map fun (value, buffer) =>
      (buffer, ⟨now, value⟩)

def append (buffer : Nat) (sample : Sample) : Action Recorder Unit := fun recorder =>
  match recorder.buffers[buffer]? with
  | none => Action.done () recorder
  | some target =>
    match target.append sample with
    | .error breach => Action.breach breach recorder
    | .ok extended =>
      Action.write { recorder with buffers := recorder.buffers.set buffer extended } recorder

def appendAll : List (Nat × Sample) → Action Recorder Unit
  | [] => Action.done ()
  | (buffer, sample) :: rest => do
    append buffer sample
    appendAll rest

/-- Captures the current values of all recorded arrays. -/
def beginTick (now : Binary64) : Action Recorder Unit := fun recorder =>
  appendAll (recorder.captures now) recorder

/-- Prunes or clears every buffer. -/
def endTick (recorder : Recorder) (now : Binary64) : Recorder :=
  { recorder with
    buffers :=
      match recorder.retention with
      | .windowed _ => recorder.buffers.map fun buffer => (buffer.prune now).1
      | .singleStep => recorder.buffers.map Buffer.clear }

end Recorder
end Telemetry
