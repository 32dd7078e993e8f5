import Telemetry.Proofs.Recorder

/-! The chronicle of a recorder: everything that was ever appended to its buffers. Nothing is pruned here
and no order is checked; a tick writes down what the arrays hold then. -/
namespace Telemetry.Recorder

/-- What can happen to a recorder. -/
inductive Command
  /-- A new array. -/
  | provide (values : List Binary64)
  /-- Buffers for the elements of an array. -/
  | tap (array : Nat)
  /-- Event buffers. -/
  | events (count : Nat)
  | set (array : Nat) (values : List Binary64)
  | append (buffer : Nat) (time : Binary64)
  | beginTick (now : Binary64)
  | endTick (now : Binary64)
  deriving DecidableEq, Repr

namespace Command

def perform : Command → Action Recorder Unit
  | provide values => Action.change fun recorder => (recorder.addArray values).1
  | tap array => Action.change fun recorder => (recorder.tap array).1
  | events count => Action.change fun recorder => (recorder.recordEvents count).1
  | set array values => Action.change fun recorder => recorder.setArray array values
  | append buffer time => Recorder.append buffer ⟨time, .zero⟩
  | beginTick now => Recorder.beginTick now
  | endTick now => Action.change fun recorder => recorder.endTick now

/-- Time of the last tick. -/
def clock (clock : Option Binary64) : Command → Option Binary64
  | beginTick now | endTick now => some now
  | _ => clock

/-- Arrays are there when they are tapped and keep their length, events go to event buffers that accept
them, and ticks go forward. -/
def Proper (recorder : Recorder) (clock : Option Binary64) : Command → Prop
  | provide _ | events _ => True
  | tap array => array < recorder.arrays.length
  | set array values => values.length = (recorder.array array).length
  | append buffer time => time.isNaN = false ∧
      ∃ target ∈ recorder.buffers[buffer]?, target.holdsValues = false ∧
        (target.append ⟨time, .zero⟩).isOk = true
  | beginTick now | endTick now => now.isFinite = true ∧ ∀ last ∈ clock, last ≤ now

instance (recorder : Recorder) (clock : Option Binary64) :
    (command : Command) → Decidable (command.Proper recorder clock)
  | provide _ | events _ => inferInstanceAs (Decidable True)
  | tap _ => inferInstanceAs (Decidable (_ < _))
  | set _ _ => inferInstanceAs (Decidable (_ = _))
  | append _ _ | beginTick _ | endTick _ => inferInstanceAs (Decidable (_ ∧ _))

end Command

def after : List Command → Recorder → Recorder
  | [], recorder => recorder
  | command :: commands, recorder => after commands (command.perform recorder).state

def Orderly : Recorder → Option Binary64 → List Command → Prop
  | _, _, [] => True
  | recorder, clock, command :: commands =>
    command.Proper recorder clock ∧
      Orderly (command.perform recorder).state (command.clock clock) commands

instance decidableOrderly : (recorder : Recorder) → (clock : Option Binary64) →
    (commands : List Command) → Decidable (recorder.Orderly clock commands)
  | _, _, [] => isTrue trivial
  | recorder, clock, command :: commands =>
    have := decidableOrderly (command.perform recorder).state (command.clock clock) commands
    inferInstanceAs (Decidable (_ ∧ _))

/-- Times of the ticks that were begun. -/
def begun (commands : List Command) : List Binary64 :=
  commands.filterMap fun
    | .beginTick now => some now
    | _ => none

theorem after_append (front back : List Command) (recorder : Recorder) :
    recorder.after (front ++ back) = (recorder.after front).after back := by
  induction front generalizing recorder with
  | nil => rfl
  | cons command front ih => exact ih (command.perform recorder).state

/-- Everything that was appended to one buffer. -/
inductive Track
  /-- Values of one element of an array. -/
  | values (array place : Nat) (samples : List Sample)
  | events (times : List Binary64)
  deriving DecidableEq, Repr

namespace Track

def push (sample : Sample) : Track → Track
  | values array place samples => values array place (samples ++ [sample])
  | events times => events (times ++ [sample.time])

/-- What a tick takes from the arrays. -/
def taken (arrays : List (List Binary64)) (now : Binary64) : Track → Option Sample
  | values array place _ => ((arrays.getD array [])[place]?).map fun value => ⟨now, value⟩
  | events _ => none

def capture (arrays : List (List Binary64)) (now : Binary64) (track : Track) : Track :=
  (track.taken arrays now).elim track track.push

/-- What lies at the bound or behind it. -/
def since (bound : Binary64) : Track → Content
  | values _ _ samples => .ofSamples (samples.filter fun sample => decide (bound ≤ sample.time))
  | events times => .ofTimes (times.filter fun time => decide (bound ≤ time))

def source? : Track → Option (Nat × Nat)
  | values array place _ => some (array, place)
  | events _ => none

end Track

structure Chronicle where
  arrays : List (List Binary64) := []
  tracks : List Track := []
  deriving DecidableEq, Repr

namespace Chronicle

def record (chronicle : Chronicle) : Command → Chronicle
  | .provide values => { chronicle with arrays := chronicle.arrays ++ [values] }
  | .tap array =>
    { chronicle with
      tracks := chronicle.tracks ++
        (List.range (chronicle.arrays.getD array []).length).map fun place => .values array place [] }
  | .events count => { chronicle with tracks := chronicle.tracks ++ List.replicate count (.events []) }
  | .set array values => { chronicle with arrays := chronicle.arrays.set array values }
  | .append buffer time =>
    { chronicle with tracks := chronicle.tracks.modify buffer (·.push ⟨time, .zero⟩) }
  | .beginTick now => { chronicle with tracks := chronicle.tracks.map (·.capture chronicle.arrays now) }
  | .endTick _ => chronicle

def ofCommands (commands : List Command) : Chronicle := commands.foldl record {}

/-- The tracks of array elements, each with its array and its place in it. -/
def slots (chronicle : Chronicle) : List (Nat × Nat × Nat) :=
  (chronicle.tracks.map Track.source?).zipIdx.filterMap fun (source, buffer) =>
    source.map fun (array, place) => (buffer, array, place)

end Chronicle

end Telemetry.Recorder
