import Telemetry.Action
import Telemetry.Delta
import Telemetry.Series
import Telemetry.Table

/-! The history of a consumer: the deltas it read, gathered into one time series per channel.
A tick time before the latest one means that the producer started again, and then everything
gathered so far is dropped. -/
namespace Telemetry

/-- Key of one event train: the channel and the sub-index in it. -/
structure EventKey where
  channel : String
  index : Nat
  deriving DecidableEq, Repr

namespace EventKey

instance : ToString EventKey := ⟨fun key => s!"{key.channel}[{key.index}]"⟩

/-- By channel, then by sub-index. -/
instance : LT EventKey :=
  ⟨fun a b => a.channel < b.channel ∨ (a.channel = b.channel ∧ a.index < b.index)⟩

instance : DecidableLT EventKey := fun a b =>
  inferInstanceAs (Decidable (a.channel < b.channel ∨ (a.channel = b.channel ∧ a.index < b.index)))

instance : KeyOrder EventKey where
  irrefl key := by
    rintro (below | ⟨-, below⟩)
    · exact String.lt_irrefl _ below
    · exact Nat.lt_irrefl _ below
  trans := by
    rintro a b c (first | ⟨same, first⟩) (second | ⟨equal, second⟩)
    · exact .inl (String.lt_trans first second)
    · exact .inl (equal ▸ first)
    · exact .inl (same ▸ second)
    · exact .inr ⟨same.trans equal, Nat.lt_trans first second⟩
  connected := by
    rintro ⟨channel, index⟩ ⟨other, place⟩ notBelow notAbove
    have same : channel = other := KeyOrder.connected (mt .inl notBelow) (mt .inl notAbove)
    subst same
    have equal : index = place := Nat.le_antisymm
      (Nat.le_of_not_lt fun above => notAbove (.inr ⟨rfl, above⟩))
      (Nat.le_of_not_lt fun below => notBelow (.inr ⟨rfl, below⟩))
    rw [equal]

end EventKey

structure History where
  continuous : Table String (List Sample) := .empty
  events : Table EventKey (List Binary64) := .empty
  /-- Time of the first delta since the last restart. -/
  earliest : Option Binary64 := none
  /-- Time of the last delta. -/
  latest : Option Binary64 := none
  messages : Nat := 0
  restarts : Nat := 0
  deriving DecidableEq, Repr, Inhabited

inductive Reading
  | applied
  /-- The producer clock went back from this time. -/
  | restarted (previous : Binary64)
  deriving DecidableEq, Repr

structure Truncation where
  discarded : Nat
  lower : Option Binary64
  upper : Option Binary64
  deriving DecidableEq, Repr

namespace History

def extend (history : History) (delta : Delta) : History :=
  { history with
    continuous := delta.continuous.foldl
      (fun table (key, samples) => table.update key [] (· ++ samples)) history.continuous
    events := (delta.events.getD []).foldl
      (fun table (channel, trains) =>
        trains.foldl (fun table (index, times) => table.update ⟨channel, index⟩ [] (· ++ times))
          table)
      history.events
    messages := history.messages + 1 }

/-- Reads one delta. The time bounds move before the series do, and they must not cross. -/
def read (delta : Delta) : Action History Reading := do
  let history ← Action.read
  let now := delta.time
  let (bounded, reading) :=
    match history.latest.filter fun latest => decide (now < latest) with
    | some previous =>
      ({ history with
          continuous := .empty, events := .empty, earliest := some now, latest := some now
          restarts := history.restarts + 1 }, Reading.restarted previous)
    | none =>
      ({ history with earliest := some (history.earliest.getD now), latest := some now },
        Reading.applied)
  match reading with
  | .restarted previous =>
    Action.log .info s!"Simulation reset detected ({previous} -> {now}). Resetting buffers."
  | .applied => pure ()
  Action.write bounded
  let earliest := bounded.earliest.getD now
  if earliest ≤ now then
    Action.write (bounded.extend delta)
    return reading
  else Action.breach (.boundsInverted earliest now)

/-- A window must lie between the earliest and the latest time. -/
def checkWindow (history : History) (lower upper : Binary64) : Except Breach Unit :=
  match history.earliest, history.latest with
  | some earliest, some latest =>
    if ¬ earliest ≤ lower then .error (.windowTooEarly lower earliest)
    else if ¬ upper ≤ latest then .error (.windowTooLate upper latest)
    else .ok ()
  | _, _ => .error (.windowBeforeData lower upper)

def checkOptionalWindow (history : History) : Option (Binary64 × Binary64) → Except Breach Unit
  | none => .ok ()
  | some (lower, upper) => history.checkWindow lower upper

def samplesOf (history : History) (key : String) : List Sample := history.continuous.series key

def timesOf (history : History) (key : EventKey) : List Binary64 := history.events.series key

/-- Series per key, within the window when one is given. -/
def query {κ α : Type} [LT κ] [DecidableEq κ] (history : History) (time : α → Binary64)
    (table : Table κ (List α)) (keys : List κ) (window : Option (Binary64 × Binary64)) :
    Except Breach (List (List α)) := do
  history.checkOptionalWindow window
  return keys.map fun key =>
    match window with
    | some (lower, upper) => Series.window time lower upper (table.series key)
    | none => table.series key

def continuousData (history : History) (keys : List String) (window : Option (Binary64 × Binary64)) :
    Except Breach (List (List Sample)) := history.query (·.time) history.continuous keys window

def eventData (history : History) (keys : List EventKey) (window : Option (Binary64 × Binary64)) :
    Except Breach (List (List Binary64)) := history.query id history.events keys window

def continuousKeys (history : History) : List String := history.continuous.keys

def eventKeys (history : History) : List EventKey := history.events.keys

def sampleCount (history : History) : Nat := history.continuous.itemCount + history.events.itemCount

/-- Cuts every series to the window `[lower, upper)`. -/
def cut (history : History) (lower upper : Option Binary64) : History :=
  { history with
    continuous := history.continuous.cut (·.time) lower upper
    events := history.events.cut id lower upper }

def discardedSpan (lower upper : Option Binary64) : String :=
  " and ".intercalate
    ((lower.map fun l => "older than " ++ l.fixed 2 ++ "s").toList ++
      (upper.map fun u => "not older than " ++ u.fixed 2 ++ "s").toList)

/-- Drops what lies outside the window. At least one bound is needed, and two must be in order. -/
def truncate (lower upper : Option Binary64) : Action History Truncation := do
  match lower, upper with
  | none, none => Action.breach .noBound
  | some l, some u => if ¬ l ≤ u then Action.breach (.boundsOutOfOrder l u)
  | _, _ => pure ()
  let history ← Action.read
  let discarded := history.continuous.loss (·.time) lower upper + history.events.loss id lower upper
  Action.write (history.cut lower upper)
  Action.log .info
    (s!"Clearing buffers: discarding {discarded} elements which are " ++
      discardedSpan lower upper ++ " [sim-time]; took * [real-time].")
  return ⟨discarded, lower, upper⟩

end History
end Telemetry
