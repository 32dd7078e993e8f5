import Telemetry.History

/-! The summary of a history that a monitor prints, in columns: the newest value of every continuous
channel and the rate of every event train over the last part of the history. -/
namespace Telemetry

namespace Column

def blanks (n : Nat) : String := String.ofList (List.replicate n ' ')

/-- The text followed by blanks up to the width. A width counts characters, and a text that is too long is
printed whole. -/
def left (width : Nat) (text : String) : String := text ++ blanks (width - text.length)

/-- The text after blanks up to the width. -/
def right (width : Nat) (text : String) : String := blanks (width - text.length) ++ text

end Column

namespace History

def nameColumn (name : String) : String := "  " ++ Column.left 24 name ++ " "

def continuousRow (key : String) (samples : List Sample) : String :=
  nameColumn key ++
    match samples.getLast? with
    | some sample => Column.right 12 (sample.value.fixed 4)
    | none => Column.right 12 "-"

/-- Events per time unit of the span, or their number when the span is empty. -/
def eventRow (span : Binary64) (key : EventKey) (times : List Binary64) : String :=
  nameColumn (toString key) ++
    if Binary64.zero < span then
      Column.right 12 ((Binary64.ofNat times.length / span).fixed 2) ++ "/t"
    else Column.right 12 (toString times.length)

/-- Lines of the summary over the last `window` time units, and the breach that cut it short, if
one did. -/
def summary (history : History) (window : Binary64) : List String × Option Breach :=
  match history.earliest, history.latest with
  | some earliest, some latest =>
    let lower := (latest - window).max earliest
    let header := "-- t = " ++ latest.fixed 3 ++ s!" ({history.restarts} restarts) --"
    match history.continuousData history.continuousKeys none with
    | .error breach => ([header], some breach)
    | .ok series =>
      let rows := (history.continuousKeys.zip series).map fun (key, samples) => continuousRow key samples
      match history.eventData history.eventKeys (some (lower, latest)) with
      | .ok trains =>
        (header :: rows ++
          (history.eventKeys.zip trains).map fun (key, times) => eventRow (latest - lower) key times,
          none)
      | .error breach => (header :: rows, some breach)
  | _, _ => (["-- waiting for data --"], none)

/-- The printed summary: every line ends in a line break. -/
def printed (lines : List String) : String := String.join (lines.map (· ++ "\n"))

end History
end Telemetry
