import Telemetry.Binary64
import Telemetry.Table

/-! Half-open windows of time-ordered series, found by binary search, and tables of such series. -/
namespace Telemetry.Series
variable {α : Type}

/-- Binary search among `size` items from `base` on: halves the range and keeps the part that
holds the last item before the bound, if there is one. -/
def search (before : α → Bool) (items : List α) (base size : Nat) : Nat :=
  if size ≤ 1 then base
  else
    let half := size / 2
    let middle := base + half
    search before items (if (items[middle]?).any before then middle else base) (size - half)
termination_by size
decreasing_by omega

/-- Number of items at the front that lie before a bound, in a series where no such item follows
another one. -/
def partitionPoint (before : α → Bool) (items : List α) : Nat :=
  let base := search before items 0 items.length
  if (items[base]?).any before then base + 1 else base

/-- Items whose time lies in `[lower, upper)`. -/
def window (time : α → Binary64) (lower upper : Binary64) (items : List α) : List α :=
  let first := partitionPoint (fun a => decide (time a < lower)) items
  let last := max (partitionPoint (fun a => decide (time a < upper)) items) first
  (items.take last).drop first

/-- What is left of a series when everything outside `[lower, upper)` is dropped; a missing
bound drops nothing. -/
def cut (time : α → Binary64) (lower upper : Option Binary64) (items : List α) : List α :=
  let below :=
    match upper with
    | some u => items.take (partitionPoint (fun a => decide (time a < u)) items)
    | none => items
  match lower with
  | some l => below.drop (partitionPoint (fun a => decide (time a < l)) below)
  | none => below

end Telemetry.Series

namespace Telemetry.Table
variable {κ α : Type} [LT κ]

/-- Cuts every series. -/
def cut (time : α → Binary64) (lower upper : Option Binary64) (table : Table κ (List α)) :
    Table κ (List α) := table.map (Series.cut time lower upper)

/-- What the series lose by a cut, added up. -/
def loss (time : α → Binary64) (lower upper : Option Binary64) (table : Table κ (List α)) : Nat :=
  table.values.foldl (fun lost items => lost + (items.length - (Series.cut time lower upper items).length)) 0

end Telemetry.Table
