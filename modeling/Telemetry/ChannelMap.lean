import Telemetry.Buffer

/-! The channel map of a producer: which wire name each buffer travels under. A delta is read
off the mapped buffers and changes none of them. -/
namespace Telemetry

structure ChannelMap where
  /-- Keys of continuous buffers, in mapping order. -/
  continuous : List (String × Nat) := []
  /-- Event channels with their buffers; the position of a buffer is its sub-index. -/
  events : List (String × List Nat) := []
  claimed : List String := []
  deriving DecidableEq, Repr, Inhabited

namespace ChannelMap

def claim (name : String) : Action ChannelMap Unit := do
  let channels ← Action.read
  if channels.claimed.contains name then Action.refuse (.mappedTwice name)
  else Action.write { channels with claimed := channels.claimed ++ [name] }

def claimAll : List String → Action ChannelMap Unit
  | [] => Action.done ()
  | name :: names => do
    claim name
    claimAll names

def mapContinuous (keys : List String) (buffers : List Nat) : Action ChannelMap Unit := do
  if keys.length ≠ buffers.length then Action.refuse (.keyCount keys.length buffers.length)
  claimAll keys
  Action.change fun channels =>
    { channels with continuous := channels.continuous ++ keys.zip buffers }

def mapEvents (channel : String) (buffers : List Nat) : Action ChannelMap Unit := do
  claim channel
  Action.change fun channels => { channels with events := channels.events ++ [(channel, buffers)] }

def size (channels : ChannelMap) : Nat := channels.continuous.length + channels.events.length

/-- The non-empty buffers of an event channel, each under its position. -/
def trains (buffers : List Buffer) (members : List Nat) : List (Nat × List Binary64) :=
  members.zipIdx.filterMap fun (member, index) =>
    match buffers[member]? with
    | some buffer => if buffer.isEmpty then none else some (index, buffer.times)
    | none => none

/-- Delta of the tick `now`: every continuous channel with its samples, and the event channels
that have events. -/
def delta (channels : ChannelMap) (buffers : List Buffer) (now : Binary64) : Delta :=
  let events := channels.events.filterMap fun (channel, members) =>
    let trains := trains buffers members
    if trains.isEmpty then none else some (channel, trains)
  { time := now
    continuous := channels.continuous.map fun (key, member) =>
      (key, (buffers[member]?.map Buffer.samples).getD [])
    events := if events.isEmpty then none else some events }

end ChannelMap
end Telemetry
