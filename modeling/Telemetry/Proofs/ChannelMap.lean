import Telemetry.ChannelMap
import Telemetry.Proofs.Ledger

/-! The delta of a tick, read off a ledger: one sample for every key, and for every event port what
waits in its slots. -/
namespace Telemetry

namespace Ledger

/-- The slots of an event port that have accepted something. -/
def occupied (ledger : Ledger) (port : String) (slots : Nat) : List (Nat × List Binary64) :=
  (List.range slots).filterMap fun slot =>
    let times := ledger.pending port slot
    if times.isEmpty then none else some (slot, times)

def samples (ledger : Ledger) (keyed : List (String × List String)) (now : Binary64) :
    List (String × List Sample) :=
  keyed.flatMap fun entry =>
    List.zipWith (fun key value => (key, [⟨now, value⟩])) entry.2 (ledger.values entry.1)

def sections (ledger : Ledger) (slots : List (String × Nat)) :
    List (String × List (Nat × List Binary64)) :=
  slots.filterMap fun entry =>
    let trains := ledger.occupied entry.1 entry.2
    if trains.isEmpty then none else some (entry.1, trains)

/-- The delta of a tick. -/
def delta (ledger : Ledger) (keyed : List (String × List String)) (slots : List (String × Nat))
    (now : Binary64) : Delta where
  time := now
  continuous := ledger.samples keyed now
  events := if (ledger.sections slots).isEmpty then none else some (ledger.sections slots)

end Ledger

theorem Ledger.samples_eq {ledger : Ledger} {keyed : List (String × List String)}
    (widths : ∀ entry ∈ keyed, (ledger.values entry.1).length = entry.2.length) (now : Binary64) :
    ledger.samples keyed now =
      List.zipWith (fun key value => (key, [⟨now, value⟩])) (keyed.flatMap (·.2))
        (keyed.flatMap fun entry => ledger.values entry.1) := by
  induction keyed with
  | nil => rfl
  | cons entry keyed ih =>
    obtain ⟨width, others⟩ := List.forall_mem_cons.mp widths
    simp only [Ledger.samples, List.flatMap_cons] at ih ⊢
    rw [ih others, List.zipWith_append width.symm]

namespace Ledger

theorem samples_keys {ledger : Ledger} {keyed : List (String × List String)}
    (widths : ∀ entry ∈ keyed, (ledger.values entry.1).length = entry.2.length) (now : Binary64) :
    (ledger.samples keyed now).map (·.1) = keyed.flatMap (·.2) := by
  induction keyed with
  | nil => rfl
  | cons entry keyed ih =>
    obtain ⟨width, others⟩ := List.forall_mem_cons.mp widths
    have rest := ih others
    simp only [samples, List.flatMap_cons, List.map_append] at rest ⊢
    rw [rest, List.map_zipWith]
    congr 1
    apply List.ext_getElem
    · simp [width]
    · simp

theorem mem_samples {ledger : Ledger} {keyed : List (String × List String)} {port : String}
    {keys : List String} (member : (port, keys) ∈ keyed) {place : Nat} {key : String} {value : Binary64}
    (named : keys[place]? = some key) (held : (ledger.values port)[place]? = some value)
    (now : Binary64) : (key, [⟨now, value⟩]) ∈ ledger.samples keyed now := by
  refine List.mem_flatMap.mpr ⟨_, member, List.mem_iff_getElem?.mpr ⟨place, ?_⟩⟩
  simp [List.getElem?_zipWith, named, held]

end Ledger

namespace ChannelMap

theorem zipIdx_range' (first count : Nat) :
    (List.range' first count).zipIdx = (List.range count).map fun place => (first + place, place) := by
  apply List.ext_getElem
  · simp
  · intro place _ _
    simp

theorem trains_of_contents {buffers : List Buffer} {ledger : Ledger} {port : String} {slots : Nat}
    {front rest : List Content}
    (held : buffers.map (·.content) = front ++ ledger.trains port slots ++ rest) :
    trains buffers (List.range' front.length slots) = ledger.occupied port slots := by
  rw [trains, zipIdx_range', List.filterMap_map, Ledger.occupied]
  apply List.filterMap_congr
  intro slot member
  have bound : slot < slots := List.mem_range.mp member
  have there : (buffers.map (·.content))[front.length + slot]? =
      some (.ofTimes (ledger.pending port slot)) := by
    rw [held, List.append_assoc, List.getElem?_append_right (by omega), Nat.add_sub_cancel_left,
      List.getElem?_append_left (by simpa using bound)]
    simp [Ledger.trains, bound]
  rw [List.getElem?_map] at there
  obtain ⟨buffer, found, content⟩ := Option.map_eq_some_iff.mp there
  simp [found, Buffer.isEmpty, Buffer.times, content, Content.ofTimes]

theorem samples_of_contents {buffers : List Buffer} {keys : List String} {values : List Binary64}
    {now : Binary64} {rest : List Content}
    (held : buffers.map (·.content) = values.map (fun value => .ofSamples [⟨now, value⟩]) ++ rest)
    (width : keys.length = values.length) :
    (keys.zipIdx.map fun entry => (entry.1, (buffers[entry.2]?.map Buffer.samples).getD [])) =
      List.zipWith (fun key value => (key, [(⟨now, value⟩ : Sample)])) keys values := by
  refine List.ext_getElem (by simp [width]) ?_
  intro place inside _
  have bound : place < values.length := by simpa [width] using inside
  have there : (buffers.map (·.content))[place]? = some (.ofSamples [⟨now, values[place]⟩]) := by
    rw [held, List.getElem?_append_left (by simpa using bound)]
    simp [bound]
  rw [List.getElem?_map] at there
  obtain ⟨buffer, found, content⟩ := Option.map_eq_some_iff.mp there
  simp [found, Buffer.samples_of_content content]

theorem events_of_contents {buffers : List Buffer} {ledger : Ledger} {routes : List (String × Route)}
    {front : List Content} (numbered : Numbered front.length routes)
    (held : buffers.map (·.content) = front ++ ledger.eventContents routes) :
    (routes.map fun entry => trains buffers entry.2.buffers) =
      routes.map fun entry => ledger.occupied entry.1 entry.2.buffers.length := by
  induction routes generalizing front with
  | nil => rfl
  | cons head routes ih =>
    obtain ⟨port, route⟩ := head
    obtain ⟨here, later⟩ := numbered
    rw [Ledger.eventContents, List.flatMap_cons, ← List.append_assoc] at held
    have own := trains_of_contents held
    rw [← here] at own
    have placed : Numbered (front ++ ledger.trains port route.buffers.length).length routes := by
      simpa using later
    have others := ih placed held
    rw [List.map_cons, List.map_cons, own, others]

def sections (channels : ChannelMap) (buffers : List Buffer) :
    List (String × List (Nat × List Binary64)) :=
  channels.events.filterMap fun entry =>
    let trains := trains buffers entry.2
    if trains.isEmpty then none else some (entry.1, trains)

theorem delta_eq (channels : ChannelMap) (buffers : List Buffer) (now : Binary64) :
    channels.delta buffers now =
      { time := now
        continuous := channels.continuous.map fun entry =>
          (entry.1, (buffers[entry.2]?.map Buffer.samples).getD [])
        events :=
          if (channels.sections buffers).isEmpty then none else some (channels.sections buffers) } :=
  rfl

/-- What a producer reads off its buffers in the middle of a tick is the delta of the ledger. -/
theorem delta_of_contents {channels : ChannelMap} {buffers : List Buffer} {ledger : Ledger}
    {keyed : List (String × List String)} {routes : List (String × Route)} {now : Binary64}
    (continuous : channels.continuous = (keyed.flatMap (·.2)).zipIdx)
    (events : channels.events = routes.map fun entry => (entry.1, entry.2.buffers))
    (widths : ∀ entry ∈ keyed, (ledger.values entry.1).length = entry.2.length)
    (numbered : Numbered (keyed.flatMap fun entry => ledger.values entry.1).length routes)
    (held : buffers.map (·.content) =
      (keyed.flatMap fun entry => ledger.values entry.1).map (fun value => .ofSamples [⟨now, value⟩]) ++
        ledger.eventContents routes) :
    channels.delta buffers now =
      ledger.delta keyed (routes.map fun entry => (entry.1, entry.2.buffers.length)) now := by
  have total : (keyed.flatMap (·.2)).length =
      (keyed.flatMap fun entry => ledger.values entry.1).length := by
    simp only [List.length_flatMap]
    exact congrArg List.sum (List.map_congr_left fun entry member => (widths entry member).symm)
  have sampled := samples_of_contents held total
  have placed := List.map_inj_left.mp (events_of_contents (by simpa using numbered) held)
  have sectioned : channels.sections buffers =
      ledger.sections (routes.map fun entry => (entry.1, entry.2.buffers.length)) := by
    rw [sections, Ledger.sections, events, List.filterMap_map, List.filterMap_map]
    apply List.filterMap_congr
    intro entry member
    simp only [Function.comp_apply, placed entry member]
  rw [delta_eq, Ledger.delta, sectioned, continuous, sampled, Ledger.samples_eq widths]

end ChannelMap
end Telemetry
