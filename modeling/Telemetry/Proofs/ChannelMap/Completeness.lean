import Telemetry.Proofs.ChannelMap
import Telemetry.Proofs.ChannelMap.Refusal
import Telemetry.Proofs.History.Gathered
import Telemetry.Proofs.Producer.Step

/-! A delta leaves nothing out. It lists every continuous key with all its samples, and of the event
channels exactly the buffers that hold something, each under its position. No name stands twice in it, so
a fresh history that reads it holds what the buffers hold. -/
namespace Telemetry.ChannelMap
variable {channels : ChannelMap} {requests : List Request} {buffers : List Buffer} {members : List Nat}

namespace Request

def keys : Request → List String
  | continuous keys _ => keys
  | events _ _ => []

/-- Continuous keys, each with its buffer. -/
def keyed : Request → List (String × Nat)
  | continuous keys buffers => keys.zip buffers
  | events _ _ => []

/-- Event channels, each with its buffers. -/
def ported : Request → List (String × List Nat)
  | continuous _ _ => []
  | events channel buffers => [(channel, buffers)]

end Request

/-- Maps as far as the first request that is refused. -/
def mapAll : List Request → Action ChannelMap Unit
  | [] => Action.done ()
  | request :: requests => do
    request.map
    mapAll requests

/-- Samples of a buffer; none where there is no such buffer. -/
def stored (buffers : List Buffer) (member : Nat) : List Sample :=
  (buffers[member]?.map Buffer.samples).getD []

/-- Times of a buffer; none where there is no such buffer. -/
def waiting (buffers : List Buffer) (member : Nat) : List Binary64 :=
  (buffers[member]?.map Buffer.times).getD []

theorem Request.map_success {request : Request} (ok : (request.map channels).result = .ok ()) :
    request.keys = request.keyed.map (·.1) ∧
      (request.map channels).state.continuous = channels.continuous ++ request.keyed ∧
      (request.map channels).state.events = channels.events ++ request.ported := by
  cases request with
  | continuous keys buffers =>
    obtain ⟨same, after⟩ := mapContinuous_success ok
    simp only [map, after, Request.keys, keyed, ported, List.append_nil, and_true]
    exact (List.map_fst_zip (Nat.le_of_eq same)).symm
  | events channel buffers =>
    simp [map, mapEvents_success ok, Request.keys, keyed, ported]

theorem mapAll_success (ok : (mapAll requests channels).result = .ok ()) :
    requests.flatMap Request.keys = (requests.flatMap Request.keyed).map (·.1) ∧
      (mapAll requests channels).state =
        requests.foldl (fun channels request => (request.map channels).state) channels ∧
      (mapAll requests channels).state.continuous =
        channels.continuous ++ requests.flatMap Request.keyed ∧
      (mapAll requests channels).state.events = channels.events ++ requests.flatMap Request.ported := by
  induction requests generalizing channels with
  | nil => simp [mapAll]
  | cons request requests ih =>
    obtain ⟨⟨⟩, first, others, after⟩ := Action.bind_success ok
    obtain ⟨keys, continuous, events⟩ := Request.map_success first
    obtain ⟨moreKeys, state, moreContinuous, moreEvents⟩ := ih others
    replace after : (mapAll (request :: requests) channels).state = _ := after
    rw [after]
    refine ⟨?_, state, ?_, ?_⟩
    · rw [List.flatMap_cons, List.flatMap_cons, List.map_append, keys, moreKeys]
    · rw [moreContinuous, continuous, List.flatMap_cons, List.append_assoc]
    · rw [moreEvents, events, List.flatMap_cons, List.append_assoc]

/-- No name gets two buffers, refused requests or not. -/
theorem names_nodup (requests : List Request) : (ofRequests requests).names.Nodup := by
  induction requests using List.reverseRecOn with
  | nil => exact List.nodup_nil
  | append_singleton requests request ih =>
    have claimed := names_claimed requests
    rw [ofRequests_append_singleton]
    have maps := request.map_maps (ofRequests requests)
    generalize (request.map (ofRequests requests)).result = result at maps
    generalize (request.map (ofRequests requests)).state = after at maps
    cases maps with
    | continuous same distinct fresh =>
      simp only [names, List.map_append, List.map_fst_zip (Nat.le_of_eq same)] at claimed ih ⊢
      grind
    | events buffers fresh =>
      simp only [names, List.map_append, List.map_cons, List.map_nil] at claimed ih ⊢
      grind
    | _ => exact ih

/-- The requests were all successful, and they made this channel map. -/
structure Built (requests : List Request) (channels : ChannelMap) : Prop where
  continuous : channels.continuous = requests.flatMap Request.keyed
  events : channels.events = requests.flatMap Request.ported
  keys : requests.flatMap Request.keys = (requests.flatMap Request.keyed).map (·.1)
  distinct : channels.names.Nodup

theorem mapAll_built (ok : (mapAll requests {}).result = .ok ()) :
    Built requests (mapAll requests {}).state := by
  obtain ⟨keys, state, continuous, events⟩ := mapAll_success ok
  exact ⟨continuous, events, keys, state ▸ names_nodup requests⟩

theorem trains_eq (buffers : List Buffer) (members : List Nat) :
    trains buffers members = members.zipIdx.filterMap fun entry =>
      if (waiting buffers entry.1).isEmpty then none else some (entry.2, waiting buffers entry.1) := by
  refine List.filterMap_congr fun entry _ => ?_
  cases found : buffers[entry.1]? with
  | none => simp [waiting, found]
  | some buffer => simp [waiting, found, Buffer.isEmpty]

theorem mem_trains {index : Nat} {times : List Binary64} :
    (index, times) ∈ trains buffers members ↔
      times ≠ [] ∧ ∃ member, members[index]? = some member ∧ waiting buffers member = times := by
  simp only [trains_eq, List.mem_filterMap, List.mem_zipIdx_iff_getElem?]
  constructor
  · rintro ⟨⟨member, place⟩, there, kept⟩
    split at kept
    · cases kept
    · rename_i some
      obtain ⟨rfl, rfl⟩ := Prod.mk.inj (Option.some.inj kept)
      exact ⟨by simpa using some, member, there, rfl⟩
  · rintro ⟨some, member, there, rfl⟩
    exact ⟨(member, index), there, by simp [some]⟩

theorem trains_eq_nil_iff :
    trains buffers members = [] ↔ ∀ member ∈ members, waiting buffers member = [] := by
  constructor
  · intro none member there
    obtain ⟨index, found⟩ := List.mem_iff_getElem?.mp there
    by_contra some
    have train := mem_trains.mpr ⟨some, member, found, rfl⟩
    rw [none] at train
    exact List.not_mem_nil train
  · intro empty
    refine List.eq_nil_iff_forall_not_mem.mpr fun train there => ?_
    obtain ⟨some, member, found, same⟩ := mem_trains.mp there
    exact some (same ▸ empty member (List.mem_of_getElem? found))

/-- The sub-indices of a channel stand in increasing order. -/
theorem trains_increasing (buffers : List Buffer) (members : List Nat) :
    ((trains buffers members).map (·.1)).Pairwise (· < ·) := by
  have places : members.zipIdx.Pairwise fun entry other => entry.2 < other.2 := by
    rw [← List.pairwise_map, List.zipIdx_map_snd]
    exact List.pairwise_lt_range'
  rw [List.pairwise_map, trains_eq]
  refine places.filterMap _ fun entry other below train kept next also => ?_
  split at kept
  · cases kept
  · split at also
    · cases also
    · obtain rfl := Option.some.inj kept
      obtain rfl := Option.some.inj also
      exact below

theorem flatMap_filterMap {α β γ : Type} {items : List α} {choose : α → Option β} {parts : β → List γ}
    {whole : α → List γ} (same : ∀ item, ((choose item).map parts).getD [] = whole item) :
    (items.filterMap choose).flatMap parts = items.flatMap whole := by
  induction items with
  | nil => rfl
  | cons item items ih =>
    have here := same item
    cases chosen : choose item with
    | none => simp_all
    | some kept => simp_all

theorem trains_flatten (buffers : List Buffer) (members : List Nat) :
    (trains buffers members).flatMap (·.2) = members.flatMap (waiting buffers) := by
  have all : (trains buffers members).flatMap (·.2) =
      members.zipIdx.flatMap fun entry => waiting buffers entry.1 := by
    rw [trains_eq]
    refine flatMap_filterMap fun entry => ?_
    by_cases none : waiting buffers entry.1 = [] <;> simp [none]
  rw [all, ← List.flatMap_map, List.zipIdx_map_fst]

/-- Some buffer of the channel holds something. -/
def Busy (buffers : List Buffer) (members : List Nat) : Prop :=
  ∃ member ∈ members, waiting buffers member ≠ []

instance : DecidablePred (Busy buffers) := fun _ => inferInstanceAs (Decidable (∃ _ ∈ _, _))

theorem not_busy : ¬Busy buffers members ↔ trains buffers members = [] := by
  simp [trains_eq_nil_iff, Busy]

theorem sections_eq (channels : ChannelMap) (buffers : List Buffer) :
    channels.sections buffers = (channels.events.filter fun entry => Busy buffers entry.2).map fun entry =>
      (entry.1, trains buffers entry.2) := by
  rw [sections, ← List.filterMap_eq_map, List.filterMap_filter]
  refine List.filterMap_congr fun entry _ => ?_
  by_cases busy : Busy buffers entry.2
  · have some : trains buffers entry.2 ≠ [] := mt not_busy.mpr (not_not.mpr busy)
    simp [busy, some]
  · simp [busy, not_busy.mp busy]

theorem section_names_sublist (channels : ChannelMap) (buffers : List Buffer) :
    ((channels.sections buffers).map (·.1)).Sublist (channels.events.map (·.1)) := by
  rw [sections_eq, List.map_map]
  exact List.filter_sublist.map _

/-- Everything the buffers hold is in the delta, under the names of the requests and in their order. -/
structure Complete (requests : List Request) (buffers : List Buffer) (delta : Delta) : Prop where
  continuous : delta.continuous =
    (requests.flatMap Request.keyed).map fun entry => (entry.1, stored buffers entry.2)
  keys : delta.continuous.map (·.1) = requests.flatMap Request.keys
  quiet : delta.events = none ↔
    ∀ entry ∈ requests.flatMap Request.ported, ∀ member ∈ entry.2, waiting buffers member = []
  channels : (delta.events.getD []).map (·.1) =
    ((requests.flatMap Request.ported).filter fun entry => Busy buffers entry.2).map (·.1)
  trains : ∀ entry ∈ delta.events.getD [], ∃ members,
    (entry.1, members) ∈ requests.flatMap Request.ported ∧
      (entry.2.map (·.1)).Pairwise (· < ·) ∧
      ∀ index times, (index, times) ∈ entry.2 ↔
        times ≠ [] ∧ ∃ member, members[index]? = some member ∧ waiting buffers member = times
  distinct : (delta.continuous.map (·.1) ++ (delta.events.getD []).map (·.1)).Nodup
  counted : delta.eventCount = (((requests.flatMap Request.ported).flatMap (·.2)).map fun member =>
    (waiting buffers member).length).sum

theorem delta_sections (channels : ChannelMap) (buffers : List Buffer) (now : Binary64) :
    (channels.delta buffers now).events.getD [] = channels.sections buffers := by
  rw [delta_eq]
  by_cases none : channels.sections buffers = [] <;> simp [none]

theorem delta_quiet_iff (channels : ChannelMap) (buffers : List Buffer) (now : Binary64) :
    (channels.delta buffers now).events = none ↔ channels.sections buffers = [] := by
  rw [delta_eq]
  by_cases none : channels.sections buffers = [] <;> simp [none]

theorem sections_eq_nil_iff (channels : ChannelMap) (buffers : List Buffer) :
    channels.sections buffers = [] ↔
      ∀ entry ∈ channels.events, ∀ member ∈ entry.2, waiting buffers member = [] := by
  rw [sections_eq, List.map_eq_nil_iff, List.filter_eq_nil_iff]
  refine forall₂_congr fun entry _ => ?_
  rw [decide_eq_true_iff, not_busy, trains_eq_nil_iff]

theorem sections_flatten (channels : ChannelMap) (buffers : List Buffer) :
    ((channels.sections buffers).flatMap fun entry => entry.2.flatMap (·.2)) =
      (channels.events.flatMap (·.2)).flatMap (waiting buffers) := by
  rw [List.flatMap_assoc]
  refine flatMap_filterMap fun entry => ?_
  rw [← trains_flatten]
  by_cases none : trains buffers entry.2 = [] <;> simp [none]

theorem Built.complete (built : Built requests channels) (buffers : List Buffer) (now : Binary64) :
    Complete requests buffers (channels.delta buffers now) := by
  have names : (channels.delta buffers now).continuous.map (·.1) = channels.continuous.map (·.1) := by
    simp [delta_eq]
  have sections := channels.delta_sections buffers now
  exact
    { continuous := by
        rw [delta_eq, built.continuous]
        rfl
      keys := by rw [names, built.continuous, built.keys]
      quiet := by rw [delta_quiet_iff, sections_eq_nil_iff, built.events]
      channels := by
        rw [sections, sections_eq, built.events, List.map_map]
        rfl
      trains := by
        rw [sections, sections_eq, built.events]
        intro entry member
        obtain ⟨⟨channel, members⟩, there, rfl⟩ := List.mem_map.mp member
        refine ⟨members, List.mem_of_mem_filter there, trains_increasing buffers members, ?_⟩
        exact fun index times => mem_trains
      distinct := by
        rw [names, sections]
        exact built.distinct.sublist ((section_names_sublist channels buffers).append_left _)
      counted := by
        rw [Delta.eventCount, sections, ← List.length_flatMap, ← built.events, ← sections_flatten] }

/-- The history holds what the buffers hold, and nothing else. -/
structure Mirrors (requests : List Request) (buffers : List Buffer) (history : History) : Prop where
  samples : ∀ entry ∈ requests.flatMap Request.keyed, history.samplesOf entry.1 = stored buffers entry.2
  continuousKeys : ∀ key, key ∈ history.continuousKeys ↔ key ∈ requests.flatMap Request.keys
  times : ∀ entry ∈ requests.flatMap Request.ported, ∀ index member, entry.2[index]? = some member →
    history.timesOf ⟨entry.1, index⟩ = waiting buffers member
  eventKeys : ∀ key, key ∈ history.eventKeys ↔ ∃ members member,
    (key.channel, members) ∈ requests.flatMap Request.ported ∧ members[key.index]? = some member ∧
      waiting buffers member ≠ []

theorem mem_delta_trains {now : Binary64} {key : EventKey} {times : List Binary64} :
    (key, times) ∈ (channels.delta buffers now).trains ↔ times ≠ [] ∧ ∃ members member,
      (key.channel, members) ∈ channels.events ∧ members[key.index]? = some member ∧
        waiting buffers member = times := by
  simp only [Delta.trains, delta_sections, sections_eq, List.mem_flatMap, List.mem_map, List.mem_filter,
    decide_eq_true_iff]
  constructor
  · rintro ⟨-, ⟨⟨channel, members⟩, ⟨there, -⟩, rfl⟩, train, listed, same⟩
    obtain ⟨rfl, rfl⟩ := Prod.mk.inj same
    obtain ⟨some, member, found, held⟩ := mem_trains.mp listed
    exact ⟨some, members, member, there, found, held⟩
  · rintro ⟨some, members, member, there, found, rfl⟩
    have busy : Busy buffers members := ⟨member, List.mem_of_getElem? found, some⟩
    exact ⟨_, ⟨_, ⟨there, busy⟩, rfl⟩, _, mem_trains.mpr ⟨some, member, found, rfl⟩, rfl⟩

theorem delta_trains_nodup (distinct : (channels.events.map (·.1)).Nodup) (buffers : List Buffer)
    (now : Binary64) : ((channels.delta buffers now).trains.map (·.1)).Nodup := by
  have named := distinct.sublist (section_names_sublist channels buffers)
  rw [List.nodup_iff_pairwise_ne, List.pairwise_map] at named
  rw [Delta.trains, delta_sections, List.map_flatMap, List.nodup_iff_pairwise_ne, List.pairwise_flatMap]
  constructor
  · intro entry member
    rw [sections_eq] at member
    obtain ⟨⟨channel, members⟩, -, rfl⟩ := List.mem_map.mp member
    have increasing := trains_increasing buffers members
    rw [List.pairwise_map] at increasing
    simp only [List.map_map, List.pairwise_map]
    exact increasing.imp fun below same => Nat.ne_of_lt below (congrArg EventKey.index same)
  · refine named.imp fun {entry other} different key left last right => ?_
    simp only [List.map_map, List.mem_map] at left right
    obtain ⟨-, -, rfl⟩ := left
    obtain ⟨-, -, rfl⟩ := right
    exact fun same => different (congrArg EventKey.channel same)

theorem itemsOf_delta_trains (single : (channels.events.map (·.1)).Nodup) {channel : String}
    (mapped : (channel, members) ∈ channels.events) {index member : Nat}
    (found : members[index]? = some member) (buffers : List Buffer) (now : Binary64) :
    Table.itemsOf ⟨channel, index⟩ (channels.delta buffers now).trains = waiting buffers member := by
  by_cases none : waiting buffers member = []
  · -- A train under this key would be one of this buffer, since no other entry has the channel.
    rw [none]
    refine Table.itemsOf_eq_nil fun listed => ?_
    obtain ⟨⟨_, times⟩, train, rfl⟩ := List.mem_map.mp listed
    obtain ⟨some, others, other, there, place, held⟩ := mem_delta_trains.mp train
    obtain ⟨-, rfl⟩ := Prod.mk.inj (List.inj_on_of_nodup_map single there mapped rfl)
    obtain rfl : member = other := Option.some.inj (found.symm.trans place)
    exact some (held.symm.trans none)
  · have named := delta_trains_nodup single buffers now
    exact Table.itemsOf_of_mem named (mem_delta_trains.mpr ⟨none, members, member, mapped, found, rfl⟩)

theorem Built.mirrors (built : Built requests channels) {now : Binary64} {history : History}
    (continuous : history.continuous = Table.empty.gather (channels.delta buffers now).continuous)
    (events : history.events = Table.empty.gather (channels.delta buffers now).trains) :
    Mirrors requests buffers history where
  samples entry member := by
    have named : ((channels.delta buffers now).continuous.map (·.1)).Nodup :=
      (built.complete buffers now).distinct.of_append_left
    have listed : (entry.1, stored buffers entry.2) ∈ (channels.delta buffers now).continuous := by
      rw [(built.complete buffers now).continuous]
      exact List.mem_map_of_mem member
    rw [History.samplesOf, continuous, Table.series_gather, Table.series_empty, List.nil_append,
      Table.itemsOf_of_mem named listed]
  continuousKeys key := by
    rw [History.continuousKeys, continuous, Table.mem_keys_gather, (built.complete buffers now).keys]
    simp
  times entry mapped index member found := by
    rw [← built.events] at mapped
    rw [History.timesOf, events, Table.series_gather, Table.series_empty, List.nil_append,
      itemsOf_delta_trains built.distinct.of_append_right mapped found]
  eventKeys key := by
    rw [History.eventKeys, events, Table.mem_keys_gather, ← built.events]
    simp only [Table.keys_empty, List.not_mem_nil, false_or, List.mem_map, Prod.exists, exists_and_right,
      exists_eq_right, mem_delta_trains]
    constructor
    · rintro ⟨times, some, members, member, there, found, rfl⟩
      exact ⟨members, member, there, found, some⟩
    · rintro ⟨members, member, there, found, some⟩
      exact ⟨_, some, members, member, there, found, rfl⟩

/-- A delta of successful mappings holds everything that the mapped buffers hold, in the order of the
mappings and no name twice, and a fresh history that reads it holds the same. -/
theorem delta_complete {requests : List Request} (ok : (mapAll requests {}).result = .ok ())
    (buffers : List Buffer) {now : Binary64} (number : now.isNaN = false) :
    let channels := (mapAll requests {}).state
    let delta := channels.delta buffers now
    delta.time = now ∧ Complete requests buffers delta ∧
      (History.read delta {}).result = .ok .applied ∧
      Mirrors requests buffers (History.read delta {}).state ∧
      ∀ producer : Producer, producer.channels = channels →
        producer.station.recorder.buffers = buffers →
        producer.delta now = delta ∧ (Producer.publish now producer).state.station = producer.station := by
  intro channels delta
  have built : Built requests channels := mapAll_built ok
  have forward : ∀ latest ∈ ({} : History).latest, ¬delta.time < latest := nofun
  obtain ⟨applied, after⟩ := History.read_applied forward (Binary64.le_refl number)
  refine ⟨rfl, built.complete buffers now, applied, ?_, fun producer mapped recorded => ⟨?_, ?_⟩⟩
  · rw [after]
    exact built.mirrors rfl rfl
  · rw [Producer.delta, mapped, recorded]
  · rw [(Producer.publish_eq producer now).2]

/-- Two continuous mappings and two of events, with the buffers they name. The middle buffer of the first
event channel is empty, and the other channel has nothing at all. -/
def mixed : List Request × List Buffer :=
  let samples (values : List Nat) : Buffer :=
    ⟨.ofSamples (values.map fun n => ⟨.ofNat n, .ofNat (n + 10)⟩), .retain, values.length, 0⟩
  let times (values : List Nat) : Buffer := ⟨.ofTimes (values.map .ofNat), .retain, values.length, 0⟩
  ([.continuous ["reward", "rate"] [0, 1], .events "spikes" [2, 3, 4], .events "touch" [5, 3],
      .continuous ["level"] [1]],
    [samples [1], samples [2, 3], times [1, 2], times [], times [1, 1, 3], times []])

theorem mixed_delta_complete :
    let channels := (mapAll mixed.1 {}).state
    let delta := channels.delta mixed.2 (.ofNat 3)
    let history := (History.read delta {}).state
    (mapAll mixed.1 {}).result = .ok () ∧
      delta.continuous.map (·.1) = ["reward", "rate", "level"] ∧ (delta.events.getD []).map (·.1) = ["spikes"] ∧
      delta.eventCount = 5 ∧
      (history.samplesOf "level").map (·.value) = [.ofNat 12, .ofNat 13] ∧
      history.timesOf ⟨"spikes", 2⟩ = [.ofNat 1, .ofNat 1, .ofNat 3] ∧ history.timesOf ⟨"touch", 0⟩ = [] ∧
      ⟨"spikes", 1⟩ ∉ history.eventKeys := by
  intro channels delta history
  have ok : (mapAll mixed.1 {}).result = .ok () := by decide
  have number : (Binary64.ofNat 3).isNaN = false := by decide +kernel
  obtain ⟨-, complete, -, mirrors, -⟩ := delta_complete ok mixed.2 number
  refine ⟨ok, ?_, ?_, ?_, ?_, ?_, ?_, ?_⟩
  · rw [complete.keys]
    decide
  · rw [complete.channels]
    decide +kernel
  · rw [complete.counted]
    decide +kernel
  · rw [mirrors.samples ("level", 1) (by decide)]
    decide +kernel
  · rw [mirrors.times ("spikes", [2, 3, 4]) (by decide) 2 4 (by decide)]
    decide +kernel
  · rw [mirrors.times ("touch", [5, 3]) (by decide) 0 5 (by decide)]
    decide +kernel
  · rw [mirrors.eventKeys]
    rintro ⟨members, member, there, found, some⟩
    obtain rfl : members = [2, 3, 4] := by simpa [mixed, Request.ported] using there
    obtain rfl : 3 = member := Option.some.inj found
    exact some (by decide +kernel)

end Telemetry.ChannelMap
