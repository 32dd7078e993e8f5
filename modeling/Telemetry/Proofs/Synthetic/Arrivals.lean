import Telemetry.Proofs.ChannelMap.Completeness
import Telemetry.Proofs.Pipeline.Series
import Mathlib.Data.List.Perm.Basic

/-! What a delta carries of the events that were accepted one after the other: each of them once, under the
key of its slot, and the events of a slot in the order of their acceptance. -/
namespace Telemetry

/-- Every event time of a delta, with its key. -/
def Delta.arrivals (delta : Delta) : List (EventKey × Binary64) :=
  delta.trains.flatMap fun train => train.2.map fun time => (train.1, time)

theorem Delta.length_arrivals (delta : Delta) : delta.arrivals.length = delta.eventCount := by
  simp only [arrivals, trains, eventCount, List.length_flatMap, List.length_map, List.flatMap_assoc,
    List.flatMap_map]

/-- Items by their keys are the items in another order. -/
theorem perm_of_keys {α κ : Type} [DecidableEq κ] {key : α → κ} {keys : List κ} {items : List α}
    (distinct : keys.Nodup) (known : ∀ item ∈ items, key item ∈ keys) :
    (keys.flatMap fun k => items.filter (key · = k)).Perm items := by
  induction keys generalizing items with
  | nil =>
    obtain rfl := List.eq_nil_iff_forall_not_mem.mpr fun item member => List.not_mem_nil (known item member)
    exact .nil
  | cons first keys ih =>
    obtain ⟨fresh, distinct⟩ := List.nodup_cons.mp distinct
    have later : ∀ item ∈ items.filter (fun item => !decide (key item = first)), key item ∈ keys := by
      intro item member
      obtain ⟨there, other⟩ := List.mem_filter.mp member
      exact (List.mem_cons.mp (known item there)).resolve_left (by simpa using other)
    have rest : keys.flatMap (fun k => items.filter (key · = k)) =
        keys.flatMap fun k => (items.filter fun item => !decide (key item = first)).filter (key · = k) := by
      refine List.flatMap_congr fun k member => ?_
      rw [List.filter_filter]
      refine List.filter_congr fun item _ => ?_
      have other : k ≠ first := ne_of_mem_of_not_mem member fresh
      by_cases same : key item = k <;> simp [same, other]
    rw [List.flatMap_cons, rest]
    exact ((ih distinct later).append_left _).trans (List.filter_append_perm _ items)

namespace Ledger
variable {ledger : Ledger} {slots : List (String × Nat)}

/-- Keys of all slots. -/
def slotKeys (slots : List (String × Nat)) : List EventKey :=
  slots.flatMap fun entry => (List.range entry.2).map fun slot => ⟨entry.1, slot⟩

theorem mem_slotKeys {key : EventKey} :
    key ∈ slotKeys slots ↔ ∃ count, (key.channel, count) ∈ slots ∧ key.index < count := by
  obtain ⟨channel, index⟩ := key
  simp [slotKeys, List.mem_flatMap]

theorem slotKeys_nodup (distinct : (slots.map (·.1)).Nodup) : (slotKeys slots).Nodup := by
  rw [List.nodup_iff_pairwise_ne, List.pairwise_map] at distinct
  refine List.nodup_flatMap.mpr ⟨fun entry _ => ?_, distinct.imp fun {entry other} different => ?_⟩
  · exact List.nodup_range.map fun slot place same => congrArg EventKey.index same
  · rintro key here there
    obtain ⟨slot, -, rfl⟩ := List.mem_map.mp here
    obtain ⟨place, -, same⟩ := List.mem_map.mp there
    exact different (congrArg EventKey.channel same).symm

/-- The trains of a delta are the slots that have accepted something. -/
theorem trains_eq_filterMap (keyed : List (String × List String)) (slots : List (String × Nat))
    (now : Binary64) :
    (ledger.delta keyed slots now).trains = (slotKeys slots).filterMap fun key =>
      if (ledger.pending key.channel key.index).isEmpty then none
      else some (key, ledger.pending key.channel key.index) := by
  rw [trains_delta, slotKeys, List.filterMap_flatMap]
  refine List.flatMap_congr fun entry _ => ?_
  rw [occupied, List.map_filterMap, List.filterMap_map]
  refine List.filterMap_congr fun slot _ => ?_
  by_cases none : ledger.pending entry.1 slot = [] <;> simp [none]

theorem mem_trains {keyed : List (String × List String)} {now : Binary64}
    {train : EventKey × List Binary64} (member : train ∈ (ledger.delta keyed slots now).trains) :
    train.1 ∈ slotKeys slots ∧ train.2 = ledger.pending train.1.channel train.1.index := by
  rw [trains_eq_filterMap] at member
  obtain ⟨key, listed, kept⟩ := List.mem_filterMap.mp member
  split at kept
  · cases kept
  · obtain rfl := Option.some.inj kept
    exact ⟨listed, rfl⟩

theorem trains_nodup (keyed : List (String × List String)) (distinct : (slots.map (·.1)).Nodup)
    (now : Binary64) : ((ledger.delta keyed slots now).trains.map (·.1)).Nodup := by
  have kept : (ledger.delta keyed slots now).trains.map (·.1) =
      (slotKeys slots).filter fun key => !(ledger.pending key.channel key.index).isEmpty := by
    rw [trains_eq_filterMap, List.map_filterMap, ← List.filterMap_eq_filter]
    refine List.filterMap_congr fun key _ => ?_
    by_cases none : ledger.pending key.channel key.index = [] <;> simp [none, Option.guard]
  rw [kept]
  exact (slotKeys_nodup distinct).filter _

theorem arrivals_eq (keyed : List (String × List String)) (slots : List (String × Nat))
    (now : Binary64) :
    (ledger.delta keyed slots now).arrivals =
      (slotKeys slots).flatMap fun key => (ledger.pending key.channel key.index).map (key, ·) := by
  rw [Delta.arrivals, trains_eq_filterMap]
  refine ChannelMap.flatMap_filterMap fun key => ?_
  by_cases none : ledger.pending key.channel key.index = [] <;> simp [none]

/-- The ledger after some arrivals, one after the other. -/
def acceptAll (arrivals : List (EventKey × Binary64)) (ledger : Ledger) : Ledger :=
  arrivals.foldl (fun ledger arrival => ledger.accept arrival.1.channel arrival.1.index arrival.2) ledger

theorem pending_accept (ledger : Ledger) (placed key : EventKey) (time : Binary64) :
    (ledger.accept placed.channel placed.index time).pending key.channel key.index =
      ledger.pending key.channel key.index ++ if placed = key then [time] else [] := by
  obtain ⟨port, slot⟩ := placed
  obtain ⟨other, place⟩ := key
  by_cases same : other = port ∧ place = slot
  · obtain ⟨rfl, rfl⟩ := same
    simp [accept]
  · have different : ¬(port = other ∧ slot = place) := fun equal => same ⟨equal.1.symm, equal.2.symm⟩
    simp [accept, same, different]

theorem pending_acceptAll (arrivals : List (EventKey × Binary64)) (ledger : Ledger) (key : EventKey) :
    (ledger.acceptAll arrivals).pending key.channel key.index =
      ledger.pending key.channel key.index ++ (arrivals.filter (·.1 = key)).map (·.2) := by
  induction arrivals generalizing ledger with
  | nil => simp [acceptAll]
  | cons arrival arrivals ih =>
    have next : ledger.acceptAll (arrival :: arrivals) =
        (ledger.accept arrival.1.channel arrival.1.index arrival.2).acceptAll arrivals := rfl
    rw [next, ih, pending_accept, List.append_assoc]
    by_cases same : arrival.1 = key <;> simp [same]

theorem steady_acceptAll {arrivals : List (EventKey × Binary64)}
    (fresh : ∀ port slot, ledger.pending port slot = [])
    (sorted : arrivals.Pairwise fun earlier later => earlier.2 ≤ later.2)
    {keyed : List (String × List String)} {now : Binary64} {train : EventKey × List Binary64}
    (member : train ∈ ((ledger.acceptAll arrivals).delta keyed slots now).trains) : Steady id train.2 := by
  rw [(mem_trains member).2, pending_acceptAll, fresh, List.nil_append]
  exact (List.pairwise_map.mpr (sorted.sublist List.filter_sublist)).isChain

/-- What was accepted since the last tick is what the delta carries. -/
theorem arrivals_acceptAll {arrivals : List (EventKey × Binary64)}
    (fresh : ∀ port slot, ledger.pending port slot = [])
    (keyed : List (String × List String)) (distinct : (slots.map (·.1)).Nodup)
    (placed : ∀ arrival ∈ arrivals, arrival.1 ∈ slotKeys slots) (now : Binary64) :
    ((ledger.acceptAll arrivals).delta keyed slots now).arrivals.Perm arrivals := by
  have waiting : ∀ key : EventKey,
      ((ledger.acceptAll arrivals).pending key.channel key.index).map (key, ·) =
        arrivals.filter (·.1 = key) := by
    intro key
    rw [pending_acceptAll, fresh, List.nil_append, List.map_map]
    refine (List.map_congr_left fun arrival member => ?_).trans (List.map_id _)
    have same : arrival.1 = key := by simpa using (List.mem_filter.mp member).2
    simp [← same]
  simp only [arrivals_eq, waiting]
  exact perm_of_keys (slotKeys_nodup distinct) placed

end Ledger

end Telemetry
