import Telemetry.Proofs.ChannelMap
import Telemetry.Proofs.History.Gathered

/-! What the delta of a ledger holds under one key: the current value of an element, or the times that
wait in a slot. -/
namespace Telemetry.Ledger
variable {ledger : Ledger}

theorem itemsOf_samples {keyed : List (String × List String)}
    (distinct : (keyed.flatMap (·.2)).Nodup)
    (widths : ∀ entry ∈ keyed, (ledger.values entry.1).length = entry.2.length) {port key : String}
    {keys : List String} (member : (port, keys) ∈ keyed) {place : Nat} (there : keys[place]? = some key)
    (now : Binary64) :
    Table.itemsOf key (ledger.samples keyed now) =
      [⟨now, (ledger.values port).getD place .zero⟩] := by
  rw [← samples_keys widths now] at distinct
  have inside := (List.getElem?_eq_some_iff.mp there).1
  have bound : place < (ledger.values port).length := (widths _ member).symm ▸ inside
  have held : (ledger.values port)[place]? = some ((ledger.values port).getD place .zero) := by
    simp [bound]
  exact Table.itemsOf_of_mem distinct (mem_samples member there held now)

theorem trains_delta (keyed : List (String × List String)) (slots : List (String × Nat))
    (now : Binary64) :
    (ledger.delta keyed slots now).trains = slots.flatMap fun entry =>
      (ledger.occupied entry.1 entry.2).map fun train => (⟨entry.1, train.1⟩, train.2) := by
  have waiting : (ledger.delta keyed slots now).events.getD [] = ledger.sections slots := by
    rw [delta]
    split
    · rename_i empty
      rw [List.isEmpty_iff.mp empty]
      rfl
    · rfl
  rw [Delta.trains, waiting, sections]
  clear waiting
  induction slots with
  | nil => rfl
  | cons entry slots ih =>
    cases empty : (ledger.occupied entry.1 entry.2).isEmpty with
    | true =>
      rw [List.filterMap_cons_none (by simp only [empty, if_true]), ih, List.flatMap_cons,
        List.isEmpty_iff.mp empty]
      rfl
    | false =>
      rw [List.filterMap_cons_some (by simp only [empty, Bool.false_eq_true, if_false]; rfl),
        List.flatMap_cons, ih, List.flatMap_cons]

theorem itemsOf_occupied (port other : String) (slot count : Nat) :
    Table.itemsOf (⟨port, slot⟩ : EventKey)
        ((ledger.occupied other count).map fun train => (⟨other, train.1⟩, train.2)) =
      if other = port ∧ slot < count then ledger.pending port slot else [] := by
  induction count with
  | zero => simp [occupied, Table.itemsOf]
  | succ count ih =>
    rw [occupied, List.range_succ, List.filterMap_append, List.map_append, Table.itemsOf_append,
      ← occupied, ih]
    by_cases last : other = port ∧ slot = count
    · obtain ⟨rfl, rfl⟩ := last
      cases waits : ledger.pending other slot <;> simp [Table.itemsOf, waits]
    · have elsewhere : Table.itemsOf (⟨port, slot⟩ : EventKey)
          (([count].filterMap fun place =>
            let times := ledger.pending other place
            if times.isEmpty then none else some (place, times)).map fun train =>
              (⟨other, train.1⟩, train.2)) = [] := by
        apply Table.itemsOf_eq_nil
        intro member
        cases waits : ledger.pending other count with
        | nil => simp [waits] at member
        | cons time times =>
          simp [waits] at member
          exact last ⟨member.1.symm, member.2⟩
      have same : (other = port ∧ slot < count) ↔ (other = port ∧ slot < count + 1) := by grind
      simp only [elsewhere, List.append_nil, same]

/-- What waits in a slot is what its key has in the delta. -/
theorem itemsOf_trains (keyed : List (String × List String)) {slots : List (String × Nat)}
    (distinct : (slots.map (·.1)).Nodup) {port : String} {count : Nat} (member : (port, count) ∈ slots)
    {slot : Nat} (bound : slot < count) (now : Binary64) :
    Table.itemsOf ⟨port, slot⟩ (ledger.delta keyed slots now).trains = ledger.pending port slot := by
  rw [trains_delta, Table.itemsOf_flatMap]
  simp only [itemsOf_occupied]
  induction slots with
  | nil => simp at member
  | cons entry slots ih =>
    simp only [List.map_cons, List.nodup_cons] at distinct
    rw [List.flatMap_cons]
    rcases List.mem_cons.mp member with rfl | later
    · have others : (slots.flatMap fun entry =>
          if entry.1 = port ∧ slot < entry.2 then ledger.pending port slot else []) = [] := by
        refine List.flatMap_eq_nil_iff.mpr fun entry there => if_neg fun both => ?_
        exact distinct.1 (List.mem_map.mpr ⟨entry, there, both.1⟩)
      rw [others, if_pos ⟨rfl, bound⟩, List.append_nil]
    · have different : entry.1 ≠ port := fun same => distinct.1 (List.mem_map.mpr ⟨_, later, same.symm⟩)
      rw [if_neg fun both => different both.1, List.nil_append]
      exact ih distinct.2 later

theorem itemsOf_trains_eq_nil (keyed : List (String × List String)) {slots : List (String × Nat)}
    {key : EventKey} (absent : ∀ count, (key.channel, count) ∈ slots → count ≤ key.index)
    (now : Binary64) : Table.itemsOf key (ledger.delta keyed slots now).trains = [] := by
  obtain ⟨port, slot⟩ := key
  rw [trains_delta, Table.itemsOf_flatMap]
  simp only [itemsOf_occupied]
  apply List.flatMap_eq_nil_iff.mpr
  intro entry member
  rw [if_neg]
  rintro ⟨rfl, bound⟩
  exact absurd (absent entry.2 member) (Nat.not_le.mpr bound)

end Telemetry.Ledger
