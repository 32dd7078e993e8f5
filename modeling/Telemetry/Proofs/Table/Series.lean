import Telemetry.Proofs.Series
import Telemetry.Proofs.Table

/-! Tables of time series. What happens to the series one by one happens to what is found under every key:
a cut takes a part of each series, and a trimmed table misses only items from before a horizon. -/
namespace Telemetry.Table
variable {κ α : Type} [LT κ] {time : α → Binary64} {lower upper horizon later : Option Binary64}
  {table kept whole : Table κ (List α)}

theorem mem_entries_cut {entry : κ × List α} (member : entry ∈ (table.cut time lower upper).entries) :
    ∃ old ∈ table.entries, entry.2.Sublist old.2 := by
  obtain ⟨old, there, rfl⟩ := List.mem_map.mp member
  exact ⟨old, there, Series.cut_sublist time lower upper old.2⟩

theorem All.cut {property : α → Prop} (all : table.All property) (time : α → Binary64)
    (lower upper : Option Binary64) : (table.cut time lower upper).All property := by
  intro entry member item inside
  obtain ⟨old, there, part⟩ := mem_entries_cut member
  exact all old there item (part.subset inside)

/-- Every series is in the order of time. -/
def Steady (time : α → Binary64) (table : Table κ (List α)) : Prop :=
  ∀ entry ∈ table.entries, Telemetry.Steady time entry.2

instance (time : α → Binary64) (table : Table κ (List α)) : Decidable (table.Steady time) :=
  inferInstanceAs (Decidable (∀ entry ∈ table.entries, _))

theorem Steady.cut (steady : table.Steady time) (lower upper : Option Binary64) :
    (table.cut time lower upper).Steady time := by
  intro entry member
  obtain ⟨old, there, part⟩ := mem_entries_cut member
  exact (steady old there).sublist part

theorem values_cut (time : α → Binary64) (lower upper : Option Binary64) (table : Table κ (List α)) :
    (table.cut time lower upper).values = table.values.map (Series.cut time lower upper) := by
  simp [cut, map, values, Function.comp_def]

/-- The losses add up to what was lost before and what the cut series are shorter by. -/
theorem foldl_loss (time : α → Binary64) (lower upper : Option Binary64) (lost : Nat)
    (series : List (List α)) :
    (series.map (Series.cut time lower upper)).flatten.length +
        series.foldl (fun lost items => lost + (items.length - (Series.cut time lower upper items).length)) lost =
      series.flatten.length + lost := by
  induction series generalizing lost with
  | nil => simp
  | cons items series ih =>
    have rest := ih (lost + (items.length - (Series.cut time lower upper items).length))
    have shorter := (Series.cut_sublist time lower upper items).length_le
    simp only [List.map_cons, List.flatten_cons, List.length_append, List.foldl_cons]
    omega

/-- What a cut leaves and what it takes are all there was. -/
theorem itemCount_cut (time : α → Binary64) (lower upper : Option Binary64) (table : Table κ (List α)) :
    (table.cut time lower upper).itemCount + table.loss time lower upper = table.itemCount := by
  rw [itemCount, itemCount, loss, values_cut]
  exact foldl_loss time lower upper 0 table.values

variable [DecidableEq κ]

theorem series_cut (time : α → Binary64) (lower upper : Option Binary64) (table : Table κ (List α)) (key : κ) :
    (table.cut time lower upper).series key = Series.cut time lower upper (table.series key) :=
  series_map (List.sublist_nil.mp (Series.cut_sublist time lower upper [])) table key

theorem Steady.series (steady : table.Steady time) (key : κ) : Telemetry.Steady time (table.series key) :=
  series_induction (Telemetry.Steady time) List.IsChain.nil steady key

theorem All.series {property : α → Prop} (all : table.All property) (key : κ) :
    ∀ item ∈ table.series key, property item :=
  series_induction (fun items => ∀ item ∈ items, property item) nofun all key

/-- The keys are the same, and every series misses only items from before the horizon. -/
structure Trimmed (time : α → Binary64) (horizon : Option Binary64) (kept whole : Table κ (List α)) :
    Prop where
  keys : kept.keys = whole.keys
  series : ∀ key, Series.Trimmed time horizon (kept.series key) (whole.series key)

namespace Trimmed

theorem refl (time : α → Binary64) (horizon : Option Binary64) (whole : Table κ (List α)) :
    Trimmed time horizon whole whole :=
  ⟨rfl, fun _ => .refl _ _ _⟩

theorem cut {bound : Binary64} (trimmed : Trimmed time (some bound) kept whole) (steady : whole.Steady time) :
    Trimmed time (some bound) (kept.cut time (some bound) none) whole where
  keys := (keys_map _ _).trans trimmed.keys
  series key := by
    rw [series_cut]
    exact (trimmed.series key).cut (steady.series key)

theorem gather [DecidableLT κ] [KeyOrder κ] (trimmed : Trimmed time horizon kept whole)
    (moved : ∀ bound ∈ horizon, ∃ next ∈ later, bound ≤ next) (pairs : List (κ × List α)) :
    Trimmed time later (kept.gather pairs) (whole.gather pairs) where
  keys := keys_gather_congr trimmed.keys pairs
  series key := by
    rw [series_gather, series_gather]
    exact ((trimmed.series key).forward moved).append _

end Trimmed

end Telemetry.Table
