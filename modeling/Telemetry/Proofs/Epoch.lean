import Telemetry.Proofs.Binary64.Order
import Mathlib.Data.List.Chain
import Mathlib.Tactic.SplitIfs

/-! Epochs of timed items. A producer that starts again sends a time below the one before; the epoch
is what came since then. -/
namespace Telemetry
variable {α β : Type}

/-- No time lies below the one before. -/
def Steady (time : α → Binary64) (items : List α) : Prop :=
  items.IsChain fun earlier later => time earlier ≤ time later

instance (time : α → Binary64) (items : List α) : Decidable (Steady time items) :=
  inferInstanceAs (Decidable (items.IsChain _))

/-- The longest steady end of a list. -/
def epoch (time : α → Binary64) : List α → List α
  | [] => []
  | item :: items => if Steady time (item :: items) then item :: items else epoch time items

/-- Number of times that lie below the one before. -/
def descents (times : List Binary64) : Nat :=
  (times.zip times.tail).countP fun (earlier, later) => decide (later < earlier)

theorem Steady.append_singleton {time : α → Binary64} {items : List α} {last : α} :
    Steady time (items ++ [last]) ↔
      Steady time items ∧ ∀ before ∈ items.getLast?, time before ≤ time last := by
  simp [Steady, List.isChain_append]

theorem Steady.pairwise {time : α → Binary64} {items : List α} (steady : Steady time items) :
    items.Pairwise fun earlier later => time earlier ≤ time later := by
  have transitive : IsTrans α fun earlier later => time earlier ≤ time later :=
    ⟨fun _ _ _ => Binary64.le_trans⟩
  exact List.isChain_iff_pairwise.mp steady

theorem Steady.sublist {time : α → Binary64} {items part : List α} (steady : Steady time items)
    (inside : part.Sublist items) : Steady time part :=
  (steady.pairwise.sublist inside).isChain

theorem Steady.first_le {time : α → Binary64} {first : α} {items : List α}
    (steady : Steady time (first :: items)) (number : (time first).isNaN = false) {item : α}
    (member : item ∈ first :: items) : time first ≤ time item := by
  rcases List.mem_cons.mp member with rfl | later
  · exact Binary64.le_refl number
  · exact List.rel_of_pairwise_cons steady.pairwise later

theorem Steady.le_last {time : α → Binary64} {items : List α} {last : α} (steady : Steady time items)
    (found : items.getLast? = some last) (number : (time last).isNaN = false) {item : α}
    (member : item ∈ items) : time item ≤ time last := by
  obtain ⟨front, rfl⟩ := List.getLast?_eq_some_iff.mp found
  rcases List.mem_append.mp member with earlier | same
  · exact (List.pairwise_append.mp steady.pairwise).2.2 item earlier last (List.mem_singleton_self last)
  · rw [List.mem_singleton.mp same]
    exact Binary64.le_refl number

theorem epoch_of_steady {time : α → Binary64} {items : List α} (steady : Steady time items) :
    epoch time items = items := by
  cases items with
  | nil => rfl
  | cons item items => simp [epoch, steady]

theorem epoch_of_unsteady {time : α → Binary64} {item : α} {items : List α}
    (unsteady : ¬Steady time (item :: items)) : epoch time (item :: items) = epoch time items := by
  simp [epoch, unsteady]

theorem epoch_suffix (time : α → Binary64) (items : List α) : epoch time items <:+ items := by
  induction items with
  | nil => exact List.suffix_rfl
  | cons item items ih =>
    simp only [epoch]
    split
    · exact List.suffix_rfl
    · exact ih.trans (List.suffix_cons item items)

theorem epoch_steady (time : α → Binary64) (items : List α) : Steady time (epoch time items) := by
  induction items with
  | nil => exact List.IsChain.nil
  | cons item items ih =>
    simp only [epoch]
    split
    · assumption
    · exact ih

theorem suffix_epoch {time : α → Binary64} {items tail : List α} (ending : tail <:+ items)
    (steady : Steady time tail) : tail <:+ epoch time items := by
  induction items with
  | nil => exact ending
  | cons item items ih =>
    simp only [epoch]
    split
    · exact ending
    · rename_i unsteady
      rcases List.suffix_cons_iff.mp ending with rfl | shorter
      · exact absurd steady unsteady
      · exact ih shorter

theorem epoch_append_singleton (time : α → Binary64) (items : List α) (last : α) :
    epoch time (items ++ [last]) =
      if ∀ before ∈ items.getLast?, time before ≤ time last then epoch time items ++ [last]
      else [last] := by
  induction items with
  | nil => simp [epoch, Steady]
  | cons item items ih =>
    have whole : Steady time (item :: items ++ [last]) ↔ _ := Steady.append_singleton
    rw [List.cons_append] at whole ⊢
    cases items with
    | nil =>
      by_cases ordered : time item ≤ time last
      · simp [epoch, Steady, ordered]
      · simp [epoch, Steady, ordered]
    | cons next rest =>
      rw [List.getLast?_cons_cons] at whole ⊢
      by_cases steady : Steady time (item :: next :: rest)
      · split_ifs with continued
        · rw [epoch_of_steady steady, epoch_of_steady (whole.mpr ⟨steady, continued⟩)]
          rfl
        · rw [epoch_of_unsteady fun both => continued (whole.mp both).2, ih, if_neg continued]
      · rw [epoch_of_unsteady fun both => steady (whole.mp both).1, ih, epoch_of_unsteady steady]

theorem epoch_map (time : β → Binary64) (f : α → β) (items : List α) :
    epoch time (items.map f) = (epoch (time ∘ f) items).map f := by
  induction items with
  | nil => rfl
  | cons item items ih =>
    have same : Steady time ((item :: items).map f) ↔ Steady (time ∘ f) (item :: items) :=
      List.isChain_map f
    simp only [List.map_cons] at same ⊢
    by_cases steady : Steady (time ∘ f) (item :: items)
    · rw [epoch_of_steady (same.mpr steady), epoch_of_steady steady, List.map_cons]
    · rw [epoch_of_unsteady (mt same.mp steady), epoch_of_unsteady steady, ih]

theorem descents_append_singleton (times : List Binary64) (last : Binary64) :
    descents (times ++ [last]) =
      descents times + if ∃ before ∈ times.getLast?, last < before then 1 else 0 := by
  induction times with
  | nil => rfl
  | cons time times ih =>
    cases times with
    | nil => simp [descents]
    | cons next rest =>
      rw [List.getLast?_cons_cons]
      simp only [descents, List.cons_append, List.tail_cons, List.zip_cons_cons, List.countP_cons] at ih ⊢
      omega

theorem descents_of_steady {time : α → Binary64} {items : List α} (steady : Steady time items) :
    descents (items.map time) = 0 := by
  induction items with
  | nil => rfl
  | cons item items ih =>
    cases items with
    | nil => rfl
    | cons next rest =>
      obtain ⟨ordered, others⟩ := List.isChain_cons_cons.mp steady
      have none := ih others
      simp only [descents, List.map_cons, List.tail_cons, List.zip_cons_cons, List.countP_cons,
        Binary64.not_lt_of_le ordered] at none ⊢
      simpa using none

end Telemetry
