import Telemetry.Binary64

/-! The order of numbers other than NaN is linear up to the sign of zero. -/
namespace Telemetry.Binary64

theorem le_iff {x y : Binary64} : x ≤ y ↔ x.isNaN = false ∧ y.isNaN = false ∧ x.key ≤ y.key := Iff.rfl

theorem lt_iff {x y : Binary64} : x < y ↔ x.isNaN = false ∧ y.isNaN = false ∧ x.key < y.key := Iff.rfl

theorem isNaN_of_isFinite {x : Binary64} (finite : x.isFinite = true) : x.isNaN = false := by
  simp only [isFinite, isNaN, decide_eq_true_eq, decide_eq_false_iff_not] at finite ⊢
  omega

theorem le_refl {x : Binary64} (number : x.isNaN = false) : x ≤ x := ⟨number, number, Int.le_refl _⟩

theorem le_trans {x y z : Binary64} (lower : x ≤ y) (upper : y ≤ z) : x ≤ z :=
  ⟨lower.1, upper.2.1, Int.le_trans lower.2.2 upper.2.2⟩

theorem le_of_lt {x y : Binary64} (below : x < y) : x ≤ y := ⟨below.1, below.2.1, Int.le_of_lt below.2.2⟩

theorem not_lt_of_le {x y : Binary64} (ordered : x ≤ y) : ¬y < x :=
  fun below => Int.not_lt.mpr ordered.2.2 below.2.2

theorem lt_of_lt_of_le {x y z : Binary64} (lower : x < y) (upper : y ≤ z) : x < z :=
  ⟨lower.1, upper.2.1, Int.lt_of_lt_of_le lower.2.2 upper.2.2⟩

theorem lt_of_le_of_lt {x y z : Binary64} (lower : x ≤ y) (upper : y < z) : x < z :=
  ⟨lower.1, upper.2.1, Int.lt_of_le_of_lt lower.2.2 upper.2.2⟩

theorem le_max_right (x : Binary64) {y : Binary64} (number : y.isNaN = false) : y ≤ x.max y := by
  unfold max
  split
  · exact le_refl number
  · rename_i left
    rw [if_neg (by simp [number])]
    split
    · exact le_refl number
    · rename_i above
      exact ⟨number, by simpa using left, Int.not_lt.mp above⟩

theorem not_le {x y : Binary64} (left : x.isNaN = false) (right : y.isNaN = false) :
    ¬x ≤ y ↔ y < x := by
  simp only [le_iff, lt_iff, left, right, true_and, Int.not_le]

theorem not_lt {x y : Binary64} (left : x.isNaN = false) (right : y.isNaN = false) :
    ¬x < y ↔ y ≤ x := by
  simp only [le_iff, lt_iff, left, right, true_and, Int.not_lt]

/-- The line is the total order with the negative numbers moved up by one. -/
theorem key_eq_rank (x : Binary64) : x.key = if x.rank < 0 then x.rank + 1 else x.rank := by
  unfold key rank
  split <;> split <;> omega

theorem le_of_rank_le {x y : Binary64} (left : x.isNaN = false) (right : y.isNaN = false)
    (ranked : x.rank ≤ y.rank) : x ≤ y := by
  refine ⟨left, right, ?_⟩
  rw [key_eq_rank, key_eq_rank]
  split <;> split <;> omega

end Telemetry.Binary64
