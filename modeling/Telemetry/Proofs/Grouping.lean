import Telemetry.Port
import Mathlib.Algebra.Order.Floor.Div
import Mathlib.Algebra.Order.Ring.Nat

/-! How the indices of a port share its buffers. Rounding the number of buffers up and the place of an
index down agree: every index of the port has a buffer, and every buffer has a run of them. -/
namespace Telemetry.Grouping
variable {grouping : Grouping} {width count index position : Nat}

/-- Number of indices that share a buffer. -/
def share : Grouping → Nat
  | identity => 1
  | aggregate size => size

/-- Position of the buffer that an index goes to. -/
def place : Grouping → Nat → Nat
  | identity, index => index
  | aggregate size, index => index / size

/-- Number of buffers for so many indices, the last one perhaps with fewer of them. -/
def places : Grouping → Nat → Nat
  | identity, width => width
  | aggregate size, width => width ⌈/⌉ size

theorem share_pos (grouped : grouping ≠ .aggregate 0) : 0 < grouping.share := by
  cases grouping with
  | identity => exact Nat.one_pos
  | aggregate size => exact Nat.pos_of_ne_zero fun zero => grouped (congrArg _ zero)

theorem place_eq (grouping : Grouping) (index : Nat) : grouping.place index = index / grouping.share := by
  cases grouping with
  | identity => exact (Nat.div_one index).symm
  | aggregate size => rfl

theorem places_eq (grouping : Grouping) (width : Nat) :
    grouping.places width = width ⌈/⌉ grouping.share := by
  cases grouping with
  | identity => exact (ceilDiv_one width).symm
  | aggregate size => rfl

theorem slot_eq (grouped : grouping ≠ .aggregate 0) (index : Nat) :
    grouping.slot index = .ok (grouping.place index) := by
  cases grouping with
  | identity => rfl
  | aggregate size =>
    have positive : size ≠ 0 := fun zero => grouped (congrArg _ zero)
    simp [slot, place, positive]

theorem bufferCount_eq (grouped : grouping ≠ .aggregate 0) (width : Nat) :
    grouping.bufferCount width = .ok (grouping.places width) := by
  cases grouping with
  | identity => rfl
  | aggregate size =>
    have positive : size ≠ 0 := fun zero => grouped (congrArg _ zero)
    have rounded : (width + (size - 1)) / size = width ⌈/⌉ size := by
      rw [Nat.ceilDiv_eq_add_pred_div, Nat.add_sub_assoc (Nat.one_le_iff_ne_zero.mpr positive)]
    simp [bufferCount, places, positive, rounded]

theorem bufferCount_success (counted : grouping.bufferCount width = .ok count) :
    grouping ≠ .aggregate 0 ∧ count = grouping.places width := by
  by_cases zero : grouping = .aggregate 0
  · simp [zero, bufferCount] at counted
  · rw [bufferCount_eq zero] at counted
    exact ⟨zero, (Except.ok.inj counted).symm⟩

section
variable (grouped : grouping ≠ .aggregate 0)
include grouped

theorem lt_places_iff : position < grouping.places width ↔ grouping.share * position < width := by
  rw [places_eq, ← not_le, ceilDiv_le_iff_le_mul (share_pos grouped), not_le]

theorem width_le_places : width ≤ grouping.share * grouping.places width := by
  rw [places_eq]
  exact le_smul_ceilDiv (share_pos grouped)

theorem place_lt_places_iff :
    grouping.place index < grouping.places width ↔ index < grouping.share * grouping.places width := by
  rw [place_eq, Nat.div_lt_iff_lt_mul (share_pos grouped), Nat.mul_comm]

theorem place_eq_iff :
    grouping.place index = position ↔
      grouping.share * position ≤ index ∧ index < grouping.share * position + grouping.share := by
  have positive := share_pos grouped
  rw [place_eq, Nat.div_eq_iff positive, Nat.mul_comm position]
  exact and_congr_right fun _ => by omega

/-- The indices of a port at one position are a run, which the width may cut short. -/
theorem run_iff :
    index < width ∧ grouping.place index = position ↔
      grouping.share * position ≤ index ∧
        index < min width (grouping.share * position + grouping.share) := by
  rw [place_eq_iff grouped, lt_min_iff]
  tauto

theorem place_lt_places (inside : index < width) : grouping.place index < grouping.places width :=
  (place_lt_places_iff grouped).mpr (inside.trans_le (width_le_places grouped))

/-- An index beyond the width that still has a position shares that of the last index. -/
theorem place_beyond (beyond : width ≤ index) (placed : grouping.place index < grouping.places width) :
    grouping.place index = grouping.place (width - 1) := by
  have started := (lt_places_iff grouped).mp placed
  obtain ⟨-, before⟩ := (place_eq_iff grouped).mp (rfl : grouping.place index = _)
  exact ((place_eq_iff grouped).mpr ⟨by omega, by omega⟩).symm

theorem places_exact_iff : grouping.share * grouping.places width = width ↔ grouping.share ∣ width := by
  constructor
  · intro exact
    exact ⟨_, exact.symm⟩
  · rintro ⟨count, rfl⟩
    rw [places_eq, ← smul_eq_mul grouping.share count, smul_ceilDiv (share_pos grouped), smul_eq_mul]

end

end Telemetry.Grouping
