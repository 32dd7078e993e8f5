import Telemetry.Clock
import Telemetry.Proofs.Binary64.Rounding
import Telemetry.Proofs.Series
import Mathlib.Algebra.Order.Floor.Semiring
import Mathlib.Data.List.Range
import Mathlib.Data.List.TakeWhile
import Mathlib.Data.Rat.Floor
import Mathlib.Tactic.Linarith

/-! The ticks of a runtime. Of times in order they are those within its bounds. A clock that does not
round has the ticks from the first one on, as many as timesteps begin before the total is over. -/
namespace Telemetry.Clock

theorem runtime_eq_filter {timestep : Binary64} (number : timestep.isNaN = false)
    (total : Option Binary64) {times : List Binary64} (numbers : ∀ t ∈ times, t.isNaN = false)
    (steady : Steady id times) :
    runtime timestep total times =
      times.filter fun t => decide (timestep ≤ t ∧ ∀ limit ∈ total, t < limit + timestep) := by
  have late : times.dropWhile (fun t => decide (t < timestep)) =
      times.filter fun t => decide (timestep ≤ t) := by
    refine (Series.falling_of_steady steady timestep).dropWhile_eq.trans ?_
    exact Series.filter_not_before number numbers
  rw [runtime, late]
  cases total with
  | none =>
    refine (List.takeWhile_eq_self_iff.mpr fun _ _ => rfl).trans ?_
    simp
  | some limit =>
    have falling : Series.Falling (fun t => decide (t < limit + timestep))
        (times.filter fun t => decide (timestep ≤ t)) :=
      (Series.falling_of_steady steady _).filter _
    rw [falling.takeWhile_eq, List.filter_filter]
    refine List.filter_congr fun t _ => ?_
    simp [Bool.and_comm]

section Ticks
variable {τ : Type} [NatCast τ] [Mul τ] [LT τ] [DecidableLT τ]

theorem ticks_dropWhile {timestep : τ} (zeroth : tick timestep 0 < timestep)
    (first : ¬tick timestep 1 < timestep) (count : Nat) :
    (ticks timestep (count + 2)).dropWhile (fun t => decide (t < timestep)) =
      (List.range' 1 (count + 1)).map (tick timestep) := by
  rw [ticks, List.range_eq_range', List.range'_succ, List.map_cons,
    List.dropWhile_cons_of_pos (by simpa using zeroth), List.range'_succ, List.map_cons,
    List.dropWhile_cons_of_neg (by simpa using first)]

/-- The runtime ends at the first tick that is not before its bound, however long the clock goes on. -/
theorem runtime_ticks [Add τ] {timestep total : τ} {last count : Nat} (long : last + 2 ≤ count)
    (zeroth : tick timestep 0 < timestep) (first : ¬tick timestep 1 < timestep)
    (inside : ∀ number < last, tick timestep (number + 1) < total + timestep)
    (outside : ¬tick timestep (last + 1) < total + timestep) :
    runtime timestep (some total) (ticks timestep count) =
      (List.range' 1 last).map (tick timestep) := by
  obtain ⟨rest, rfl⟩ := Nat.exists_eq_add_of_le' long
  have within : ∀ t ∈ (List.range' 1 last).map (tick timestep), decide (t < total + timestep) := by
    intro t member
    obtain ⟨number, bounds, rfl⟩ := List.mem_map.mp member
    obtain ⟨positive, below⟩ := List.mem_range'_1.mp bounds
    obtain ⟨before, rfl⟩ := Nat.exists_eq_add_of_le' positive
    simpa using inside before (by omega)
  rw [runtime, ← Nat.add_assoc, ticks_dropWhile zeroth first,
    show rest + last + 1 = last + (rest + 1) by omega, ← List.range'_append_1, List.map_append,
    List.takeWhile_append_of_pos within, List.range'_succ, List.map_cons, Nat.add_comm 1 last,
    List.takeWhile_cons_of_neg (by simpa using outside), List.append_nil]

end Ticks

theorem tick_lt_iff {timestep total : ℚ} (positive : 0 < timestep) (number : Nat) :
    tick timestep (number + 1) < total + timestep ↔ number < ⌈total / timestep⌉₊ := by
  rw [Nat.lt_ceil, lt_div_iff₀ positive, tick, Nat.cast_succ, add_mul, one_mul, add_lt_add_iff_right]

theorem runtime_ticks_rational {timestep : ℚ} (positive : 0 < timestep) (total : ℚ) {count : Nat}
    (long : ⌈total / timestep⌉₊ + 2 ≤ count) :
    runtime timestep (some total) (ticks timestep count) =
      (List.range' 1 ⌈total / timestep⌉₊).map (tick timestep) := by
  refine runtime_ticks long ?_ ?_ ?_ ?_
  · simpa [tick] using positive
  · simp [tick]
  · exact fun number below => (tick_lt_iff positive number).mpr below
  · exact mt (tick_lt_iff positive _).mp (Nat.lt_irrefl _)

/-- No rounding takes place until the runtime is over. -/
structure Exact (timestep total : Binary64) : Prop where
  tick_value : ∀ number ≤ ⌈total.value / timestep.value⌉₊ + 1,
    (tick timestep number).isFinite = true ∧
      (tick timestep number).value = tick timestep.value number
  bound_value : (total + timestep).isFinite = true ∧
    (total + timestep).value = total.value + timestep.value

theorem Exact.runtime_ticks {timestep total : Binary64} (exact : Exact timestep total)
    (finite : timestep.isFinite = true) (positive : Binary64.zero < timestep) {count : Nat}
    (long : ⌈total.value / timestep.value⌉₊ + 2 ≤ count) :
    runtime timestep (some total) (ticks timestep count) =
      (List.range' 1 ⌈total.value / timestep.value⌉₊).map (tick timestep) := by
  have number := Binary64.isNaN_of_isFinite finite
  have above : 0 < timestep.value := Binary64.value_pos positive
  -- Every comparison the runtime makes is one of values.
  have start : ∀ count ≤ ⌈total.value / timestep.value⌉₊ + 1,
      tick timestep count < timestep ↔ tick timestep.value count < timestep.value := by
    intro count early
    obtain ⟨finite, same⟩ := exact.tick_value count early
    rw [Binary64.lt_iff_value (Binary64.isNaN_of_isFinite finite) number, same]
  have ending : ∀ count ≤ ⌈total.value / timestep.value⌉₊,
      tick timestep (count + 1) < total + timestep ↔ count < ⌈total.value / timestep.value⌉₊ := by
    intro count early
    obtain ⟨finite, same⟩ := exact.tick_value (count + 1) (by omega)
    rw [Binary64.lt_iff_value (Binary64.isNaN_of_isFinite finite)
      (Binary64.isNaN_of_isFinite exact.bound_value.1), same, exact.bound_value.2]
    exact tick_lt_iff above count
  refine Clock.runtime_ticks long ?_ ?_ ?_ ?_
  · exact (start 0 (by omega)).mpr (by simpa [tick] using above)
  · exact mt (start 1 (by omega)).mp (by simp [tick])
  · exact fun number below => (ending number below.le).mpr below
  · exact mt (ending _ le_rfl).mp (Nat.lt_irrefl _)

end Telemetry.Clock
