import Mathlib.Data.List.Basic

/-! Queues that are taken from in turn: the first elements of all of them come before the second
ones. Every element comes with the index of its queue. -/
namespace Telemetry
variable {α : Type}

/-- The first element of every queue that has one, from a first index on. -/
def row : Nat → List (List α) → List (Nat × α)
  | _, [] => []
  | index, queue :: queues => queue.head?.toList.map (index, ·) ++ row (index + 1) queues

/-- So many elements of every queue. -/
def rows : Nat → List (List α) → List (Nat × α)
  | 0, _ => []
  | count + 1, queues => row 0 queues ++ rows count (queues.map List.tail)

def interleave (queues : List (List α)) : List (Nat × α) := rows queues.flatten.length queues

theorem row_values (index : Nat) (queues : List (List α)) :
    (row index queues).map (·.2) = queues.filterMap List.head? := by
  induction queues generalizing index with
  | nil => rfl
  | cons queue queues ih => cases queue <;> simp [row, ih, List.filterMap_cons]

theorem le_of_mem_row {index : Nat} {queues : List (List α)} {item : Nat × α}
    (member : item ∈ row index queues) : index ≤ item.1 := by
  induction queues generalizing index with
  | nil => simp [row] at member
  | cons queue queues ih =>
    rcases List.mem_append.mp member with here | later
    · obtain ⟨value, -, rfl⟩ := List.mem_map.mp here
      exact Nat.le_refl index
    · exact Nat.le_of_succ_le (ih later)

theorem row_filter (first place : Nat) (queues : List (List α)) :
    (row first queues).filter (·.1 = first + place) =
      (queues[place]?.getD []).head?.toList.map (first + place, ·) := by
  induction queues generalizing first place with
  | nil => rfl
  | cons queue queues ih =>
    rw [row, List.filter_append]
    cases place with
    | zero =>
      have own : (queue.head?.toList.map (first, ·)).filter (·.1 = first) =
          queue.head?.toList.map (first, ·) := List.filter_eq_self.mpr (by simp)
      have others : (row (first + 1) queues).filter (·.1 = first) = [] := by
        refine List.filter_eq_nil_iff.mpr fun item member => ?_
        have beyond := le_of_mem_row member
        simp only [decide_eq_true_eq]
        omega
      simp [own, others]
    | succ place =>
      have none : (queue.head?.toList.map (first, ·)).filter (·.1 = first + (place + 1)) = [] :=
        List.filter_eq_nil_iff.mpr (by simp)
      have rest := ih (first + 1) place
      rw [Nat.add_right_comm, Nat.add_assoc] at rest
      simp [none, rest]

theorem rows_of_empty {queues : List (List α)} (empty : ∀ queue ∈ queues, queue = []) (count : Nat) :
    rows count queues = [] := by
  induction count generalizing queues with
  | zero => rfl
  | succ count ih =>
    have none : row 0 queues = [] := by
      refine List.map_eq_nil_iff.mp ((row_values 0 queues).trans ?_)
      exact List.filterMap_eq_nil_iff.mpr fun queue member => by simp [empty queue member]
    rw [rows, none, List.nil_append]
    exact ih (by simpa using fun queue member => congrArg List.tail (empty queue member))

/-- The elements of one queue come in their order. -/
theorem rows_filter (queues : List (List α)) (index count : Nat) :
    (rows count queues).filter (·.1 = index) =
      ((queues[index]?.getD []).take count).map (index, ·) := by
  induction count generalizing queues with
  | zero => simp [rows]
  | succ count ih =>
    have first := row_filter 0 index queues
    rw [Nat.zero_add] at first
    rw [rows, List.filter_append, first, ih]
    cases found : queues[index]? with
    | none => simp [found]
    | some queue => cases queue <;> simp [found]

theorem interleave_filter (queues : List (List α)) (index : Nat) :
    (interleave queues).filter (·.1 = index) = (queues[index]?.getD []).map (index, ·) := by
  rw [interleave, rows_filter, List.take_of_length_le]
  cases found : queues[index]? with
  | none => simp
  | some queue => exact (List.sublist_flatten_of_mem (List.mem_of_getElem? found)).length_le

theorem rows_singleton (count : Nat) (queue : List α) :
    rows count [queue] = (queue.take count).map (0, ·) := by
  induction count generalizing queue with
  | zero => rfl
  | succ count ih =>
    rw [rows, List.map_singleton, ih]
    cases queue <;> simp [row]

theorem interleave_singleton (queue : List α) : interleave [queue] = queue.map (0, ·) := by
  rw [interleave, rows_singleton, List.flatten_singleton, List.take_length]

theorem mem_of_mem_interleave {queues : List (List α)} {item : Nat × α}
    (member : item ∈ interleave queues) : ∃ queue ∈ queues, item.2 ∈ queue := by
  have own : item ∈ (interleave queues).filter (·.1 = item.1) := List.mem_filter.mpr ⟨member, by simp⟩
  rw [interleave_filter] at own
  obtain ⟨value, there, same⟩ := List.mem_map.mp own
  cases found : queues[item.1]? with
  | none => simp [found] at there
  | some queue =>
    rw [found] at there
    exact ⟨queue, List.mem_of_getElem? found, same ▸ there⟩

end Telemetry
