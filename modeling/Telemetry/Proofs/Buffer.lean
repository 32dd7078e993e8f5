import Telemetry.Buffer
import Mathlib.Data.List.TakeWhile
import Mathlib.Logic.Basic

/-! What happens to the content of a buffer. Its two stores stay in lockstep: appending takes a sample
into both unless it lies before the last one, and pruning and clearing drop as much from the front of one
as of the other. So a content is that of a list of samples, or of a list of times. -/
namespace Telemetry

namespace Content
variable {content : Content} {threshold : Binary64}

/-- There is one value for each time, if there are values. -/
def Lockstep (content : Content) : Prop :=
  ∀ values ∈ content.values?, values.length = content.times.length

theorem drop_length_takeWhile {α : Type} (p : α → Bool) (items : List α) :
    items.drop (items.takeWhile p).length = items.dropWhile p :=
  (congrArg (List.drop _) List.takeWhile_append_dropWhile.symm).trans List.drop_left

theorem popBefore_eq (threshold : Binary64) (removed : Nat) (times : List Binary64) :
    let popped := (times.takeWhile fun time => decide (time < threshold)).length
    popBefore threshold removed times = (times.drop popped, removed + popped) := by
  induction times generalizing removed with
  | nil => rfl
  | cons time times ih =>
    by_cases old : time < threshold
    · simp [popBefore, old, ih, Nat.add_assoc, Nat.add_comm 1]
    · simp [popBefore, old]

theorem prune_eq (threshold : Binary64) (content : Content) :
    let removed := (content.times.takeWhile fun time => decide (time < threshold)).length
    content.prune threshold =
      (⟨content.times.drop removed, content.values?.map (·.drop removed)⟩, removed) := by
  rw [prune, popBefore_eq, Nat.zero_add]

theorem length_prune (threshold : Binary64) (content : Content) :
    (content.prune threshold).1.times.length + (content.prune threshold).2 = content.times.length := by
  rw [prune_eq, List.length_drop]
  exact Nat.sub_add_cancel (List.takeWhile_sublist _).length_le

namespace Lockstep

theorem push (lockstep : content.Lockstep) (sample : Sample) : (content.push sample).Lockstep := by
  intro values found
  obtain ⟨before, stored, rfl⟩ := Option.map_eq_some_iff.mp found
  simp [Content.push, lockstep before stored]

theorem prune (lockstep : content.Lockstep) (threshold : Binary64) :
    (content.prune threshold).1.Lockstep := by
  rw [prune_eq]
  intro values found
  obtain ⟨before, stored, rfl⟩ := Option.map_eq_some_iff.mp found
  simp only [List.length_drop, lockstep before stored]

theorem clear (content : Content) : content.clear.Lockstep := by
  intro values found
  obtain ⟨before, stored, rfl⟩ := Option.map_eq_some_iff.mp found
  rfl

end Lockstep

def ofTimes (times : List Binary64) : Content := ⟨times, none⟩

/-- The times of the samples in one store and their values in the other. -/
def ofSamples (samples : List Sample) : Content := ⟨samples.map (·.time), some (samples.map (·.value))⟩

@[simp] theorem push_ofTimes (times : List Binary64) (sample : Sample) :
    (ofTimes times).push sample = ofTimes (times ++ [sample.time]) := rfl

@[simp] theorem push_ofSamples (samples : List Sample) (sample : Sample) :
    (ofSamples samples).push sample = ofSamples (samples ++ [sample]) := by
  simp [ofSamples, push]

@[simp] theorem latest?_ofTimes (times : List Binary64) : (ofTimes times).latest? = times.getLast? := rfl

@[simp] theorem latest?_ofSamples (samples : List Sample) :
    (ofSamples samples).latest? = samples.getLast?.map (·.time) := List.getLast?_map

@[simp] theorem clear_ofTimes (times : List Binary64) : (ofTimes times).clear = ofTimes [] := rfl

@[simp] theorem clear_ofSamples (samples : List Sample) : (ofSamples samples).clear = ofSamples [] := rfl

theorem prune_ofTimes (threshold : Binary64) (times : List Binary64) :
    ((ofTimes times).prune threshold).1 =
      ofTimes (times.dropWhile fun time => decide (time < threshold)) := by
  rw [prune_eq, ← drop_length_takeWhile]
  rfl

/-- Both stores lose what the list of samples loses. -/
theorem prune_ofSamples (threshold : Binary64) (samples : List Sample) :
    ((ofSamples samples).prune threshold).1 =
      ofSamples (samples.dropWhile fun sample => decide (sample.time < threshold)) := by
  have popped : ((samples.map (·.time)).takeWhile fun time => decide (time < threshold)).length =
      (samples.takeWhile fun sample => decide (sample.time < threshold)).length := by
    rw [List.takeWhile_map, List.length_map]
    rfl
  rw [prune_eq, ← drop_length_takeWhile]
  simp only [ofSamples, popped, List.map_drop, Option.map_some]

end Content

theorem Pruning.ofWindow_success {window : Binary64} {pruning : Pruning}
    (made : ofWindow window = .ok pruning) : pruning = .sliding window ∧ window.isFinite = true := by
  by_cases valid : window.isFinite = true ∧ Binary64.zero < window
  · rw [ofWindow, if_pos valid] at made
    exact ⟨(Except.ok.inj made).symm, valid.1⟩
  · rw [ofWindow, if_neg valid] at made
    cases made

namespace Buffer
variable {buffer extended : Buffer} {sample : Sample}

@[simp] theorem content_forEvents (pruning : Pruning) : (forEvents pruning).content = .ofTimes [] := rfl

@[simp] theorem content_forValues (pruning : Pruning) : (forValues pruning).content = .ofSamples [] := rfl

@[simp] theorem content_clear (buffer : Buffer) : buffer.clear.content = buffer.content.clear := rfl

theorem isEmpty_clear (buffer : Buffer) : buffer.clear.isEmpty := rfl

theorem samples_of_content {samples : List Sample} (stored : buffer.content = .ofSamples samples) :
    buffer.samples = samples := by
  rw [Buffer.samples, Buffer.times, Buffer.values, stored]
  simp [Content.ofSamples, List.zipWith_map, List.zipWith_self]

theorem append_ordered (ordered : ∀ last ∈ buffer.content.latest?, last ≤ sample.time) :
    buffer.append sample =
      .ok { buffer with content := buffer.content.push sample, appended := buffer.appended + 1 } := by
  rw [append]
  split
  · rename_i last found
    exact if_pos (ordered last found)
  · rfl

theorem append_unordered {last : Binary64} (found : buffer.content.latest? = some last)
    (early : ¬last ≤ sample.time) : buffer.append sample = .error (.unordered last sample.time) := by
  simp [append, found, early]

theorem append_success (appended : buffer.append sample = .ok extended) :
    extended = { buffer with content := buffer.content.push sample, appended := buffer.appended + 1 } := by
  by_cases ordered : ∀ last ∈ buffer.content.latest?, last ≤ sample.time
  · exact (Except.ok.inj ((append_ordered ordered).symm.trans appended)).symm
  · obtain ⟨last, found, early⟩ : ∃ last ∈ buffer.content.latest?, ¬last ≤ sample.time := by
      simpa only [not_forall, exists_prop] using ordered
    rw [append_unordered found early] at appended
    cases appended

theorem prune_sliding {window : Binary64} (sliding : buffer.pruning = .sliding window) (now : Binary64) :
    let pruned := buffer.content.prune (now - window)
    buffer.prune now =
      ({ buffer with content := pruned.1, pruned := buffer.pruned + pruned.2 }, pruned.2) := by
  rw [prune, sliding]

theorem prune_retain (retain : buffer.pruning = .retain) (now : Binary64) :
    buffer.prune now = (buffer, 0) := by
  rw [prune, retain]

end Buffer
end Telemetry
