import Telemetry.Recorder
import Telemetry.Proofs.Action
import Telemetry.Proofs.Buffer
import Mathlib.Data.List.Basic

/-! What a tick does to the contents of the buffers. When every array is recorded, in order and from
the first buffer on, a tick puts one sample into each of their buffers and leaves the others alone. -/
namespace Telemetry

namespace Recorder

def contents (recorder : Recorder) : List Content := recorder.buffers.map (·.content)

/-- Nothing but the buffers changed, and their contents are these. -/
def Refills (recorder : Recorder) (contents : List Content) (after : Recorder) : Prop :=
  after = { recorder with buffers := after.buffers } ∧ after.contents = contents

theorem Refills.trans {before middle after : Recorder} {contents final : List Content}
    (first : before.Refills contents middle) (second : middle.Refills final after) :
    before.Refills final after := by
  refine ⟨?_, second.2⟩
  rw [second.1, first.1]

theorem target_of_contents {recorder : Recorder} {buffer : Nat} {content : Content}
    (there : recorder.contents[buffer]? = some content) :
    ∃ target, recorder.buffers[buffer]? = some target ∧ target.content = content := by
  rw [contents, List.getElem?_map] at there
  exact Option.map_eq_some_iff.mp there

theorem append_ordered {recorder : Recorder} {buffer : Nat} {content : Content} (sample : Sample)
    (there : recorder.contents[buffer]? = some content)
    (ordered : ∀ last ∈ content.latest?, last ≤ sample.time) :
    (append buffer sample recorder).result = .ok () ∧
      recorder.Refills (recorder.contents.set buffer (content.push sample))
        (append buffer sample recorder).state := by
  obtain ⟨target, found, rfl⟩ := target_of_contents there
  have appended := Buffer.append_ordered ordered
  simp only [append, found, appended, Action.write_run]
  exact ⟨trivial, rfl, by simp [contents, List.map_set]⟩

theorem append_unordered {recorder : Recorder} {buffer : Nat} {content : Content} (sample : Sample)
    {last : Binary64} (there : recorder.contents[buffer]? = some content)
    (found : content.latest? = some last) (early : ¬last ≤ sample.time) :
    append buffer sample recorder = ⟨recorder, .error (.breach (.unordered last sample.time)), []⟩ := by
  obtain ⟨target, placed, rfl⟩ := target_of_contents there
  simp [append, placed, Buffer.append_unordered found early]

/-- Samples go to the buffers from a number on, at most one to each of them. -/
theorem appendAll_pushes {recorder : Recorder} (front : List Content)
    (cells : List (Content × Option Sample)) (held : recorder.contents = front ++ cells.map (·.1))
    (ordered : ∀ cell ∈ cells, ∀ sample ∈ cell.2, ∀ last ∈ cell.1.latest?, last ≤ sample.time) :
    let samples := (cells.zipIdx front.length).filterMap fun (cell, buffer) =>
      cell.2.map fun sample => (buffer, sample)
    (appendAll samples recorder).result = .ok () ∧
      recorder.Refills (front ++ cells.map fun cell => cell.2.elim cell.1 cell.1.push)
        (appendAll samples recorder).state := by
  induction cells generalizing recorder front with
  | nil => exact ⟨rfl, rfl, held⟩
  | cons cell cells ih =>
    obtain ⟨content, sample⟩ := cell
    obtain ⟨first, others⟩ := List.forall_mem_cons.mp ordered
    cases sample with
    | none =>
      have rest : recorder.contents = (front ++ [content]) ++ cells.map (·.1) := by simp [held]
      have next := ih _ rest others
      simpa using next
    | some sample =>
      have there : recorder.contents[front.length]? = some content := by simp [held]
      obtain ⟨appended, refilled⟩ := append_ordered sample there (first sample rfl)
      have filled : (append front.length sample recorder).state.contents =
          (front ++ [content.push sample]) ++ cells.map (·.1) := by
        rw [refilled.2, held]
        simp
      obtain ⟨answered, final⟩ := ih _ filled others
      simp only [List.length_append, List.length_singleton] at answered final
      simp only [List.zipIdx_cons, List.filterMap_cons, Option.map_some, appendAll]
      rw [Action.bind_of_ok appended]
      refine ⟨answered, ?_⟩
      simpa using refilled.trans final

theorem appendAll_fills {recorder : Recorder} (front rest : List Content) (values : List Binary64)
    (now : Binary64)
    (empty : recorder.contents = front ++ values.map (fun _ => .ofSamples []) ++ rest) :
    let samples := (values.zipIdx front.length).map fun (value, buffer) =>
      (buffer, (⟨now, value⟩ : Sample))
    (appendAll samples recorder).result = .ok () ∧
      recorder.Refills (front ++ values.map (fun value => .ofSamples [⟨now, value⟩]) ++ rest)
        (appendAll samples recorder).state := by
  let cells := values.map (fun value => (Content.ofSamples [], some (⟨now, value⟩ : Sample))) ++
    rest.map fun content => (content, none)
  have held : recorder.contents = front ++ cells.map (·.1) := by simp [empty, cells, Function.comp_def]
  have ordered : ∀ cell ∈ cells, ∀ sample ∈ cell.2, ∀ last ∈ cell.1.latest?, last ≤ sample.time := by
    intro cell member sample given
    rcases List.mem_append.mp member with value | other
    · obtain ⟨value, -, rfl⟩ := List.mem_map.mp value
      simp
    · obtain ⟨content, -, rfl⟩ := List.mem_map.mp other
      cases given
  have pushed := appendAll_pushes front cells held ordered
  simpa [cells, List.zipIdx_append, List.zipIdx_map, List.filterMap_map, List.filterMap_eq_map',
    Function.comp_def] using pushed

/-- An append changes one buffer, or nothing at all. -/
theorem append_cases (buffer : Nat) (sample : Sample) (recorder : Recorder) :
    (append buffer sample recorder).state = recorder ∨
      ∃ target extended, recorder.buffers[buffer]? = some target ∧ target.append sample = .ok extended ∧
        (append buffer sample recorder).state =
          { recorder with buffers := recorder.buffers.set buffer extended } := by
  unfold append
  cases found : recorder.buffers[buffer]? with
  | none => exact .inl rfl
  | some target =>
    cases appended : target.append sample with
    | error broken => exact .inl (by simp [appended])
    | ok extended => exact .inr ⟨target, extended, rfl, appended, by simp [appended]⟩

/-- What a single append keeps, any number of them keep. -/
theorem appendAll_keeps (kind : Recorder → Prop) {recorder : Recorder}
    (step : ∀ buffer sample recorder, kind recorder → kind (append buffer sample recorder).state)
    (holds : kind recorder) (samples : List (Nat × Sample)) :
    kind (appendAll samples recorder).state := by
  induction samples generalizing recorder with
  | nil => exact holds
  | cons first samples ih =>
    obtain ⟨buffer, sample⟩ := first
    have kept := step buffer sample recorder holds
    rw [appendAll]
    cases answer : (append buffer sample recorder).result with
    | error failure =>
      rw [Action.bind_of_error answer]
      exact kept
    | ok =>
      rw [Action.bind_of_ok answer]
      exact ih kept

theorem append_pruning {recorder : Recorder} {pruning : Pruning} (buffer : Nat) (sample : Sample)
    (all : ∀ target ∈ recorder.buffers, target.pruning = pruning) :
    ∀ target ∈ (append buffer sample recorder).state.buffers, target.pruning = pruning := by
  rcases append_cases buffer sample recorder with same | ⟨target, extended, found, appended, after⟩
  · rwa [same]
  · rw [after]
    intro other member
    rcases List.mem_or_eq_of_mem_set member with old | rfl
    · exact all other old
    · rw [Buffer.append_success appended]
      exact all target (List.mem_of_getElem? found)

theorem appendAll_pruning {recorder : Recorder} {pruning : Pruning}
    (all : ∀ target ∈ recorder.buffers, target.pruning = pruning) (samples : List (Nat × Sample)) :
    ∀ target ∈ (appendAll samples recorder).state.buffers, target.pruning = pruning :=
  appendAll_keeps (fun after => ∀ target ∈ after.buffers, target.pruning = pruning)
    (fun buffer sample _ => append_pruning buffer sample) all samples

/-- Taps that record some arrays in order, from an array and a buffer on. -/
def tapsOf : Nat → Nat → List (List Binary64) → List Tap
  | _, _, [] => []
  | array, first, values :: arrays =>
    ⟨array, first, values.length⟩ :: tapsOf (array + 1) (first + values.length) arrays

theorem tapsOf_append (array first : Nat) (arrays : List (List Binary64)) (last : List Binary64) :
    tapsOf array first (arrays ++ [last]) = tapsOf array first arrays ++
      [⟨array + arrays.length, first + arrays.flatten.length, last.length⟩] := by
  induction arrays generalizing array first with
  | nil => simp [tapsOf]
  | cons values arrays ih => simp [tapsOf, ih, Nat.add_assoc, Nat.add_comm 1]

theorem tapsOf_congr (array first : Nat) {arrays others : List (List Binary64)}
    (same : arrays.map List.length = others.map List.length) :
    tapsOf array first arrays = tapsOf array first others := by
  induction arrays generalizing array first others with
  | nil => rw [List.map_eq_nil_iff.mp same.symm]
  | cons values arrays ih =>
    obtain ⟨other, rest, rfl, width, widths⟩ := List.map_eq_cons_iff.mp same.symm
    simp only [tapsOf, width, ih _ _ widths.symm]

/-- A recorder between two ticks: it records all its arrays, in order and from the first buffer on,
and what is in the other buffers are these contents. -/
structure Ready (recorder : Recorder) (rest : List Content) : Prop where
  singleStep : recorder.retention = .singleStep
  taps : recorder.taps = tapsOf 0 0 recorder.arrays
  contents : recorder.contents = recorder.arrays.flatten.map (fun _ => .ofSamples []) ++ rest

theorem captures_tapsOf (recorder : Recorder) (now : Binary64) (front arrays : List (List Binary64))
    (whole : recorder.arrays = front ++ arrays) (first : Nat) :
    ((tapsOf front.length first arrays).flatMap fun tap =>
      (((recorder.array tap.array).take tap.width).zipIdx tap.first).map fun (value, buffer) =>
        (buffer, (⟨now, value⟩ : Sample))) =
    (arrays.flatten.zipIdx first).map fun (value, buffer) => (buffer, ⟨now, value⟩) := by
  induction arrays generalizing front first with
  | nil => rfl
  | cons values arrays ih =>
    have found : recorder.array front.length = values := by simp [array, whole]
    have later := ih (front ++ [values]) (by simp [whole]) (first + values.length)
    rw [List.length_append, List.length_singleton] at later
    simp only [tapsOf, List.flatMap_cons, later, found, List.take_length, List.flatten_cons,
      List.zipIdx_append, List.map_append]

namespace Ready
variable {recorder : Recorder} {rest : List Content}

theorem length_buffers (ready : recorder.Ready rest) :
    recorder.buffers.length = recorder.arrays.flatten.length + rest.length := by
  have counted := congrArg List.length ready.contents
  simpa only [Recorder.contents, List.length_append, List.length_map] using counted

theorem nothing : Recorder.singleStep.Ready [] := ⟨rfl, rfl, rfl⟩

theorem recordArray (ready : recorder.Ready []) (values : List Binary64) :
    (recorder.recordArray values).1.Ready [] where
  singleStep := ready.singleStep
  taps := by
    have counted := ready.length_buffers
    simp only [Recorder.recordArray, addArray, ready.taps, tapsOf_append, Nat.zero_add, counted,
      List.length_nil, Nat.add_zero]
  contents := by
    have before := ready.contents
    rw [Recorder.contents, List.append_nil] at before
    simp [Recorder.recordArray, addArray, Recorder.contents, before, List.map_const']

theorem recordEvents (ready : recorder.Ready rest) (count : Nat) :
    (recorder.recordEvents count).1.Ready (rest ++ List.replicate count (.ofTimes [])) where
  singleStep := ready.singleStep
  taps := ready.taps
  contents := by
    have before := ready.contents
    rw [Recorder.contents] at before
    simp only [Recorder.recordEvents, Recorder.contents, List.map_append, before, List.map_replicate,
      Buffer.content_forEvents, List.append_assoc]

theorem beginTick (ready : recorder.Ready rest) (now : Binary64) :
    (beginTick now recorder).result = .ok () ∧
      recorder.Refills (recorder.arrays.flatten.map (fun value => .ofSamples [⟨now, value⟩]) ++ rest)
        (Recorder.beginTick now recorder).state := by
  have captured : recorder.captures now = (recorder.arrays.flatten.zipIdx 0).map fun (value, buffer) =>
      (buffer, ⟨now, value⟩) := by
    rw [captures, ready.taps]
    exact captures_tapsOf recorder now [] recorder.arrays rfl 0
  have filled := appendAll_fills [] rest recorder.arrays.flatten now ready.contents
  rw [Recorder.beginTick, captured]
  exact filled

end Ready

theorem contents_endTick {recorder : Recorder} (single : recorder.retention = .singleStep)
    (now : Binary64) :
    recorder.Refills (recorder.contents.map Content.clear) (recorder.endTick now) := by
  simp [Refills, endTick, single, contents, Function.comp_def]

theorem isEmpty_endTick {recorder : Recorder} (single : recorder.retention = .singleStep)
    (now : Binary64) : ∀ buffer ∈ (recorder.endTick now).buffers, buffer.isEmpty := by
  intro buffer member
  simp only [endTick, single] at member
  obtain ⟨before, -, rfl⟩ := List.mem_map.mp member
  exact before.isEmpty_clear

end Recorder
end Telemetry
