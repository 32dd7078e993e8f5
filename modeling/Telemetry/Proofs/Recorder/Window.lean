import Telemetry.Proofs.Config
import Telemetry.Proofs.Recorder.Chronicle
import Telemetry.Proofs.Series
import Mathlib.Data.List.Forall2
import Mathlib.Data.List.TakeWhile

/-! A recorder with a window refines its chronicle: at the end of a tick every buffer holds what the
chronicle has of it since the window began. Between two ticks a buffer may hold more, but it lacks
nothing that is not older than the window of the last tick. -/
namespace Telemetry

namespace Series
variable {α : Type} {time : α → Binary64} {horizon later : Option Binary64} {bound : Binary64}
  {kept whole : List α}

/-- What is kept of everything: all but some items from before the horizon, in the order of time. -/
structure Retains (time : α → Binary64) (horizon : Option Binary64) (kept whole : List α) : Prop where
  trimmed : Trimmed time horizon kept whole
  steady : Steady time kept
  numbers : ∀ item ∈ kept, (time item).isNaN = false

theorem Retains.nothing (time : α → Binary64) (horizon : Option Binary64) : Retains time horizon [] [] :=
  ⟨.refl _ _ _, List.IsChain.nil, by simp⟩

theorem Retains.forward (retains : Retains time horizon kept whole)
    (moved : ∀ bound ∈ horizon, ∃ next ∈ later, bound ≤ next) : Retains time later kept whole :=
  { retains with trimmed := retains.trimmed.forward moved }

theorem Retains.push (retains : Retains time horizon kept whole) {item : α}
    (number : (time item).isNaN = false) (ordered : ∀ last ∈ kept.getLast?, time last ≤ time item) :
    Retains time horizon (kept ++ [item]) (whole ++ [item]) where
  trimmed := retains.trimmed.append [item]
  steady := Steady.append_singleton.mpr ⟨retains.steady, ordered⟩
  numbers := by
    intro other member
    rcases List.mem_append.mp member with old | new
    · exact retains.numbers other old
    · rw [List.mem_singleton.mp new]
      exact number

/-- Pruning the front of what is kept filters everything. -/
theorem Retains.dropWhile_eq (retains : Retains time (some bound) kept whole)
    (number : bound.isNaN = false) :
    (kept.dropWhile fun item => decide (time item < bound)) =
      whole.filter fun item => decide (bound ≤ time item) := by
  obtain ⟨dropped, split, old⟩ := retains.trimmed
  have outside : (dropped.filter fun item => decide (bound ≤ time item)) = [] := by
    refine List.filter_eq_nil_iff.mpr fun item member => ?_
    obtain ⟨limit, here, below⟩ := old item member
    obtain rfl := Option.mem_some.mp here
    simpa using (Binary64.not_le number below.1).mpr below
  rw [(falling_of_steady retains.steady bound).dropWhile_eq, filter_not_before number retains.numbers,
    ← split, List.filter_append, outside, List.nil_append]

theorem Retains.dropWhile (retains : Retains time (some bound) kept whole) :
    Retains time (some bound) (kept.dropWhile fun item => decide (time item < bound)) whole := by
  obtain ⟨⟨dropped, split, old⟩, steady, numbers⟩ := retains
  refine ⟨⟨dropped ++ kept.takeWhile fun item => decide (time item < bound), ?_, ?_⟩,
    steady.suffix (List.dropWhile_suffix _),
    fun item member => numbers item ((List.dropWhile_sublist _).mem member)⟩
  · rw [List.append_assoc, List.takeWhile_append_dropWhile, split]
  · intro item member
    rcases List.mem_append.mp member with gone | front
    · exact old item gone
    · exact ⟨bound, rfl, by simpa using List.mem_takeWhile_imp front⟩

end Series

/-- The buffers of a tap, each with its array and its place in it. -/
def Tap.slots (tap : Tap) : List (Nat × Nat × Nat) :=
  (List.range tap.width).map fun place => (tap.first + place, tap.array, place)

namespace Recorder
variable {recorder : Recorder} {chronicle : Chronicle} {window now : Binary64}
  {clock : Option Binary64} {content : Content} {track : Track} {command : Command}

/-- The content of a buffer and its track. The horizon lies a window behind the last tick. -/
inductive Holds (window : Binary64) (clock : Option Binary64) : Content → Track → Prop
  | samples (array place : Nat) {kept whole : List Sample}
      (retains : Series.Retains Sample.time (clock.map (· - window)) kept whole)
      (before : ∀ sample ∈ kept, ∃ last ∈ clock, sample.time ≤ last) :
      Holds window clock (.ofSamples kept) (.values array place whole)
  | times {kept whole : List Binary64} (retains : Series.Retains id (clock.map (· - window)) kept whole) :
      Holds window clock (.ofTimes kept) (.events whole)

/-- The clock shows a number, and the time does not lie before it. -/
structure Forward (clock : Option Binary64) (now : Binary64) : Prop where
  finite : now.isFinite = true
  ticked : ∀ last ∈ clock, last.isFinite = true
  ordered : ∀ last ∈ clock, last ≤ now

theorem Forward.horizon (forward : Forward clock now) (number : window.isNaN = false) :
    ∀ bound ∈ clock.map (· - window), ∃ next ∈ (some now).map (· - window), bound ≤ next := by
  intro bound limit
  obtain ⟨last, shown, rfl⟩ := Option.map_eq_some_iff.mp limit
  exact ⟨now - window, rfl, Binary64.sub_le_sub_right (forward.ticked last shown) forward.finite number
    (forward.ordered last shown)⟩

theorem Holds.forward (holds : Holds window clock content track) (forward : Forward clock now)
    (number : window.isNaN = false) : Holds window (some now) content track := by
  cases holds with
  | samples array place retains before =>
    refine .samples array place (retains.forward (forward.horizon number)) fun sample member => ?_
    obtain ⟨last, shown, le⟩ := before sample member
    exact ⟨now, rfl, Binary64.le_trans le (forward.ordered last shown)⟩
  | times retains => exact .times (retains.forward (forward.horizon number))

/-- A tick can append to a value buffer, since nothing in it is newer. -/
theorem Holds.push (holds : Holds window (some now) content track) (finite : now.isFinite = true)
    {arrays : List (List Binary64)} {sample : Sample} (taken : track.taken arrays now = some sample) :
    (∀ last ∈ content.latest?, last ≤ sample.time) ∧
      Holds window (some now) (content.push sample) (track.push sample) := by
  cases holds with
  | times retains => cases taken
  | samples array place retains before =>
    rename_i kept whole
    obtain ⟨value, -, rfl⟩ := Option.map_eq_some_iff.mp taken
    have number := Binary64.isNaN_of_isFinite finite
    have earlier : ∀ sample ∈ kept, sample.time ≤ now := by
      intro sample member
      obtain ⟨last, shown, le⟩ := before sample member
      exact Option.mem_some.mp shown ▸ le
    constructor
    · intro last found
      obtain ⟨previous, there, rfl⟩ := Option.map_eq_some_iff.mp (Content.latest?_ofSamples kept ▸ found)
      exact earlier previous (List.mem_of_getLast? there)
    · have ordered : ∀ last ∈ kept.getLast?, last.time ≤ now := fun last found =>
        earlier last (List.mem_of_getLast? found)
      rw [Content.push_ofSamples]
      refine .samples array place (retains.push number ordered) fun sample member => ?_
      rcases List.mem_append.mp member with old | new
      · exact before sample old
      · rw [List.mem_singleton.mp new]
        exact ⟨now, rfl, Binary64.le_refl number⟩

theorem Holds.capture {contents : List Content} {tracks : List Track}
    (held : List.Forall₂ (Holds window (some now)) contents tracks) (finite : now.isFinite = true)
    (arrays : List (List Binary64)) :
    let cells := contents.zip (tracks.map (·.taken arrays now))
    (∀ cell ∈ cells, ∀ sample ∈ cell.2, ∀ last ∈ cell.1.latest?, last ≤ sample.time) ∧
      List.Forall₂ (Holds window (some now)) (cells.map fun cell => cell.2.elim cell.1 cell.1.push)
        (tracks.map (·.capture arrays now)) := by
  induction held with
  | nil => exact ⟨nofun, List.Forall₂.nil⟩
  | @cons content track contents tracks holds rest ih =>
    obtain ⟨ordered, captured⟩ := ih
    cases taken : track.taken arrays now with
    | none =>
      simp only [List.map_cons, List.zip_cons_cons, taken, Track.capture, Option.elim_none]
      exact ⟨List.forall_mem_cons.mpr ⟨nofun, ordered⟩, List.Forall₂.cons holds captured⟩
    | some sample =>
      obtain ⟨first, pushed⟩ := holds.push finite taken
      simp only [List.map_cons, List.zip_cons_cons, taken, Track.capture, Option.elim_some]
      exact ⟨List.forall_mem_cons.mpr ⟨fun other given => Option.mem_some.mp given ▸ first, ordered⟩,
        List.Forall₂.cons pushed captured⟩

theorem Holds.prune (holds : Holds window (some now) content track) (number : (now - window).isNaN = false) :
    (content.prune (now - window)).1 = track.since (now - window) ∧
      Holds window (some now) (content.prune (now - window)).1 track := by
  cases holds with
  | samples array place retains before =>
    rw [Content.prune_ofSamples]
    exact ⟨congrArg Content.ofSamples (retains.dropWhile_eq number), .samples array place retains.dropWhile
      fun sample member => before sample ((List.dropWhile_sublist _).mem member)⟩
  | times retains =>
    rw [Content.prune_ofTimes]
    exact ⟨congrArg Content.ofTimes (retains.dropWhile_eq number), .times retains.dropWhile⟩

theorem forall₂_getElem? {α β : Type} {related : α → β → Prop} {first : List α} {second : List β}
    (all : List.Forall₂ related first second) {index : Nat} {a : α} {b : β}
    (here : first[index]? = some a) (there : second[index]? = some b) : related a b := by
  induction all generalizing index with
  | nil => cases here
  | cons related rest ih =>
    cases index with
    | zero =>
      obtain rfl := Option.some.inj here
      obtain rfl := Option.some.inj there
      exact related
    | succ index => exact ih here there

theorem forall₂_set_modify {α β : Type} {related : α → β → Prop} {first : List α} {second : List β}
    (all : List.Forall₂ related first second) {index : Nat} {old a : α} {f : β → β}
    (there : first[index]? = some old) (changed : ∀ b, related old b → related a (f b)) :
    List.Forall₂ related (first.set index a) (second.modify index f) := by
  induction all generalizing index with
  | nil => cases there
  | cons here rest ih =>
    cases index with
    | zero =>
      obtain rfl := Option.some.inj there
      exact List.Forall₂.cons (changed _ here) rest
    | succ index => exact List.Forall₂.cons here (ih there)

theorem captures_tap (recorder : Recorder) (now : Binary64) (tap : Tap) :
    ((((recorder.array tap.array).take tap.width).zipIdx tap.first).map fun (value, buffer) =>
      (buffer, (⟨now, value⟩ : Sample))) =
    tap.slots.filterMap fun (buffer, array, place) =>
      ((recorder.array array)[place]?).map fun value => (buffer, ⟨now, value⟩) := by
  obtain ⟨array, first, width⟩ := tap
  simp only [Tap.slots, List.filterMap_map]
  induction width with
  | zero => rfl
  | succ width ih =>
    rw [List.range_succ, List.filterMap_append, ← ih, List.take_add_one, List.zipIdx_append,
      List.map_append]
    congr 1
    cases found : (recorder.array array)[width]? with
    | none => simp [found]
    | some value =>
      have inside := (List.getElem?_eq_some_iff.mp found).1
      simp [found, Nat.min_eq_left (Nat.le_of_lt inside)]

theorem captures_slots (recorder : Recorder) (now : Binary64) :
    recorder.captures now = (recorder.taps.flatMap Tap.slots).filterMap fun (buffer, array, place) =>
      ((recorder.array array)[place]?).map fun value => (buffer, ⟨now, value⟩) := by
  rw [captures, List.filterMap_flatMap]
  exact List.flatMap_congr fun tap _ => captures_tap recorder now tap

theorem Chronicle.slots_taken (chronicle : Chronicle) (now : Binary64) :
    (chronicle.slots.filterMap fun (buffer, array, place) =>
      ((chronicle.arrays.getD array [])[place]?).map fun value => (buffer, (⟨now, value⟩ : Sample))) =
    ((chronicle.tracks.map (·.taken chronicle.arrays now)).zipIdx).filterMap fun (sample, buffer) =>
      sample.map fun sample => (buffer, sample) := by
  rw [slots, List.filterMap_filterMap, List.zipIdx_map, List.zipIdx_map, List.filterMap_map,
    List.filterMap_map]
  refine List.filterMap_congr fun entry _ => ?_
  obtain ⟨track, buffer⟩ := entry
  cases track with
  | events times => rfl
  | values array place samples => simp [Track.source?, Track.taken, Function.comp_def]

/-- The buffers of a recorder hold what the window leaves of the tracks, one buffer for each track. -/
structure Recalls (recorder : Recorder) (window : Binary64) (clock : Option Binary64)
    (chronicle : Chronicle) : Prop where
  windowed : recorder.retention = .windowed window
  pruning : recorder.pruning = .sliding window
  sliding : ∀ buffer ∈ recorder.buffers, buffer.pruning = .sliding window
  ticked : ∀ last ∈ clock, last.isFinite = true
  arrays : recorder.arrays = chronicle.arrays
  slots : recorder.taps.flatMap Tap.slots = chronicle.slots
  held : List.Forall₂ (Holds window clock) recorder.contents chronicle.tracks

namespace Recalls

theorem length (recalls : recorder.Recalls window clock chronicle) :
    recorder.buffers.length = chronicle.tracks.length := by
  simpa [contents] using recalls.held.length_eq

theorem forward (recalls : recorder.Recalls window clock chronicle) (forward : Forward clock now)
    (number : window.isNaN = false) : recorder.Recalls window (some now) chronicle :=
  { recalls with
    ticked := fun _ shown => Option.mem_some.mp shown ▸ forward.finite
    held := recalls.held.imp fun _ _ holds => holds.forward forward number }

/-- New buffers are empty, like their tracks. -/
theorem grow (recalls : recorder.Recalls window clock chronicle) (taps : List Tap) (buffer : Buffer)
    (tracks : List Track) (sliding : buffer.pruning = .sliding window)
    (slots : taps.flatMap Tap.slots =
      ((tracks.map Track.source?).zipIdx chronicle.tracks.length).filterMap fun (source, buffer) =>
        source.map fun (array, place) => (buffer, array, place))
    (empty : ∀ track ∈ tracks, Holds window clock buffer.content track) :
    { recorder with
      taps := recorder.taps ++ taps
      buffers := recorder.buffers ++ List.replicate tracks.length buffer : Recorder }.Recalls window
        clock { chronicle with tracks := chronicle.tracks ++ tracks } where
  windowed := recalls.windowed
  pruning := recalls.pruning
  sliding other member := by
    rcases List.mem_append.mp member with old | new
    · exact recalls.sliding other old
    · rw [(List.mem_replicate.mp new).2, sliding]
  ticked := recalls.ticked
  arrays := recalls.arrays
  slots := by
    have before := recalls.slots
    rw [Chronicle.slots] at before ⊢
    rw [List.flatMap_append, before, slots, List.map_append, List.zipIdx_append, List.filterMap_append]
    simp
  held := by
    rw [contents, List.map_append, List.map_replicate]
    refine List.rel_append recalls.held ?_
    clear slots
    induction tracks with
    | nil => exact List.Forall₂.nil
    | cons track tracks ih =>
      obtain ⟨first, others⟩ := List.forall_mem_cons.mp empty
      exact List.Forall₂.cons first (ih others)

theorem tap (recalls : recorder.Recalls window clock chronicle) (array : Nat) :
    (recorder.tap array).1.Recalls window clock (chronicle.record (.tap array)) := by
  have same : recorder.array array = chronicle.arrays.getD array [] := by
    rw [Recorder.array, recalls.arrays]
  have numbered : ∀ first count : Nat, (List.range count).zipIdx first =
      (List.range count).map fun place => (place, first + place) := fun first count =>
    List.ext_getElem (by simp) (by simp)
  have grown := recalls.grow [⟨array, recorder.buffers.length, (recorder.array array).length⟩]
    (.forValues recorder.pruning)
    ((List.range (recorder.array array).length).map fun place => .values array place [])
    recalls.pruning ?_ ?_
  · rw [List.length_map, List.length_range] at grown
    rw [Chronicle.record, ← same]
    exact grown
  · rw [← recalls.length]
    simp [Tap.slots, Track.source?, List.zipIdx_map, numbered, List.filterMap_map, Function.comp_def,
      List.filterMap_eq_map']
  · intro track member
    obtain ⟨place, -, rfl⟩ := List.mem_map.mp member
    exact .samples array place (.nothing _ _) (by simp)

theorem recordEvents (recalls : recorder.Recalls window clock chronicle) (count : Nat) :
    (recorder.recordEvents count).1.Recalls window clock (chronicle.record (.events count)) := by
  have grown := recalls.grow [] (.forEvents recorder.pruning) (List.replicate count (.events []))
    recalls.pruning ?_ ?_
  · rw [List.length_replicate, List.append_nil] at grown
    exact grown
  · symm
    refine List.filterMap_eq_nil_iff.mpr fun entry member => ?_
    obtain ⟨source, buffer⟩ := entry
    have here := List.fst_mem_of_mem_zipIdx member
    rw [List.map_replicate] at here
    obtain rfl := (List.mem_replicate.mp here).2
    rfl
  · intro track member
    rw [(List.mem_replicate.mp member).2]
    exact .times (.nothing _ _)

/-- Buffers and tracks change together, and the sources of the tracks stay. -/
theorem refill (recalls : recorder.Recalls window clock chronicle) {after : Recorder}
    {contents : List Content} {tracks : List Track} {next : Option Binary64}
    (refills : recorder.Refills contents after)
    (sliding : ∀ buffer ∈ after.buffers, buffer.pruning = .sliding window)
    (ticked : ∀ last ∈ next, last.isFinite = true)
    (sources : tracks.map Track.source? = chronicle.tracks.map Track.source?)
    (held : List.Forall₂ (Holds window next) contents tracks) :
    after.Recalls window next { chronicle with tracks } := by
  obtain ⟨frame, rfl⟩ := refills
  rw [frame] at sliding held ⊢
  exact
    { recalls with
      sliding, ticked, held
      slots := by
        rw [Chronicle.slots, sources]
        exact recalls.slots }

theorem append (recalls : recorder.Recalls window clock chronicle) {buffer : Nat} {time : Binary64}
    (proper : (Command.append buffer time).Proper recorder clock) :
    (Recorder.append buffer ⟨time, .zero⟩ recorder).result = .ok () ∧
      (Recorder.append buffer ⟨time, .zero⟩ recorder).state.Recalls window clock
        (chronicle.record (.append buffer time)) := by
  obtain ⟨number, target, found, bare, accepted⟩ := proper
  have there : recorder.contents[buffer]? = some target.content := by
    simp [contents, Option.mem_def.mp found]
  have ordered : ∀ last ∈ target.content.latest?, last ≤ time := by
    intro last latest
    refine Decidable.of_not_not fun early => ?_
    rw [Buffer.append_unordered latest early] at accepted
    cases accepted
  obtain ⟨answered, refills⟩ := append_ordered ⟨time, .zero⟩ there ordered
  refine ⟨answered, recalls.refill refills (append_pruning buffer ⟨time, .zero⟩ recalls.sliding)
    recalls.ticked ?_ ?_⟩
  · apply List.ext_getElem?
    intro place
    simp only [List.getElem?_map, List.getElem?_modify, Option.map_eq_map, Option.map_map]
    refine Option.map_congr fun track _ => ?_
    simp only [Function.comp_apply]
    split
    · cases track <;> rfl
    · rfl
  · refine forall₂_set_modify recalls.held there fun track holds => ?_
    generalize stored : target.content = content at holds ordered
    cases holds with
    | samples => simp [Buffer.holdsValues, stored, Content.ofSamples] at bare
    | times retains => exact .times (retains.push number ordered)

theorem beginTick (recalls : recorder.Recalls window clock chronicle) (number : window.isNaN = false)
    (proper : (Command.beginTick now).Proper recorder clock) :
    (Recorder.beginTick now recorder).result = .ok () ∧
      (Recorder.beginTick now recorder).state.Recalls window (some now)
        (chronicle.record (.beginTick now)) := by
  have forward : Forward clock now := ⟨proper.1, recalls.ticked, proper.2⟩
  have current := recalls.forward forward number
  let taken := chronicle.tracks.map (·.taken chronicle.arrays now)
  let cells := recorder.contents.zip taken
  have same : recorder.contents.length = taken.length := by
    simp [taken, recalls.held.length_eq]
  have held : recorder.contents = [] ++ cells.map (·.1) :=
    (List.map_fst_zip (Nat.le_of_eq same)).symm
  have captured : recorder.captures now = (cells.zipIdx 0).filterMap fun entry =>
      entry.1.2.map fun sample => (entry.2, sample) := by
    have second : cells.map (·.2) = taken := List.map_snd_zip (Nat.le_of_eq same.symm)
    have numbered : recorder.captures now = taken.zipIdx.filterMap fun (sample, buffer) =>
        sample.map fun sample => (buffer, sample) := by
      simp only [captures_slots, recalls.slots, Recorder.array, recalls.arrays]
      exact chronicle.slots_taken now
    rw [numbered, ← second, List.zipIdx_map, List.filterMap_map]
    rfl
  obtain ⟨ordered, filled⟩ := Holds.capture current.held forward.finite chronicle.arrays
  obtain ⟨answered, refills⟩ := appendAll_pushes [] cells held ordered
  rw [Recorder.beginTick, captured]
  refine ⟨answered, recalls.refill refills (appendAll_pruning recalls.sliding _)
    (fun _ shown => Option.mem_some.mp shown ▸ forward.finite) ?_ filled⟩
  rw [List.map_map]
  refine List.map_congr_left fun track _ => ?_
  simp only [Function.comp_apply, Track.capture]
  cases track.taken chronicle.arrays now with
  | none => rfl
  | some sample => cases track <;> rfl

theorem endTick (recalls : recorder.Recalls window clock chronicle) (finite : window.isFinite = true)
    (proper : (Command.endTick now).Proper recorder clock) :
    (recorder.endTick now).contents = chronicle.tracks.map (·.since (now - window)) ∧
      (recorder.endTick now).Recalls window (some now) chronicle := by
  have number := Binary64.isNaN_of_isFinite finite
  have forward : Forward clock now := ⟨proper.1, recalls.ticked, proper.2⟩
  have current := recalls.forward forward number
  have border := Binary64.isNaN_sub (Binary64.isNaN_of_isFinite forward.finite) finite
  have pruned : recorder.Refills (recorder.contents.map fun content => (content.prune (now - window)).1)
      (recorder.endTick now) := by
    refine ⟨by simp [Recorder.endTick, recalls.windowed], ?_⟩
    simp only [Recorder.endTick, recalls.windowed, contents, List.map_map]
    exact List.map_congr_left fun buffer member => by
      simp [Buffer.prune_sliding (recalls.sliding buffer member) now]
  have sliding : ∀ buffer ∈ (recorder.endTick now).buffers, buffer.pruning = .sliding window := by
    simp only [Recorder.endTick, recalls.windowed, List.forall_mem_map]
    exact fun buffer member => by simp [Buffer.prune_sliding (recalls.sliding buffer member) now,
      recalls.sliding buffer member]
  refine ⟨?_, ?_⟩
  · rw [pruned.2, ← List.forall₂_eq_eq_eq, List.forall₂_map_left_iff, List.forall₂_map_right_iff]
    exact current.held.imp fun _ _ holds => (holds.prune border).1
  · refine recalls.refill pruned sliding (fun _ shown => Option.mem_some.mp shown ▸ forward.finite) rfl ?_
    rw [List.forall₂_map_left_iff]
    exact current.held.imp fun _ _ holds => (holds.prune border).2

/-- A command that is in order answers, and its effect is in the chronicle. -/
theorem perform (recalls : recorder.Recalls window clock chronicle) (finite : window.isFinite = true)
    (proper : command.Proper recorder clock) :
    (command.perform recorder).result = .ok () ∧
      (command.perform recorder).state.Recalls window (command.clock clock)
        (chronicle.record command) := by
  cases command with
  | provide values => exact ⟨rfl, { recalls with arrays := congrArg (· ++ [values]) recalls.arrays }⟩
  | tap array => exact ⟨rfl, recalls.tap array⟩
  | events count => exact ⟨rfl, recalls.recordEvents count⟩
  | set array values =>
    exact ⟨rfl, { recalls with arrays := congrArg (·.set array values) recalls.arrays }⟩
  | append buffer time => exact recalls.append proper
  | beginTick now => exact recalls.beginTick (Binary64.isNaN_of_isFinite finite) proper
  | endTick now => exact ⟨rfl, (recalls.endTick finite proper).2⟩

theorem after (recalls : recorder.Recalls window clock chronicle) (finite : window.isFinite = true)
    {front back : List Command} (orderly : recorder.Orderly clock (front ++ back)) :
    ∃ later, (recorder.after front).Recalls window later (front.foldl Chronicle.record chronicle) ∧
      (recorder.after front).Orderly later back := by
  induction front generalizing recorder clock chronicle with
  | nil => exact ⟨clock, recalls, orderly⟩
  | cons command front ih => exact ih (recalls.perform finite orderly.1).2 orderly.2

/-- A tick adds one sample to the track of an array element; nothing else does. -/
theorem record_track (recalls : recorder.Recalls window clock chronicle)
    (proper : command.Proper recorder clock) {buffer array place : Nat} {samples : List Sample}
    (there : chronicle.tracks[buffer]? = some (.values array place samples))
    (inside : place < (chronicle.arrays.getD array []).length) :
    (∃ more, (chronicle.record command).tracks[buffer]? = some (.values array place (samples ++ more)) ∧
      more.map (·.time) = begun [command]) ∧
      place < ((chronicle.record command).arrays.getD array []).length := by
  have known : array < chronicle.arrays.length := by
    refine Nat.lt_of_not_le fun beyond => ?_
    simp [List.getElem?_eq_none beyond] at inside
  have same : ∃ more, chronicle.tracks[buffer]? = some (.values array place (samples ++ more)) ∧
      more.map (·.time) = [] := ⟨[], by simpa using there, rfl⟩
  have early : buffer < chronicle.tracks.length := (List.getElem?_eq_some_iff.mp there).1
  cases command with
  | provide values =>
    refine ⟨same, ?_⟩
    simp only [Chronicle.record, List.getD_eq_getElem?_getD, List.getElem?_append_left known] at inside ⊢
    exact inside
  | tap other | events count =>
    simp only [Chronicle.record, List.getElem?_append_left early]
    exact ⟨same, inside⟩
  | set other values =>
    refine ⟨same, ?_⟩
    have fits : values.length = (chronicle.arrays.getD other []).length := by
      rw [← recalls.arrays]
      exact proper
    simp only [Chronicle.record, List.getD_eq_getElem?_getD] at fits inside ⊢
    by_cases written : other = array
    · subst written
      rw [List.getElem?_set_self known, Option.getD_some, fits]
      exact inside
    · rw [List.getElem?_set_ne written]
      exact inside
  | append other time =>
    refine ⟨?_, inside⟩
    obtain ⟨-, target, found, bare, -⟩ := proper
    -- Events go to event buffers, and this track has a value buffer.
    have different : other ≠ buffer := by
      rintro rfl
      have held : recorder.contents[other]? = some target.content := by
        simp [contents, Option.mem_def.mp found]
      have holds := forall₂_getElem? recalls.held held there
      generalize stored : target.content = content at holds
      cases holds with
      | samples => simp [Buffer.holdsValues, stored, Content.ofSamples] at bare
    simp only [Chronicle.record, List.getElem?_modify, if_neg different, Option.map_eq_map,
      Option.map_id']
    exact same
  | beginTick now =>
    refine ⟨⟨[⟨now, (chronicle.arrays.getD array [])[place]⟩], ?_, rfl⟩, inside⟩
    simp only [Chronicle.record, List.getElem?_map, there, Option.map_some, Track.capture, Track.taken,
      List.getElem?_eq_getElem inside, Option.elim_some, Track.push]
  | endTick now => exact ⟨same, inside⟩

theorem after_track (recalls : recorder.Recalls window clock chronicle)
    (finite : window.isFinite = true) {commands back : List Command}
    (orderly : recorder.Orderly clock (commands ++ back)) {buffer array place : Nat}
    {samples : List Sample}
    (there : chronicle.tracks[buffer]? = some (.values array place samples))
    (inside : place < (chronicle.arrays.getD array []).length) :
    ∃ more, (commands.foldl Chronicle.record chronicle).tracks[buffer]? =
        some (.values array place (samples ++ more)) ∧
      more.map (·.time) = begun commands := by
  induction commands generalizing recorder clock chronicle samples with
  | nil => exact ⟨[], by simpa using there, rfl⟩
  | cons command commands ih =>
    obtain ⟨⟨first, next, taken⟩, still⟩ := recalls.record_track orderly.1 there inside
    obtain ⟨rest, final, times⟩ := ih (recalls.perform finite orderly.1).2 orderly.2 next still
    refine ⟨first ++ rest, by rwa [← List.append_assoc], ?_⟩
    rw [List.map_append, taken, times, begun, begun, begun, ← List.filterMap_append, List.singleton_append]

/-- The buffers of a tap hold the ticks that were begun since, as far as the window reaches. -/
theorem tapped_times (recalls : recorder.Recalls window clock chronicle)
    (finite : window.isFinite = true) {array : Nat} {middle back : List Command}
    (orderly : recorder.Orderly clock (.tap array :: (middle ++ .endTick now :: back))) {buffer : Nat}
    (member : buffer ∈ (recorder.tap array).2) :
    ((recorder.after (.tap array :: (middle ++ [.endTick now]))).buffers[buffer]?).map Buffer.times =
      some ((begun middle).filter fun time => decide (now - window ≤ time)) := by
  obtain ⟨low, high⟩ := List.mem_range'_1.mp member
  obtain ⟨place, rfl⟩ := Nat.exists_eq_add_of_le low
  have inside : place < (chronicle.arrays.getD array []).length := by
    rw [← recalls.arrays]
    exact Nat.lt_of_add_lt_add_left high
  have there : (chronicle.record (.tap array)).tracks[recorder.buffers.length + place]? =
      some (.values array place []) := by
    rw [recalls.length, Chronicle.record, List.getElem?_append_right (Nat.le_add_right _ _),
      Nat.add_sub_cancel_left, List.getElem?_map, List.getElem?_range inside]
    rfl
  have tapped := (recalls.perform finite orderly.1).2
  obtain ⟨later, reached, proper, -⟩ := tapped.after finite orderly.2
  obtain ⟨more, final, times⟩ := tapped.after_track finite orderly.2 there inside
  have held : (recorder.after (.tap array :: (middle ++ [.endTick now]))).contents[
      recorder.buffers.length + place]? =
      some (.ofSamples (more.filter fun sample => decide (now - window ≤ sample.time))) := by
    have ended := (reached.endTick finite proper).1
    rw [Recorder.after, after_append, Recorder.after, Recorder.after]
    simp only [Command.perform, Action.change_run] at ended reached ⊢
    rw [ended, List.getElem?_map, final]
    rfl
  obtain ⟨target, found, content⟩ := target_of_contents held
  rw [found, Option.map_some, Buffer.times, content, ← times, List.filter_map]
  rfl

end Recalls

theorem ofRetention_windowed (built : ofRetention (.windowed window) = .ok recorder) :
    window.isFinite = true ∧ recorder.Recalls window none {} := by
  obtain ⟨pruning, checked, rest⟩ := check_then.mp built
  obtain rfl := Except.ok.inj rest
  obtain ⟨rfl, finite⟩ := Pruning.ofWindow_success checked
  exact ⟨finite, rfl, rfl, nofun, nofun, rfl, rfl, List.Forall₂.nil⟩

theorem append_retention (buffer : Nat) (sample : Sample) (recorder : Recorder) :
    (append buffer sample recorder).state.retention = recorder.retention := by
  rcases append_cases buffer sample recorder with same | ⟨_, _, _, _, after⟩
  · rw [same]
  · rw [after]

theorem appendAll_retention (samples : List (Nat × Sample)) (recorder : Recorder) :
    (appendAll samples recorder).state.retention = recorder.retention :=
  appendAll_keeps (fun after => after.retention = recorder.retention)
    (fun buffer sample after same => (append_retention buffer sample after).trans same) rfl samples

theorem after_retention (commands : List Command) (recorder : Recorder) :
    (recorder.after commands).retention = recorder.retention := by
  induction commands generalizing recorder with
  | nil => rfl
  | cons command commands ih =>
    refine (ih _).trans ?_
    cases command with
    | append buffer time => exact append_retention buffer _ recorder
    | beginTick now => exact appendAll_retention _ recorder
    | _ => rfl

/-- What a recorder with a window has of its chronicle. In a run that is in order no command fails. When
a tick ends, every buffer holds what its track has since the window began, and the buffers of one tap
hold the same ticks. Without a window every buffer is empty when a tick ends, in order or not. -/
theorem window_refines_chronicle (built : ofRetention (.windowed window) = .ok recorder)
    {commands : List Command} (orderly : recorder.Orderly none commands) :
    (∀ front command back, commands = front ++ command :: back →
      (command.perform (recorder.after front)).result = .ok ()) ∧
    (∀ front now back, commands = front ++ .endTick now :: back →
      (recorder.after (front ++ [.endTick now])).contents =
        (Chronicle.ofCommands front).tracks.map (·.since (now - window))) ∧
    (∀ front array middle now back, commands = front ++ .tap array :: (middle ++ .endTick now :: back) →
      ∀ buffer ∈ ((recorder.after front).tap array).2,
        ((recorder.after (front ++ .tap array :: (middle ++ [.endTick now]))).buffers[buffer]?).map
            Buffer.times =
          some ((begun middle).filter fun time => decide (now - window ≤ time))) ∧
    ∀ (others : List Command) (now : Binary64),
      ∀ buffer ∈ (singleStep.after (others ++ [.endTick now])).buffers, buffer.isEmpty := by
  obtain ⟨finite, start⟩ := ofRetention_windowed built
  refine ⟨?_, ?_, ?_, ?_⟩
  · rintro front command back rfl
    obtain ⟨clock, recalls, proper, -⟩ := start.after finite orderly
    exact (recalls.perform finite proper).1
  · rintro front now back rfl
    obtain ⟨clock, recalls, proper, -⟩ := start.after finite orderly
    rw [after_append]
    exact (recalls.endTick finite proper).1
  · rintro front array middle now back rfl buffer member
    obtain ⟨clock, recalls, rest⟩ := start.after finite orderly
    rw [after_append]
    exact recalls.tapped_times finite rest member
  · intro others now buffer member
    rw [after_append] at member
    exact isEmpty_endTick (after_retention others singleStep) now buffer member

/-- Two elements that are recorded from the first tick on, and once more from the second one on. -/
def overlap : List Command :=
  [.provide [.one, .zero], .tap 0, .events 1, .beginTick .one, .append 2 .one, .endTick .one,
    .set 0 [.zero, .one], .tap 0, .beginTick (.ofNat 2), .endTick (.ofNat 2), .beginTick (.ofNat 3),
    .append 2 (.ofNat 3), .endTick (.ofNat 3)]

theorem overlap_refines :
    ∃ recorder, ofRetention (.windowed .one) = .ok recorder ∧ recorder.Orderly none overlap ∧
      (recorder.after overlap).contents =
        [.ofSamples [⟨.ofNat 2, .zero⟩, ⟨.ofNat 3, .zero⟩], .ofSamples [⟨.ofNat 2, .one⟩, ⟨.ofNat 3, .one⟩],
          .ofTimes [.ofNat 3], .ofSamples [⟨.ofNat 2, .zero⟩, ⟨.ofNat 3, .zero⟩],
          .ofSamples [⟨.ofNat 2, .one⟩, ⟨.ofNat 3, .one⟩]] := by
  have built : ofRetention (.windowed .one) =
      .ok { retention := .windowed .one, pruning := .sliding .one } := by rfl
  have orderly : Recorder.Orderly { retention := .windowed .one, pruning := .sliding .one } none overlap := by
    decide +kernel
  obtain ⟨-, ended, -, -⟩ := window_refines_chronicle built orderly
  refine ⟨_, built, orderly, ?_⟩
  refine (ended overlap.dropLast (.ofNat 3) [] rfl).trans ?_
  decide +kernel

end Recorder
end Telemetry
