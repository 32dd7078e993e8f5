import Telemetry.Proofs.Binary64.Rounding
import Telemetry.Proofs.Buffer
import Telemetry.Proofs.Series
import Mathlib.Data.List.TakeWhile

/-! Runs of a buffer. However appends, updates and clears follow one another, the two stores of a buffer stay
in lockstep, and together they hold what a plain list of samples holds that takes each sample no older than
the others, is filtered by each update and emptied by each clear. Its totals balance. -/
namespace Telemetry.Buffer

inductive Use
  | append (time : Binary64)
  | appendValue (time value : Binary64)
  | update (now : Binary64)
  | clear
  deriving DecidableEq, Repr

inductive Answer
  | appended (result : Except Breach Unit)
  | removed (count : Nat)
  | cleared
  deriving DecidableEq

namespace Use

/-- No time is NaN; a value may be. -/
def Timely : Use → Prop
  | append time | appendValue time _ | update time => time.isNaN = false
  | clear => True

instance : DecidablePred Timely
  | append time | appendValue time _ | update time => inferInstanceAs (Decidable (time.isNaN = false))
  | clear => inferInstanceAs (Decidable True)

def answer (buffer : Buffer) : Use → Answer
  | append time => .appended ((buffer.appendTime time).map fun _ => ())
  | appendValue time value => .appended ((buffer.append ⟨time, value⟩).map fun _ => ())
  | update now => .removed (buffer.prune now).2
  | clear => .cleared

/-- A refused append leaves the buffer as it was. -/
def after (buffer : Buffer) : Use → Buffer
  | append time => (buffer.appendTime time).toOption.getD buffer
  | appendValue time value => (buffer.append ⟨time, value⟩).toOption.getD buffer
  | update now => (buffer.prune now).1
  | clear => buffer.clear

end Use

def afterAll (buffer : Buffer) (uses : List Use) : Buffer := uses.foldl Use.after buffer

variable {buffer next : Buffer} {sample : Sample} {pruning : Pruning} {valued : Bool} {kept : List Sample}

theorem after_refused {use : Use} {broken : Breach}
    (refused : use.answer buffer = .appended (.error broken)) : use.after buffer = buffer := by
  have appends : ∀ sample : Sample, (buffer.append sample).map (fun _ => ()) = .error broken →
      (buffer.append sample).toOption.getD buffer = buffer := by
    intro sample refused
    cases result : buffer.append sample with
    | error broken => rfl
    | ok next =>
      rw [result] at refused
      cases refused
  cases use with
  | append time => exact appends ⟨time, .zero⟩ (Answer.appended.inj refused)
  | appendValue time value => exact appends ⟨time, value⟩ (Answer.appended.inj refused)
  | update now => cases refused
  | clear => cases refused

theorem after_lockstep (lockstep : buffer.content.Lockstep) (use : Use) :
    (use.after buffer).content.Lockstep := by
  have appends : ∀ sample : Sample, ((buffer.append sample).toOption.getD buffer).content.Lockstep := by
    intro sample
    cases result : buffer.append sample with
    | error broken => exact lockstep
    | ok next =>
      rw [append_success result]
      exact lockstep.push sample
  cases use with
  | append time => exact appends ⟨time, .zero⟩
  | appendValue time value => exact appends ⟨time, value⟩
  | update now =>
    cases pruning : buffer.pruning with
    | retain =>
      rw [Use.after, prune_retain pruning]
      exact lockstep
    | sliding window =>
      rw [Use.after, prune_sliding pruning]
      exact lockstep.prune (now - window)
  | clear => exact .clear buffer.content

theorem afterAll_lockstep (lockstep : buffer.content.Lockstep) (uses : List Use) :
    (buffer.afterAll uses).content.Lockstep := by
  induction uses generalizing buffer with
  | nil => exact lockstep
  | cons use uses ih => exact ih (after_lockstep lockstep use)

/-- A measure of every use, summed up over a run. -/
def total (measure : Buffer → Use → Nat) (buffer : Buffer) : List Use → Nat
  | [] => 0
  | use :: uses => measure buffer use + total measure (use.after buffer) uses

/-- Samples that an append stored. -/
def stored (buffer : Buffer) (use : Use) : Nat :=
  if use.answer buffer = .appended (.ok ()) then 1 else 0

/-- Samples that an update answers to have removed. -/
def expired (buffer : Buffer) (use : Use) : Nat :=
  match use.answer buffer with
  | .removed count => count
  | _ => 0

/-- Samples that a clear removed. -/
def discarded (buffer : Buffer) : Use → Nat
  | .clear => buffer.size - buffer.clear.size
  | _ => 0

/-- Samples that came and samples that went, between two moments of a buffer. -/
structure Balances (buffer next : Buffer) (stored expired discarded : Nat) : Prop where
  appended : next.appended = buffer.appended + stored
  pruned : next.pruned = buffer.pruned + expired
  size : next.size + expired + discarded = buffer.size + stored

theorem Balances.refl (buffer : Buffer) : Balances buffer buffer 0 0 0 := ⟨rfl, rfl, rfl⟩

theorem Balances.trans {middle : Buffer} {a b c d e f : Nat} (first : Balances buffer middle a b c)
    (second : Balances middle next d e f) : Balances buffer next (a + d) (b + e) (c + f) where
  appended := by rw [second.appended, first.appended, Nat.add_assoc]
  pruned := by rw [second.pruned, first.pruned, Nat.add_assoc]
  size := by
    have before := first.size
    have after := second.size
    omega

theorem append_balances (appended : buffer.append sample = .ok next) : Balances buffer next 1 0 0 := by
  obtain rfl := append_success appended
  exact ⟨rfl, rfl, by simp [size, times, Content.push]⟩

theorem prune_balances (buffer : Buffer) (now : Binary64) :
    Balances buffer (buffer.prune now).1 0 (buffer.prune now).2 0 := by
  cases pruning : buffer.pruning with
  | retain =>
    rw [prune_retain pruning]
    exact .refl buffer
  | sliding window =>
    have popped := Content.length_prune (now - window) buffer.content
    rw [prune_sliding pruning]
    exact ⟨rfl, rfl, popped⟩

theorem clear_balances (buffer : Buffer) :
    Balances buffer buffer.clear 0 0 (buffer.size - buffer.clear.size) := by
  have none : buffer.clear.size = 0 := List.length_eq_zero_iff.mpr (List.isEmpty_iff.mp buffer.isEmpty_clear)
  exact ⟨rfl, rfl, by omega⟩

theorem after_balances (buffer : Buffer) (use : Use) :
    Balances buffer (use.after buffer) (stored buffer use) (expired buffer use) (discarded buffer use) := by
  have appends : ∀ time value, let use := Use.appendValue time value
      Balances buffer (use.after buffer) (stored buffer use) (expired buffer use) (discarded buffer use) := by
    intro time value
    cases result : buffer.append ⟨time, value⟩ with
    | error broken =>
      simpa [Use.after, stored, expired, discarded, Use.answer, result, Except.map, Except.toOption]
        using Balances.refl buffer
    | ok next =>
      simpa [Use.after, stored, expired, discarded, Use.answer, result, Except.map, Except.toOption]
        using append_balances result
  cases use with
  | append time => exact appends time .zero
  | appendValue time value => exact appends time value
  | update now => exact prune_balances buffer now
  | clear => exact clear_balances buffer

/-- The totals of a run balance, whatever the buffer held before. -/
theorem afterAll_balances (buffer : Buffer) (uses : List Use) :
    Balances buffer (buffer.afterAll uses) (total stored buffer uses) (total expired buffer uses)
      (total discarded buffer uses) := by
  induction uses generalizing buffer with
  | nil => exact ⟨rfl, rfl, rfl⟩
  | cons use uses ih => exact (after_balances buffer use).trans (ih (use.after buffer))

/-- A list takes a sample that is no older than all it has. -/
def accept (sample : Sample) (kept : List Sample) : List Sample :=
  if ∀ earlier ∈ kept, earlier.time ≤ sample.time then kept ++ [sample] else kept

def keep (pruning : Pruning) (kept : List Sample) : Use → List Sample
  | .append time => accept ⟨time, .zero⟩ kept
  | .appendValue time value => accept ⟨time, value⟩ kept
  | .update now =>
    match pruning with
    | .retain => kept
    | .sliding window => kept.filter fun sample => decide (now - window ≤ sample.time)
  | .clear => []

def keepAll (pruning : Pruning) (uses : List Use) : List Sample := uses.foldl (keep pruning) []

/-- The stores hold the samples, or their times alone. -/
structure Holds (valued : Bool) (pruning : Pruning) (kept : List Sample) (buffer : Buffer) : Prop where
  finite : ∀ window, pruning = .sliding window → window.isFinite = true
  pruning : buffer.pruning = pruning
  content : buffer.content = if valued then .ofSamples kept else .ofTimes (kept.map (·.time))
  steady : Steady Sample.time kept
  numbers : ∀ sample ∈ kept, sample.time.isNaN = false

namespace Holds

theorem times (holds : Holds valued pruning kept buffer) : buffer.times = kept.map (·.time) := by
  cases valued <;> simp [Buffer.times, holds.content, Content.ofTimes, Content.ofSamples]

theorem values (holds : Holds valued pruning kept buffer) :
    buffer.values = if valued then kept.map (·.value) else [] := by
  cases valued <;> simp [Buffer.values, holds.content, Content.ofTimes, Content.ofSamples]

theorem samples (holds : Holds valued pruning kept buffer) :
    buffer.samples = if valued then kept else [] := by
  cases valued with
  | false => simp [Buffer.samples, holds.values]
  | true => exact samples_of_content holds.content

theorem holdsValues (holds : Holds valued pruning kept buffer) : buffer.holdsValues = valued := by
  cases valued <;> simp [Buffer.holdsValues, holds.content, Content.ofTimes, Content.ofSamples]

theorem latest? (holds : Holds valued pruning kept buffer) :
    buffer.content.latest? = kept.getLast?.map (·.time) := by
  cases valued <;> simp [holds.content]

theorem push (holds : Holds valued pruning kept buffer) (number : sample.time.isNaN = false)
    (newest : ∀ earlier ∈ kept, earlier.time ≤ sample.time) (count : Nat) :
    Holds valued pruning (kept ++ [sample])
      { buffer with content := buffer.content.push sample, appended := count } where
  finite := holds.finite
  pruning := holds.pruning
  content := by cases valued <;> simp [holds.content]
  steady := Steady.append_singleton.mpr
    ⟨holds.steady, fun last found => newest last (List.mem_of_getLast? found)⟩
  numbers := List.forall_mem_append.mpr ⟨holds.numbers, by simpa using number⟩

/-- A sample is appended, unless it is older than the last one. -/
theorem append (holds : Holds valued pruning kept buffer) (number : sample.time.isNaN = false) :
    (∀ earlier ∈ kept, earlier.time ≤ sample.time) ∧
      (∃ next, buffer.append sample = .ok next ∧ Holds valued pruning (kept ++ [sample]) next) ∨
    ∃ last ∈ kept, kept.getLast? = some last ∧ sample.time < last.time ∧
      buffer.append sample = .error (.unordered last.time sample.time) := by
  by_cases newest : ∀ earlier ∈ kept, earlier.time ≤ sample.time
  · have ordered : ∀ last ∈ buffer.content.latest?, last ≤ sample.time := by
      rw [holds.latest?]
      intro time found
      obtain ⟨last, place, rfl⟩ := Option.map_eq_some_iff.mp found
      exact newest last (List.mem_of_getLast? place)
    exact .inl ⟨newest, _, append_ordered ordered, holds.push number newest _⟩
  · obtain ⟨earlier, member, newer⟩ : ∃ earlier ∈ kept, ¬earlier.time ≤ sample.time := by
      simpa only [not_forall, exists_prop] using newest
    obtain ⟨last, found⟩ := Option.ne_none_iff_exists'.mp
      (mt List.getLast?_eq_none_iff.mp (List.ne_nil_of_mem member))
    have there := List.mem_of_getLast? found
    have early : ¬last.time ≤ sample.time := fun le =>
      newer (Binary64.le_trans (holds.steady.le_last found (holds.numbers last there) member) le)
    refine .inr ⟨last, there, found, (Binary64.not_le (holds.numbers last there) number).mp early, ?_⟩
    exact append_unordered (by rw [holds.latest?, found]; rfl) early

theorem append_exact (holds : Holds valued pruning kept buffer) (number : sample.time.isNaN = false) :
    (∃ next, buffer.append sample = .ok next ∧ (∀ time ∈ buffer.times, time ≤ sample.time) ∧
      next.times = buffer.times ++ [sample.time] ∧
      next.values = buffer.values ++ if valued then [sample.value] else []) ∨
    ∃ last ∈ buffer.times.getLast?, sample.time < last ∧
      buffer.append sample = .error (.unordered last sample.time) := by
  obtain ⟨newest, next, appended, held⟩ | ⟨last, -, found, older, refused⟩ := holds.append number
  · refine .inl ⟨next, appended, ?_, ?_, ?_⟩
    · rw [holds.times, List.forall_mem_map]
      exact newest
    · rw [held.times, holds.times, List.map_append]
      rfl
    · rw [held.values, holds.values]
      split <;> simp
  · refine .inr ⟨last.time, ?_, older, refused⟩
    rw [holds.times, List.getLast?_map, found]
    rfl

/-- What lies before the window stands in front of what does not. -/
theorem split {window now : Binary64} (holds : Holds valued (.sliding window) kept buffer)
    (number : now.isNaN = false) :
    (kept.filter fun sample => decide (sample.time < now - window)) ++
      (kept.filter fun sample => decide (now - window ≤ sample.time)) = kept := by
  have border := Binary64.isNaN_sub number (holds.finite window rfl)
  rw [← Series.filter_not_before border holds.numbers]
  exact (Series.falling_of_steady holds.steady _).filter_append_filter

theorem prune {window now : Binary64} (holds : Holds valued (.sliding window) kept buffer)
    (number : now.isNaN = false) :
    Holds valued (.sliding window) (kept.filter fun sample => decide (now - window ≤ sample.time))
      (buffer.prune now).1 := by
  have border := Binary64.isNaN_sub number (holds.finite window rfl)
  -- In time order nothing that lies before the window stands behind something that does not.
  have front : (kept.dropWhile fun sample => decide (sample.time < now - window)) =
      kept.filter fun sample => decide (now - window ≤ sample.time) := by
    rw [(Series.falling_of_steady holds.steady _).dropWhile_eq, Series.filter_not_before border holds.numbers]
  rw [prune_sliding holds.pruning, ← front]
  refine ⟨holds.finite, holds.pruning, ?_, holds.steady.suffix (List.dropWhile_suffix _),
    fun sample member => holds.numbers sample ((List.dropWhile_sublist _).mem member)⟩
  cases valued with
  | false => simp [holds.content, Content.prune_ofTimes, List.dropWhile_map, Function.comp_def]
  | true => simp [holds.content, Content.prune_ofSamples]

/-- An update with a window removes a prefix, and that is all that lies before the window. As many values are
there to be drained. -/
theorem prune_exact {window now : Binary64} (holds : Holds valued (.sliding window) kept buffer)
    (lockstep : buffer.content.Lockstep) (number : now.isNaN = false) :
    let later := (buffer.prune now).1
    let removed := (buffer.prune now).2
    let old := buffer.times.filter fun time => decide (time < now - window)
    old ++ later.times = buffer.times ∧ removed = old.length ∧ later.samples = buffer.samples.drop removed ∧
      (∀ values ∈ buffer.content.values?, removed ≤ values.length ∧
        later.content.values? = some (values.drop removed)) ∧
      ∀ time ∈ later.times, now - window ≤ time := by
  intro later removed old
  have held := holds.prune number
  have split := holds.split number
  have outside : old = (kept.filter fun sample => decide (sample.time < now - window)).map (·.time) := by
    simp only [old, holds.times, List.filter_map, Function.comp_def]
  have whole : old ++ later.times = buffer.times := by
    rw [outside, held.times, holds.times, ← List.map_append, split]
  have count : removed = old.length := by
    have balance := (prune_balances buffer now).size
    have lengths := congrArg List.length whole
    rw [List.length_append] at lengths
    simp only [size, Nat.add_zero] at balance
    exact Nat.add_left_cancel (balance.trans (lengths.symm.trans (Nat.add_comm _ _)))
  refine ⟨whole, count, ?_, fun values stored => ?_, ?_⟩
  · have length : removed = (kept.filter fun sample => decide (sample.time < now - window)).length := by
      rw [count, outside, List.length_map]
    rw [held.samples, holds.samples, length]
    cases valued with
    | false => simp
    | true => exact (List.drop_left.symm.trans (congrArg _ split))
  · have enough : removed ≤ buffer.times.length := by
      rw [count, ← whole, List.length_append]
      exact Nat.le_add_right _ _
    have drained : later.content.values? = buffer.content.values?.map (·.drop removed) := by
      simp only [later, removed, prune_sliding holds.pruning, Content.prune_eq]
    rw [drained, Option.mem_def.mp stored]
    exact ⟨(lockstep values stored).symm ▸ enough, rfl⟩
  · rw [held.times, List.forall_mem_map]
    exact fun sample member => of_decide_eq_true (List.mem_filter.mp member).2

theorem clear (holds : Holds valued pruning kept buffer) : Holds valued pruning [] buffer.clear where
  finite := holds.finite
  pruning := holds.pruning
  content := by cases valued <;> simp [holds.content]
  steady := List.IsChain.nil
  numbers := nofun

theorem after (holds : Holds valued pruning kept buffer) {use : Use} (timely : use.Timely) :
    Holds valued pruning (keep pruning kept use) (use.after buffer) := by
  have appends : ∀ sample : Sample, sample.time.isNaN = false →
      Holds valued pruning (accept sample kept) ((buffer.append sample).toOption.getD buffer) := by
    intro sample number
    obtain ⟨newest, next, appended, held⟩ | ⟨last, there, -, older, refused⟩ := holds.append number
    · rw [accept, if_pos newest, appended]
      exact held
    · rw [accept, if_neg fun newest => Binary64.not_lt_of_le (newest last there) older, refused]
      exact holds
  cases use with
  | append time => exact appends ⟨time, .zero⟩ timely
  | appendValue time value => exact appends ⟨time, value⟩ timely
  | update now =>
    cases pruning with
    | retain =>
      rw [Use.after, prune_retain holds.pruning]
      exact holds
    | sliding window => exact holds.prune timely
  | clear => exact holds.clear

theorem afterAll (holds : Holds valued pruning kept buffer) {uses : List Use}
    (timely : ∀ use ∈ uses, use.Timely) :
    Holds valued pruning (uses.foldl (keep pruning) kept) (buffer.afterAll uses) := by
  induction uses generalizing buffer kept with
  | nil => exact holds
  | cons use uses ih =>
    obtain ⟨first, others⟩ := List.forall_mem_cons.mp timely
    exact ih (holds.after first) others

theorem start (made : pruning = .retain ∨ ∃ window, Pruning.ofWindow window = .ok pruning)
    (new : buffer = .forEvents pruning ∨ buffer = .forValues pruning) :
    Holds buffer.holdsValues pruning [] buffer where
  finite := by
    rintro window rfl
    obtain other | ⟨width, valid⟩ := made
    · cases other
    · obtain ⟨same, finite⟩ := Pruning.ofWindow_success valid
      exact Pruning.sliding.inj same ▸ finite
  pruning := by rcases new with rfl | rfl <;> rfl
  content := by rcases new with rfl | rfl <;> rfl
  steady := List.IsChain.nil
  numbers := nofun

end Holds

/-- A buffer that was made with no window, or with one that is valid, and any run in which no time is NaN.
The times are in order, a value buffer has one value beside each of them and an event buffer none, and the
two stores together are what the plain list keeps. The counters are the totals of the run. The next sample
is appended unless it is older than the last one, and then nothing changes. The next update removes exactly
what lies before the window, which is a prefix, from both stores and answers its length; without a window
it does nothing. -/
theorem run_exact (made : pruning = .retain ∨ ∃ window, Pruning.ofWindow window = .ok pruning)
    {start : Buffer} (new : start = .forEvents pruning ∨ start = .forValues pruning) {uses : List Use}
    (timely : ∀ use ∈ uses, use.Timely) :
    let buffer := start.afterAll uses
    let kept := keepAll pruning uses
    (buffer.times.Pairwise (· ≤ ·) ∧ buffer.content.Lockstep ∧ buffer.holdsValues = start.holdsValues ∧
      buffer.times = kept.map (·.time) ∧
      buffer.values = (if start.holdsValues then kept.map (·.value) else []) ∧
      buffer.samples = if start.holdsValues then kept else []) ∧
    (buffer.metrics = ⟨total stored start uses, total expired start uses, buffer.size⟩ ∧
      buffer.appended = buffer.pruned + total discarded start uses + buffer.size) ∧
    (∀ sample : Sample, sample.time.isNaN = false →
      (∃ next, buffer.append sample = .ok next ∧ (∀ time ∈ buffer.times, time ≤ sample.time) ∧
        next.times = buffer.times ++ [sample.time] ∧
        next.values = buffer.values ++ if start.holdsValues then [sample.value] else []) ∨
      ∃ last ∈ buffer.times.getLast?, sample.time < last ∧
        buffer.append sample = .error (.unordered last sample.time)) ∧
    (∀ (use : Use) (broken : Breach), use.answer buffer = .appended (.error broken) →
      use.after buffer = buffer) ∧
    ∀ now : Binary64, now.isNaN = false →
      match pruning with
      | .retain => buffer.prune now = (buffer, 0)
      | .sliding window =>
        let later := (buffer.prune now).1
        let removed := (buffer.prune now).2
        let old := buffer.times.filter fun time => decide (time < now - window)
        old ++ later.times = buffer.times ∧ removed = old.length ∧
          later.samples = buffer.samples.drop removed ∧
          (∀ values ∈ buffer.content.values?, removed ≤ values.length ∧
            later.content.values? = some (values.drop removed)) ∧
          ∀ time ∈ later.times, now - window ≤ time := by
  intro buffer kept
  have holds : Holds start.holdsValues pruning kept buffer := (Holds.start made new).afterAll timely
  have lockstep : buffer.content.Lockstep := by
    refine afterAll_lockstep ?_ uses
    rcases new with rfl | rfl
    · exact .clear ⟨[], none⟩
    · exact .clear ⟨[], some []⟩
  have balances := afterAll_balances start uses
  have nothing : start.appended = 0 ∧ start.pruned = 0 ∧ start.size = 0 := by
    rcases new with rfl | rfl <;> exact ⟨rfl, rfl, rfl⟩
  refine ⟨⟨?_, lockstep, holds.holdsValues, holds.times, holds.values, holds.samples⟩, ⟨?_, ?_⟩,
    fun _ => holds.append_exact, fun _ _ => after_refused, fun now number => ?_⟩
  · rw [holds.times, List.pairwise_map]
    exact holds.steady.pairwise
  · rw [metrics, balances.appended, balances.pruned, nothing.1, nothing.2.1, Nat.zero_add, Nat.zero_add]
  · have size : buffer.size + total expired start uses + total discarded start uses = _ := balances.size
    rw [balances.appended, balances.pruned]
    omega
  · cases pruning with
    | retain => exact prune_retain holds.pruning now
    | sliding window => exact holds.prune_exact lockstep number

/-- A value buffer with a window of one: an append that is refused, two samples at one time, an update whose
clock goes backwards, a clear and one more sample. -/
def mixed : List Use :=
  [.appendValue .one (.ofNat 7), .append .one, .append .zero, .appendValue (.ofNat 3) .nan,
    .update (.ofNat 3), .update .one, .clear, .append .one]

theorem mixed_exact :
    ∃ pruning, Pruning.ofWindow .one = .ok pruning ∧
      let buffer := (Buffer.forValues pruning).afterAll mixed
      buffer.content.Lockstep ∧ buffer.times = [.one] ∧ buffer.values = [.zero] ∧
        buffer.metrics = ⟨4, 2, 1⟩ ∧
        buffer.append ⟨.zero, .one⟩ = .error (.unordered .one .zero) ∧
        (buffer.prune (.ofNat 3)).2 = 1 := by
  have made : Pruning.ofWindow .one = .ok (.sliding .one) := by rfl
  have timely : ∀ use ∈ mixed, use.Timely := by decide +kernel
  obtain ⟨⟨-, lockstep, -, times, values, -⟩, ⟨metrics, -⟩, next, -, update⟩ :=
    run_exact (.inr ⟨.one, made⟩) (.inr rfl : Buffer.forValues (.sliding .one) = _ ∨ _) timely
  have last : ((Buffer.forValues (.sliding .one)).afterAll mixed).times = [.one] :=
    times.trans (by decide +kernel)
  refine ⟨_, made, lockstep, last, values.trans (by decide +kernel), metrics.trans (by decide +kernel),
    ?_, ?_⟩
  · obtain ⟨_, -, newest, -⟩ | ⟨time, found, -, refused⟩ := next ⟨.zero, .one⟩ (by decide +kernel)
    · rw [last] at newest
      exact absurd (newest .one (List.mem_singleton_self _)) (by decide +kernel)
    · rw [last] at found
      obtain rfl : .one = time := Option.some.inj found
      exact refused
  · obtain ⟨-, count, -⟩ := update (.ofNat 3) (by decide +kernel)
    rw [last] at count
    exact count.trans (by decide +kernel)

end Telemetry.Buffer
