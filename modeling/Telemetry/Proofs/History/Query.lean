import Telemetry.Proofs.History.Truncation

/-! Windowed queries. They are refused exactly when the window reaches beyond the ticks of a history, and
else they answer what the series hold from the lower bound on and before the upper one. -/
namespace Telemetry.History
variable {history : History} {lower middle upper : Binary64}

/-- What reads and truncations make of an empty history. A read that breaks a contract ends it. -/
inductive Reachable : History → Prop
  | empty : Reachable {}
  | read {history : History} {delta : Delta} {reading : Reading} (before : Reachable history)
      (answer : (read delta history).result = .ok reading) : Reachable (read delta history).state
  | truncate {history : History} (before : Reachable history) (lower upper : Option Binary64) :
      Reachable (truncate lower upper history).state

/-- No delta was read, or the window begins before the earliest tick or ends after the latest one. -/
def Outside (history : History) (lower upper : Binary64) : Prop :=
  history.messages = 0 ∨ (∃ earliest ∈ history.earliest, lower < earliest) ∨
    ∃ latest ∈ history.latest, latest < upper

instance (history : History) (lower upper : Binary64) : Decidable (history.Outside lower upper) :=
  inferInstanceAs (Decidable (_ ∨ _ ∨ _))

/-- There was no tick, or the first and the last one are known and in order. -/
inductive Ticked (history : History) : Prop
  | never (messages : history.messages = 0) (earliest : history.earliest = none)
      (latest : history.latest = none)
  | since {first last : Binary64} (messages : 0 < history.messages) (earliest : history.earliest = some first)
      (latest : history.latest = some last) (ordered : first ≤ last)

theorem Ticked.cut (ticked : history.Ticked) (lower upper : Option Binary64) :
    (history.cut lower upper).Ticked := by
  cases ticked with
  | never messages earliest latest => exact .never messages earliest latest
  | since messages earliest latest ordered => exact .since messages earliest latest ordered

/-- A truncation that is refused changes nothing. -/
theorem truncate_state (lower upper : Option Binary64) (history : History) :
    (truncate lower upper history).state = history ∨
      (truncate lower upper history).state = history.cut lower upper := by
  cases lower with
  | none =>
    cases upper with
    | none => exact .inl rfl
    | some upper => exact .inr rfl
  | some lower =>
    cases upper with
    | none => exact .inr rfl
    | some upper =>
      by_cases ordered : lower ≤ upper
      · exact .inr (by simp [truncate, ordered, Action.bind_of_ok])
      · exact .inl (by simp [truncate, ordered])

theorem Reachable.ticked (reachable : history.Reachable) : history.Ticked := by
  induction reachable with
  | empty => exact .never rfl rfl rfl
  | read before answer ih =>
    obtain ⟨first, ordered, earliest, latest, messages⟩ := read_success answer
    exact .since (messages ▸ Nat.succ_pos _) earliest latest ordered
  | truncate before lower upper ih =>
    rcases truncate_state lower upper _ with same | cut
    · exact same ▸ ih
    · exact cut ▸ ih.cut lower upper

/-- Only a tick that is NaN breaks the contract of a read. -/
theorem Reachable.read_answers (reachable : history.Reachable) (delta : Delta) :
    (∃ reading, (History.read delta history).result = .ok reading) ↔ delta.time.isNaN = false := by
  refine ⟨fun ⟨reading, answer⟩ => ?_, fun number => ?_⟩
  · obtain ⟨first, ordered, -⟩ := read_success answer
    exact ordered.2.1
  · rcases history.back_or_forward delta.time with ⟨previous, latest, below⟩ | forward
    · exact ⟨_, (read_restarted latest below).1⟩
    · refine ⟨_, (read_applied forward ?_).1⟩
      cases reachable.ticked with
      | never messages earliest latest => simpa [earliest] using Binary64.le_refl number
      | since messages earliest latest ordered =>
        have later := (Binary64.not_lt number ordered.2.1).mp (forward _ latest)
        simpa [earliest] using Binary64.le_trans ordered later

theorem Ticked.checkWindow (ticked : history.Ticked) (low : lower.isNaN = false) (high : upper.isNaN = false) :
    history.checkWindow lower upper = .ok () ↔ ¬history.Outside lower upper := by
  cases ticked with
  | never messages earliest => simp [History.checkWindow, Outside, messages, earliest]
  | since messages earliest latest ordered =>
    have below := Binary64.not_le ordered.1 low
    have above := Binary64.not_le high ordered.2.1
    simp only [History.checkWindow, earliest, latest, Outside, Option.mem_some, exists_eq_left', ← below,
      ← above, Nat.ne_of_gt messages, false_or, not_or, not_not]
    split
    · simp_all
    · split <;> simp_all

section
variable {κ α : Type}

/-- What a query says of a window, for every list of keys: it is refused exactly when the window lies
outside the ticks, and else each key has the items from the lower bound on and before the upper one. -/
structure Exact (history : History) (known : List κ) (series : κ → List α) (time : α → Binary64)
    (query : List κ → Option (Binary64 × Binary64) → Except Breach (List (List α)))
    (lower upper : Binary64) : Prop where
  refused : ∀ keys, (∃ broken, query keys (some (lower, upper)) = .error broken) ↔
    history.Outside lower upper
  answered : ¬history.Outside lower upper → ∀ keys, query keys (some (lower, upper)) =
    .ok (keys.map fun key => (series key).filter fun item => decide (lower ≤ time item ∧ time item < upper))
  unknown : ∀ key ∉ known, series key = []
  inverted : ¬history.Outside lower upper → upper ≤ lower → ∀ keys,
    query keys (some (lower, upper)) = .ok (keys.map fun _ => [])
  /-- A window may be cut in the middle, and the answers of its parts are joined for each key. -/
  split : ¬history.Outside lower upper → ∀ middle, lower ≤ middle → middle ≤ upper → ∀ keys,
    ∃ left right, query keys (some (lower, middle)) = .ok left ∧
      query keys (some (middle, upper)) = .ok right ∧
      query keys (some (lower, upper)) = .ok (List.zipWith (· ++ ·) left right)

theorem Outside.of_part {low high : Binary64} (outside : history.Outside low high) (first : lower ≤ low)
    (last : high ≤ upper) : history.Outside lower upper := by
  rcases outside with none | ⟨earliest, known, below⟩ | ⟨latest, known, above⟩
  · exact .inl none
  · exact .inr (.inl ⟨earliest, known, Binary64.lt_of_le_of_lt first below⟩)
  · exact .inr (.inr ⟨latest, known, Binary64.lt_of_lt_of_le above last⟩)

variable [LT κ] [DecidableEq κ]

/-- A query checks its window once and then takes the window of each series. -/
theorem query_window (history : History) (time : α → Binary64) (table : Table κ (List α)) (keys : List κ)
    (lower upper : Binary64) : history.query time table keys (some (lower, upper)) =
      (history.checkWindow lower upper).map fun _ =>
        keys.map fun key => Series.window time lower upper (table.series key) := by
  simp only [query, checkOptionalWindow]
  cases history.checkWindow lower upper <;> rfl

theorem Ticked.exact (ticked : history.Ticked) {time : α → Binary64} {table : Table κ (List α)}
    (steady : table.Steady time) (low : lower.isNaN = false) (high : upper.isNaN = false) :
    history.Exact table.keys table.series time (history.query time table) lower upper := by
  have answers : ∀ {low high}, low.isNaN = false → high.isNaN = false → ¬history.Outside low high →
      ∀ keys, history.query time table keys (some (low, high)) =
        .ok (keys.map fun key => Series.window time low high (table.series key)) := by
    intro low high start stop inside keys
    rw [query_window, (ticked.checkWindow start stop).mpr inside]
    rfl
  have answered : ¬history.Outside lower upper → ∀ keys,
      history.query time table keys (some (lower, upper)) = .ok (keys.map fun key =>
        (table.series key).filter fun item => decide (lower ≤ time item ∧ time item < upper)) := by
    intro inside keys
    simp only [answers low high inside, Series.window_eq_between (steady.series _) low]
  refine ⟨fun keys => ⟨?_, ?_⟩, answered, fun key => Table.series_unknown, ?_, ?_⟩
  · rintro ⟨broken, refused⟩
    by_contra inside
    rw [answered inside] at refused
    cases refused
  · intro outside
    cases checked : history.checkWindow lower upper with
    | ok => exact absurd outside ((ticked.checkWindow low high).mp checked)
    | error broken => exact ⟨broken, by rw [query_window, checked]; rfl⟩
  · intro inside crossed keys
    rw [answered inside]
    congr 1
    refine List.map_congr_left fun key _ => List.filter_eq_nil_iff.mpr fun item _ between => ?_
    obtain ⟨above, below⟩ := of_decide_eq_true between
    exact Binary64.not_lt_of_le (Binary64.le_trans crossed above) below
  · intro inside middle first last keys
    have number := first.2.1
    refine ⟨_, _, answers low number (mt (·.of_part (Binary64.le_refl low) last) inside) keys,
      answers number high (mt (·.of_part first (Binary64.le_refl high)) inside) keys, ?_⟩
    rw [answers low high inside, List.zipWith_map, List.zipWith_self]
    simp only [Series.window_append_window (steady.series _) first last]

end

/-- In a history whose series are in time order, both kinds of query are exact for every window whose
bounds are numbers. -/
theorem query_exact (reachable : history.Reachable) (steady : history.Steady) (low : lower.isNaN = false)
    (high : upper.isNaN = false) :
    history.Exact history.continuousKeys history.samplesOf Sample.time history.continuousData lower upper ∧
      history.Exact history.eventKeys history.timesOf id history.eventData lower upper :=
  ⟨reachable.ticked.exact steady.1 low high, reachable.ticked.exact steady.2 low high⟩

/-- A tick with two samples of one time and two events of another one. -/
def pairs (tick time event : Nat) : Delta where
  time := .ofNat tick
  continuous := [("reward", [⟨.ofNat time, .zero⟩, ⟨.ofNat time, .one⟩])]
  events := some [("spikes", [(0, [.ofNat event, .ofNat event])])]

/-- A history that was restarted, and then lost everything older than its second tick. -/
def resumed : History :=
  let first := (read (pairs 9 9 9) {}).state
  let second := (read (pairs 1 1 1) first).state
  let third := (read (pairs 3 2 3) second).state
  (truncate (some (.ofNat 2)) none third).state

theorem resumed_exact :
    resumed.Reachable ∧ resumed.Steady ∧
    resumed.continuousData ["rate", "reward"] (some (.one, .ofNat 3)) =
      .ok [[], [⟨.ofNat 2, .zero⟩, ⟨.ofNat 2, .one⟩]] ∧
    (∃ left right, resumed.eventData [⟨"spikes", 0⟩] (some (.one, .ofNat 2)) = .ok left ∧
      resumed.eventData [⟨"spikes", 0⟩] (some (.ofNat 2, .ofNat 3)) = .ok right ∧
      resumed.eventData [⟨"spikes", 0⟩] (some (.one, .ofNat 3)) = .ok (List.zipWith (· ++ ·) left right)) ∧
    ∃ broken, resumed.eventData [] (some (.zero, .ofNat 3)) = .error broken := by
  have first : (read (pairs 9 9 9) {}).result = .ok .applied := by decide +kernel
  have second : (read (pairs 1 1 1) (read (pairs 9 9 9) {}).state).result = .ok (.restarted (.ofNat 9)) := by
    decide +kernel
  have third : (read (pairs 3 2 3) (read (pairs 1 1 1) (read (pairs 9 9 9) {}).state).state).result =
      .ok .applied := by decide +kernel
  have reachable : resumed.Reachable :=
    .truncate (.read (.read (.read .empty first) second) third) _ _
  have steady : resumed.Steady := by decide +kernel
  have inside : ¬resumed.Outside .one (.ofNat 3) := by decide +kernel
  have outside : resumed.Outside .zero (.ofNat 3) := by decide +kernel
  obtain ⟨samples, times⟩ := query_exact reachable steady
    (by decide +kernel : Binary64.one.isNaN = false) (by decide +kernel : (Binary64.ofNat 3).isNaN = false)
  obtain ⟨-, early⟩ := query_exact reachable steady
    (by decide +kernel : Binary64.zero.isNaN = false) (by decide +kernel : (Binary64.ofNat 3).isNaN = false)
  refine ⟨reachable, steady, ?_, ?_, (early.refused []).mpr outside⟩
  · rw [samples.answered inside]
    decide +kernel
  · exact times.split inside (.ofNat 2) (by decide +kernel) (by decide +kernel) _

end Telemetry.History
