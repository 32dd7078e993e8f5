import Telemetry.Proofs.History.Truncation

/-! What a truncation keeps. It sifts every series in the order of time by the window and changes nothing
else, and two truncations sift by both of their windows. -/
namespace Telemetry.History
variable {history before middle after : History} {lower upper : Option Binary64} {m n : Nat}

/-- Every series of the later history is that of the earlier one without the items whose time is not to
be kept, and so many items are gone altogether. Nothing else is different. -/
structure Sifts (keep : Binary64 → Prop) [DecidablePred keep] (before after : History)
    (discarded : Nat) : Prop where
  samples : ∀ key, after.samplesOf key = (before.samplesOf key).filter fun sample => decide (keep sample.time)
  times : ∀ key, after.timesOf key = (before.timesOf key).filter fun time => decide (keep time)
  counted : after.sampleCount + discarded = before.sampleCount
  continuousKeys : after.continuousKeys = before.continuousKeys
  eventKeys : after.eventKeys = before.eventKeys
  earliest : after.earliest = before.earliest
  latest : after.latest = before.latest
  restarts : after.restarts = before.restarts
  messages : after.messages = before.messages

theorem Sifts.trans {keep also : Binary64 → Prop} [DecidablePred keep] [DecidablePred also]
    (first : Sifts keep before middle m) (second : Sifts also middle after n) :
    Sifts (fun time => keep time ∧ also time) before after (m + n) where
  samples key := by
    rw [second.samples, first.samples, List.filter_filter]
    simp only [Bool.decide_and, Bool.and_comm]
  times key := by
    rw [second.times, first.times, List.filter_filter]
    simp only [Bool.decide_and, Bool.and_comm]
  counted := by
    have early := first.counted
    have late := second.counted
    omega
  continuousKeys := second.continuousKeys.trans first.continuousKeys
  eventKeys := second.eventKeys.trans first.eventKeys
  earliest := second.earliest.trans first.earliest
  latest := second.latest.trans first.latest
  restarts := second.restarts.trans first.restarts
  messages := second.messages.trans first.messages

/-- What a truncation answers to have discarded. -/
def loss (lower upper : Option Binary64) (history : History) : Nat :=
  history.continuous.loss (·.time) lower upper + history.events.loss id lower upper

/-- The series lose, one by one, what the history has less of in the end. -/
theorem sampleCount_cut (history : History) (lower upper : Option Binary64) :
    (history.cut lower upper).sampleCount + history.loss lower upper = history.sampleCount := by
  have samples := Table.itemCount_cut (·.time) lower upper history.continuous
  have times := Table.itemCount_cut id lower upper history.events
  simp only [sampleCount, cut, loss]
  omega

theorem Steady.cut (steady : history.Steady) (lower upper : Option Binary64) :
    (history.cut lower upper).Steady :=
  ⟨steady.1.cut lower upper, steady.2.cut lower upper⟩

theorem Steady.sifts (steady : history.Steady) (lower upper : Option Binary64) :
    Sifts (Series.Within lower upper) history (history.cut lower upper) (history.loss lower upper) where
  samples key := (Table.series_cut ..).trans (Series.cut_eq_filter (steady.1.series key) lower upper)
  times key := (Table.series_cut ..).trans (Series.cut_eq_filter (steady.2.series key) lower upper)
  counted := history.sampleCount_cut lower upper
  continuousKeys := Table.keys_map _ _
  eventKeys := Table.keys_map _ _
  earliest := rfl
  latest := rfl
  restarts := rfl
  messages := rfl

/-- There is a bound, and two bounds are in order. -/
def Bounds (lower upper : Option Binary64) : Prop :=
  (lower.isSome ∨ upper.isSome) ∧ ∀ low ∈ lower, ∀ high ∈ upper, low ≤ high

instance (lower upper : Option Binary64) : Decidable (Bounds lower upper) :=
  inferInstanceAs (Decidable (_ ∧ _))

theorem truncate_bounded (bounds : Bounds lower upper) (history : History) :
    (truncate lower upper history).state = history.cut lower upper ∧
      (truncate lower upper history).result = .ok ⟨history.loss lower upper, lower, upper⟩ := by
  obtain ⟨some, ordered⟩ := bounds
  cases lower with
  | none =>
    cases upper with
    | none => simp at some
    | some high => exact ⟨rfl, rfl⟩
  | some low =>
    cases upper with
    | none => exact ⟨rfl, rfl⟩
    | some high =>
      have le : low ≤ high := ordered low rfl high rfl
      simp [truncate, loss, le, Action.bind_of_ok]

theorem truncate_disordered {low high : Binary64} (disordered : ¬low ≤ high) (history : History) :
    truncate (some low) (some high) history =
      ⟨history, .error (.breach (.boundsOutOfOrder low high)), []⟩ := by
  simp [truncate, disordered]

/-- A truncation of series in the order of time keeps what lies within its bounds, and one more keeps what
lies within the bounds of both. It is refused without a bound, or with two that are not in order. -/
theorem truncate_exact (steady : history.Steady) (lower upper : Option Binary64) :
    let outcome := truncate lower upper history
    (Bounds lower upper → ∃ discarded, outcome.result = .ok ⟨discarded, lower, upper⟩ ∧
      Sifts (Series.Within lower upper) history outcome.state discarded ∧
      ∀ lower' upper', Bounds lower' upper' → let again := truncate lower' upper' outcome.state
        ∃ more, again.result = .ok ⟨more, lower', upper'⟩ ∧
          Sifts (fun time => Series.Within lower upper time ∧ Series.Within lower' upper' time)
            history again.state (discarded + more)) ∧
    (lower = none → upper = none → outcome = ⟨history, .error (.breach .noBound), []⟩) ∧
    (∀ low ∈ lower, ∀ high ∈ upper, ¬low ≤ high →
      outcome = ⟨history, .error (.breach (.boundsOutOfOrder low high)), []⟩) ∧
    ∀ time : Binary64, time.isNaN = false → (∀ low ∈ lower, low.isNaN = false) →
      (Series.Within lower upper time ↔ (∀ low ∈ lower, low ≤ time) ∧ ∀ high ∈ upper, time < high) := by
  intro outcome
  refine ⟨fun bounds => ?_, ?_, ?_, fun time number numbers => ?_⟩
  · obtain ⟨state, result⟩ := truncate_bounded bounds history
    refine ⟨_, result, state ▸ steady.sifts lower upper, fun lower' upper' bounds' => ?_⟩
    have still : outcome.state.Steady := state ▸ steady.cut lower upper
    obtain ⟨again, answer⟩ := truncate_bounded bounds' outcome.state
    refine ⟨_, answer, ?_⟩
    rw [again]
    exact (state ▸ steady.sifts lower upper : Sifts _ history outcome.state _).trans
      (still.sifts lower' upper')
  · rintro rfl rfl
    rfl
  · intro low known high limit disordered
    obtain rfl := Option.mem_def.mp known
    obtain rfl := Option.mem_def.mp limit
    exact truncate_disordered disordered history
  · refine and_congr (forall₂_congr fun low known => ?_) Iff.rfl
    exact Binary64.not_lt number (numbers low known)

/-- Two ticks with repeated times at the bounds of a window, and an event train that a window empties. -/
def crowded : List Delta :=
  let sample (n : Nat) : Sample := ⟨.ofNat n, .ofNat n⟩
  [{ time := .ofNat 2, continuous := [("reward", [sample 1, sample 2, sample 2])],
      events := some [("spikes", [(0, [.ofNat 1]), (1, [.ofNat 1])])] },
    { time := .ofNat 4, continuous := [("reward", [sample 3, sample 4])],
      events := some [("spikes", [(0, [.ofNat 3, .ofNat 3])])] }]

theorem crowded_truncated_twice :
    let history := (readAll crowded {}).state
    let once := truncate (some (.ofNat 2)) (some (.ofNat 4)) history
    let twice := truncate none (some (.ofNat 3)) once.state
    history.Steady ∧
      ((once.state.samplesOf "reward").map (·.time) = [.ofNat 2, .ofNat 2, .ofNat 3] ∧
        once.state.timesOf ⟨"spikes", 0⟩ = [.ofNat 3, .ofNat 3] ∧ once.state.timesOf ⟨"spikes", 1⟩ = []) ∧
      ((twice.state.samplesOf "reward").map (·.time) = [.ofNat 2, .ofNat 2] ∧
        twice.state.timesOf ⟨"spikes", 0⟩ = []) ∧
      twice.state.eventKeys = [⟨"spikes", 0⟩, ⟨"spikes", 1⟩] ∧ twice.state.earliest = some (.ofNat 2) ∧
      ∃ discarded more, once.result = .ok ⟨discarded, some (.ofNat 2), some (.ofNat 4)⟩ ∧
        twice.result = .ok ⟨more, none, some (.ofNat 3)⟩ ∧ 2 + (discarded + more) = 9 := by
  intro history once twice
  have steady : history.Steady := by decide +kernel
  obtain ⟨exact, -⟩ := truncate_exact steady (some (.ofNat 2)) (some (.ofNat 4))
  obtain ⟨discarded, answer, sifts, further⟩ := exact (by decide +kernel)
  obtain ⟨more, again, both⟩ := further none (some (.ofNat 3)) (by decide +kernel)
  refine ⟨steady, ⟨?_, ?_, ?_⟩, ⟨?_, ?_⟩, ?_, ?_, discarded, more, answer, again, ?_⟩
  · rw [sifts.samples]
    decide +kernel
  · rw [sifts.times]
    decide +kernel
  · rw [sifts.times]
    decide +kernel
  · rw [both.samples]
    decide +kernel
  · rw [both.times]
    decide +kernel
  · rw [both.eventKeys]
    decide +kernel
  · rw [both.earliest]
    decide +kernel
  · have whole : history.sampleCount = 9 := by decide +kernel
    have rest : twice.state.sampleCount = 2 := by decide +kernel
    have counted := both.counted
    change twice.state.sampleCount + (discarded + more) = history.sampleCount at counted
    rwa [rest, whole] at counted

end Telemetry.History
