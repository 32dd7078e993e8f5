import Telemetry.Proofs.Config
import Telemetry.Proofs.History.Sound

/-! Truncation behind the latest tick. What a history drops in this way lies before every window
that begins no earlier than the same distance behind the latest tick, and it stays so while the
clock runs forward. -/
namespace Telemetry

namespace History
variable {retention : Binary64} {kept whole : History}

/-- Where truncation cuts: this far behind the latest tick. -/
def horizon (retention : Binary64) (history : History) : Option Binary64 :=
  history.latest.map (· - retention)

/-- The two histories differ only in items from before the horizon, which one of them dropped. -/
structure Trimmed (retention : Binary64) (kept whole : History) : Prop where
  earliest : kept.earliest = whole.earliest
  latest : kept.latest = whole.latest
  messages : kept.messages = whole.messages
  restarts : kept.restarts = whole.restarts
  continuous : kept.continuous.Trimmed Sample.time (whole.horizon retention) whole.continuous
  events : kept.events.Trimmed id (whole.horizon retention) whole.events

theorem Trimmed.refl (retention : Binary64) (whole : History) : Trimmed retention whole whole :=
  ⟨rfl, rfl, rfl, rfl, .refl _ _ _, .refl _ _ _⟩

/-- Every series is in the order of time. -/
def Steady (history : History) : Prop :=
  history.continuous.Steady Sample.time ∧ history.events.Steady id

instance (history : History) : Decidable history.Steady :=
  inferInstanceAs (Decidable (_ ∧ _))

theorem Trimmed.checkWindow (trimmed : Trimmed retention kept whole) (lower upper : Binary64) :
    kept.checkWindow lower upper = whole.checkWindow lower upper := by
  rw [History.checkWindow, History.checkWindow, trimmed.earliest, trimmed.latest]

/-- A query of a table and of what a truncation left of it. The window is checked once, and from the horizon
on it finds the same in both. -/
theorem Trimmed.query (trimmed : Trimmed retention kept whole) {κ α : Type} [LT κ] [DecidableEq κ]
    {time : α → Binary64} {part table : Table κ (List α)}
    (left : part.Trimmed time (whole.horizon retention) table) (steady : table.Steady time)
    {lower upper : Binary64} (recent : ∀ bound ∈ whole.horizon retention, bound ≤ lower)
    (admissible : whole.checkWindow lower upper = .ok ()) (keys : List κ) :
    ∃ rows, kept.query time part keys (some (lower, upper)) = .ok rows ∧
      whole.query time table keys (some (lower, upper)) = .ok rows := by
  refine ⟨keys.map fun key => Series.window time lower upper (table.series key), ?_, ?_⟩
  · simp only [History.query, checkOptionalWindow, trimmed.checkWindow, admissible,
      (left.series _).window_eq (steady.series _) recent]
    rfl
  · simp only [History.query, checkOptionalWindow, admissible]
    rfl

theorem Trimmed.truncate (trimmed : Trimmed retention kept whole) (steady : whole.Steady) :
    (Consumer.truncateBehind retention kept).result = .ok () ∧
      Trimmed retention (Consumer.truncateBehind retention kept).state whole := by
  rw [Consumer.truncateBehind, Action.read_then]
  cases known : kept.latest with
  | none => exact ⟨rfl, trimmed⟩
  | some latest =>
    refine ⟨rfl, ?_⟩
    change Trimmed retention (kept.cut (some (latest - retention)) none) whole
    have limit : whole.horizon retention = some (latest - retention) := by
      rw [horizon, ← trimmed.latest, known, Option.map_some]
    have samples := trimmed.continuous
    have times := trimmed.events
    rw [limit] at samples times
    exact {
      trimmed with
      continuous := limit ▸ samples.cut steady.1
      events := limit ▸ times.cut steady.2 }

theorem horizon_forward {delta : Delta} (number : retention.isNaN = false)
    (finite : delta.time.isFinite = true) (ticks : ∀ latest ∈ whole.latest, latest.isFinite = true)
    (forward : ∀ latest ∈ whole.latest, ¬delta.time < latest) :
    ∀ bound ∈ whole.horizon retention,
      ∃ next ∈ some (delta.time - retention), bound ≤ next := by
  intro bound limit
  obtain ⟨latest, known, rfl⟩ := Option.map_eq_some_iff.mp limit
  have old := ticks latest known
  have ordered : latest ≤ delta.time := Decidable.of_not_not fun above =>
    forward latest known ((Binary64.not_le (Binary64.isNaN_of_isFinite old)
      (Binary64.isNaN_of_isFinite finite)).mp above)
  exact ⟨_, rfl, Binary64.sub_le_sub_right old finite number ordered⟩

theorem Trimmed.read {earlier : List Delta} {delta : Delta}
    (trimmed : Trimmed retention kept (gathered earlier)) (number : retention.isNaN = false)
    (finite : ∀ item ∈ earlier ++ [delta], item.time.isFinite = true) :
    (read delta kept).result = .ok (judge (earlier.map Delta.time).getLast? delta.time) ∧
      Trimmed retention (read delta kept).state (gathered (earlier ++ [delta])) := by
  have numbers : ∀ item ∈ earlier ++ [delta], item.time.isNaN = false := fun item member =>
    Binary64.isNaN_of_isFinite (finite item member)
  rcases (gathered earlier).back_or_forward delta.time with ⟨previous, known, below⟩ | forward
  -- A restart empties both histories, and they are equal after it.
  · have found : (earlier.map Delta.time).getLast? = some previous := known
    obtain ⟨answer, after⟩ := read_restarted (trimmed.latest.trans known) below
    rw [answer, after, gathered_restarted found below, trimmed.messages, trimmed.restarts]
    exact ⟨by simp [judge, found, below], .refl _ _⟩
  · obtain ⟨bounded, grown⟩ := gathered_applied numbers forward
    have ahead : ∀ latest ∈ kept.latest, ¬delta.time < latest := trimmed.latest ▸ forward
    have above : kept.earliest.getD delta.time ≤ delta.time := trimmed.earliest ▸ bounded
    obtain ⟨answer, after⟩ := read_applied ahead above
    have ticks : ∀ latest ∈ (gathered earlier).latest, latest.isFinite = true := by
      intro latest known
      obtain ⟨item, member, rfl⟩ := List.mem_map.mp (List.mem_of_getLast? known)
      exact finite item (by simp [member])
    -- What was dropped stays behind the horizon, which never moves back within an epoch.
    have moved := horizon_forward number (finite delta (by simp)) ticks forward
    refine ⟨?_, ?_⟩
    · rw [answer, ← (read_gathered earlier delta numbers).1, (read_applied forward bounded).1]
    rw [after, grown]
    exact {
      earliest := by simp only [trimmed.earliest]
      latest := rfl
      messages := congrArg (· + 1) trimmed.messages
      restarts := trimmed.restarts
      continuous := trimmed.continuous.gather moved _
      events := trimmed.events.gather moved _ }

/-- What happens to a history that is truncated from time to time. -/
inductive Turn
  | read (delta : Delta)
  | truncate
  deriving DecidableEq, Repr

def Turn.perform (retention : Binary64) : Turn → Action History Unit
  | .read delta => Consumer.handle (.delta delta)
  | .truncate => Consumer.truncateBehind retention

def replay (retention : Binary64) : List Turn → Action History Unit
  | [] => Action.done ()
  | turn :: turns => do
    turn.perform retention
    replay retention turns

def received : List Turn → List Delta
  | [] => []
  | .read delta :: turns => delta :: received turns
  | .truncate :: turns => received turns

/-- In every epoch the times of every key come in order. -/
def Orderly (deltas : List Delta) : Prop := ∀ earlier ∈ deltas.inits, (gathered earlier).Steady

instance (deltas : List Delta) : Decidable (Orderly deltas) :=
  inferInstanceAs (Decidable (∀ earlier ∈ deltas.inits, _))

theorem Trimmed.handle {earlier : List Delta} {delta : Delta}
    (trimmed : Trimmed retention kept (gathered earlier)) (number : retention.isNaN = false)
    (finite : ∀ item ∈ earlier ++ [delta], item.time.isFinite = true) :
    (Consumer.handle (.delta delta) kept).result = .ok () ∧
      Trimmed retention (Consumer.handle (.delta delta) kept).state
        (gathered (earlier ++ [delta])) := by
  obtain ⟨answer, after⟩ := trimmed.read number finite
  obtain ⟨done, same⟩ := handle_of_read answer
  exact ⟨done, same ▸ after⟩

theorem Trimmed.replay {earlier : List Delta} {turns : List Turn}
    (trimmed : Trimmed retention kept (gathered earlier)) (number : retention.isNaN = false)
    (finite : ∀ delta ∈ earlier ++ received turns, delta.time.isFinite = true)
    (orderly : Orderly (earlier ++ received turns)) :
    (replay retention turns kept).result = .ok () ∧
      Trimmed retention (replay retention turns kept).state (gathered (earlier ++ received turns)) := by
  induction turns generalizing earlier kept with
  | nil =>
    rw [received, List.append_nil]
    exact ⟨rfl, trimmed⟩
  | cons turn turns ih =>
    cases turn with
    | read delta =>
      rw [received, List.append_cons] at finite orderly ⊢
      obtain ⟨answer, after⟩ := trimmed.handle number fun item member =>
        finite item (List.mem_append_left _ member)
      have ran : (Turn.perform retention (.read delta) kept).result = .ok () := answer
      rw [History.replay, Action.bind_of_ok ran]
      exact ih after finite orderly
    | truncate =>
      have steady : (gathered earlier).Steady :=
        orderly earlier ((List.mem_inits _ _).mpr (List.prefix_append _ _))
      obtain ⟨answer, after⟩ := trimmed.truncate steady
      have ran : (Turn.perform retention .truncate kept).result = .ok () := answer
      rw [History.replay, Action.bind_of_ok ran]
      exact ih after finite orderly

theorem readAll_received (turns : List Turn)
    (finite : ∀ delta ∈ received turns, delta.time.isFinite = true) :
    (readAll (received turns) {}).state = gathered (received turns) :=
  (readAll_gathered [] (received turns) fun delta member =>
    Binary64.isNaN_of_isFinite (finite delta member)).2

/-- A history that is truncated from time to time, beside one that reads the same deltas and never
is. Bounds, counts and keys are the same, every series has lost items at its front only, and no
query can tell the two apart whose window may be asked for and begins at the retention behind the
latest tick or later. -/
theorem truncation_invisible (retention : Binary64) (positive : Binary64.zero < retention)
    (turns : List Turn) (finite : ∀ delta ∈ received turns, delta.time.isFinite = true)
    (orderly : Orderly (received turns)) :
    let kept := (replay retention turns {}).state
    let whole := (readAll (received turns) {}).state
    (replay retention turns {}).result = .ok () ∧
    (kept.earliest = whole.earliest ∧ kept.latest = whole.latest) ∧
    (kept.restarts = whole.restarts ∧ kept.messages = whole.messages) ∧
    (kept.continuousKeys = whole.continuousKeys ∧ kept.eventKeys = whole.eventKeys) ∧
    (∀ key, kept.samplesOf key <:+ whole.samplesOf key) ∧
    (∀ key, kept.timesOf key <:+ whole.timesOf key) ∧
    ∀ lower upper, whole.checkWindow lower upper = .ok () →
      (∀ latest ∈ whole.latest, latest - retention ≤ lower) →
      (∀ keys, ∃ rows, kept.continuousData keys (some (lower, upper)) = .ok rows ∧
        whole.continuousData keys (some (lower, upper)) = .ok rows) ∧
      ∀ keys, ∃ rows, kept.eventData keys (some (lower, upper)) = .ok rows ∧
        whole.eventData keys (some (lower, upper)) = .ok rows := by
  have start : Trimmed retention {} (gathered []) := .refl retention (gathered [])
  obtain ⟨answer, trimmed⟩ := start.replay positive.2.1 finite orderly
  intro kept whole
  have same : whole = gathered (received turns) := readAll_received turns finite
  have last : whole.Steady := same ▸ orderly _ ((List.mem_inits _ _).mpr (List.prefix_refl _))
  rw [List.nil_append, ← same] at trimmed
  refine ⟨answer, ⟨trimmed.earliest, trimmed.latest⟩, ⟨trimmed.restarts, trimmed.messages⟩,
    ⟨trimmed.continuous.keys, trimmed.events.keys⟩, fun key => (trimmed.continuous.series key).suffix,
    fun key => (trimmed.events.series key).suffix, ?_⟩
  intro lower upper admissible recent
  have behind : ∀ bound ∈ whole.horizon retention, bound ≤ lower := by
    intro bound limit
    obtain ⟨latest, known, rfl⟩ := Option.map_eq_some_iff.mp limit
    exact recent latest known
  exact ⟨trimmed.query trimmed.continuous last.1 behind admissible,
    trimmed.query trimmed.events last.2 behind admissible⟩

/-- Two epochs, each of them truncated once after its second tick. -/
def trimmedTwice : List Turn :=
  let tick (n : Nat) : Turn := .read {
    time := .ofNat n
    continuous := [("reward", [⟨.ofNat n, .ofNat n⟩])]
    events := some [("spikes", [(0, [.ofNat n])])] }
  [tick 5, .truncate, tick 9, .truncate, tick 2, tick 7, .truncate]

def shortDisplay : ConsumerConfig where
  subscriptions := [{}]
  displayWindow := .ofNat 2

theorem trimmedTwice_invisible :
    let kept := (replay shortDisplay.retention trimmedTwice {}).state
    let whole := (readAll (received trimmedTwice) {}).state
    shortDisplay.validate = .ok () ∧ Binary64.zero < shortDisplay.retention ∧
    (∀ delta ∈ received trimmedTwice, delta.time.isFinite = true) ∧
    Orderly (received trimmedTwice) ∧
    whole.samplesOf "reward" = [⟨.ofNat 2, .ofNat 2⟩, ⟨.ofNat 7, .ofNat 7⟩] ∧
    kept.samplesOf "reward" = [⟨.ofNat 7, .ofNat 7⟩] ∧
    kept.restarts = whole.restarts ∧
    whole.checkWindow (.ofNat 4) (.ofNat 7) = .ok () ∧
    ∃ rows, kept.eventData [⟨"spikes", 0⟩] (some (.ofNat 4, .ofNat 7)) = .ok rows ∧
      whole.eventData [⟨"spikes", 0⟩] (some (.ofNat 4, .ofNat 7)) = .ok rows := by
  have valid : shortDisplay.validate = .ok () := by decide +kernel
  have positive := ConsumerConfig.retention_positive valid
  have finite : ∀ delta ∈ received trimmedTwice, delta.time.isFinite = true := by decide +kernel
  have orderly : Orderly (received trimmedTwice) := by decide +kernel
  obtain ⟨-, -, ⟨restarts, -⟩, -, -, -, queries⟩ :=
    truncation_invisible shortDisplay.retention positive trimmedTwice finite orderly
  have admissible : (readAll (received trimmedTwice) {}).state.checkWindow (.ofNat 4) (.ofNat 7) =
      .ok () := by decide +kernel
  have recent : ∀ latest ∈ (readAll (received trimmedTwice) {}).state.latest,
      latest - shortDisplay.retention ≤ .ofNat 4 := by decide +kernel
  exact ⟨valid, positive, finite, orderly, by decide +kernel, by decide +kernel, restarts, admissible,
    (queries _ _ admissible recent).2 _⟩

end History
end Telemetry
