import Telemetry.Proofs.History.Query
import Telemetry.Proofs.History.Sound

/-! What a monitor prints. Every channel has one row, in the order of the keys: a continuous one shows
its newest value, an event train its rate over the last part of the history. -/
namespace Telemetry

theorem NumberStyle.length_zeros (n : Nat) : (zeros n).length = n := by
  rw [zeros, String.length_ofList, List.length_replicate]

theorem NumberStyle.plain_text_of_infinite {x : Binary64} (infinite : x.isFinite = false) :
    plain.text x = if x.isNaN then "NaN" else sign x ++ "inf" := by
  simp [text, plain, infinite]

/-- No number is written as a lone dash. -/
theorem Binary64.fixed_ne_dash {places : Nat} (some : 0 < places) (x : Binary64) : x.fixed places ≠ "-" := by
  rw [fixed]
  split_ifs with infinite
  · rw [NumberStyle.plain_text_of_infinite (by simpa using infinite), NumberStyle.sign]
    cases x.isNaN <;> cases x.negative <;> decide
  · intro dash
    have short := congrArg String.length dash
    simp only [String.length_append, NumberStyle.length_zeros] at short
    rw [show ".".length = 1 from rfl, show "-".length = 1 from rfl] at short
    omega

namespace History
variable {history : History} {first last : Binary64}

/-- What deltas with finite times and truncations make of an empty history. -/
inductive Fed : History → Prop
  | empty : Fed {}
  | read {history : History} {delta : Delta} (before : Fed history) (finite : delta.nonFiniteTime? = none) :
      Fed (read delta history).state
  | truncate {history : History} (before : Fed history) (lower upper : Option Binary64) :
      Fed (truncate lower upper history).state

theorem Fed.sound (fed : history.Fed) : history.Sound := by
  induction fed with
  | empty => exact .empty
  | read before finite ih => exact (ih.read finite).2
  | truncate before lower upper ih =>
    rcases truncate_state lower upper _ with same | cut
    · exact same ▸ ih
    · exact cut ▸ ih.cut lower upper

/-- The row of a continuous channel has the value of its newest sample, and a dash when there is none. -/
def ShowsNewest (history : History) (key row : String) : Prop :=
  ∃ text, row = nameColumn key ++ Column.right 12 text ∧ (text = "-" ↔ history.samplesOf key = []) ∧
    ∀ newest ∈ (history.samplesOf key).getLast?, text = newest.value.fixed 4 ∧
      ∀ sample ∈ history.samplesOf key, sample.time ≤ newest.time

/-- The row of an event train has the number of its events in an interval, divided by the length of the
interval where it has one. -/
def ShowsRate (history : History) (lower upper : Binary64) (key : EventKey) (row : String) : Prop :=
  let count := (history.timesOf key).countP fun time => decide (lower ≤ time ∧ time < upper)
  row = nameColumn (toString key) ++
    if lower < upper then Column.right 12 ((Binary64.ofNat count / (upper - lower)).fixed 2) ++ "/t"
    else Column.right 12 (toString count)

theorem continuousRow_shows (sound : history.Sound) (steady : history.Steady) (key : String) :
    history.ShowsNewest key (continuousRow key (history.samplesOf key)) := by
  rw [ShowsNewest, continuousRow]
  cases newest : (history.samplesOf key).getLast? with
  | none => exact ⟨"-", rfl, by simpa using newest, nofun⟩
  | some sample =>
    refine ⟨sample.value.fixed 4, rfl, ?_, ?_⟩
    · have some : history.samplesOf key ≠ [] := by
        rintro none
        simp [none] at newest
      simp [Binary64.fixed_ne_dash, some]
    · intro last same
      obtain rfl := Option.some.inj same
      have inside := List.mem_of_getLast? newest
      have number := Binary64.isNaN_of_isFinite (sound.samples.series key sample inside)
      exact ⟨rfl, fun other member => (steady.1.series key).le_last newest number member⟩

theorem eventRow_shows {lower upper : Binary64} (number : lower.isNaN = false)
    (finite : upper.isFinite = true) (steady : history.Steady) (key : EventKey) :
    history.ShowsRate lower upper key
      (eventRow (upper - lower) key (Series.window id lower upper (history.timesOf key))) := by
  have series : Telemetry.Steady id (history.timesOf key) := steady.2.series key
  simp only [ShowsRate, eventRow, Series.window_eq_between series number,
    Binary64.zero_lt_sub finite number, List.countP_eq_length_filter, id]

theorem summary_waiting (never : history.earliest = none) (window : Binary64) :
    history.summary window = (["-- waiting for data --"], none) := by
  simp only [History.summary, never]

theorem summary_ticked (earliest : history.earliest = some first) (latest : history.latest = some last)
    (start : first.isNaN = false) (stop : last.isNaN = false) (window : Binary64) :
    let lower := (last - window).max first
    let header := "-- t = " ++ last.fixed 3 ++ s!" ({history.restarts} restarts) --"
    history.summary window =
      (header :: (history.continuousKeys.map (fun key => continuousRow key (history.samplesOf key)) ++
        history.eventKeys.map fun key =>
          eventRow (last - lower) key (Series.window id lower last (history.timesOf key))), none) := by
  intro lower header
  have checked : history.checkWindow lower last = .ok () := by
    have above : first ≤ lower := Binary64.le_max_right _ start
    simp only [History.checkWindow, earliest, latest, above, Binary64.le_refl stop, not_true, if_false]
  have trains : history.eventData history.eventKeys (some (lower, last)) =
      .ok (history.eventKeys.map fun key => Series.window id lower last (history.timesOf key)) := by
    rw [eventData, query_window, checked]
    rfl
  have series : history.continuousData history.continuousKeys none =
      .ok (history.continuousKeys.map history.samplesOf) := rfl
  simp only [History.summary, earliest, latest, series]
  rw [trains]
  simp only [← List.map_prod_left_eq_zip, List.map_map, List.cons_append]
  rfl

end History

namespace Consumer
variable {consumer : Consumer}

theorem redraw_prints {window : Binary64} (whole : (consumer.history.summary window).2 = none) :
    (redraw window consumer).result = .ok () ∧
      (redraw window consumer).state =
        { consumer with printed := consumer.printed ++ (consumer.history.summary window).1 } := by
  simp only [redraw, Action.read_then, Action.change_then, whole]
  exact ⟨rfl, rfl⟩

/-- A history that came from deltas with finite times and from truncations, with its series in time order,
can be summed up at any time. The summary has one row for each continuous channel and then one for each
event train, both in the order of the keys; before the first delta it only says that there is none. -/
theorem redraw_faithful (fed : consumer.history.Fed) (steady : consumer.history.Steady)
    (window : Binary64) :
    let history := consumer.history
    let redrawn := redraw window consumer
    history.continuousKeys.Pairwise (· < ·) ∧ history.eventKeys.Pairwise (· < ·) ∧
    redrawn.result = .ok () ∧
    ∃ lines, redrawn.state = { consumer with printed := consumer.printed ++ lines } ∧
      (history.messages = 0 → lines = ["-- waiting for data --"]) ∧
      (0 < history.messages → ∃ first last continuous events,
        history.earliest = some first ∧ history.latest = some last ∧
        lines = ("-- t = " ++ last.fixed 3 ++ s!" ({history.restarts} restarts) --") ::
          (continuous ++ events) ∧
        List.Forall₂ history.ShowsNewest history.continuousKeys continuous ∧
        List.Forall₂ (history.ShowsRate ((last - window).max first) last) history.eventKeys events) := by
  intro history redrawn
  refine ⟨history.continuous.ordered, history.events.ordered, ?_⟩
  cases fed.sound.bounded with
  | empty never latest messages =>
    have waiting := History.summary_waiting never window
    obtain ⟨answer, state⟩ := redraw_prints (congrArg Prod.snd waiting)
    rw [waiting] at state
    exact ⟨answer, _, state, fun _ => rfl, fun some => absurd messages (Nat.ne_of_gt some)⟩
  | @between first last earliest latest messages start stop ordered =>
    have number := Binary64.isNaN_of_isFinite start
    have lines := History.summary_ticked earliest latest number
      (Binary64.isNaN_of_isFinite stop) window
    obtain ⟨answer, state⟩ := redraw_prints (congrArg Prod.snd lines)
    rw [lines] at state
    refine ⟨answer, _, state, fun none => absurd none (Nat.ne_of_gt messages), fun _ =>
      ⟨first, last, _, _, earliest, latest, rfl, ?_, ?_⟩⟩
    · exact List.forall₂_map_right_iff.mpr (List.forall₂_same.mpr fun key _ =>
        History.continuousRow_shows fed.sound steady key)
    · have lower : ((last - window).max first).isNaN = false :=
        (Binary64.le_max_right _ number).2.1
      exact List.forall₂_map_right_iff.mpr (List.forall₂_same.mpr fun key _ =>
        History.eventRow_shows lower stop steady key)

def burst : Delta where
  time := .ofNat 5
  continuous := [("rate", [⟨.ofNat 5, .one⟩])]
  events := some [("spikes", [(0, [.ofNat 2, .ofNat 3, .ofNat 4])])]

/-- A history that was restarted, and then lost everything from before its second tick. -/
def rewatched : History :=
  let restarted := (History.read (History.pairs 1 1 1) (History.read (History.pairs 9 9 9) {}).state).state
  (History.truncate (some (.ofNat 2)) none (History.read burst restarted).state).state

theorem rewatched_redrawn :
    rewatched.Fed ∧ rewatched.Steady ∧
      let redrawn := redraw (.ofNat 2) { history := rewatched }
      redrawn.result = .ok () ∧
      redrawn.state.printed =
        ["-- t = 5.000 (1 restarts) --",
          "  rate                           1.0000",
          "  reward                              -",
          "  spikes[0]                        1.00/t"] := by
  have first : (History.read (History.pairs 9 9 9) {}).state.Fed := .read .empty (by decide +kernel)
  have restarted : (History.read (History.pairs 1 1 1) (History.read (History.pairs 9 9 9) {}).state).state.Fed :=
    .read first (by decide +kernel)
  have last : burst.nonFiniteTime? = none := by decide +kernel
  have fed : rewatched.Fed := .truncate (.read restarted last) _ _
  have steady : rewatched.Steady := by decide +kernel
  -- The history stays folded: comparing it unfolded would read the deltas again.
  let consumer : Consumer := { history := rewatched }
  have same : consumer.history = rewatched := by dsimp only [consumer]
  obtain ⟨-, -, answer, -⟩ := redraw_faithful (same ▸ fed) (same ▸ steady) (.ofNat 2)
  exact ⟨fed, steady, answer, by decide +kernel⟩

end Consumer
end Telemetry
