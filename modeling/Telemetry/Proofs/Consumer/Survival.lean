import Telemetry.Proofs.Consumer.Run
import Telemetry.Proofs.History.Sound
import Telemetry.Proofs.Multiplexer.Safety

/-! A consumer outlives whatever it is sent: every tick answers, with any tasks at any intervals. -/
namespace Telemetry.Consumer

def Sound (consumer : Consumer) : Prop := consumer.history.Sound

theorem handle_sound (inlet : Inlet) : inlet.Calm handle History.Sound := by
  intro body payload history read sound
  unfold Inlet.Reads at read
  split at read
  · subst read
    exact ⟨nofun, sound⟩
  · obtain ⟨delta, decoded, rfl⟩ := read
    obtain ⟨⟨reading, answer⟩, after⟩ := sound.read (Codec.decode_finite decoded)
    obtain ⟨done, same⟩ := History.handle_of_read answer
    rw [done, same]
    exact ⟨nofun, after⟩

theorem onHistory_answers {α : Type} {action : Action History α}
    (answers : action.Answers History.Sound) : (onHistory action).Answers Sound :=
  fun consumer => answers consumer.history

theorem drainSubscriptions_answers : drainSubscriptions.Answers Sound := by
  intro consumer
  rw [drainSubscriptions, Action.read_then]
  refine Action.Answers.bind (onHistory_answers ?_) (fun _ => ?_) consumer
  · exact Multiplexer.tick_answers (fun _ => handle_sound) consumer.multiplexer
  · exact .bind (.change fun _ sound => sound) fun _ => .pure _

theorem redraw_answers (window : Binary64) : (redraw window).Answers Sound := by
  intro consumer sound
  have whole := History.Sound.summary sound window
  rw [redraw, Action.read_then]
  rcases shown : consumer.history.summary window with ⟨lines, broken⟩
  obtain rfl : broken = none := by simpa [shown] using whole
  exact ⟨⟨(), rfl⟩, sound⟩

theorem perform_answers (job : Job) : (perform job).Answers Sound := by
  cases job with
  | truncate retention => exact onHistory_answers (History.truncateBehind_answers retention)
  | redraw window => exact redraw_answers window
  | external => exact .pure ()

theorem performAll_answers (tasks : List (Task Job)) : (performAll tasks).Answers Sound := by
  induction tasks with
  | nil => exact .pure ()
  | cons task tasks ih => exact .bind (perform_answers task.job) fun _ => ih

theorem runTasks_answers (now : Nat) : (runTasks now).Answers Sound := by
  intro consumer
  rw [runTasks, Action.read_then]
  refine Action.Answers.bind (performAll_answers _) (fun _ => ?_) consumer
  exact .bind (.change fun _ sound => sound) fun _ => .pure _

theorem tick_answers (now : Nat) : (tick now).Answers Sound :=
  .bind drainSubscriptions_answers fun _ => .bind (runTasks_answers now) fun _ =>
    .bind (.change fun _ sound => sound) fun _ => .pure _

theorem Step.perform_sound {consumer : Consumer} (sound : consumer.Sound) (step : Step) :
    (step.perform consumer).Sound := by
  cases step with
  | arrive index message => exact sound
  | tick now => exact (tick_answers now consumer sound).2

theorem after_sound {consumer : Consumer} (sound : consumer.Sound) (steps : List Step) :
    (after steps consumer).Sound := by
  induction steps generalizing consumer with
  | nil => exact sound
  | cons step steps ih => exact ih (step.perform_sound sound)

/-- Any subscriptions, any tasks, any messages in any order: every tick answers. After it nothing was
ever read and there are no bounds, or the bounds are finite and in order; all stored times are
finite; and wherever a search on a stored series ends, ordered or not, the series can be sliced. -/
theorem tick_survives (multiplexer : Multiplexer) (schedule : Schedule Job) (steps : List Step)
    (now : Nat) :
    let outcome := tick now (after steps { multiplexer, schedule })
    let history := outcome.state.history
    (∃ report, outcome.result = .ok report) ∧
    (history.messages = 0 ∧ history.earliest = none ∧ history.latest = none ∨
      0 < history.messages ∧
        ∃ earliest latest, history.earliest = some earliest ∧ history.latest = some latest ∧
          earliest.isFinite = true ∧ latest.isFinite = true ∧ earliest ≤ latest) ∧
    (∀ entry ∈ history.continuous.entries, (∀ sample ∈ entry.2, sample.time.isFinite = true) ∧
      ∀ before, Series.partitionPoint before entry.2 ≤ entry.2.length) ∧
    ∀ entry ∈ history.events.entries, (∀ time ∈ entry.2, time.isFinite = true) ∧
      ∀ before, Series.partitionPoint before entry.2 ≤ entry.2.length := by
  have start : Sound { multiplexer, schedule } := History.Sound.empty
  obtain ⟨answer, bounded, samples, times⟩ := tick_answers now _ (after_sound start steps)
  refine ⟨answer, ?_, fun entry member => ⟨samples entry member, fun before => ?_⟩,
    fun entry member => ⟨times entry member, fun before => ?_⟩⟩
  · cases bounded with
    | empty earliest latest messages => exact .inl ⟨messages, earliest, latest⟩
    | between earliest latest messages start stop ordered =>
      exact .inr ⟨messages, _, _, earliest, latest, start, stop, ordered⟩
  · exact Series.partitionPoint_le_length before entry.2
  · exact Series.partitionPoint_le_length before entry.2

end Telemetry.Consumer
