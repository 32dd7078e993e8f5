import Telemetry.Proofs.Consumer.Feeds

/-! How a consumer fills its history. A drain gathers the deltas of all queued payloads, and tasks
that do not truncate leave the history alone. -/
namespace Telemetry.Consumer

theorem tick_gathers {codec : Codec} {channel : Channel} {multiplexer : Multiplexer}
    (only : multiplexer.subscriptions = [⟨.channel channel, [], some codec⟩])
    {earlier deltas : List Delta} (numbers : ∀ delta ∈ earlier, delta.time.isNaN = false)
    (decoded : List.Forall₂ (fun payload delta => codec.decode payload = .ok delta)
      channel.queue deltas) :
    (∃ report, (multiplexer.tick (fun _ => handle) (.gathered earlier)).result =
      .ok ({ multiplexer with
        subscriptions := [⟨.channel { channel with queue := [] }, [], some codec⟩] }, report)) ∧
    (multiplexer.tick (fun _ => handle) (.gathered earlier)).state = .gathered (earlier ++ deltas) := by
  let feed : Feed := { subscription := ⟨.channel channel, [], some codec⟩, waiting := deltas }
  have readable : List.Forall₂ (fun message delta => feed.subscription.delta? message = some delta)
      channel.queue deltas :=
    decoded.imp fun message delta answer => by simp [feed, Subscription.delta?, answer, Except.toOption]
  have queued : channel.queue.map feed.subscription.delta? = deltas.map some := by
    rw [← List.forall₂_eq_eq_eq]
    exact List.forall₂_map_left_iff.mpr (List.forall₂_map_right_iff.mpr readable)
  have fills : List.Forall₂ Feed.Fills [feed] multiplexer.subscriptions := by
    rw [only]
    exact .cons { topic := rfl, codec := rfl, ready := trivial, waiting := queued } .nil
  have order : (interleave [deltas]).map (·.2) = deltas := by
    rw [interleave_singleton, List.map_map, Function.comp_def, List.map_id']
  have emptied : multiplexer.subscriptions.map Subscription.emptied =
      [⟨.channel { channel with queue := [] }, [], some codec⟩] := by
    rw [only]
    rfl
  obtain ⟨⟨report, answer⟩, after⟩ := Feed.tick_reads fills numbers
  rw [emptied] at answer
  rw [List.map_singleton, order] at after
  exact ⟨⟨report, answer⟩, after⟩

/-- No task truncates the history. -/
def Keeping (schedule : Schedule Job) : Prop :=
  ∀ task ∈ schedule, ∀ retention, task.job ≠ .truncate retention

def Alike (a b : Consumer) : Prop :=
  a.history = b.history ∧ a.multiplexer = b.multiplexer ∧ a.schedule = b.schedule

theorem perform_alike {job : Job} (keeps : ∀ retention, job ≠ .truncate retention)
    (consumer : Consumer) : Alike (perform job consumer).state consumer := by
  cases job with
  | truncate retention => exact absurd rfl (keeps retention)
  | redraw window =>
    rw [perform, redraw, Action.read_then]
    rcases consumer.history.summary window with ⟨lines, broken⟩
    cases broken with
    | none => exact ⟨rfl, rfl, rfl⟩
    | some broken => exact ⟨rfl, rfl, rfl⟩
  | external => exact ⟨rfl, rfl, rfl⟩

theorem performAll_alike {tasks : List (Task Job)}
    (keeps : ∀ task ∈ tasks, ∀ retention, task.job ≠ .truncate retention) (consumer : Consumer) :
    Alike (performAll tasks consumer).state consumer := by
  induction tasks generalizing consumer with
  | nil => exact ⟨rfl, rfl, rfl⟩
  | cons task tasks ih =>
    obtain ⟨own, others⟩ := List.forall_mem_cons.mp keeps
    have first := perform_alike own consumer
    rw [performAll]
    cases answer : (perform task.job consumer).result with
    | ok =>
      rw [Action.bind_of_ok answer]
      obtain ⟨history, multiplexer, schedule⟩ := ih others (perform task.job consumer).state
      exact ⟨history.trans first.1, multiplexer.trans first.2.1, schedule.trans first.2.2⟩
    | error failure =>
      rw [Action.bind_of_error answer]
      exact first

theorem runTasks_keeps {consumer : Consumer} (keeps : Keeping consumer.schedule) (now : Nat) :
    (runTasks now consumer).state.history = consumer.history ∧
      (runTasks now consumer).state.multiplexer = consumer.multiplexer ∧
      Keeping (runTasks now consumer).state.schedule := by
  have due : ∀ task ∈ consumer.schedule.due now, ∀ retention, task.job ≠ .truncate retention :=
    fun task member => keeps task (List.mem_of_mem_filter member)
  obtain ⟨history, multiplexer, schedule⟩ := performAll_alike due consumer
  have kept : Keeping (performAll (consumer.schedule.due now) consumer).state.schedule := by
    rw [schedule]
    exact keeps
  rw [runTasks, Action.read_then]
  cases answer : (performAll (consumer.schedule.due now) consumer).result with
  | ok =>
    rw [Action.bind_of_ok answer]
    refine ⟨history, multiplexer, ?_⟩
    intro task member
    obtain ⟨before, old, rfl⟩ := List.mem_map.mp member
    split
    · exact keeps before old
    · exact keeps before old
  | error failure =>
    rw [Action.bind_of_error answer]
    exact ⟨history, multiplexer, kept⟩

theorem drainSubscriptions_run {consumer : Consumer} {multiplexer : Multiplexer}
    {report : TickReport}
    (drained : (consumer.multiplexer.tick (fun _ => handle) consumer.history).result =
      .ok (multiplexer, report)) :
    (drainSubscriptions consumer).result = .ok report ∧
      (drainSubscriptions consumer).state =
        { consumer with
          multiplexer
          history := (consumer.multiplexer.tick (fun _ => handle) consumer.history).state
          cancelled := consumer.cancelled || multiplexer.stopped } := by
  have ran : (onHistory (consumer.multiplexer.tick fun _ => handle) consumer).result =
      .ok (multiplexer, report) := drained
  rw [drainSubscriptions, Action.read_then, Action.bind_of_ok ran]
  exact ⟨rfl, rfl⟩

/-- A tick leaves what its drain leaves. -/
theorem tick_of_drained {consumer : Consumer} {multiplexer : Multiplexer} {report : TickReport}
    (drained : (consumer.multiplexer.tick (fun _ => handle) consumer.history).result =
      .ok (multiplexer, report)) (keeps : Keeping consumer.schedule) (now : Nat) :
    (tick now consumer).state.history =
        (consumer.multiplexer.tick (fun _ => handle) consumer.history).state ∧
      (tick now consumer).state.multiplexer = multiplexer ∧
      Keeping (tick now consumer).state.schedule := by
  obtain ⟨answered, after⟩ := drainSubscriptions_run drained
  have still : Keeping (drainSubscriptions consumer).state.schedule := by
    rw [after]
    exact keeps
  obtain ⟨kept, same, keeping⟩ := runTasks_keeps still now
  rw [after] at kept same keeping
  rw [tick, Action.bind_of_ok answered, after]
  cases answer : (runTasks now _).result with
  | ok =>
    rw [Action.bind_of_ok answer]
    exact ⟨kept, same, keeping⟩
  | error failure =>
    rw [Action.bind_of_error answer]
    exact ⟨kept, same, keeping⟩

/-- Without tasks a tick drains and counts, and does nothing else. -/
theorem tick_unscheduled {consumer : Consumer} {multiplexer : Multiplexer} {report : TickReport}
    (drained : (consumer.multiplexer.tick (fun _ => handle) consumer.history).result =
      .ok (multiplexer, report)) (unscheduled : consumer.schedule = []) (now : Nat) :
    (tick now consumer).result = .ok report ∧
      (tick now consumer).state =
        { consumer with
          multiplexer
          history := (consumer.multiplexer.tick (fun _ => handle) consumer.history).state
          cancelled := consumer.cancelled || multiplexer.stopped
          stats := consumer.stats.record report 0 } := by
  obtain ⟨answered, after⟩ := drainSubscriptions_run drained
  obtain ⟨own, schedule, history, cancelled, stats, printed⟩ := consumer
  obtain rfl : schedule = [] := unscheduled
  rw [tick, Action.bind_of_ok answered, after]
  exact ⟨rfl, rfl⟩

/-- After a tick the history has what was queued. -/
theorem tick_history {codec : Codec} {channel : Channel} {consumer : Consumer}
    (only : consumer.multiplexer.subscriptions = [⟨.channel channel, [], some codec⟩])
    (keeps : Keeping consumer.schedule) {earlier deltas : List Delta}
    (gathered : consumer.history = .gathered earlier)
    (numbers : ∀ delta ∈ earlier, delta.time.isNaN = false)
    (decoded : List.Forall₂ (fun payload delta => codec.decode payload = .ok delta)
      channel.queue deltas) (now : Nat) :
    (tick now consumer).state.history = .gathered (earlier ++ deltas) ∧
      (tick now consumer).state.multiplexer.subscriptions =
        [⟨.channel { channel with queue := [] }, [], some codec⟩] ∧
      Keeping (tick now consumer).state.schedule := by
  obtain ⟨⟨report, drained⟩, after⟩ := tick_gathers only numbers decoded
  rw [← gathered] at drained after
  obtain ⟨history, multiplexer, keeping⟩ := tick_of_drained drained keeps now
  exact ⟨history.trans after, congrArg Multiplexer.subscriptions multiplexer, keeping⟩

end Telemetry.Consumer
