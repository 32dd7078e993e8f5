import Telemetry.Proofs.Producer.Journal

/-! Every event travels exactly once. A step publishes the delta of the ledger and leaves every buffer
empty, whatever the sink answers; a step that fails differs from one that does not in the counts
only. -/
namespace Telemetry.Producer
variable {producer : Producer} {config : ProducerConfig} {routes : List (String × Route)}
  {ledger : Ledger}

theorem Follows.perform_stats (follows : producer.Follows config routes ledger) (call : Call)
    (stats : ProducerStats) :
    (call.perform { producer with stats }).result = (call.perform producer).result ∧
      ∃ counted, (call.perform { producer with stats }).state =
        { (call.perform producer).state with stats := counted } := by
  cases call with
  | write port values =>
    obtain ⟨after, answer⟩ := Call.perform_write port values producer
    obtain ⟨other, answered⟩ := Call.perform_write port values { producer with stats }
    rw [after, answer, other, answered]
    exact ⟨rfl, stats, rfl⟩
  | deliver port index time =>
    obtain ⟨after, answer⟩ := Call.perform_deliver port index time producer
    obtain ⟨other, answered⟩ := Call.perform_deliver port index time { producer with stats }
    rw [after, answer, other, answered]
    exact ⟨rfl, stats, rfl⟩
  | step now =>
    obtain ⟨after, answer⟩ := Call.perform_step now producer
    obtain ⟨other, answered⟩ := Call.perform_step now { producer with stats }
    have began := (follows.station.beginTick now).1
    have twin : ({ producer with stats }.station.beginTick now).result = .ok () := began
    rw [after, answer, other, answered, (step_eq began).1, (step_eq began).2, (step_eq twin).1,
      (step_eq twin).2]
    exact ⟨rfl, _, rfl⟩

theorem Follows.journal_stats (follows : producer.Follows config routes ledger)
    (calls : List Call) (stats : ProducerStats) :
    journal calls { producer with stats } = journal calls producer ∧
      ∃ counted, Producer.after calls { producer with stats } =
        { Producer.after calls producer with stats := counted } := by
  induction calls generalizing producer ledger stats with
  | nil => exact ⟨rfl, stats, rfl⟩
  | cons call calls ih =>
    obtain ⟨answer, counted, next⟩ := follows.perform_stats call stats
    obtain ⟨answers, total, final⟩ := ih (follows.perform call) counted
    simp only [journal, Producer.after, answer, next, answers]
    exact ⟨trivial, total, final⟩

theorem Follows.step_sink (follows : producer.Follows config routes ledger) (now : Binary64)
    (sink : Sink) :
    { (Producer.step now { producer with sink }).state with
        sink := (Producer.step now producer).state.sink } =
      { (Producer.step now producer).state with
        stats := (Producer.step now { producer with sink }).state.stats } := by
  have began := (follows.station.beginTick now).1
  have twin : ({ producer with sink }.station.beginTick now).result = .ok () := began
  rw [(step_eq began).2, (step_eq twin).2]

theorem Follows.stats_failed (follows : producer.Follows config routes ledger) {now : Binary64}
    {failure : Failure} (failed : (Producer.step now producer).result = .error failure) :
    (Producer.step now producer).state.stats = producer.stats := by
  obtain ⟨answered, stepped⟩ := step_eq (follows.station.beginTick now).1
  rw [answered] at failed
  rw [stepped]
  cases refused : (Sink.send (producer.payload now) producer.sink).result with
  | ok => simp [refused, Except.map] at failed
  | error => rfl

theorem Follows.step_unbroken (follows : producer.Follows config routes ledger) (now : Binary64)
    (broken : Breach) : (Producer.step now producer).result ≠ .error (.breach broken) := by
  intro breached
  rw [(step_eq (follows.station.beginTick now).1).1] at breached
  cases refused : (Sink.send (producer.payload now) producer.sink).result with
  | ok => simp [refused, Except.map] at breached
  | error failure =>
    rw [refused] at breached
    obtain rfl := Except.error.inj breached
    exact Sink.send_unbroken _ _ _ refused

/-- What any calls make of a producer that was set up from a configuration. What was accepted has a
place. Arrays hold the values that were written last. A step publishes one sample of every element
under its key and, for every event buffer, the times that were accepted since the step before; it
leaves every buffer empty and breaks no contract. A step that fails counts nothing, and later calls
go on as if it had not failed. The counts are those of the steps whose payload was taken. -/
theorem calls_publish_once {directory : Directory} {sink : Sink}
    (built : (ofConfig config sink (unwired config directory)).result = .ok producer)
    (calls : List Call) :
    let start := Ledger.ofPorts config.continuous.entries
    let node := producer.after calls
    let ledger := (producer.journal calls).foldl (Ledger.record config) start
    let published := (start.ticks config (producer.journal calls)).filter (·.sent)
    (config.keyed.flatMap (·.2)).Nodup ∧ producer.slots.map (·.1) = config.events.keys ∧
    (∀ entry ∈ producer.journal calls, entry.Placed config producer.slots) ∧
    (∀ entry ∈ config.keyed, node.station.values? entry.1 = some (ledger.values entry.1) ∧
      (ledger.values entry.1).length = entry.2.length) ∧
    (∀ now,
      let stepped := step now node
      let payload := producer.codec.encode (ledger.delta config.keyed producer.slots now)
      let sent := Sink.send payload node.sink
      node.dump now = ledger.delta config.keyed producer.slots now ∧
      stepped.state.sink = sent.state ∧
      stepped.result = sent.result.map (fun _ => payload.length) ∧
      (∀ broken, stepped.result ≠ .error (.breach broken)) ∧
      (∀ buffer ∈ stepped.state.station.recorder.buffers, buffer.isEmpty) ∧
      (∀ failure, stepped.result = .error failure →
        stepped.state.stats = node.stats ∧
        ∀ (other : Sink) (later : List Call),
          let twin := { (step now { node with sink := other }).state with
            sink := stepped.state.sink }
          twin.journal later = stepped.state.journal later ∧
          twin.after later =
            { stepped.state.after later with stats := (twin.after later).stats })) ∧
    node.stats =
      { ticks := published.length
        bytes := (published.map fun tick =>
          (producer.codec.encode (tick.delta config producer.slots)).length).sum
        events := (published.map fun tick => (tick.delta config producer.slots).eventCount).sum
        lastTime := published.getLast?.map (·.time) } := by
  obtain ⟨valid, -, fresh, -⟩ := ofConfig_success built
  obtain ⟨routes, begun⟩ := Follows.ofConfig built
  have follows := begun.after calls
  obtain ⟨codec, slots⟩ := begun.after_fixed calls
  intro start node ledger published
  refine ⟨ProducerConfig.keyed_nodup valid, begun.slots_names, begun.journal_placed calls, ?_, ?_, ?_⟩
  · intro entry member
    refine ⟨follows.station.values?_eq ?_, follows.widths entry member⟩
    obtain ⟨bound, there, rfl⟩ := List.mem_map.mp member
    exact List.mem_map_of_mem there
  · intro now stepped payload sent
    have dumped : node.dump now = ledger.delta config.keyed producer.slots now := by
      rw [follows.dump_eq, slots]
    have sends : node.payload now = payload := by rw [Producer.payload, dumped, codec]
    obtain ⟨answered, after⟩ := step_eq (follows.station.beginTick now).1
    rw [sends] at answered after
    refine ⟨dumped, congrArg Producer.sink after, answered, follows.step_unbroken now,
      (follows.step now).2, ?_⟩
    intro failure failed
    refine ⟨follows.stats_failed failed, ?_⟩
    intro other later twin
    rw [show twin = _ from follows.step_sink now other]
    obtain ⟨answers, total, final⟩ := (follows.step now).1.journal_stats later _
    refine ⟨answers, ?_⟩
    rw [final]
  · have counted := begun.stats_after calls
    rw [fresh, foldl_count] at counted
    simpa [node, published] using counted

def sample : ProducerConfig where
  timestep := .one
  continuous := { entries := [("pose", { keys := ["x", "y"] })] }
  events := { entries := [("spikes", { keys := 3, aggregate := some 2 })] }

/-- Refuses the second payload. -/
def flaky : Sink :=
  .capture
    { address := "memory"
      refusal := fun sends => if sends = 1 then some .channelClosed else none }

/-- The second step goes back and fails; the event before it is lost with it. -/
def session : List Call :=
  [.write "pose" [.one, .zero], .deliver "spikes" 2 .one, .step (.ofNat 5),
    .deliver "spikes" 1 .zero, .step (.ofNat 4), .deliver "spikes" 0 (.ofNat 6)]

theorem session_publishes_once :
    ∃ producer, (ofConfig sample flaky (unwired sample .unconnected)).result = .ok producer ∧
      (producer.after session).stats.ticks = 1 ∧
      (producer.after session).dump (.ofNat 7) =
        { time := .ofNat 7
          continuous := [("x", [⟨.ofNat 7, .one⟩]), ("y", [⟨.ofNat 7, .zero⟩])]
          events := some [("spikes", [(0, [.ofNat 6])])] } ∧
      ∀ buffer ∈ (step (.ofNat 7) (producer.after session)).state.station.recorder.buffers,
        buffer.isEmpty := by
  have counted : ((ofConfig sample flaky (unwired sample .unconnected)).result.toOption.map
      fun producer => (producer.after session).stats.ticks) = some 1 := by decide +kernel
  have dumped : ((ofConfig sample flaky (unwired sample .unconnected)).result.toOption.map
      fun producer => (producer.after session).dump (.ofNat 7)) = some
        { time := .ofNat 7
          continuous := [("x", [⟨.ofNat 7, .one⟩]), ("y", [⟨.ofNat 7, .zero⟩])]
          events := some [("spikes", [(0, [.ofNat 6])])] } := by decide +kernel
  cases built : (ofConfig sample flaky (unwired sample .unconnected)).result with
  | error failure => simp [built, Except.toOption] at counted
  | ok producer =>
    rw [built] at counted dumped
    obtain ⟨-, -, -, -, steps, -⟩ := calls_publish_once built session
    obtain ⟨-, -, -, -, empty, -⟩ := steps (.ofNat 7)
    exact ⟨producer, rfl, Option.some.inj counted, Option.some.inj dumped, empty⟩

end Telemetry.Producer
