import Telemetry.Proofs.Clock
import Telemetry.Proofs.Config
import Telemetry.Proofs.Producer.ExactlyOnce

/-! How far a run goes. It steps through the ticks of the runtime in order and publishes a delta for each;
the first one that cannot be sent ends it, with those before it published. -/
namespace Telemetry.Producer
variable {producer : Producer} {config : ProducerConfig} {routes : List (String × Route)}
  {ledger : Ledger}

/-- The deltas of successive steps. -/
def deltas : List Binary64 → Producer → List Delta
  | [], _ => []
  | now :: times, producer => producer.dump now :: deltas times (step now producer).state

def stepped (times : List Binary64) (producer : Producer) : Producer :=
  producer.after (times.map Call.step)

/-- What the steps hand to the sink. -/
def payloads (times : List Binary64) (producer : Producer) : List Bytes :=
  (producer.deltas times).map producer.codec.encode

theorem deltas_time (times : List Binary64) (producer : Producer) :
    (producer.deltas times).map (·.time) = times := by
  induction times generalizing producer with
  | nil => rfl
  | cons now times ih => exact congrArg (now :: ·) (ih _)

theorem stepped_cons (now : Binary64) (times : List Binary64) (producer : Producer) :
    producer.stepped (now :: times) = (step now producer).state.stepped times := by
  rw [stepped, List.map_cons, after, (Call.perform_step now producer).1, stepped]

namespace Follows

theorem payloads_cons (follows : producer.Follows config routes ledger) (now : Binary64)
    (times : List Binary64) :
    producer.payloads (now :: times) =
      producer.payload now :: (Producer.step now producer).state.payloads times := by
  have codec : (Producer.step now producer).state.codec = producer.codec := by
    rw [(step_eq (follows.station.beginTick now).1).2]
  simp only [payloads, deltas, List.map_cons, codec]
  rfl

/-- The step answers what the sink answers, and is counted when the sink took the payload. -/
theorem step_sent (follows : producer.Follows config routes ledger) {now : Binary64}
    (took : (Sink.send (producer.payload now) producer.sink).result = .ok ()) :
    let stepped := Producer.step now producer
    (∃ bytes, stepped.result = .ok bytes) ∧
      stepped.state.sink = (Sink.send (producer.payload now) producer.sink).state ∧
      stepped.state.stats.ticks = producer.stats.ticks + 1 := by
  obtain ⟨answered, after⟩ := step_eq (follows.station.beginTick now).1
  intro stepped
  rw [show stepped.result = _ from answered, show stepped.state = _ from after, took]
  exact ⟨⟨_, rfl⟩, rfl, rfl⟩

theorem step_unsent (follows : producer.Follows config routes ledger) {now : Binary64}
    {failure : Failure}
    (failed : (Sink.send (producer.payload now) producer.sink).result = .error failure) :
    let stepped := Producer.step now producer
    stepped.result = .error failure ∧
      stepped.state.sink = (Sink.send (producer.payload now) producer.sink).state := by
  obtain ⟨answered, after⟩ := step_eq (follows.station.beginTick now).1
  intro stepped
  rw [show stepped.result = _ from answered, show stepped.state = _ from after, failed]
  exact ⟨rfl, rfl⟩

/-- Steps whose payloads are all taken. -/
theorem steps_sent (follows : producer.Follows config routes ledger) {times : List Binary64}
    (took : (Sink.sendAll (producer.payloads times) producer.sink).result = .ok ())
    (rest : List Binary64) :
    let reached := producer.stepped times
    (steps (times ++ rest) producer).result = (steps rest reached).result ∧
      (steps (times ++ rest) producer).state = (steps rest reached).state ∧
      reached.sink = (Sink.sendAll (producer.payloads times) producer.sink).state ∧
      reached.stats.ticks = producer.stats.ticks + times.length := by
  induction times generalizing producer ledger with
  | nil => exact ⟨rfl, rfl, rfl, rfl⟩
  | cons now times ih =>
    rw [follows.payloads_cons] at took ⊢
    have first := Sink.sendAll_cons_success took
    -- The other payloads go to the sink of the stepped producer, which is what the first one left.
    obtain ⟨answer, sent⟩ := Sink.sendAll_cons_of_ok first
      ((Producer.step now producer).state.payloads times)
    obtain ⟨⟨bytes, stepped⟩, sink, counted⟩ := follows.step_sent first
    rw [answer, ← sink] at took
    obtain ⟨result, state, emptied, ticks⟩ := ih (follows.step now).1 took
    rw [List.cons_append, steps, Action.bind_of_ok stepped, stepped_cons, sent, ← sink]
    refine ⟨result, state, emptied, ?_⟩
    rw [ticks, counted, List.length_cons]
    omega

/-- The times up to the first one whose payload is refused. -/
theorem exists_sent (follows : producer.Follows config routes ledger) (times : List Binary64) :
    ∃ published rest, times = published ++ rest ∧
      (Sink.sendAll (producer.payloads published) producer.sink).result = .ok () ∧
      ∀ now ∈ rest.head?, ∃ failure,
        (Sink.send ((producer.stepped published).payload now)
          (producer.stepped published).sink).result = .error failure := by
  induction times generalizing producer ledger with
  | nil => exact ⟨[], [], rfl, rfl, nofun⟩
  | cons now times ih =>
    cases answer : (Sink.send (producer.payload now) producer.sink).result with
    | error failure =>
      refine ⟨[], now :: times, rfl, rfl, ?_⟩
      intro first same
      obtain rfl := Option.some.inj same
      exact ⟨failure, answer⟩
    | ok =>
      obtain ⟨published, rest, rfl, took, refused⟩ := ih (follows.step now).1
      refine ⟨now :: published, rest, rfl, ?_, ?_⟩
      · rw [follows.payloads_cons, (Sink.sendAll_cons_of_ok answer _).1, ← (follows.step_sent answer).2.1]
        exact took
      · rw [stepped_cons]
        exact refused

end Follows

/-- A run is the steps through its runtime, between two messages. -/
theorem run_eq (times : List Binary64) (producer : Producer) :
    let stepped := steps (Clock.runtime producer.timestep producer.totalTime times) producer
    (run times producer).result = stepped.result.map (fun _ => stepped.state.stats) ∧
      (run times producer).state = stepped.state := by
  intro stepped
  have opened : (Action.log .info s!"Dropping to runtime with timestep {producer.timestep}..."
      producer).result = .ok () := rfl
  rw [run, Action.read_then, Action.bind_of_ok opened, Action.log_run]
  cases answer : stepped.result with
  | ok =>
    rw [Action.bind_of_ok (show (steps _ _).result = .ok () from answer)]
    exact ⟨rfl, rfl⟩
  | error failure =>
    rw [Action.bind_of_error (show (steps _ _).result = .error failure from answer)]
    exact ⟨rfl, rfl⟩

theorem Follows.perform_clock (follows : producer.Follows config routes ledger) (call : Call) :
    (call.perform producer).state.timestep = producer.timestep ∧
      (call.perform producer).state.totalTime = producer.totalTime := by
  cases call with
  | write port values =>
    rw [(Call.perform_write port values producer).1]
    exact ⟨rfl, rfl⟩
  | deliver port index time =>
    rw [(Call.perform_deliver port index time producer).1]
    exact ⟨rfl, rfl⟩
  | step now =>
    rw [(Call.perform_step now producer).1, (step_eq (follows.station.beginTick now).1).2]
    exact ⟨rfl, rfl⟩

theorem Follows.after_clock (follows : producer.Follows config routes ledger) (calls : List Call) :
    (producer.after calls).timestep = producer.timestep ∧
      (producer.after calls).totalTime = producer.totalTime := by
  induction calls generalizing producer ledger with
  | nil => exact ⟨rfl, rfl⟩
  | cons call calls ih =>
    obtain ⟨timestep, total⟩ := follows.perform_clock call
    rw [← timestep, ← total]
    exact ih (follows.perform call)

/-- The run through some ticks: it publishes the first of them, and ends with them or with the next one,
which the sink refuses. -/
theorem Follows.run_publishes (follows : producer.Follows config routes ledger)
    (times : List Binary64) :
    ∃ published rest,
      Clock.runtime producer.timestep producer.totalTime times = published ++ rest ∧
      let outcome := run times producer
      let reached := producer.stepped published
      (Sink.sendAll (producer.payloads published) producer.sink).result = .ok () ∧
      outcome.state.stats.ticks = producer.stats.ticks + published.length ∧
      outcome.state.sink.held? = producer.sink.held?.map (· ++ producer.payloads published) ∧
      match rest with
      | [] => outcome.result = .ok outcome.state.stats ∧ outcome.state = reached
      | now :: _ => ∃ failure,
          (Sink.send (reached.payload now) reached.sink).result = .error failure ∧
            outcome.result = .error failure ∧ outcome.state = (Producer.step now reached).state := by
  obtain ⟨answer, state⟩ := run_eq times producer
  obtain ⟨published, rest, split, took, refused⟩ :=
    follows.exists_sent (Clock.runtime producer.timestep producer.totalTime times)
  obtain ⟨result, final, sink, ticks⟩ := follows.steps_sent took rest
  rw [split, result, final] at answer
  rw [split, final] at state
  have held := Sink.held?_sendAll took
  rw [← sink] at held
  refine ⟨published, rest, split, took, ?_⟩
  rw [answer, state]
  cases rest with
  | nil => exact ⟨ticks, held, rfl, rfl⟩
  | cons now later =>
    obtain ⟨failure, failed⟩ := refused now rfl
    have reached : (producer.stepped published).Follows config routes _ :=
      follows.after (published.map Call.step)
    obtain ⟨stopped, left⟩ := reached.step_unsent failed
    have kept := reached.stats_failed stopped
    have holds := Sink.held?_send_error failed
    rw [← left] at holds
    rw [steps, Action.bind_of_error stopped]
    exact ⟨(congrArg ProducerStats.ticks kept).trans ticks, holds.trans held, failure, failed, rfl, rfl⟩

/-- A run of a producer that was set up, after any calls. Of times in order its runtime has those from the
timestep on that lie before the total and one timestep. It publishes the deltas of these ticks in order,
and nothing else; the first one that the sink refuses ends it. A clock that does not round has as many ticks in
the runtime as timesteps begin before the total is over, and a run on it ends however long the clock
goes on. -/
theorem run_covers_runtime {directory : Directory} {sink : Sink}
    (built : (ofConfig config sink (unwired config directory)).result = .ok producer)
    (calls : List Call) :
    let node := producer.after calls
    (∀ (timestep : Binary64) (total : Option Binary64) (times : List Binary64),
      Binary64.zero < timestep → (∀ limit ∈ total, Binary64.zero ≤ limit) →
      (∀ t ∈ times, t.isFinite = true) → Steady id times →
        Clock.runtime timestep total times =
          times.filter fun t => decide (timestep ≤ t ∧ ∀ limit ∈ total, t < limit + timestep)) ∧
    (∀ times, ∃ published rest,
      Clock.runtime config.timestep config.totalTime times = published ++ rest ∧
      let outcome := run times node
      let reached := node.stepped published
      (node.deltas published).map (·.time) = published ∧
      (Sink.sendAll (node.payloads published) node.sink).result = .ok () ∧
      outcome.state.stats.ticks = node.stats.ticks + published.length ∧
      outcome.state.sink.held? = node.sink.held?.map (· ++ node.payloads published) ∧
      match rest with
      | [] => outcome.result = .ok outcome.state.stats ∧ outcome.state = reached
      | now :: _ => ∃ failure,
          (Sink.send (reached.payload now) reached.sink).result = .error failure ∧
            outcome.result = .error failure ∧ outcome.state = (step now reached).state) ∧
    (∀ timestep total : ℚ, 0 < timestep → 0 ≤ total → ∀ count ≥ ⌈total / timestep⌉₊ + 2,
      Clock.runtime timestep (some total) (Clock.ticks timestep count) =
        (List.range' 1 ⌈total / timestep⌉₊).map fun number : Nat => number * timestep) ∧
    ∀ total, config.totalTime = some total → Clock.Exact config.timestep total →
      let last := ⌈total.value / config.timestep.value⌉₊
      let clock := (List.range' 1 last).map (Clock.tick config.timestep)
      (Sink.sendAll (node.payloads clock) node.sink).result = .ok () →
      ∀ count ≥ last + 2,
        let outcome := run (Clock.ticks config.timestep count) node
        outcome.result = .ok outcome.state.stats ∧ outcome.state = node.stepped clock ∧
          outcome.state.stats.ticks = node.stats.ticks + last := by
  obtain ⟨valid, -, codec, made⟩ := ofConfig_eq built
  obtain ⟨finite, positive⟩ := ProducerConfig.timestep_positive valid
  obtain ⟨routes, begun⟩ := Follows.ofConfig built
  have follows := begun.after calls
  have clocks : (producer.after calls).timestep = config.timestep ∧
      (producer.after calls).totalTime = config.totalTime := by
    obtain ⟨timestep, total⟩ := begun.after_clock calls
    exact ⟨timestep.trans (made ▸ rfl), total.trans (made ▸ rfl)⟩
  intro node
  refine ⟨?_, ?_, ?_, ?_⟩
  · intro timestep total times positive _ finite steady
    exact Clock.runtime_eq_filter positive.2.1 total
      (fun t member => Binary64.isNaN_of_isFinite (finite t member)) steady
  · intro times
    obtain ⟨published, rest, split, ran⟩ := follows.run_publishes times
    rw [clocks.1, clocks.2] at split
    exact ⟨published, rest, split, node.deltas_time published, ran⟩
  · intro timestep total positive _ count long
    exact Clock.runtime_ticks_rational positive total long
  · intro total limited exact last clock took count long
    have window : Clock.runtime node.timestep node.totalTime (Clock.ticks config.timestep count) = clock := by
      rw [clocks.1, clocks.2, limited]
      exact exact.runtime_ticks finite positive long
    obtain ⟨answer, state⟩ := run_eq (Clock.ticks config.timestep count) node
    obtain ⟨result, final, -, ticks⟩ := follows.steps_sent took []
    rw [List.append_nil] at result final
    intro outcome
    rw [show outcome.result = _ from answer, show outcome.state = _ from state, window, result, final]
    refine ⟨rfl, rfl, ticks.trans ?_⟩
    rw [List.length_map, List.length_range']

/-- The total is no multiple of the timestep. -/
def brief : ProducerConfig :=
  { sample with timestep := .ofDecimal false 25 (-2), totalTime := some (.ofDecimal false 11 (-1)) }

theorem brief_covers_runtime :
    ∃ producer, (ofConfig brief (.capture { address := "memory" })
        (unwired brief .unconnected)).result = .ok producer ∧
      (producer.after session).stats.ticks = 2 ∧
      ∀ count ≥ 7,
        let outcome := run (Clock.ticks brief.timestep count) (producer.after session)
        outcome.result = .ok outcome.state.stats ∧ outcome.state.stats.ticks = 7 := by
  have counted : ((ofConfig brief (.capture { address := "memory" })
      (unwired brief .unconnected)).result.toOption.map
        fun producer => (producer.after session).stats.ticks) = some 2 := by decide +kernel
  have sent : ((ofConfig brief (.capture { address := "memory" })
      (unwired brief .unconnected)).result.toOption.map fun producer =>
        (Sink.sendAll ((producer.after session).payloads
          ((List.range' 1 5).map (Clock.tick brief.timestep)))
            (producer.after session).sink).result) = some (.ok ()) := by decide +kernel
  have exact : Clock.Exact brief.timestep (.ofDecimal false 11 (-1)) := {
    tick_value := by decide +kernel
    bound_value := by decide +kernel }
  have last : ⌈(Binary64.ofDecimal false 11 (-1)).value / brief.timestep.value⌉₊ = 5 := by
    decide +kernel
  cases built : (ofConfig brief (.capture { address := "memory" })
      (unwired brief .unconnected)).result with
  | error failure => simp [built, Except.toOption] at counted
  | ok producer =>
    rw [built] at counted sent
    have started : (producer.after session).stats.ticks = 2 := Option.some.inj counted
    obtain ⟨-, -, -, unrounded⟩ := run_covers_runtime built session
    have covered := unrounded _ rfl exact
    rw [last, started] at covered
    refine ⟨producer, rfl, started, fun count long => ?_⟩
    obtain ⟨answer, -, ticks⟩ := covered (Option.some.inj sent) count long
    exact ⟨answer, ticks⟩

end Telemetry.Producer
