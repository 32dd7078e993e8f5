import Telemetry.Proofs.Producer.ExactlyOnce
import Telemetry.Proofs.Synthetic.Feeding

/-! Rounds of a synthetic run. Each feeds the producer and steps it; the step publishes every event that was
drawn for its tick, once, and leaves nothing for the next round, whether the sink takes the delta or
not. -/
namespace Telemetry.SyntheticRun
variable {run : SyntheticRun} {config : ProducerConfig} {routes : List (String × Route)}
  {ledger : Ledger} {sink : Sink} {producer : Producer} {round : Synthetic.Round}

/-- Feeds the producer and steps it. -/
def perform (round : Synthetic.Round) : Action SyntheticRun Nat := do
  feed round.draws round.now
  onProducer (Producer.step round.now)

/-- The run after some rounds, which go on after a step that fails. -/
def after (rounds : List Synthetic.Round) (run : SyntheticRun) : SyntheticRun :=
  rounds.foldl (fun run round => (perform round run).state) run

/-- The run feeds its configuration, and nothing waits for the next tick. -/
def Idle (run : SyntheticRun) (config : ProducerConfig) (routes : List (String × Route)) : Prop :=
  ∃ ledger : Ledger, run.Feeds config routes ledger ∧ ∀ port slot, ledger.pending port slot = []

theorem exists_idle
    (built : (Producer.ofConfig config sink (Producer.unwired config .unconnected)).result = .ok producer) :
    ∃ routes, Idle ⟨.ofConfig config, producer⟩ config routes := by
  obtain ⟨valid, -⟩ := Producer.ofConfig_eq built
  obtain ⟨routes, follows⟩ := Producer.Follows.ofConfig built
  refine ⟨routes, .ofPorts config.continuous.entries, ?_, fun _ _ => rfl⟩
  refine { valid, follows, walks := ?_, drawn := rfl, placed := fun _ _ => follows.placed built }
  intro walk member
  obtain ⟨⟨port, settings⟩, there, rfl⟩ := List.mem_map.mp member
  obtain ⟨-, -, initial⟩ := ContinuousPort.validate_iff.mp ((config.validate_parts valid).2.1 _ there)
  refine ⟨settings.keys, List.mem_map_of_mem there, ?_⟩
  cases given : settings.initial with
  | none => simp [given]
  | some values => simpa [given] using initial values given

theorem perform_of_fed (fed : (feed round.draws round.now run).result = .ok ()) :
    let stepped := onProducer (Producer.step round.now) (feed round.draws round.now run).state
    (perform round run).result = stepped.result ∧ (perform round run).state = stepped.state := by
  rw [perform, Action.bind_of_ok fed]
  exact ⟨rfl, rfl⟩

theorem Feeds.step (feeds : run.Feeds config routes ledger) (now : Binary64) :
    let stepped := onProducer (Producer.step now) run
    stepped.state.Idle config routes ∧ stepped.state.producer.codec = run.producer.codec ∧
      ∀ broken, stepped.result ≠ .error (.breach broken) := by
  have codec : (Producer.step now run.producer).state.codec = run.producer.codec := by
    rw [(Producer.step_eq (feeds.follows.station.beginTick now).1).2]
  exact ⟨⟨ledger.clear, { feeds with follows := (feeds.follows.step now).1 }, fun _ _ => rfl⟩, codec,
    feeds.follows.step_unbroken now⟩

theorem Idle.perform (idle : run.Idle config routes) (fair : round.Fair) :
    let performed := SyntheticRun.perform round run
    performed.state.Idle config routes ∧ performed.state.producer.codec = run.producer.codec ∧
      ∀ broken, performed.result ≠ .error (.breach broken) := by
  obtain ⟨ledger, feeds, fresh⟩ := idle
  obtain ⟨taken, stays, next, -, fed⟩ := feed_taken feeds fair fresh
  obtain ⟨result, state⟩ := perform_of_fed taken
  obtain ⟨idle, codec, sound⟩ := fed.step round.now
  intro performed
  rw [show performed.result = _ from result, show performed.state = _ from state]
  exact ⟨idle, codec.trans stays.codec, sound⟩

theorem Idle.after {rounds : List Synthetic.Round} (idle : run.Idle config routes)
    (fair : ∀ round ∈ rounds, round.Fair) :
    (run.after rounds).Idle config routes ∧ (run.after rounds).producer.codec = run.producer.codec := by
  induction rounds generalizing run with
  | nil => exact ⟨idle, rfl⟩
  | cons round rounds ih =>
    obtain ⟨first, others⟩ := List.forall_mem_cons.mp fair
    obtain ⟨next, codec, -⟩ := idle.perform first
    obtain ⟨last, same⟩ := ih next others
    exact ⟨last, same.trans codec⟩

/-- The rounds of a run, with numbered draws. -/
def roundsOf (draws : Nat → Draws) (number : Nat) (times : List Binary64) : List Synthetic.Round :=
  (times.zipIdx number).map fun (now, number) => ⟨now, draws number⟩

/-- A run performs its rounds in order. Only a fault of a step ends it early. -/
theorem Idle.run_performs {draws : Nat → Draws} {number : Nat} {times : List Binary64}
    (idle : run.Idle config routes) (fair : ∀ round ∈ roundsOf draws number times, round.Fair) :
    let outcome := SyntheticRun.run draws number times run
    ∃ performed rest, roundsOf draws number times = performed ++ rest ∧
      outcome.state = run.after performed ∧
      (outcome.result = .ok () ∧ rest = [] ∨ ∃ fault, outcome.result = .error (.fault fault)) := by
  induction times generalizing run number with
  | nil => exact ⟨[], [], rfl, rfl, .inl ⟨rfl, rfl⟩⟩
  | cons now times ih =>
    obtain ⟨first, others⟩ := List.forall_mem_cons.mp fair
    obtain ⟨ledger, feeds, fresh⟩ := idle
    obtain ⟨taken, -, next, -, fed⟩ := feed_taken feeds first fresh
    obtain ⟨stays, -, sound⟩ := fed.step now
    have performed := (perform_of_fed taken).2
    rw [SyntheticRun.run, Action.bind_of_ok taken]
    cases answer : (onProducer (Producer.step now) (feed (draws number) now run).state).result with
    | error failure =>
      rw [Action.bind_of_error answer]
      cases failure with
      | breach broken => exact absurd answer (sound broken)
      | fault fault =>
        exact ⟨[⟨now, draws number⟩], _, rfl, performed.symm, .inr ⟨fault, rfl⟩⟩
    | ok bytes =>
      rw [Action.bind_of_ok answer]
      obtain ⟨later, rest, split, state, ended⟩ := ih stays others
      refine ⟨⟨now, draws number⟩ :: later, rest, congrArg _ split, ?_, ended⟩
      rw [SyntheticRun.after, List.foldl_cons, performed]
      exact state

/-- What was fed since the last tick is what the delta of the tick carries. -/
theorem Feeds.dump {events : List DrawnEvent}
    (feeds : run.Feeds config routes (ledger.acceptAll (events.map (·.arrival config))))
    (fresh : ∀ port slot, ledger.pending port slot = [])
    (placed : ∀ event ∈ events, event.Placed config routes)
    (sorted : events.Pairwise fun earlier later => earlier.time ≤ later.time) (now : Binary64) :
    let delta := run.producer.dump now
    delta.time = now ∧ (delta.trains.map (·.1)).Nodup ∧
      (∀ train ∈ delta.trains, Steady id train.2) ∧
      delta.arrivals.Perm (events.map (·.arrival config)) := by
  have distinct : (run.producer.slots.map (·.1)).Nodup :=
    feeds.follows.slots_names ▸ config.events.keys_nodup
  have housed : ∀ arrival ∈ events.map (·.arrival config),
      arrival.1 ∈ Ledger.slotKeys run.producer.slots := by
    intro arrival member
    obtain ⟨event, drawn, rfl⟩ := List.mem_map.mp member
    exact feeds.follows.mem_slotKeys (placed event drawn)
  rw [feeds.follows.dump_eq]
  exact ⟨rfl, Ledger.trains_nodup _ distinct now,
    fun train => Ledger.steady_acceptAll fresh (List.pairwise_map.mpr sorted),
    Ledger.arrivals_acceptAll fresh _ distinct housed now⟩

/-- Feeding and stepping a producer in turn, on any sink. The rounds have any finite ticks, and draws of any
walks and of any events within the timestep before the tick. No round before it, failed or not, keeps a
round from being fed; the step then answers what the sink does and breaks no contract. The delta of the
tick lists every buffer once and its events in the order of their times, and together these are the events
that were drawn for the tick. As many count if the sink took the delta, and none if it did not. -/
theorem round_delivers_drawn
    (built : (Producer.ofConfig config sink (Producer.unwired config .unconnected)).result = .ok producer)
    (rounds : List Synthetic.Round) (round : Synthetic.Round) (fair : ∀ each ∈ rounds ++ [round], each.Fair) :
    let run := after rounds ⟨.ofConfig config, producer⟩
    let drawn := Synthetic.eventsOf config round
    let fed := feed round.draws round.now run
    let delta := fed.state.producer.dump round.now
    let sent := Sink.send (producer.codec.encode delta) run.producer.sink
    let stepped := Producer.step round.now fed.state.producer
    fed.result = .ok () ∧
    stepped.result = sent.result.map (fun _ => (producer.codec.encode delta).length) ∧
    stepped.state.sink = sent.state ∧
    (∀ broken, stepped.result ≠ .error (.breach broken)) ∧
    delta.time = round.now ∧ (delta.trains.map (·.1)).Nodup ∧
    (∀ train ∈ delta.trains, Steady id train.2) ∧
    delta.arrivals.Perm (drawn.map (·.arrival config)) ∧
    stepped.state.stats.events = run.producer.stats.events +
      (match stepped.result with
      | .ok _ => drawn.length
      | .error _ => 0) ∧
    after (rounds ++ [round]) ⟨.ofConfig config, producer⟩ = { fed.state with producer := stepped.state } := by
  obtain ⟨earlier, last⟩ := List.forall_mem_append.mp fair
  have even := last round (List.mem_singleton_self round)
  obtain ⟨routes, start⟩ := exists_idle built
  obtain ⟨⟨ledger, feeds, fresh⟩, codec⟩ := start.after earlier
  obtain ⟨taken, stays, next, empty, ready⟩ := feed_taken feeds even fresh
  have ordered := Synthetic.inOrder_perm (Synthetic.eventsOf config round)
  obtain ⟨time, distinct, steady, carried⟩ := ready.dump empty
    (fun event member => ready.placed round event (ordered.mem_iff.mp member))
    (Synthetic.inOrder_pairwise fun event => Synthetic.eventsOf_isNaN ready.valid even) round.now
  intro run drawn fed delta sent stepped
  have whole : delta.arrivals.Perm (drawn.map (·.arrival config)) := carried.trans (ordered.map _)
  have count : delta.eventCount = drawn.length := by
    rw [← Delta.length_arrivals, whole.length_eq, List.length_map]
  obtain ⟨answered, after⟩ := Producer.step_eq (ready.follows.station.beginTick round.now).1
  have payload : fed.state.producer.payload round.now = producer.codec.encode delta := by
    rw [Producer.payload, stays.codec, codec]
  rw [show (feed round.draws round.now _).state = fed.state from rfl, payload, stays.sink] at answered after
  refine ⟨taken, answered, congrArg Producer.sink after, ready.follows.step_unbroken round.now, time,
    distinct, steady, whole, ?_, ?_⟩
  · rw [show stepped.result = _ from answered, show stepped.state = _ from after]
    cases sent.result with
    | ok => exact congrArg₂ (· + ·) (congrArg ProducerStats.events stays.stats) count
    | error failure => exact congrArg ProducerStats.events stays.stats
  · rw [SyntheticRun.after, List.foldl_append]
    exact (perform_of_fed taken).2

/-- Every index fires, the even ones after the odd ones. -/
def volley (now : Nat) : Synthetic.Round where
  now := .ofNat now
  draws :=
    { walk := fun _ _ => .one
      event := fun _ index => some (.ofDecimal false (if index % 2 = 0 then 25 else 75) (-2)) }

theorem volley_fair {now : Nat} (finite : (Binary64.ofNat now).isFinite = true) : (volley now).Fair where
  finite := finite
  within := by
    intro port index offset drawn
    obtain rfl := Option.some.inj drawn
    split <;> decide +kernel

/-- The second tick lies before the first one, and the sink refuses its delta. -/
theorem volley_delivered :
    ∃ producer, (Producer.ofConfig Producer.cohort Producer.flaky
        (Producer.unwired Producer.cohort .unconnected)).result = .ok producer ∧
      let fed := feed (volley 3).draws (volley 3).now (after [volley 5] ⟨.ofConfig Producer.cohort, producer⟩)
      let delta := fed.state.producer.dump (volley 3).now
      let stepped := Producer.step (volley 3).now fed.state.producer
      let early := Binary64.ofDecimal false 225 (-2)
      let late := Binary64.ofDecimal false 275 (-2)
      fed.result = .ok () ∧ (∀ train ∈ delta.trains, Steady id train.2) ∧
      delta.arrivals.Perm [(⟨"spikes", 0⟩, late), (⟨"spikes", 0⟩, early), (⟨"spikes", 1⟩, late),
        (⟨"spikes", 1⟩, early), (⟨"spikes", 2⟩, late), (⟨"touch", 0⟩, late)] ∧
      stepped.result = .error (.fault .channelClosed) ∧ stepped.state.stats.events = 6 := by
  have fifth : (volley 5).Fair := volley_fair (by decide +kernel)
  have third : (volley 3).Fair := volley_fair (by decide +kernel)
  have drawn : (Synthetic.eventsOf Producer.cohort (volley 3)).map (·.arrival Producer.cohort) =
      [(⟨"spikes", 0⟩, .ofDecimal false 275 (-2)), (⟨"spikes", 0⟩, .ofDecimal false 225 (-2)),
        (⟨"spikes", 1⟩, .ofDecimal false 275 (-2)), (⟨"spikes", 1⟩, .ofDecimal false 225 (-2)),
        (⟨"spikes", 2⟩, .ofDecimal false 275 (-2)), (⟨"touch", 0⟩, .ofDecimal false 275 (-2))] := by
    decide +kernel
  have made : (Producer.ofConfig Producer.cohort Producer.flaky
      (Producer.unwired Producer.cohort .unconnected)).result.toOption.isSome := by decide +kernel
  cases built : (Producer.ofConfig Producer.cohort Producer.flaky
      (Producer.unwired Producer.cohort .unconnected)).result with
  | error failure => simp [built, Except.toOption] at made
  | ok producer =>
    obtain ⟨-, fresh, zero, -⟩ := Producer.ofConfig_success built
    obtain ⟨-, answer, sent, -, -, -, -, -, counted, next⟩ :=
      round_delivers_drawn built [] (volley 5) (List.forall_mem_singleton.mpr fifth)
    obtain ⟨fed, refused, -, -, -, -, steady, carried, still, -⟩ :=
      round_delivers_drawn built [volley 5] (volley 3) (by simpa using ⟨fifth, third⟩)
    rw [show (after [] ⟨_, producer⟩).producer.sink = _ from fresh] at answer sent
    rw [answer, show (after [] ⟨_, producer⟩).producer.stats = _ from zero] at counted
    have reached : after [volley 5] ⟨.ofConfig Producer.cohort, producer⟩ = _ := next
    have used : (after [volley 5] ⟨.ofConfig Producer.cohort, producer⟩).producer.sink = _ :=
      (congrArg (·.producer.sink) reached).trans sent
    have six : (after [volley 5] ⟨.ofConfig Producer.cohort, producer⟩).producer.stats.events = 6 :=
      (congrArg (·.producer.stats.events) reached).trans counted
    rw [used] at refused
    rw [refused, six] at still
    exact ⟨producer, rfl, fed, steady, drawn ▸ carried, refused, still⟩

end Telemetry.SyntheticRun
