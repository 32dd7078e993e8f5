import Telemetry.Synthetic
import Telemetry.Proofs.Binary64.Scaling
import Telemetry.Proofs.Command.Check
import Telemetry.Proofs.Synthetic.Arrivals

/-! Feeding a producer with synthetic data. Whatever is drawn, nothing is refused: a walk keeps the width of
its port, every index has a buffer, and the events reach each buffer in the order of their times. -/
namespace Telemetry

/-- The buffer of a drawn event, with its time. -/
def DrawnEvent.arrival (config : ProducerConfig) (event : DrawnEvent) : EventKey × Binary64 :=
  let group := ((config.events.find? event.port).bind (·.aggregate)).getD 1
  (⟨event.port, event.index / group⟩, event.time)

/-- A tick and what is drawn for it. -/
structure Synthetic.Round where
  now : Binary64
  draws : Draws

/-- The tick is finite, and every event lies within the timestep before it. The walks are free. -/
structure Synthetic.Round.Fair (round : Synthetic.Round) : Prop where
  finite : round.now.isFinite = true
  within : ∀ port index, ∀ offset ∈ round.draws.event port index,
    Binary64.zero ≤ offset ∧ offset < .one

namespace Synthetic
variable {config : ProducerConfig} {events : List DrawnEvent} {event : DrawnEvent} {round : Round}

/-- The events that the configuration and the draws make. -/
def eventsOf (config : ProducerConfig) (round : Round) : List DrawnEvent :=
  (ofConfig config).drawn round.draws round.now

theorem mem_eventsOf (member : event ∈ eventsOf config round) :
    ∃ settings offset, (event.port, settings) ∈ config.events.entries ∧ event.index < settings.keys ∧
      round.draws.event event.port event.index = some offset ∧
      event.time = round.now - offset * config.timestep := by
  obtain ⟨⟨port, width⟩, listed, made⟩ := List.mem_flatMap.mp member
  obtain ⟨index, below, fired⟩ := List.mem_filterMap.mp made
  obtain ⟨offset, drawn, rfl⟩ := Option.map_eq_some_iff.mp fired
  obtain ⟨⟨name, settings⟩, there, same⟩ := List.mem_map.mp listed
  obtain ⟨rfl, rfl⟩ := Prod.mk.inj same
  exact ⟨settings, offset, there, List.mem_range.mp below, drawn, rfl⟩

theorem eventsOf_isNaN (valid : config.validate = .ok ()) (fair : round.Fair)
    (member : event ∈ eventsOf config round) : event.time.isNaN = false := by
  obtain ⟨settings, offset, -, -, drawn, time⟩ := mem_eventsOf member
  obtain ⟨nonneg, small⟩ := fair.within _ _ offset drawn
  have before : (offset * config.timestep).isFinite = true :=
    Binary64.mul_part_finite nonneg small (ProducerConfig.timestep_positive valid).1
  rw [time]
  exact Binary64.isNaN_sub (Binary64.isNaN_of_isFinite fair.finite) before

theorem inOrder_perm (events : List DrawnEvent) : (inOrder events).Perm events := List.mergeSort_perm ..

/-- The order of the ranks is that of the times, which are numbers. -/
theorem inOrder_pairwise (numbers : ∀ event ∈ events, event.time.isNaN = false) :
    (inOrder events).Pairwise fun earlier later => earlier.time ≤ later.time := by
  have ranked : (inOrder events).Pairwise fun earlier later =>
      decide (earlier.time.rank ≤ later.time.rank) :=
    List.pairwise_mergeSort (fun a b c => by simpa using Int.le_trans) (fun a b => by simpa using Int.le_total ..)
      events
  refine ranked.imp_of_mem fun {earlier later} first second below => ?_
  exact Binary64.le_of_rank_le (numbers _ ((inOrder_perm events).mem_iff.mp first))
    (numbers _ ((inOrder_perm events).mem_iff.mp second)) (of_decide_eq_true below)

end Synthetic

/-- The port has the buffer that the event is for. -/
def DrawnEvent.Placed (config : ProducerConfig) (routes : List (String × Route)) (event : DrawnEvent) :
    Prop :=
  let slot := (event.arrival config).1.index
  ∃ route, (event.port, route) ∈ routes ∧ route.grouping.slot event.index = .ok slot ∧
    slot < route.buffers.length

theorem EventPort.place_grouping (settings : EventPort) (index : Nat) :
    settings.grouping.place index = index / settings.aggregate.getD 1 := by
  unfold grouping
  cases settings.aggregate with
  | none => exact (Nat.div_one index).symm
  | some size => rfl

namespace Producer.Follows
variable {producer : Producer} {config : ProducerConfig} {routes : List (String × Route)}
  {ledger : Ledger} {sink : Sink} {event : DrawnEvent} {round : Synthetic.Round}

/-- An event port has a buffer for each group of its indices. -/
theorem exists_route (follows : producer.Follows config routes ledger)
    (built : (Producer.ofConfig config sink (unwired config .unconnected)).result = .ok producer)
    {port : String} {settings : EventPort} (member : (port, settings) ∈ config.events.entries) :
    ∃ route, (port, route) ∈ routes ∧ route.grouping = settings.grouping ∧
      route.buffers.length = settings.grouping.places settings.keys := by
  obtain ⟨valid, -⟩ := ofConfig_eq built
  have grouped := EventPort.grouping_ne_zero ((config.validate_parts valid).2.2 _ member)
  have listed : .ofEvents port settings ∈ (Command.ProducerSummary.ofConfig config).ports :=
    List.mem_append_right _ (List.mem_map_of_mem member)
  obtain ⟨own, row⟩ := describes_of_mem built listed
  obtain ⟨route, found, rfl⟩ := Option.map_eq_some_iff.mp (row.routed rfl)
  have there := follows.station.mem_of_find? found
  -- The route and the settings stand at the same name, which occurs once.
  have configured : (port, route.grouping) ∈ config.events.entries.map fun entry =>
      (entry.1, entry.2.grouping) := follows.grouped ▸ List.mem_map_of_mem there
  obtain ⟨⟨name, other⟩, known, equal⟩ := List.mem_map.mp configured
  obtain ⟨rfl, same⟩ := Prod.mk.inj equal
  obtain ⟨-, rfl⟩ := Prod.mk.inj (List.inj_on_of_nodup_map config.events.keys_nodup known member rfl)
  exact ⟨route, there, same.symm,
    row.count.trans (Station.ofEvents_buffers (Grouping.bufferCount_eq grouped _) _)⟩

theorem placed (follows : producer.Follows config routes ledger)
    (built : (Producer.ofConfig config sink (unwired config .unconnected)).result = .ok producer)
    (member : event ∈ Synthetic.eventsOf config round) : event.Placed config routes := by
  obtain ⟨valid, -⟩ := ofConfig_eq built
  obtain ⟨settings, offset, configured, below, -⟩ := Synthetic.mem_eventsOf member
  have grouped := EventPort.grouping_ne_zero ((config.validate_parts valid).2.2 _ configured)
  have slot : (event.arrival config).1.index = settings.grouping.place event.index := by
    rw [EventPort.place_grouping]
    simp [DrawnEvent.arrival, Table.find?_of_mem configured]
  obtain ⟨route, there, same, count⟩ := follows.exists_route built configured
  refine ⟨route, there, ?_, ?_⟩
  · rw [slot, same]
    exact Grouping.slot_eq grouped _
  · rw [slot, count]
    exact Grouping.place_lt_places grouped below

theorem mem_slotKeys (follows : producer.Follows config routes ledger)
    (placed : event.Placed config routes) :
    (event.arrival config).1 ∈ Ledger.slotKeys producer.slots := by
  obtain ⟨route, member, -, bound⟩ := placed
  rw [Ledger.mem_slotKeys, follows.slots_eq]
  exact ⟨_, List.mem_map_of_mem member, bound⟩

end Producer.Follows

namespace SyntheticRun
variable {run : SyntheticRun} {config : ProducerConfig} {routes : List (String × Route)}
  {ledger : Ledger} {round : Synthetic.Round}

/-- A walk has as many values as its port has keys. -/
def Fits (config : ProducerConfig) (walk : String × List Binary64) : Prop :=
  ∃ keys, (walk.1, keys) ∈ config.keyed ∧ walk.2.length = keys.length

/-- The producer follows the ledger, and the source feeds the ports of its configuration. -/
structure Feeds (run : SyntheticRun) (config : ProducerConfig) (routes : List (String × Route))
    (ledger : Ledger) : Prop where
  valid : config.validate = .ok ()
  placed : ∀ round, ∀ event ∈ Synthetic.eventsOf config round, event.Placed config routes
  follows : run.producer.Follows config routes ledger
  walks : ∀ walk ∈ run.synthetic.walks.entries, Fits config walk
  drawn : run.synthetic.drawn = (Synthetic.ofConfig config).drawn

/-- Feeding does not touch what publishes. -/
structure Stays (before after : SyntheticRun) : Prop where
  codec : after.producer.codec = before.producer.codec
  sink : after.producer.sink = before.producer.sink
  stats : after.producer.stats = before.producer.stats

theorem Stays.trans {first second third : SyntheticRun} (begins : first.Stays second)
    (goes : second.Stays third) : first.Stays third where
  codec := goes.codec.trans begins.codec
  sink := goes.sink.trans begins.sink
  stats := goes.stats.trans begins.stats

/-- The run after a step of one walk. -/
def walked (draws : Draws) (walk : String × List Binary64) (run : SyntheticRun) : SyntheticRun :=
  let values := Synthetic.advance draws walk.1 walk.2
  { synthetic := { run.synthetic with walks := run.synthetic.walks.insert walk.1 values }
    producer := (Producer.writeContinuous walk.1 values run.producer).state }

theorem feedWalks_cons (feeds : run.Feeds config routes ledger) (draws : Draws)
    {walk : String × List Binary64} (fits : Fits config walk) (walks : List (String × List Binary64)) :
    let next := run.walked draws walk
    ((feedWalks draws (walk :: walks) run).result = (feedWalks draws walks next).result ∧
      (feedWalks draws (walk :: walks) run).state = (feedWalks draws walks next).state) ∧
    next.Feeds config routes (ledger.write walk.1 (Synthetic.advance draws walk.1 walk.2)) := by
  obtain ⟨port, values⟩ := walk
  obtain ⟨keys, member, width⟩ := fits
  have moved : (Synthetic.advance draws port values).length = keys.length := by
    simpa [Synthetic.advance] using width
  obtain ⟨took, written⟩ := feeds.follows.writeContinuous_taken member moved
  intro next
  have answer : (onProducer (Producer.writeContinuous port (Synthetic.advance draws port values))
      { run with synthetic := { run.synthetic with
          walks := run.synthetic.walks.insert port (Synthetic.advance draws port values) } }).result =
        .ok () := took
  have walks : ∀ walk ∈ next.synthetic.walks.entries, Fits config walk := by
    intro walk there
    rcases Table.mem_insertEntry there with rfl | old
    · exact ⟨keys, member, moved⟩
    · exact feeds.walks walk old
  refine ⟨?_, { feeds with follows := written, walks }⟩
  rw [feedWalks, Action.change_then, Action.bind_of_ok answer]
  exact ⟨rfl, rfl⟩

theorem feedWalks_taken (feeds : run.Feeds config routes ledger) (draws : Draws)
    {walks : List (String × List Binary64)} (fit : ∀ walk ∈ walks, Fits config walk) :
    let fed := feedWalks draws walks run
    fed.result = .ok () ∧ run.Stays fed.state ∧
      ∃ next : Ledger, next.pending = ledger.pending ∧ fed.state.Feeds config routes next := by
  induction walks generalizing run ledger with
  | nil => exact ⟨rfl, ⟨rfl, rfl, rfl⟩, ledger, rfl, feeds⟩
  | cons walk walks ih =>
    obtain ⟨first, others⟩ := List.forall_mem_cons.mp fit
    obtain ⟨⟨result, state⟩, next⟩ := feedWalks_cons feeds draws first walks
    obtain ⟨took, stays, last, pending, ready⟩ := ih next others
    intro fed
    rw [show fed.result = _ from result, show fed.state = _ from state]
    exact ⟨took, ⟨stays.codec, stays.sink, stays.stats⟩, last, pending, ready⟩

theorem feedEvents_cons (feeds : run.Feeds config routes ledger) {event : DrawnEvent}
    (placed : event.Placed config routes)
    (ordered : ∀ last ∈ (ledger.pending event.port (event.arrival config).1.index).getLast?,
      last ≤ event.time) (events : List DrawnEvent) :
    let next := (onProducer (Producer.deliverEvent event.port event.index event.time) run).state
    ((feedEvents (event :: events) run).result = (feedEvents events next).result ∧
      (feedEvents (event :: events) run).state = (feedEvents events next).state) ∧
    next.Feeds config routes (ledger.acceptAll [event.arrival config]) := by
  obtain ⟨route, member, slotted, bound⟩ := placed
  obtain ⟨took, accepted⟩ := feeds.follows.deliverEvent_taken member slotted bound ordered
  have answer : (onProducer (Producer.deliverEvent event.port event.index event.time) run).result =
      .ok () := took
  refine ⟨?_, { feeds with follows := accepted }⟩
  rw [feedEvents, Action.bind_of_ok answer]
  exact ⟨rfl, rfl⟩

/-- Events in the order of their times, none before what waits for the tick already. -/
theorem feedEvents_taken (feeds : run.Feeds config routes ledger) {events : List DrawnEvent}
    (placed : ∀ event ∈ events, event.Placed config routes)
    (sorted : events.Pairwise fun earlier later => earlier.time ≤ later.time)
    (after : ∀ event ∈ events, ∀ port slot, ∀ time ∈ ledger.pending port slot, time ≤ event.time) :
    let fed := feedEvents events run
    fed.result = .ok () ∧ run.Stays fed.state ∧
      fed.state.Feeds config routes (ledger.acceptAll (events.map (·.arrival config))) := by
  induction events generalizing run ledger with
  | nil => exact ⟨rfl, ⟨rfl, rfl, rfl⟩, feeds⟩
  | cons event events ih =>
    obtain ⟨here, elsewhere⟩ := List.forall_mem_cons.mp placed
    obtain ⟨before, rest⟩ := List.pairwise_cons.mp sorted
    obtain ⟨now, later⟩ := List.forall_mem_cons.mp after
    obtain ⟨⟨result, state⟩, next⟩ := feedEvents_cons feeds here
      (fun last found => now _ _ last (List.mem_of_getLast? found)) events
    have waiting : ∀ other ∈ events, ∀ port slot,
        ∀ time ∈ (ledger.acceptAll [event.arrival config]).pending port slot, time ≤ other.time := by
      intro other member port slot time waits
      rw [Ledger.pending_acceptAll [event.arrival config] ledger ⟨port, slot⟩, List.mem_append] at waits
      rcases waits with old | new
      · exact later other member port slot time old
      · obtain ⟨arrival, kept, rfl⟩ := List.mem_map.mp new
        obtain rfl := List.mem_singleton.mp (List.mem_of_mem_filter kept)
        exact before other member
    obtain ⟨took, stays, ready⟩ := ih next elsewhere rest waiting
    intro fed
    rw [show fed.result = _ from result, show fed.state = _ from state]
    exact ⟨took, ⟨stays.codec, stays.sink, stays.stats⟩, ready⟩

/-- A fair round is fed whole. What then waits are its events, in the order of their times. -/
theorem feed_taken (feeds : run.Feeds config routes ledger) (fair : round.Fair)
    (fresh : ∀ port slot, ledger.pending port slot = []) :
    let fed := feed round.draws round.now run
    fed.result = .ok () ∧ run.Stays fed.state ∧
      ∃ next : Ledger, (∀ port slot, next.pending port slot = []) ∧
        fed.state.Feeds config routes (next.acceptAll
          ((Synthetic.inOrder (Synthetic.eventsOf config round)).map (·.arrival config))) := by
  obtain ⟨walked, moved, next, same, ready⟩ := feedWalks_taken feeds round.draws feeds.walks
  have ordered := Synthetic.inOrder_perm (Synthetic.eventsOf config round)
  have empty : ∀ port slot, next.pending port slot = [] := fun port slot => same ▸ fresh port slot
  obtain ⟨taken, stays, done⟩ := feedEvents_taken ready
    (fun event member => feeds.placed round event (ordered.mem_iff.mp member))
    (Synthetic.inOrder_pairwise fun event => Synthetic.eventsOf_isNaN feeds.valid fair)
    (fun event _ port slot time waits => by simp [empty] at waits)
  have drawn : run.synthetic.drawn round.draws round.now = Synthetic.eventsOf config round := by
    rw [feeds.drawn, Synthetic.eventsOf]
  rw [feed, Action.read_then, Action.bind_of_ok walked, drawn]
  exact ⟨taken, moved.trans stays, next, empty, done⟩

end SyntheticRun
end Telemetry
