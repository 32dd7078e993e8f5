import Telemetry.Proofs.Consumer
import Telemetry.Proofs.Consumer.Classes
import Telemetry.Proofs.Consumer.Run
import Telemetry.Proofs.Consumer.Survival
import Telemetry.Proofs.Multiplexer.Tick

/-! The account of a consumer without periodic tasks. What was sent to a subscription is what its visits
took, in order, and what still waits; statistics and history are those of the visits. -/
namespace Telemetry.Consumer

/-- What is done to a consumer: it subscribes to a channel, a message is sent to a subscription, or it
ticks at a clock reading. -/
inductive Call
  | subscribe (channel : Channel) (topic : Bytes) (codec : Codec)
  | send (index : Nat) (message : Bytes)
  | tick (now : Nat)
  deriving DecidableEq, Repr

def Call.perform : Call → Action Consumer (List TickReport)
  | subscribe channel topic codec => do
    Consumer.subscribe (.channel channel) topic codec
    return []
  | send index message => do
    Action.change (Consumer.arrive index message)
    return []
  | tick now => do return [← Consumer.tick now]

/-- The reports of the ticks. -/
def reports : List Call → Action Consumer (List TickReport)
  | [] => Action.done []
  | call :: calls => do
    let first ← call.perform
    let rest ← reports calls
    return first ++ rest

/-- A subscription as it was made, and everything that was sent to it. -/
structure Inbox where
  channel : Channel
  topic : Bytes
  codec : Codec
  sent : List Bytes
  deriving DecidableEq, Repr

namespace Inbox

/-- Nothing can be sent through a channel that is closed at either end. -/
def accept (message : Bytes) (inbox : Inbox) : Inbox :=
  if inbox.channel.sinkOpen && inbox.channel.sourceOpen then
    { inbox with sent := inbox.sent ++ [message] }
  else inbox

def inlet (inbox : Inbox) : Inlet := ⟨inbox.channel.address, inbox.topic, some inbox.codec⟩

/-- What is left of the subscription after some messages were taken. -/
def left (taken : Nat) (inbox : Inbox) : Subscription :=
  ⟨.channel { inbox.channel with queue := inbox.sent.drop taken }, inbox.topic, some inbox.codec⟩

@[simp] theorem inlet_left (taken : Nat) (inbox : Inbox) : (inbox.left taken).inlet = inbox.inlet := rfl

@[simp] theorem inlet_accept (message : Bytes) (inbox : Inbox) :
    (inbox.accept message).inlet = inbox.inlet := by
  rw [accept]
  split <;> rfl

@[simp] theorem drop_left (first second : Nat) (inbox : Inbox) :
    (inbox.left first).drop second = inbox.left (first + second) := by
  simp [left, Subscription.drop, Source.drop]

variable {inbox : Inbox} {taken : Nat}

theorem take_accept (within : taken ≤ inbox.sent.length) (message : Bytes) :
    (inbox.accept message).sent.take taken = inbox.sent.take taken := by
  rw [accept]
  split
  · exact List.take_append_of_le_length within
  · rfl

theorem left_accept (within : taken ≤ inbox.sent.length) (message : Bytes) :
    (inbox.accept message).left taken =
      { inbox.left taken with source := (inbox.left taken).source.arrive message } := by
  rw [left, left, accept, Source.arrive, Channel.send, Action.read_then]
  split
  · simp [List.drop_append_of_le_length within]
  · rfl

end Inbox

def Call.record : Call → List Inbox → List Inbox
  | subscribe channel topic codec, inboxes => inboxes ++ [⟨channel, topic, codec, channel.queue⟩]
  | send index message, inboxes => inboxes.modify index (.accept message)
  | tick _, inboxes => inboxes

theorem inlets_send (index : Nat) (message : Bytes) (inboxes : List Inbox) :
    (Call.record (.send index message) inboxes).map Inbox.inlet = inboxes.map Inbox.inlet := by
  apply List.ext_getElem?
  intro place
  simp only [Call.record, List.getElem?_map, List.getElem?_modify]
  cases inboxes[place]? with
  | none => rfl
  | some inbox => by_cases here : index = place <;> simp [here]

/-- All subscriptions, with what waited when they were made and what was sent since then. -/
def inboxes (calls : List Call) : List Inbox := calls.foldl (fun inboxes call => call.record inboxes) []

/-- The statistics of ticks that made some visits. -/
def statsOf (ticks : List (List Visit)) : ConsumerStats where
  ticks := ticks.length
  messages := ticks.flatten.countP (·.verdict = .delivered)
  filtered := ticks.flatten.countP (·.verdict = .filtered)
  failures := ticks.flatten.countP (·.verdict.fault?.isSome)

theorem statsOf_concat (ticks : List (List Visit)) (visits : List Visit) :
    (statsOf ticks).record (Visit.tally visits) 0 = statsOf (ticks ++ [visits]) := by
  simp [statsOf, ConsumerStats.record, Visit.length_failures, Visit.tally]

/-- A tick takes one message after the other from each subscription in turn, and no more after one
that failed. -/
structure InTurn (visits : List Visit) : Prop where
  ordered : visits.Pairwise Visit.Before
  positions : ∀ index,
    (Visit.own index visits).map (·.position) = List.range (Visit.own index visits).length
  unfailing : ∀ index, ∀ visit ∈ (Visit.own index visits).dropLast, visit.verdict.fault? = none

theorem InTurn.of_rounds {multiplexer : Multiplexer} {visits : List Visit} {final : List Seat}
    (rounds : Rounds 0 multiplexer.seats visits final) {σ : Type}
    {handle : Nat → Payload → Action σ Unit} {state last : σ}
    (served : Visit.Served handle (multiplexer.subscriptions.map Subscription.inlet) state visits last) :
    InTurn visits := by
  have drained (index : Nat) : Visit.own index visits = [] ∨
      ∃ subscription : Subscription, subscription.Drained (Visit.own index visits) := by
    cases there : multiplexer.subscriptions[index]? with
    | none => exact .inl (served.own_beyond (by simpa using there))
    | some subscription =>
      exact .inr ⟨subscription, (Multiplexer.drained_of_rounds rounds there).1⟩
  refine ⟨rounds.ordered, fun index => ?_, fun index => ?_⟩
  · rcases drained index with none | ⟨subscription, drained⟩
    · simp [none]
    · exact drained.positions
  · rcases drained index with none | ⟨subscription, drained⟩
    · simp [none]
    · exact drained.unfailing

/-- A consumer after ticks that made some visits, with all that was sent to it. -/
structure Balanced (inboxes : List Inbox) (ticks : List (List Visit)) (consumer : Consumer) : Prop where
  unscheduled : consumer.schedule = []
  left : consumer.multiplexer.subscriptions = inboxes.mapIdx fun index inbox =>
    inbox.left (Visit.own index ticks.flatten).length
  taken : ∀ index inbox, inboxes[index]? = some inbox →
    (Visit.own index ticks.flatten).map (·.message) =
      inbox.sent.take (Visit.own index ticks.flatten).length
  turns : ∀ visits ∈ ticks, InTurn visits
  served : Visit.Served (fun _ => handle) (inboxes.map Inbox.inlet) {} ticks.flatten consumer.history
  sound : consumer.history.Sound
  stats : consumer.stats = statsOf ticks

namespace Balanced
variable {consumer : Consumer} {inboxes : List Inbox} {ticks : List (List Visit)}

theorem start : Balanced [] [] {} where
  unscheduled := rfl
  left := rfl
  taken := by simp
  turns := by simp
  served := .done _
  sound := History.Sound.empty
  stats := rfl

theorem taken_le (balanced : Balanced inboxes ticks consumer) {index : Nat} {inbox : Inbox}
    (there : inboxes[index]? = some inbox) :
    (Visit.own index ticks.flatten).length ≤ inbox.sent.length := by
  have same := congrArg List.length (balanced.taken index inbox there)
  simp only [List.length_map, List.length_take] at same
  omega

theorem inlets (balanced : Balanced inboxes ticks consumer) :
    consumer.multiplexer.subscriptions.map Subscription.inlet = inboxes.map Inbox.inlet := by
  apply List.ext_getElem?
  intro index
  simp [balanced.left, Function.comp_def]

theorem subscribe (balanced : Balanced inboxes ticks consumer) (channel : Channel) (topic : Bytes)
    (codec : Codec) :
    Balanced (Call.record (.subscribe channel topic codec) inboxes) ticks
      (Consumer.subscribe (.channel channel) topic codec consumer).state := by
  have subscribed : (Consumer.subscribe (.channel channel) topic codec consumer).state =
      { consumer with
        multiplexer :=
          { consumer.multiplexer with
            subscriptions := consumer.multiplexer.subscriptions ++
              [⟨.channel channel, topic, some codec⟩] } } := rfl
  -- No visit was made to a subscription that comes now.
  have fresh {index : Nat} (beyond : inboxes.length ≤ index) : Visit.own index ticks.flatten = [] :=
    balanced.served.own_beyond (by simpa using beyond)
  rw [subscribed]
  exact {
    unscheduled := balanced.unscheduled
    left := by simp [Call.record, List.mapIdx_concat, fresh, balanced.left, Inbox.left]
    taken := by
      intro index inbox there
      by_cases old : index < inboxes.length
      · rw [Call.record, List.getElem?_append_left old] at there
        exact balanced.taken index inbox there
      · simp [fresh (Nat.le_of_not_lt old)]
    turns := balanced.turns
    served := by
      rw [Call.record, List.map_append]
      exact balanced.served.widen _
    sound := balanced.sound
    stats := balanced.stats }

theorem send (balanced : Balanced inboxes ticks consumer) (index : Nat) (message : Bytes) :
    Balanced (Call.record (.send index message) inboxes) ticks (consumer.arrive index message) where
  unscheduled := balanced.unscheduled
  left := by
    apply List.ext_getElem?
    intro place
    simp only [arrive, Call.record, balanced.left, List.getElem?_modify, List.getElem?_mapIdx]
    cases there : inboxes[place]? with
    | none => rfl
    | some inbox =>
      have grown := Inbox.left_accept (balanced.taken_le there) message
      by_cases here : index = place
      · simp [here, grown]
      · simp [here]
  taken := by
    intro place inbox there
    rw [Call.record, List.getElem?_modify] at there
    obtain ⟨before, old, rfl⟩ := Option.map_eq_some_iff.mp there
    rw [balanced.taken place before old]
    split
    · exact (Inbox.take_accept (balanced.taken_le old) message).symm
    · rfl
  turns := balanced.turns
  served := by
    rw [inlets_send]
    exact balanced.served
  sound := balanced.sound
  stats := balanced.stats

theorem inProcess (balanced : Balanced inboxes ticks consumer) :
    ∀ subscription ∈ consumer.multiplexer.subscriptions, subscription.source.InProcess := by
  intro subscription member
  rw [balanced.left] at member
  obtain ⟨index, place, rfl⟩ := List.mem_mapIdx.mp member
  trivial

theorem drained (balanced : Balanced inboxes ticks consumer) {visits : List Visit}
    {final : List Seat} (rounds : Rounds 0 consumer.multiplexer.seats visits final) {index : Nat}
    {inbox : Inbox} (there : inboxes[index]? = some inbox) :
    (inbox.left (Visit.own index ticks.flatten).length).Drained (Visit.own index visits) ∧
      (final.map (·.subscription))[index]? =
        some (inbox.left (Visit.own index (ticks ++ [visits]).flatten).length) := by
  have current : consumer.multiplexer.subscriptions[index]? =
      some (inbox.left (Visit.own index ticks.flatten).length) := by
    simp [balanced.left, there]
  obtain ⟨drained, left⟩ := Multiplexer.drained_of_rounds rounds current
  refine ⟨drained, left.trans ?_⟩
  rw [Inbox.drop_left, List.flatten_concat, Visit.own_append, List.length_append]
  rfl

/-- A tick leaves a message only behind one that failed. -/
theorem exhausted (balanced : Balanced inboxes ticks consumer) {visits : List Visit}
    {final : List Seat} (rounds : Rounds 0 consumer.multiplexer.seats visits final) {index : Nat}
    {inbox : Inbox} (there : inboxes[index]? = some inbox) :
    (Visit.own index (ticks.flatten ++ visits)).length = inbox.sent.length ∨
      ∃ visit ∈ (Visit.own index visits).getLast?, visit.verdict.fault?.isSome := by
  rcases (balanced.drained rounds there).1.exhausted with whole | failed
  · have within := balanced.taken_le there
    have waiting : (inbox.left (Visit.own index ticks.flatten).length).source.queued.length =
        inbox.sent.length - (Visit.own index ticks.flatten).length := List.length_drop
    rw [Visit.own_append, List.length_append]
    exact .inl (by omega)
  · exact .inr failed

theorem tick (balanced : Balanced inboxes ticks consumer) (now : Nat) :
    ∃ visits, (Consumer.tick now consumer).result = .ok (Visit.tally visits) ∧
      Balanced inboxes (ticks ++ [visits]) (Consumer.tick now consumer).state ∧
      ∀ index inbox, inboxes[index]? = some inbox →
        (Visit.own index (ticks.flatten ++ visits)).length = inbox.sent.length ∨
          ∃ visit ∈ (Visit.own index visits).getLast?, visit.verdict.fault?.isSome := by
  obtain ⟨visits, final, next, rounds, served, stays, log, -, after, answer⟩ :=
    Multiplexer.tick_rounds balanced.inProcess (fun _ inlet _ => handle_sound inlet)
      consumer.history balanced.sound
  obtain ⟨reported, state⟩ := tick_unscheduled answer balanced.unscheduled now
  refine ⟨visits, reported, ?_, fun index inbox there => balanced.exhausted rounds there⟩
  rw [state, after]
  exact {
    unscheduled := balanced.unscheduled
    left := by
      have length : final.length = inboxes.length := by
        have same := (rounds.seated (Multiplexer.seated balanced.inProcess)).1
        rw [balanced.inlets] at same
        simpa using congrArg List.length same
      apply List.ext_getElem?
      intro index
      rw [List.getElem?_mapIdx]
      cases there : inboxes[index]? with
      | none =>
        have beyond := List.getElem?_eq_none_iff.mp there
        simpa [length] using beyond
      | some inbox => exact (balanced.drained rounds there).2
    taken := by
      intro index inbox there
      have messages : (Visit.own index visits).map (·.message) = _ :=
        (balanced.drained rounds there).1.messages
      rw [List.flatten_concat, Visit.own_append, List.map_append, List.length_append, List.take_add,
        balanced.taken index inbox there, messages]
      rfl
    turns := by
      intro made member
      rcases List.mem_append.mp member with old | new
      · exact balanced.turns made old
      · rw [List.mem_singleton.mp new]
        exact .of_rounds rounds served
    served := by
      rw [List.flatten_concat]
      exact balanced.served.append (balanced.inlets ▸ served)
    sound := stays
    stats := by rw [balanced.stats, statsOf_concat] }

theorem perform (balanced : Balanced inboxes ticks consumer) (call : Call) :
    ∃ more : List (List Visit), (call.perform consumer).result = .ok (more.map Visit.tally) ∧
      Balanced (call.record inboxes) (ticks ++ more) (call.perform consumer).state := by
  cases call with
  | subscribe channel topic codec =>
    exact ⟨[], rfl, (List.append_nil ticks).symm ▸ balanced.subscribe channel topic codec⟩
  | send index message =>
    exact ⟨[], rfl, (List.append_nil ticks).symm ▸ balanced.send index message⟩
  | tick now =>
    obtain ⟨visits, answer, next, -⟩ := balanced.tick now
    rw [Call.perform, Action.bind_of_ok answer]
    exact ⟨[visits], rfl, next⟩

theorem reports (balanced : Balanced inboxes ticks consumer) (calls : List Call) :
    ∃ more : List (List Visit),
      (Consumer.reports calls consumer).result = .ok (more.map Visit.tally) ∧
      Balanced (calls.foldl (fun inboxes call => call.record inboxes) inboxes) (ticks ++ more)
        (Consumer.reports calls consumer).state := by
  induction calls generalizing consumer inboxes ticks with
  | nil => exact ⟨[], rfl, (List.append_nil ticks).symm ▸ balanced⟩
  | cons call calls ih =>
    obtain ⟨first, answer, next⟩ := balanced.perform call
    obtain ⟨rest, answers, final⟩ := ih next
    rw [Consumer.reports, Action.bind_of_ok answer, Action.bind_of_ok answers]
    refine ⟨first ++ rest, by rw [List.map_append]; rfl, ?_⟩
    rw [← List.append_assoc]
    exact final

/-- Every message that was sent was taken by a visit or still waits. -/
theorem sent_eq (balanced : Balanced inboxes ticks consumer) {index : Nat} {inbox : Inbox}
    (there : inboxes[index]? = some inbox) :
    inbox.sent = (Visit.own index ticks.flatten).map (·.message) ++
      inbox.sent.drop (Visit.own index ticks.flatten).length := by
  rw [balanced.taken index inbox there, List.take_append_drop]

theorem reads (balanced : Balanced inboxes ticks consumer) :
    (∀ visit ∈ ticks.flatten, visit.verdict = visit.inlet.verdict visit.message ∧
      (visit.delta?.isSome ↔ visit.verdict = .delivered)) ∧
    consumer.history = .gathered (ticks.flatten.filterMap Visit.delta?) := by
  have coded : ∀ inlet ∈ inboxes.map Inbox.inlet, inlet.codec.isSome := by
    intro inlet member
    obtain ⟨inbox, -, rfl⟩ := List.mem_map.mp member
    rfl
  have none : ∀ delta ∈ ([] : List Delta), delta.time.isNaN = false := nofun
  obtain ⟨judged, history⟩ := balanced.served.reads coded none rfl
  refine ⟨fun visit member => ⟨judged visit member, ?_⟩, history⟩
  have own := coded visit.inlet
    (List.mem_of_getElem? (balanced.served.registered visit member))
  rw [judged visit member]
  exact Inlet.isSome_delta? own visit.message

theorem messages_eq (balanced : Balanced inboxes ticks consumer) :
    consumer.history.messages = consumer.stats.messages := by
  obtain ⟨judged, history⟩ := balanced.reads
  rw [history, balanced.stats]
  change (ticks.flatten.filterMap Visit.delta?).length = ticks.flatten.countP _
  rw [List.length_filterMap_eq_countP]
  exact List.countP_congr fun visit member => by simpa using (judged visit member).2

end Balanced

/-- The account of any calls. Every tick answers, with a report on visits that it made in turn. The
messages sent to a subscription are those of its visits in order and then those that still wait; a
message alone decides the class of its visit, and every visit is in one class. The statistics count the
classes over all ticks, and the history is the one that the deltas of the delivered messages leave. One
tick more takes whatever waits, up to the first message of a subscription that fails. -/
theorem messages_accounted (calls : List Call) :
    let outcome := reports calls {}
    let consumer := outcome.state
    ∃ ticks : List (List Visit),
      let visits := ticks.flatten
      let deltas := visits.filterMap Visit.delta?
      outcome.result = .ok (ticks.map Visit.tally) ∧
      (∀ turn ∈ ticks, InTurn turn) ∧
      consumer.multiplexer.subscriptions.length = (inboxes calls).length ∧
      (∀ index inbox, (inboxes calls)[index]? = some inbox →
        let own := Visit.own index visits
        ∃ queue, consumer.multiplexer.subscriptions[index]? =
            some ⟨.channel { inbox.channel with queue }, inbox.topic, some inbox.codec⟩ ∧
          inbox.sent = own.map (·.message) ++ queue ∧
          inbox.sent.length = own.countP (·.verdict = .delivered) +
            own.countP (·.verdict = .filtered) + own.countP (·.verdict.fault?.isSome) +
            queue.length) ∧
      (∀ visit ∈ visits, ((inboxes calls)[visit.index]?.map Inbox.inlet) = some visit.inlet ∧
        visit.verdict = visit.inlet.verdict visit.message ∧
        (visit.delta?.isSome ↔ visit.verdict = .delivered)) ∧
      consumer.stats = statsOf ticks ∧
      consumer.stats.messages = consumer.history.messages ∧
      Visit.Served (fun _ => handle) ((inboxes calls).map Inbox.inlet) {} visits consumer.history ∧
      (∃ readings, (History.readAll deltas {}).result = .ok readings) ∧
      consumer.history = (History.readAll deltas {}).state ∧
      ∀ now, ∃ more, (tick now consumer).result = .ok (Visit.tally more) ∧
        ∀ index inbox, (inboxes calls)[index]? = some inbox →
          (Visit.own index (visits ++ more)).length = inbox.sent.length ∨
            ∃ visit ∈ (Visit.own index more).getLast?, visit.verdict.fault?.isSome := by
  intro outcome consumer
  obtain ⟨ticks, answer, balanced⟩ := Balanced.start.reports calls
  rw [List.nil_append] at balanced
  obtain ⟨judged, history⟩ := balanced.reads
  have numbers : ∀ delta ∈ ticks.flatten.filterMap Visit.delta?, delta.time.isNaN = false := by
    intro delta member
    obtain ⟨visit, -, found⟩ := List.mem_filterMap.mp member
    exact Inlet.number_of_delta? found
  obtain ⟨readings, read⟩ := History.readAll_gathered [] _ numbers
  refine ⟨ticks, answer, balanced.turns, by simp [consumer, outcome, balanced.left, inboxes], ?_, ?_,
    balanced.stats, balanced.messages_eq.symm, balanced.served, ⟨_, readings⟩, history.trans read.symm, ?_⟩
  · intro index inbox there own
    have sent : inbox.sent = own.map (·.message) ++ inbox.sent.drop own.length :=
      balanced.sent_eq there
    refine ⟨inbox.sent.drop own.length, ?_, sent, ?_⟩
    · have left : consumer.multiplexer.subscriptions = _ := balanced.left
      rw [left, List.getElem?_mapIdx]
      exact congrArg (Option.map _) there
    · have classes := Visit.length_eq_countP own
      have counted := congrArg List.length sent
      rw [List.length_append, List.length_map] at counted
      omega
  · intro visit member
    have registered := balanced.served.registered visit member
    rw [List.getElem?_map] at registered
    exact ⟨registered, judged visit member⟩
  · intro now
    obtain ⟨more, answer, -, taken⟩ := balanced.tick now
    exact ⟨more, answer, taken⟩

/-- A message that fails holds back the next one for a tick. -/
example :
    let outcome := reports
      [.subscribe { address := "inproc://a", queue := [[]] } [] .json,
        .send 0 (Bytes.ofText "[2.0,[]]"), .tick 0, .tick 5] {}
    outcome.result.map (·.map fun report => (report.failures.length, report.delivered)) =
      .ok [(1, 0), (0, 1)] := by
  decide +kernel

end Telemetry.Consumer
