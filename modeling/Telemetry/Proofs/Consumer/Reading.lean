import Telemetry.Proofs.Consumer
import Telemetry.Proofs.Consumer.Run

/-! The order in which a consumer reads what its producers send: tick by tick, and within a tick by
the position in the queue. -/
namespace Telemetry

namespace Source
variable {source : Source} {topic : Bytes}

/-- A channel that is open at both ends, or an open socket that lets this topic through. -/
def Takes (topic : Bytes) : Source → Prop
  | channel c => c.sinkOpen = true ∧ c.sourceOpen = true
  | socket s => s.isOpen = true ∧ Bytes.ofText s.topic <+: topic
  | replay _ => False

instance (topic : Bytes) : (source : Source) → Decidable (source.Takes topic)
  | channel _ | socket _ => inferInstanceAs (Decidable (_ ∧ _))
  | replay _ => inferInstanceAs (Decidable False)

theorem Takes.ready (takes : source.Takes topic) : source.Ready := by
  cases source with
  | channel channel => trivial
  | socket subscriber => exact takes.1
  | replay => exact takes.elim

theorem Takes.emptied (takes : source.Takes topic) : source.emptied.Takes topic := by
  cases source <;> exact takes

theorem Takes.arrive (takes : source.Takes topic) (body : Bytes) :
    (source.arrive (topic ++ body)).Takes topic ∧
      (source.arrive (topic ++ body)).waiting = source.waiting ++ [topic ++ body] := by
  cases source with
  | channel channel =>
    obtain ⟨sink, origin⟩ := takes
    have sent : (Channel.send (topic ++ body) channel).state =
        { channel with queue := channel.queue ++ [topic ++ body] } := by
      rw [Channel.send, Action.read_then]
      simp [sink, origin]
    simp [Source.arrive, Takes, waiting, sent, sink, origin]
  | socket subscriber =>
    obtain ⟨isOpen, through⟩ := takes
    have passed : (Bytes.ofText subscriber.topic).isPrefixOf (topic ++ body) = true :=
      List.isPrefixOf_iff_prefix.mpr (through.trans (List.prefix_append _ _))
    simp [Source.arrive, Takes, waiting, Subscriber.arrive, isOpen, passed, through]
  | replay => exact takes.elim

end Source

namespace Feed
variable {feed : Feed} {subscription : Subscription} {message : Bytes}

def idle (subscription : Subscription) : Feed := { subscription }

def receive (message : Bytes) (feed : Feed) : Feed :=
  { feed with waiting := feed.waiting ++ (feed.subscription.delta? message).toList }

/-- A feed whose source takes in what its producer sends. -/
structure Serves (feed : Feed) (subscription : Subscription) : Prop extends
    feed.Fills subscription where
  takes : subscription.source.Takes feed.subscription.topic

theorem Serves.receive (serves : feed.Serves subscription)
    (readable : (feed.subscription.delta? message).isSome = true) :
    (feed.receive message).Serves
      { subscription with source := subscription.source.arrive message } := by
  obtain ⟨delta, read⟩ := Option.isSome_iff_exists.mp readable
  obtain ⟨codec, body, -, rfl, -⟩ := Subscription.delta?_eq_some read
  obtain ⟨takes, grown⟩ := serves.takes.arrive body
  exact {
    topic := serves.topic
    codec := serves.codec
    ready := takes.ready
    waiting := by simp [Feed.receive, grown, serves.waiting, read]
    takes }

theorem Serves.clear (serves : feed.Serves subscription) : feed.clear.Serves subscription.emptied :=
  { serves.toFills.clear with takes := serves.takes.emptied }

variable {feeds : List Feed} {subscriptions : List Subscription}

theorem subscription_idle (subscriptions : List Subscription) :
    (subscriptions.map idle).map (·.subscription) = subscriptions := by
  simp [Function.comp_def, idle]

theorem subscription_clear (feeds : List Feed) :
    (feeds.map clear).map (·.subscription) = feeds.map (·.subscription) := by
  simp [Function.comp_def, clear]

theorem subscription_receive (feeds : List Feed) (index : Nat) (message : Bytes) :
    (feeds.modify index (.receive message)).map (·.subscription) = feeds.map (·.subscription) := by
  induction feeds generalizing index with
  | nil => simp
  | cons feed feeds ih => cases index <;> simp [receive, ih]

theorem serves_receive (serves : List.Forall₂ Feed.Serves feeds subscriptions) {index : Nat}
    {feed : Feed} (there : feeds[index]? = some feed)
    (readable : (feed.subscription.delta? message).isSome = true) :
    List.Forall₂ Feed.Serves (feeds.modify index (.receive message))
      (subscriptions.modify index fun s => { s with source := s.source.arrive message }) := by
  induction serves generalizing index with
  | nil => simp at there
  | @cons head subscription feeds subscriptions first others ih =>
    cases index with
    | zero =>
      obtain rfl : head = feed := by simpa using there
      exact .cons (first.receive readable) others
    | succ index => exact .cons first (ih (by simpa using there))

end Feed

namespace Consumer

/-- The deltas of some feeds in the order in which the ticks of a run read them, each with the index
of its subscription. -/
def readOrder : List Step → List Feed → List (Nat × Delta)
  | [], _ => []
  | .arrive index message :: steps, feeds => readOrder steps (feeds.modify index (.receive message))
  | .tick _ :: steps, feeds =>
    interleave (feeds.map (·.waiting)) ++ readOrder steps (feeds.map .clear)

/-- Whatever arrives is a delta for the subscription that it arrives at. -/
def Step.Fed (subscriptions : List Subscription) : Step → Prop
  | .arrive index message =>
    ∃ subscription ∈ subscriptions[index]?, (subscription.delta? message).isSome = true
  | .tick _ => True

instance (subscriptions : List Subscription) : (step : Step) → Decidable (step.Fed subscriptions)
  | .arrive index _ =>
    inferInstanceAs (Decidable (∃ subscription ∈ subscriptions[index]?, _))
  | .tick _ => inferInstanceAs (Decidable True)

/-- A consumer that has read some deltas, with its feeds. -/
structure Attends (consumer : Consumer) (feeds : List Feed) (read : List Delta) : Prop where
  serves : List.Forall₂ Feed.Serves feeds consumer.multiplexer.subscriptions
  history : consumer.history = .gathered read
  numbers : ∀ delta ∈ read, delta.time.isNaN = false
  keeping : Keeping consumer.schedule

namespace Attends
variable {consumer : Consumer} {feeds : List Feed} {read : List Delta}

theorem start {multiplexer : Multiplexer} {schedule : Schedule Job}
    (listening : ∀ subscription ∈ multiplexer.subscriptions,
      subscription.source.Takes subscription.topic ∧ subscription.source.waiting = [])
    (keeping : Keeping schedule) :
    Attends { multiplexer, schedule } (multiplexer.subscriptions.map Feed.idle) [] where
  serves := by
    rw [List.forall₂_map_left_iff, List.forall₂_same]
    intro subscription member
    obtain ⟨takes, empty⟩ := listening subscription member
    exact { topic := rfl, codec := rfl, ready := takes.ready, waiting := by rw [empty]; rfl, takes }
  history := rfl
  numbers := nofun
  keeping

theorem arrive (attends : consumer.Attends feeds read) {index : Nat} {message : Bytes}
    (fed : (Step.arrive index message).Fed (feeds.map (·.subscription))) :
    (consumer.arrive index message).Attends (feeds.modify index (.receive message)) read where
  serves := by
    obtain ⟨subscription, there, readable⟩ := fed
    rw [Option.mem_def, List.getElem?_map] at there
    obtain ⟨feed, found, rfl⟩ := Option.map_eq_some_iff.mp there
    exact Feed.serves_receive attends.serves found readable
  history := attends.history
  numbers := attends.numbers
  keeping := attends.keeping

theorem tick (attends : consumer.Attends feeds read) (now : Nat) :
    (tick now consumer).state.Attends (feeds.map .clear)
      (read ++ (interleave (feeds.map (·.waiting))).map (·.2)) := by
  have fills : List.Forall₂ Feed.Fills feeds consumer.multiplexer.subscriptions :=
    attends.serves.imp fun _ _ serves => serves.toFills
  obtain ⟨⟨report, drained⟩, gathered⟩ := Feed.tick_reads fills attends.numbers
  rw [← attends.history] at drained gathered
  obtain ⟨history, multiplexer, keeping⟩ := tick_of_drained drained attends.keeping now
  exact {
    serves := by
      rw [multiplexer]
      exact List.forall₂_map_left_iff.mpr (List.forall₂_map_right_iff.mpr
        (attends.serves.imp fun _ _ serves => serves.clear))
    history := history.trans gathered
    numbers := by
      intro delta member
      rcases List.mem_append.mp member with old | new
      · exact attends.numbers delta old
      · obtain ⟨item, taken, rfl⟩ := List.mem_map.mp new
        obtain ⟨queue, listed, inside⟩ := mem_of_mem_interleave taken
        obtain ⟨feed, there, rfl⟩ := List.mem_map.mp listed
        exact Feed.numbers_of_fills fills feed there item.2 inside
    keeping }

theorem after {steps : List Step} (attends : consumer.Attends feeds read)
    (fed : ∀ step ∈ steps, step.Fed (feeds.map (·.subscription))) :
    (after steps consumer).history = .gathered (read ++ (readOrder steps feeds).map (·.2)) := by
  induction steps generalizing consumer feeds read with
  | nil => simpa [readOrder] using attends.history
  | cons step steps ih =>
    obtain ⟨own, others⟩ := List.forall_mem_cons.mp fed
    cases step with
    | arrive index message =>
      rw [after_cons, readOrder]
      exact ih (attends.arrive own) (by rwa [Feed.subscription_receive])
    | tick now =>
      have next := ih (attends.tick now) (by rwa [Feed.subscription_clear])
      rw [after_cons, readOrder, List.map_append, ← List.append_assoc]
      exact next

end Attends
end Consumer
end Telemetry
