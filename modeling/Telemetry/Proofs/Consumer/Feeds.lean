import Telemetry.Consumer
import Telemetry.Proofs.Codec
import Telemetry.Proofs.History.Gathered
import Telemetry.Proofs.Interleaving
import Telemetry.Proofs.Multiplexer.Visit
import Mathlib.Data.List.Forall2

/-! What a tick reads when deltas wait at the subscriptions of a consumer: all of them, into one
history, the first of every subscription before the second of any. -/
namespace Telemetry

theorem Consumer.handle_delta {earlier : List Delta} {delta : Delta}
    (numbers : ∀ item ∈ earlier ++ [delta], item.time.isNaN = false) :
    (handle (.delta delta) (.gathered earlier)).result = .ok () ∧
      (handle (.delta delta) (.gathered earlier)).state = .gathered (earlier ++ [delta]) := by
  obtain ⟨answer, after⟩ := History.read_gathered earlier delta numbers
  rw [handle, Action.bind_of_ok answer, after]
  cases History.judge (earlier.map Delta.time).getLast? delta.time with
  | applied => exact ⟨rfl, rfl⟩
  | restarted => exact ⟨rfl, rfl⟩

namespace Source
variable {source : Source} {message : Bytes}

/-- Every poll takes the next message that waits, until none does. -/
def Ready : Source → Prop
  | channel _ => True
  | socket s => s.isOpen = true
  | replay _ => False

def waiting : Source → List Bytes
  | channel c => c.queue
  | socket s => s.queue
  | replay _ => []

/-- After as many polls as messages wait. -/
def emptied : Source → Source
  | channel c => channel { c with queue := [] }
  | socket s => socket { s with queue := [], messages := s.messages + s.queue.length }
  | replay r => replay r

theorem waiting_emptied (source : Source) : source.emptied.waiting = [] := by cases source <;> rfl

theorem emptied_emptied (source : Source) : source.emptied.emptied = source.emptied := by
  cases source <;> rfl

theorem Ready.emptied (ready : source.Ready) : source.emptied.Ready := by cases source <;> exact ready

theorem Ready.backlog_eq (ready : source.Ready) : source.backlog = source.waiting.length := by
  cases source with
  | channel | socket => rfl
  | replay => exact ready.elim

theorem Ready.poll_empty (ready : source.Ready) (empty : source.waiting = []) :
    source.poll.result = .ok none ∧ source.poll.state = source.emptied := by
  cases source with
  | channel channel =>
    obtain ⟨address, queue, sinkOpen, sourceOpen⟩ := channel
    obtain rfl : queue = [] := empty
    exact ⟨rfl, rfl⟩
  | socket subscriber =>
    obtain ⟨endpoint, topic, queue, isOpen, messages⟩ := subscriber
    obtain rfl : queue = [] := empty
    obtain rfl : isOpen = true := ready
    exact ⟨rfl, rfl⟩
  | replay => exact ready.elim

theorem Ready.poll_next (ready : source.Ready) {rest : List Bytes}
    (next : source.waiting = message :: rest) :
    source.poll.result = .ok (some message) ∧ source.poll.state.waiting = rest ∧
      source.poll.state.Ready ∧ source.poll.state.emptied = source.emptied := by
  cases source with
  | channel channel =>
    simp only [waiting] at next
    simp [poll, dispatch, Channel.poll, next, Ready, waiting, Source.emptied]
  | socket subscriber =>
    have isOpen : subscriber.isOpen = true := ready
    simp only [waiting] at next
    have counted : subscriber.messages + 1 + rest.length = subscriber.messages + (rest.length + 1) := by
      omega
    by_cases due : (subscriber.messages + 1) % messagesPerReport = 0
    · simp [poll, dispatch, Subscriber.poll, next, Ready, waiting, Source.emptied, isOpen, due,
        Action.bind_of_ok, counted]
    · simp [poll, dispatch, Subscriber.poll, next, Ready, waiting, Source.emptied, isOpen, due, counted]
  | replay => exact ready.elim

end Source

namespace Subscription

/-- The delta of a message under the topic, if it can be decoded. -/
def delta? (subscription : Subscription) (message : Bytes) : Option Delta :=
  if subscription.topic <+: message then
    subscription.codec.bind fun codec =>
      (codec.decode (message.drop subscription.topic.length)).toOption
  else none

theorem delta?_eq_some {subscription : Subscription} {message : Bytes} {delta : Delta}
    (read : subscription.delta? message = some delta) :
    ∃ codec body, subscription.codec = some codec ∧ message = subscription.topic ++ body ∧
      codec.decode body = .ok delta := by
  unfold delta? at read
  split at read
  · rename_i starts
    obtain ⟨body, rfl⟩ := starts
    obtain ⟨codec, chosen, decoded⟩ := Option.bind_eq_some_iff.mp read
    rw [List.drop_left] at decoded
    refine ⟨codec, body, chosen, rfl, ?_⟩
    cases answer : codec.decode body with
    | ok other => simpa [answer, Except.toOption] using decoded
    | error fault => simp [answer, Except.toOption] at decoded
  · cases read

def polled (subscription : Subscription) : Subscription :=
  { subscription with source := subscription.source.poll.state }

def emptied (subscription : Subscription) : Subscription :=
  { subscription with source := subscription.source.emptied }

theorem polled_of_empty {subscription : Subscription} (ready : subscription.source.Ready)
    (empty : subscription.source.waiting = []) : subscription.polled = subscription.emptied := by
  rw [polled, (ready.poll_empty empty).2, emptied]

end Subscription

/-- A subscription as it was made, and the deltas that wait in its source. -/
structure Feed where
  subscription : Subscription
  waiting : List Delta := []

namespace Feed

def advance (feed : Feed) : Feed := { feed with waiting := feed.waiting.tail }

def clear (feed : Feed) : Feed := { feed with waiting := [] }

/-- What has become of the subscription of a feed. -/
structure Fills (feed : Feed) (subscription : Subscription) : Prop where
  topic : subscription.topic = feed.subscription.topic
  codec : subscription.codec = feed.subscription.codec
  ready : subscription.source.Ready
  waiting : subscription.source.waiting.map feed.subscription.delta? = feed.waiting.map some

namespace Fills
variable {feed : Feed} {subscription : Subscription}

theorem length_waiting (fills : feed.Fills subscription) :
    subscription.source.waiting.length = feed.waiting.length := by
  simpa using congrArg List.length fills.waiting

theorem numbers (fills : feed.Fills subscription) :
    ∀ delta ∈ feed.waiting, delta.time.isNaN = false := by
  intro delta member
  have read : some delta ∈ subscription.source.waiting.map feed.subscription.delta? :=
    fills.waiting ▸ List.mem_map_of_mem member
  obtain ⟨message, -, found⟩ := List.mem_map.mp read
  obtain ⟨codec, body, -, -, decoded⟩ := Subscription.delta?_eq_some found
  exact Delta.number_of_finite (Codec.decode_finite decoded)

theorem clear (fills : feed.Fills subscription) : feed.clear.Fills subscription.emptied where
  topic := fills.topic
  codec := fills.codec
  ready := fills.ready.emptied
  waiting := by simp [Feed.clear, Subscription.emptied, Source.waiting_emptied]

theorem advance (fills : feed.Fills subscription) :
    feed.advance.Fills subscription.polled ∧ subscription.polled.emptied = subscription.emptied := by
  have same := fills.waiting
  cases queued : subscription.source.waiting with
  | nil =>
    have empty : feed.waiting = [] := by simpa [queued] using same.symm
    have cleared : feed.advance = feed.clear := by rw [Feed.advance, Feed.clear, empty, List.tail_nil]
    rw [Subscription.polled_of_empty fills.ready queued, cleared]
    exact ⟨fills.clear, by simp [Subscription.emptied, Source.emptied_emptied]⟩
  | cons message rest =>
    rw [queued] at same
    obtain ⟨delta, deltas, waiting, read, others⟩ := List.map_eq_cons_iff.mp same.symm
    obtain ⟨-, left, ready, stays⟩ := fills.ready.poll_next queued
    refine ⟨{ fills with ready, waiting := ?_ }, ?_⟩
    · rw [Subscription.polled, left, Feed.advance, waiting]
      exact others.symm
    · simp [Subscription.emptied, Subscription.polled, stays]

/-- One poll reads the next delta, if there is one. -/
theorem turn (fills : feed.Fills subscription) {earlier : List Delta}
    (numbers : ∀ delta ∈ earlier, delta.time.isNaN = false) :
    ∃ report log, Seat.turn Consumer.handle ⟨subscription, false⟩ (.gathered earlier) =
      ⟨.gathered (earlier ++ feed.waiting.head?.toList),
        .ok (⟨subscription.polled, false⟩, report, feed.waiting.head?.isSome), log⟩ := by
  have same := fills.waiting
  cases queued : subscription.source.waiting with
  | nil =>
    have empty : feed.waiting = [] := by simpa [queued] using same.symm
    obtain ⟨nothing, -⟩ := fills.ready.poll_empty queued
    simp only [Seat.turn, Bool.false_eq_true, if_false, Action.logAll_then, nothing, empty]
    exact ⟨{}, _, by rw [List.head?_nil, Option.toList_none, List.append_nil]; rfl⟩
  | cons message rest =>
    rw [queued] at same
    obtain ⟨delta, deltas, waiting, read, others⟩ := List.map_eq_cons_iff.mp same.symm
    obtain ⟨found, -, -, -⟩ := fills.ready.poll_next queued
    obtain ⟨codec, body, chosen, split, decoded⟩ := Subscription.delta?_eq_some read.symm
    have number := Delta.number_of_finite (Codec.decode_finite decoded)
    have all : ∀ item ∈ earlier ++ [delta], item.time.isNaN = false := by grind
    obtain ⟨taken, gathered⟩ := Consumer.handle_delta all
    have reads : subscription.polled.inlet.Reads body (.delta delta) := by
      simp only [Subscription.polled, Inlet.Reads, Subscription.inlet, fills.codec, chosen]
      exact ⟨delta, decoded, rfl⟩
    obtain ⟨after, answered⟩ := Subscription.dispatch_read reads Consumer.handle (.gathered earlier)
    have same : subscription.polled.topic ++ body = message := by
      rw [split, ← fills.topic, Subscription.polled]
    rw [same, gathered] at after
    rw [same, taken] at answered
    refine ⟨{ delivered := 1 }, ?_⟩
    simp only [Seat.turn, Bool.false_eq_true, if_false, Action.logAll_then, found,
      Action.attempt_then, Subscription.polled] at after answered ⊢
    rw [answered, after, waiting]
    exact ⟨_, rfl⟩

end Fills

variable {feeds : List Feed} {subscriptions : List Subscription} {earlier : List Delta}

theorem numbers_of_fills (fills : List.Forall₂ Feed.Fills feeds subscriptions) :
    ∀ feed ∈ feeds, ∀ delta ∈ feed.waiting, delta.time.isNaN = false := by
  induction fills with
  | nil => simp
  | cons first others ih => exact List.forall_mem_cons.mpr ⟨first.numbers, ih⟩

theorem emptied_polled (fills : List.Forall₂ Feed.Fills feeds subscriptions) :
    (subscriptions.map Subscription.polled).map Subscription.emptied =
      subscriptions.map Subscription.emptied := by
  induction fills with
  | nil => rfl
  | cons first others ih => simp [first.advance.2, ← ih]

theorem polled_of_empty (fills : List.Forall₂ Feed.Fills feeds subscriptions)
    (empty : ∀ feed ∈ feeds, feed.waiting = []) :
    subscriptions.map Subscription.polled = subscriptions.map Subscription.emptied := by
  induction fills with
  | nil => rfl
  | @cons feed subscription feeds subscriptions first others ih =>
    obtain ⟨own, rest⟩ := List.forall_mem_cons.mp empty
    have queued : subscription.source.waiting = [] := by simpa [own] using first.waiting
    rw [List.map_cons, List.map_cons, ih rest, Subscription.polled_of_empty first.ready queued]

theorem cycle_reads (fills : List.Forall₂ Feed.Fills feeds subscriptions) (index : Nat)
    (numbers : ∀ delta ∈ earlier, delta.time.isNaN = false) :
    ∃ report log, cycle (fun _ => Consumer.handle) index (subscriptions.map fun s => ⟨s, false⟩)
        (.gathered earlier) =
      ⟨.gathered (earlier ++ feeds.filterMap (·.waiting.head?)),
        .ok ((subscriptions.map Subscription.polled).map fun s => ⟨s, false⟩, report,
          feeds.any (·.waiting.head?.isSome)), log⟩ := by
  induction fills generalizing index earlier with
  | nil => exact ⟨{}, [], by rw [List.filterMap_nil, List.append_nil]; rfl⟩
  | @cons feed subscription feeds subscriptions first others ih =>
    obtain ⟨report, log, ran⟩ := first.turn numbers
    have all : ∀ delta ∈ earlier ++ feed.waiting.head?.toList, delta.time.isNaN = false := by
      intro delta member
      rcases List.mem_append.mp member with old | new
      · exact numbers delta old
      · exact first.numbers delta (List.mem_of_head? (Option.mem_toList.mp new))
    obtain ⟨reports, logs, cycled⟩ := ih (index + 1) all
    have read : (feed :: feeds).filterMap (·.waiting.head?) =
        feed.waiting.head?.toList ++ feeds.filterMap (·.waiting.head?) := by
      cases waiting : feed.waiting.head? <;> simp [waiting]
    simp only [List.map_cons]
    rw [cycle, Action.bind_of_ok (by rw [ran]), ran]
    dsimp only
    rw [Action.bind_of_ok (by rw [cycled]), cycled, read, ← List.append_assoc earlier, List.any_cons]
    exact ⟨report ++ reports, _, rfl⟩

/-- When nothing waits, the first cycle is the last. -/
theorem drain_idle (fills : List.Forall₂ Feed.Fills feeds subscriptions)
    (empty : ∀ feed ∈ feeds, feed.waiting = []) (cycles : Nat)
    (numbers : ∀ delta ∈ earlier, delta.time.isNaN = false) :
    ∃ report log, drain (fun _ => Consumer.handle) (cycles + 1)
        (subscriptions.map fun s => ⟨s, false⟩) (.gathered earlier) =
      ⟨.gathered earlier,
        .ok ((subscriptions.map Subscription.emptied).map fun s => ⟨s, false⟩, report), log⟩ := by
  obtain ⟨report, log, ran⟩ := cycle_reads fills 0 numbers
  have nothing : feeds.filterMap (·.waiting.head?) = [] :=
    List.filterMap_eq_nil_iff.mpr fun feed member => by simp [empty feed member]
  have found : feeds.any (·.waiting.head?.isSome) = false :=
    List.any_eq_false.mpr fun feed member => by simp [empty feed member]
  rw [nothing, found, List.append_nil, polled_of_empty fills empty] at ran
  rw [drain, Action.bind_of_ok (by rw [ran]), ran]
  exact ⟨report, _, rfl⟩

/-- With a cycle more than deltas wait in any feed, all of them are read. -/
theorem drain_reads (fills : List.Forall₂ Feed.Fills feeds subscriptions) {cycles : Nat}
    (enough : ∀ feed ∈ feeds, feed.waiting.length ≤ cycles)
    (numbers : ∀ delta ∈ earlier, delta.time.isNaN = false) :
    ∃ report log, drain (fun _ => Consumer.handle) (cycles + 1)
        (subscriptions.map fun s => ⟨s, false⟩) (.gathered earlier) =
      ⟨.gathered (earlier ++ (rows cycles (feeds.map (·.waiting))).map (·.2)),
        .ok ((subscriptions.map Subscription.emptied).map fun s => ⟨s, false⟩, report), log⟩ := by
  -- Every cycle reads one row, and the first one that finds none is the last.
  induction cycles generalizing feeds subscriptions earlier with
  | zero =>
    have empty : ∀ feed ∈ feeds, feed.waiting = [] := fun feed member =>
      List.length_eq_zero_iff.mp (Nat.le_zero.mp (enough feed member))
    simpa [rows] using drain_idle fills empty 0 numbers
  | succ cycles ih =>
    by_cases empty : ∀ feed ∈ feeds, feed.waiting = []
    · have nothing : rows (cycles + 1) (feeds.map (·.waiting)) = [] :=
        rows_of_empty (by simpa using empty) _
      simpa [nothing] using drain_idle fills empty (cycles + 1) numbers
    · obtain ⟨report, log, ran⟩ := cycle_reads fills 0 numbers
      have found : feeds.any (·.waiting.head?.isSome) = true := by
        obtain ⟨feed, member, some⟩ : ∃ feed ∈ feeds, feed.waiting ≠ [] := by simpa using empty
        exact List.any_eq_true.mpr ⟨feed, member, List.isSome_head?.mpr some⟩
      have all : ∀ delta ∈ earlier ++ feeds.filterMap (·.waiting.head?), delta.time.isNaN = false := by
        intro delta member
        rcases List.mem_append.mp member with old | new
        · exact numbers delta old
        · obtain ⟨feed, there, first⟩ := List.mem_filterMap.mp new
          exact numbers_of_fills fills feed there delta (List.mem_of_head? first)
      have fewer : ∀ feed ∈ feeds.map advance, feed.waiting.length ≤ cycles := by
        intro next member
        obtain ⟨feed, there, rfl⟩ := List.mem_map.mp member
        have bound := enough feed there
        simp only [advance, List.length_tail]
        omega
      have advanced : List.Forall₂ Feed.Fills (feeds.map advance)
          (subscriptions.map Subscription.polled) :=
        List.forall₂_map_left_iff.mpr (List.forall₂_map_right_iff.mpr
          (fills.imp fun _ _ own => own.advance.1))
      obtain ⟨reports, logs, drained⟩ := ih advanced fewer all
      have read : (rows (cycles + 1) (feeds.map (·.waiting))).map (·.2) =
          feeds.filterMap (·.waiting.head?) ++
            (rows cycles ((feeds.map advance).map (·.waiting))).map (·.2) := by
        rw [rows, List.map_append, row_values]
        simp [Function.comp_def, advance, List.filterMap_map]
      rw [found] at ran
      rw [emptied_polled fills] at drained
      rw [drain, Action.bind_of_ok (by rw [ran]), ran]
      dsimp only
      rw [if_pos rfl, Action.bind_of_ok (by rw [drained]), drained, read, ← List.append_assoc earlier]
      exact ⟨report ++ reports, _, rfl⟩

theorem backlog_eq (fills : List.Forall₂ Feed.Fills feeds subscriptions) (polls : Nat) :
    subscriptions.foldl (fun polls s => polls + s.source.backlog) polls =
      polls + (feeds.map (·.waiting)).flatten.length := by
  induction fills generalizing polls with
  | nil => rfl
  | cons first others ih =>
    rw [List.foldl_cons, ih, first.ready.backlog_eq, first.length_waiting]
    simp [Nat.add_assoc]

theorem tick_reads {multiplexer : Multiplexer}
    (fills : List.Forall₂ Feed.Fills feeds multiplexer.subscriptions)
    (numbers : ∀ delta ∈ earlier, delta.time.isNaN = false) :
    (∃ report, (multiplexer.tick (fun _ => Consumer.handle) (.gathered earlier)).result =
      .ok ({ multiplexer with
        subscriptions := multiplexer.subscriptions.map Subscription.emptied }, report)) ∧
    (multiplexer.tick (fun _ => Consumer.handle) (.gathered earlier)).state =
      .gathered (earlier ++ (interleave (feeds.map (·.waiting))).map (·.2)) := by
  have counted : multiplexer.backlog = (feeds.map (·.waiting)).flatten.length := by
    rw [Multiplexer.backlog, backlog_eq fills, Nat.zero_add]
  have enough : ∀ feed ∈ feeds, feed.waiting.length ≤ multiplexer.backlog := by
    intro feed member
    rw [counted]
    exact (List.sublist_flatten_of_mem (List.mem_map_of_mem member)).length_le
  obtain ⟨report, log, ran⟩ := drain_reads fills enough numbers
  have registered : ((multiplexer.subscriptions.map Subscription.emptied).map fun s =>
      (⟨s, false⟩ : Seat)).map (·.subscription) =
        multiplexer.subscriptions.map Subscription.emptied := by
    simp [Function.comp_def]
  rw [Multiplexer.tick, interleave, ← counted]
  dsimp only
  rw [Action.bind_of_ok (by rw [ran]), ran]
  dsimp only
  rw [registered]
  exact ⟨⟨report, rfl⟩, rfl⟩

end Feed
end Telemetry
