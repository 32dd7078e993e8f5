import Telemetry.Proofs.Consumer.Reading

/-! Several producers, one history. The history has a single clock, so a producer that lags behind
the others looks like one that started again; when none lags, nothing is lost. -/
namespace Telemetry

/-- No series has items of both deltas. -/
def Delta.Apart (delta foreign : Delta) : Prop :=
  (∀ key ∈ delta.continuous.map (·.1), key ∉ foreign.continuous.map (·.1)) ∧
    ∀ key ∈ delta.trains.map (·.1), key ∉ foreign.trains.map (·.1)

instance (delta foreign : Delta) : Decidable (delta.Apart foreign) :=
  inferInstanceAs (Decidable (_ ∧ _))

theorem itemsOf_own {κ α : Type} [DecidableEq κ] (pairs : Delta → List (κ × List α))
    {order : List (Nat × Delta)} {index : Nat} {key : κ}
    (foreign : ∀ item ∈ order, item.1 ≠ index → key ∉ (pairs item.2).map (·.1)) :
    (order.flatMap fun item => Table.itemsOf key (pairs item.2)) =
      ((order.filter (·.1 = index)).map (·.2)).flatMap fun delta =>
        Table.itemsOf key (pairs delta) := by
  induction order with
  | nil => rfl
  | cons item order ih =>
    obtain ⟨head, others⟩ := List.forall_mem_cons.mp foreign
    by_cases own : item.1 = index
    · simp [own, ih others]
    · simp [own, Table.itemsOf_eq_nil (head own), ih others]

namespace Consumer

/-- The deltas that arrive at the subscription with an index. -/
def arrived (subscriptions : List Subscription) (index : Nat) : List Step → List Delta
  | [] => []
  | .arrive place message :: steps =>
    (if place = index then (subscriptions[place]?.bind (·.delta? message)).toList else []) ++
      arrived subscriptions index steps
  | .tick _ :: steps => arrived subscriptions index steps

/-- What the ticks of a run read from some subscriptions, in their order. -/
def reading (subscriptions : List Subscription) (steps : List Step) : List (Nat × Delta) :=
  readOrder steps (subscriptions.map Feed.idle)

/-- Each subscription listens and has a producer of its own, whose clock only advances and whose
keys no other producer uses. -/
structure Served (subscriptions : List Subscription) (steps : List Step) : Prop where
  listening : ∀ subscription ∈ subscriptions,
    subscription.source.Takes subscription.topic ∧ subscription.source.waiting = []
  fed : ∀ step ∈ steps, step.Fed subscriptions
  advancing : ∀ index < subscriptions.length,
    (arrived subscriptions index steps).Pairwise fun earlier later => earlier.time < later.time
  apart : ∀ index < subscriptions.length, ∀ other < subscriptions.length, index ≠ other →
    ∀ delta ∈ arrived subscriptions index steps, ∀ foreign ∈ arrived subscriptions other steps,
      delta.Apart foreign

variable {subscriptions : List Subscription} {steps : List Step}

theorem arrived_beyond {index : Nat} (beyond : subscriptions.length ≤ index) (steps : List Step) :
    arrived subscriptions index steps = [] := by
  induction steps with
  | nil => rfl
  | cons step steps ih =>
    cases step with
    | arrive place message =>
      have none : (if place = index then (subscriptions[place]?.bind (·.delta? message)).toList
          else []) = [] := by
        split
        · rename_i same
          simp [same, List.getElem?_eq_none beyond]
        · rfl
      rw [arrived, none, ih, List.nil_append]
    | tick now => exact ih

theorem Served.pairwise (served : Served subscriptions steps) (index : Nat) :
    (arrived subscriptions index steps).Pairwise fun earlier later => earlier.time < later.time := by
  by_cases inside : index < subscriptions.length
  · exact served.advancing index inside
  · rw [arrived_beyond (Nat.not_lt.mp inside)]
    exact List.Pairwise.nil

theorem Served.disjoint (served : Served subscriptions steps) {index other : Nat}
    (different : index ≠ other) {delta foreign : Delta}
    (mine : delta ∈ arrived subscriptions index steps)
    (theirs : foreign ∈ arrived subscriptions other steps) : delta.Apart foreign := by
  have inside {place : Nat} {item : Delta} (member : item ∈ arrived subscriptions place steps) :
      place < subscriptions.length := by
    by_contra beyond
    rw [arrived_beyond (Nat.not_lt.mp beyond)] at member
    cases member
  exact served.apart index (inside mine) other (inside theirs) different delta mine foreign theirs

theorem nothing_waits {feeds : List Feed} (empty : ∀ feed ∈ feeds, feed.waiting = []) (index : Nat) :
    (feeds.map (·.waiting))[index]?.getD [] = [] := by
  cases there : feeds[index]? with
  | none => simp [there]
  | some feed => simp [there, empty feed (List.mem_of_getElem? there)]

/-- A last tick leaves nothing unread, and reads the deltas of each subscription in their order. -/
theorem readOrder_filter (steps : List Step) (now : Nat) (feeds : List Feed) (index : Nat) :
    ((readOrder (steps ++ [.tick now]) feeds).filter (·.1 = index)).map (·.2) =
      ((feeds.map (·.waiting))[index]?.getD []) ++
        arrived (feeds.map (·.subscription)) index steps := by
  induction steps generalizing feeds with
  | nil =>
    simp [readOrder, arrived, interleave_filter, Function.comp_def]
  | cons step steps ih =>
    cases step with
    | arrive place message =>
      rw [List.cons_append, readOrder, ih, Feed.subscription_receive, arrived]
      by_cases same : place = index
      · subst same
        cases there : feeds[place]? with
        | none => simp [there]
        | some feed => simp [there, Feed.receive]
      · simp [same, List.getElem?_modify_ne]
    | tick now =>
      -- What waited is read by this tick, so nothing of it is left for the rest of the run.
      have empty : ∀ feed ∈ feeds.map Feed.clear, feed.waiting = [] := by simp [Feed.clear]
      have cleared := nothing_waits empty index
      rw [List.cons_append, readOrder, List.filter_append, List.map_append, interleave_filter, ih,
        cleared, Feed.subscription_clear, arrived]
      simp [Function.comp_def]

theorem reading_filter (subscriptions : List Subscription) (steps : List Step) (now index : Nat) :
    ((reading subscriptions (steps ++ [.tick now])).filter (·.1 = index)).map (·.2) =
      arrived subscriptions index steps := by
  have empty : ∀ feed ∈ subscriptions.map Feed.idle, feed.waiting = [] := by simp [Feed.idle]
  have split := readOrder_filter steps now (subscriptions.map Feed.idle) index
  rwa [nothing_waits empty index, List.nil_append, Feed.subscription_idle] at split

theorem Served.history {multiplexer : Multiplexer} {schedule : Schedule Job}
    (served : Served multiplexer.subscriptions steps) (keeps : Keeping schedule) (now : Nat) :
    (after (steps ++ [.tick now]) { multiplexer, schedule }).history =
      .gathered ((reading multiplexer.subscriptions (steps ++ [.tick now])).map (·.2)) := by
  have fed : ∀ step ∈ steps ++ [.tick now],
      step.Fed ((multiplexer.subscriptions.map Feed.idle).map (·.subscription)) := by
    rw [Feed.subscription_idle]
    exact List.forall_mem_append.mpr ⟨served.fed, by simp [Step.Fed]⟩
  exact (Attends.start served.listening keeps).after fed

theorem Served.foreign (served : Served subscriptions steps) {index : Nat} {delta : Delta}
    (mine : delta ∈ arrived subscriptions index steps) (now : Nat) {item : Nat × Delta}
    (read : item ∈ reading subscriptions (steps ++ [.tick now])) (different : item.1 ≠ index) :
    delta.Apart item.2 := by
  have theirs : item.2 ∈ arrived subscriptions item.1 steps := by
    rw [← reading_filter subscriptions steps now]
    exact List.mem_map_of_mem (List.mem_filter.mpr ⟨read, by simp⟩)
  exact served.disjoint different.symm mine theirs

theorem pairwise_of_filter {order : List (Nat × Delta)}
    (advancing : ∀ index, ((order.filter (·.1 = index)).map (·.2)).Pairwise
      fun earlier later => earlier.time < later.time) :
    order.Pairwise fun earlier later => later.2.time < earlier.2.time → earlier.1 ≠ later.1 := by
  rw [List.pairwise_iff_forall_sublist]
  intro earlier later inside back same
  -- Both would be items of one subscription, and those are in the order of time.
  have own := (inside.filter (·.1 = later.1)).map (·.2)
  simp only [same, decide_true, List.filter_cons_of_pos, List.filter_nil, List.map_cons,
    List.map_nil] at own
  have forth := List.pairwise_iff_forall_sublist.mp (advancing later.1) own
  exact Binary64.not_lt_of_le (Binary64.le_of_lt forth) back

/-- The deltas of every subscription are read in their order into one history. A restart is a delta
whose time lies below that of the delta read just before it, and that one is always from another
subscription. What is stored is what was read since the last restart, so as long as no time goes
back in the order of reading there is none, and all that arrived at any subscription is stored. -/
theorem history_follows_reading {multiplexer : Multiplexer} {schedule : Schedule Job}
    (served : Served multiplexer.subscriptions steps) (keeps : Keeping schedule) (now : Nat) :
    let history := (after (steps ++ [.tick now]) { multiplexer, schedule }).history
    let order := reading multiplexer.subscriptions (steps ++ [.tick now])
    let own := fun index => arrived multiplexer.subscriptions index steps
    (∀ index, (order.filter (·.1 = index)).map (·.2) = own index) ∧
    history.messages = order.length ∧
    history.restarts = descents (order.map (·.2.time)) ∧
    order.Pairwise (fun earlier later => later.2.time < earlier.2.time → earlier.1 ≠ later.1) ∧
    (∀ key, history.samplesOf key =
      (epoch (·.2.time) order).flatMap fun item => Table.itemsOf key item.2.continuous) ∧
    (∀ key, history.timesOf key =
      (epoch (·.2.time) order).flatMap fun item => Table.itemsOf key item.2.trains) ∧
    (Steady (·.2.time) order → history.restarts = 0 ∧ ∀ index, ∀ delta ∈ own index,
      (∀ key ∈ delta.continuous.map (·.1), history.samplesOf key =
        (own index).flatMap fun delta => Table.itemsOf key delta.continuous) ∧
      ∀ key ∈ delta.trains.map (·.1), history.timesOf key =
        (own index).flatMap fun delta => Table.itemsOf key delta.trains) := by
  intro history order own
  have held : history = .gathered (order.map (·.2)) := served.history keeps now
  have read : ∀ index, (order.filter (·.1 = index)).map (·.2) = own index :=
    reading_filter multiplexer.subscriptions steps now
  have times : (order.map (·.2)).map Delta.time = order.map (·.2.time) := List.map_map ..
  have current : epoch Delta.time (order.map (·.2)) = (epoch (·.2.time) order).map (·.2) := epoch_map ..
  have samples : ∀ key, history.samplesOf key =
      (epoch (·.2.time) order).flatMap fun item => Table.itemsOf key item.2.continuous := by
    intro key
    rw [held, History.gathered_samplesOf, current, List.flatMap_map]
  have events : ∀ key, history.timesOf key =
      (epoch (·.2.time) order).flatMap fun item => Table.itemsOf key item.2.trains := by
    intro key
    rw [held, History.gathered_timesOf, current, List.flatMap_map]
  have restarts : history.restarts = descents (order.map (·.2.time)) := by
    rw [held, History.gathered, times]
  have messages : history.messages = order.length := by
    rw [held, History.gathered, List.length_map]
  have back : order.Pairwise fun earlier later =>
      later.2.time < earlier.2.time → earlier.1 ≠ later.1 := by
    refine pairwise_of_filter fun index => ?_
    rw [read]
    exact served.pairwise index
  refine ⟨read, messages, restarts, back, samples, events, fun steady => ?_⟩
  refine ⟨restarts.trans (descents_of_steady steady), fun index delta member => ⟨?_, ?_⟩⟩
  · intro key used
    rw [samples, epoch_of_steady steady, ← read index]
    exact itemsOf_own Delta.continuous fun item there different =>
      (served.foreign member now there different).1 key used
  · intro key used
    rw [events, epoch_of_steady steady, ← read index]
    exact itemsOf_own Delta.trains fun item there different =>
      (served.foreign member now there different).2 key used

/-- A channel and a socket, with codecs of their own. -/
def stereo : Multiplexer where
  subscriptions :=
    [⟨.channel { address := "inproc://left" }, Bytes.ofText "left", some .json⟩,
      ⟨.socket { endpoint := "tcp://right:5555", topic := "r" }, Bytes.ofText "right", some .msgpack⟩]

def beat (name : String) (time : Nat) : Delta where
  time := .ofNat time
  continuous := [(name, [⟨.ofNat time, .one⟩])]
  events := some [(name, [(0, [.ofNat time])])]

def left (time : Nat) : Step :=
  .arrive 0 (Bytes.ofText "left" ++ Codec.json.encode (beat "x" time))

def right (time : Nat) : Step :=
  .arrive 1 (Bytes.ofText "right" ++ Codec.msgpack.encode (beat "y" time))

/-- What arrives out of order can be read in order. -/
theorem stereo_follows_reading :
    let steps := [right 4, left 3, .tick 0, left 5]
    let schedule : Schedule Job := [{ name := "summary", job := .redraw .one, interval := 1 }]
    let history := (after (steps ++ [.tick 9]) { multiplexer := stereo, schedule }).history
    Served stereo.subscriptions steps ∧ Keeping schedule ∧ history.restarts = 0 ∧
      history.samplesOf "x" = [⟨.ofNat 3, .one⟩, ⟨.ofNat 5, .one⟩] ∧
      history.timesOf ⟨"y", 0⟩ = [.ofNat 4] := by
  intro steps schedule history
  have served : Served stereo.subscriptions steps := {
    listening := by decide +kernel
    fed := by decide +kernel
    advancing := by decide +kernel
    apart := by decide +kernel }
  have keeps : Keeping schedule := by
    intro task member retention
    obtain rfl := List.mem_singleton.mp member
    nofun
  obtain ⟨-, -, -, -, -, -, kept⟩ := history_follows_reading served keeps 9
  obtain ⟨restarts, stored⟩ := kept (by decide +kernel)
  have samples := (stored 0 (beat "x" 3) (by decide +kernel)).1 "x" (by decide)
  have times := (stored 1 (beat "y" 4) (by decide +kernel)).2 ⟨"y", 0⟩ (by decide)
  exact ⟨served, keeps, restarts, samples.trans (by decide +kernel), times.trans (by decide +kernel)⟩

/-- A producer that lags behind wipes out what the other one sent. -/
theorem lagging_erases :
    let steps := [left 5, right 3]
    let history := (after (steps ++ [.tick 9]) { multiplexer := stereo }).history
    Served stereo.subscriptions steps ∧ Keeping [] ∧
      beat "x" 5 ∈ arrived stereo.subscriptions 0 steps ∧
      history.restarts = 1 ∧ history.samplesOf "x" = [] ∧ history.timesOf ⟨"x", 0⟩ = [] := by
  intro steps history
  have served : Served stereo.subscriptions steps := {
    listening := by decide +kernel
    fed := by decide +kernel
    advancing := by decide +kernel
    apart := by decide +kernel }
  have keeps : Keeping [] := nofun
  exact ⟨served, keeps, by decide +kernel, by decide +kernel, by decide +kernel, by decide +kernel⟩

end Consumer
end Telemetry
