import Telemetry.Pipeline
import Telemetry.Proofs.Consumer
import Telemetry.Proofs.Producer.Journal

/-! A producer and a consumer joined by a channel, under any interleaving of calls. What the producer
publishes is either in the history of the consumer or waits for its next tick. -/
namespace Telemetry

namespace Producer
variable {producer : Producer} {config : ProducerConfig} {routes : List (String × Route)}
  {ledger : Ledger}

/-- The producer at a channel in which some payloads wait. -/
def through (queue : List Bytes) (producer : Producer) : Producer :=
  { producer with sink := .channel { address := Pipeline.address, queue } }

theorem perform_through (follows : producer.Follows config routes ledger) (call : Call)
    (queue other : List Bytes) :
    let answer := (call.perform (producer.through other)).result
    let sent := (ledger.ticks config [⟨call, answer⟩]).map fun tick =>
      producer.codec.encode (tick.delta config producer.slots)
    (call.perform (producer.through queue)).result = answer ∧
      ∃ next : Producer, (call.perform (producer.through other)).state = next.through (other ++ sent) ∧
        (call.perform (producer.through queue)).state = next.through (queue ++ sent) := by
  intro answer sent
  cases call with
  | write port values =>
    obtain ⟨after, answered⟩ := Call.perform_write port values (producer.through queue)
    obtain ⟨twin, same⟩ := Call.perform_write port values (producer.through other)
    have nothing : sent = [] := rfl
    rw [show answer = _ from same, after, answered, twin, nothing, List.append_nil, List.append_nil]
    exact ⟨rfl, (writeContinuous port values producer).state, rfl, rfl⟩
  | deliver port index time =>
    obtain ⟨after, answered⟩ := Call.perform_deliver port index time (producer.through queue)
    obtain ⟨twin, same⟩ := Call.perform_deliver port index time (producer.through other)
    have nothing : sent = [] := rfl
    rw [show answer = _ from same, after, answered, twin, nothing, List.append_nil, List.append_nil]
    exact ⟨rfl, (deliverEvent port index time producer).state, rfl, rfl⟩
  | step now =>
    obtain ⟨after, answered⟩ := Call.perform_step now (producer.through queue)
    obtain ⟨twin, same⟩ := Call.perform_step now (producer.through other)
    have began : ((producer.through queue).station.beginTick now).result = .ok () :=
      (follows.station.beginTick now).1
    have begun : ((producer.through other).station.beginTick now).result = .ok () := began
    have one : sent = [producer.payload now] := by
      rw [payload, follows.dump_eq]
      rfl
    refine ⟨?_, (Producer.step now (producer.through other)).state, ?_, ?_⟩
    · rw [show answer = _ from same, answered, (step_eq began).1, (step_eq begun).1]
      rfl
    · rw [twin, (step_eq begun).2, one]
      rfl
    · rw [after, (step_eq began).2, (step_eq begun).2, one]
      rfl

end Producer

namespace Pipeline

/-- A call of either side; a tick of the consumer comes at a clock reading. -/
inductive Call
  | produce (call : Producer.Call)
  | consume (now : Nat)
  deriving DecidableEq, Repr

def Call.perform : Call → Action Pipeline Unit
  | produce call => Pipeline.produce (do let _ ← call.perform)
  | consume now => Pipeline.consume (do let _ ← Consumer.tick now)

def after : List Call → Pipeline → Pipeline
  | [], pipeline => pipeline
  | call :: calls, pipeline => after calls (call.perform pipeline).state

def produced (calls : List Call) : List Producer.Call :=
  calls.filterMap fun
    | .produce call => some call
    | .consume _ => none

/-- The consumer has gathered some deltas and others wait for it, and the producer does what it would
do at a channel that nobody reads. -/
structure Carries (pipeline : Pipeline) (node : Producer) (reader : Codec) (read waiting : List Delta) :
    Prop where
  producer : pipeline.producer = node.through []
  unread : ∃ queue, node = node.through queue
  subscriptions : pipeline.consumer.multiplexer.subscriptions =
    [⟨.channel { address, queue := waiting.map node.codec.encode }, [], some reader⟩]
  history : pipeline.consumer.history = .gathered read
  keeps : Consumer.Keeping pipeline.consumer.schedule
  numbers : ∀ delta ∈ read, delta.time.isNaN = false
  decodes : ∀ delta ∈ waiting, reader.decode (node.codec.encode delta) = .ok delta

namespace Carries
variable {pipeline : Pipeline} {node : Producer} {reader : Codec} {read waiting : List Delta}
  {config : ProducerConfig} {routes : List (String × Route)} {ledger : Ledger}

theorem consume (carries : pipeline.Carries node reader read waiting) (now : Nat) :
    (Call.perform (.consume now) pipeline).state.Carries node reader (read ++ waiting) [] := by
  have decoded : List.Forall₂ (fun payload delta => reader.decode payload = .ok delta)
      (waiting.map node.codec.encode) waiting := by
    refine List.forall₂_map_left_iff.mpr (List.forall₂_same.mpr ?_)
    exact carries.decodes
  obtain ⟨history, subscriptions, keeps⟩ := Consumer.tick_history carries.subscriptions carries.keeps
    carries.history carries.numbers decoded now
  have ticked : (Call.perform (.consume now) pipeline).state =
      { pipeline with consumer := (Consumer.tick now pipeline.consumer).state } := by
    rw [Call.perform, Pipeline.consume, Action.within_run, Action.then_pure]
  rw [ticked]
  exact
    { producer := carries.producer
      unread := carries.unread
      subscriptions := subscriptions
      history := history
      keeps := keeps
      numbers := by
        intro delta member
        rcases List.mem_append.mp member with old | new
        · exact carries.numbers delta old
        · exact Delta.number_of_finite (Codec.decode_finite (carries.decodes delta new))
      decodes := by simp }

theorem produce (carries : pipeline.Carries node reader read waiting)
    (follows : node.Follows config routes ledger) (call : Producer.Call)
    (decodes : ∀ tick ∈ ledger.ticks config [⟨call, (call.perform node).result⟩],
      reader.decode (node.codec.encode (tick.delta config node.slots)) =
        .ok (tick.delta config node.slots)) :
    (Call.perform (.produce call) pipeline).state.Carries (call.perform node).state reader read
      (waiting ++ (ledger.ticks config [⟨call, (call.perform node).result⟩]).map fun tick =>
        tick.delta config node.slots) := by
  obtain ⟨queue, unread⟩ := carries.unread
  obtain ⟨-, next, after, twin⟩ := Producer.perform_through follows call [] queue
  rw [← unread] at after twin
  rw [← carries.producer, List.nil_append] at twin
  have codec := (follows.perform_fixed call).1
  have performed : (Call.perform (.produce call) pipeline).state =
      carry { pipeline with producer := (call.perform pipeline.producer).state } := by
    rw [Call.perform, Pipeline.produce, Action.within_run, Action.then_pure]
  have carried : carry { pipeline with producer := (call.perform pipeline.producer).state } =
      { producer := next.through []
        consumer :=
          { pipeline.consumer with
            multiplexer :=
              { pipeline.consumer.multiplexer with
                subscriptions :=
                  [⟨.channel { address, queue := waiting.map node.codec.encode ++
                    (ledger.ticks config [⟨call, (call.perform node).result⟩]).map fun tick =>
                      node.codec.encode (tick.delta config node.slots) }, [], some reader⟩] } } } := by
    rw [twin, carry, carries.subscriptions]
    rfl
  rw [performed, carried]
  exact
    { producer := by rw [after]; rfl
      unread := ⟨_, by rw [after]; rfl⟩
      subscriptions := by simp [codec, Function.comp_def]
      history := carries.history
      keeps := carries.keeps
      numbers := carries.numbers
      decodes := by
        intro delta member
        rw [codec]
        rcases List.mem_append.mp member with old | new
        · exact carries.decodes delta old
        · obtain ⟨tick, emitted, rfl⟩ := List.mem_map.mp new
          exact decodes tick emitted }

/-- Along any calls nothing is lost or doubled, and the order stays. -/
theorem after (carries : pipeline.Carries node reader read waiting)
    (follows : node.Follows config routes ledger)
    (calls : List Call)
    (decodes : ∀ tick ∈ ledger.ticks config (node.journal (produced calls)),
      reader.decode (node.codec.encode (tick.delta config node.slots)) =
        .ok (tick.delta config node.slots)) :
    ∃ done left, (pipeline.after calls).Carries (node.after (produced calls)) reader done left ∧
      done ++ left = read ++ waiting ++
        (ledger.ticks config (node.journal (produced calls))).map fun tick =>
          tick.delta config node.slots := by
  induction calls generalizing pipeline node read waiting ledger with
  | nil => exact ⟨read, waiting, carries, (List.append_nil _).symm⟩
  | cons call calls ih =>
    cases call with
    | consume now =>
      obtain ⟨done, left, final, whole⟩ := ih (carries.consume now) follows decodes
      exact ⟨done, left, final, by rw [whole, List.append_nil]; rfl⟩
    | produce call =>
      have split : ledger.ticks config (node.journal (produced (.produce call :: calls))) =
          ledger.ticks config [⟨call, (call.perform node).result⟩] ++
            (ledger.record config ⟨call, (call.perform node).result⟩).ticks config
              ((call.perform node).state.journal (produced calls)) :=
        Producer.ticks_cons ..
      obtain ⟨codec, slots⟩ := follows.perform_fixed call
      rw [split] at decodes ⊢
      obtain ⟨done, left, final, whole⟩ := ih
        (carries.produce follows call fun tick member => decodes tick (List.mem_append_left _ member))
        (follows.perform call) (by
          rw [codec, slots]
          exact fun tick member => decodes tick (List.mem_append_right _ member))
      refine ⟨done, left, final, ?_⟩
      rw [whole, slots]
      simp

end Carries
end Pipeline
end Telemetry
