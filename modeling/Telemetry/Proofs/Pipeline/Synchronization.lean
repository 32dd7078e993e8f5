import Telemetry.Proofs.Pipeline.Run
import Telemetry.Proofs.Pipeline.Series
import Telemetry.Proofs.Producer.ExactlyOnce

/-! A consumer that ticks has the series of the producer: every sample and every event of the current
epoch of its clock, once and in order, wherever the ticks of the consumer fall. -/
namespace Telemetry.Pipeline
variable {pipeline : Pipeline} {config : ProducerConfig} {directory : Directory} {reader : Option Codec}

theorem ofConfig_success
    (ok : (ofConfig config reader none (Producer.unwired config directory)).result = .ok pipeline) :
    (Producer.ofConfig config sink (Producer.unwired config directory)).result = .ok pipeline.producer ∧
      pipeline.consumer.multiplexer.subscriptions =
        [⟨.channel { address }, [], some (reader.getD pipeline.producer.codec)⟩] ∧
      pipeline.consumer.history = {} := by
  unfold ofConfig at ok
  obtain ⟨producer, built, rest, -⟩ := Action.bind_success ok
  obtain rfl := Except.ok.inj rest
  exact ⟨built, rfl, rfl⟩

def ticks (config : ProducerConfig) (pipeline : Pipeline) (calls : List Call) : List Tick :=
  (Ledger.ofPorts config.continuous.entries).ticks config (pipeline.producer.journal (produced calls))

theorem after_append_singleton (calls : List Call) (last : Call) (pipeline : Pipeline) :
    after (calls ++ [last]) pipeline = (last.perform (after calls pipeline)).state := by
  induction calls generalizing pipeline with
  | nil => rfl
  | cons call calls ih => exact ih (call.perform pipeline).state

theorem history_gathered
    (built : (ofConfig config reader none (Producer.unwired config directory)).result = .ok pipeline)
    {schedule : Schedule Job} (keeps : Consumer.Keeping schedule) (calls : List Call) (now : Nat)
    (faithful : ∀ tick ∈ ticks config pipeline calls,
      (reader.getD pipeline.producer.codec).decode
          (pipeline.producer.codec.encode (tick.delta config pipeline.producer.slots)) =
        .ok (tick.delta config pipeline.producer.slots)) :
    (after (calls ++ [.consume now])
      { pipeline with consumer := { pipeline.consumer with schedule } }).consumer.history =
      .gathered ((ticks config pipeline calls).map fun tick =>
        tick.delta config pipeline.producer.slots) := by
  obtain ⟨produces, subscriptions, history⟩ := ofConfig_success built
  obtain ⟨-, sent, -⟩ := Producer.ofConfig_success produces
  obtain ⟨routes, follows⟩ := Producer.Follows.ofConfig produces
  have quiet : pipeline.producer = pipeline.producer.through [] :=
    congrArg (fun sink => { pipeline.producer with sink }) sent
  have start : Carries { pipeline with consumer := { pipeline.consumer with schedule } }
      pipeline.producer (reader.getD pipeline.producer.codec) [] [] :=
    { producer := quiet
      unread := ⟨[], quiet⟩
      subscriptions := subscriptions
      history := history
      keeps := keeps
      numbers := by simp
      decodes := by simp }
  obtain ⟨done, left, carries, whole⟩ := start.after follows calls faithful
  rw [after_append_singleton, (carries.consume now).history, whole]
  rfl

/-- The consumer and the producer agree. What the producer accepted has a place. The current epoch
has the steps since the clock of the producer last went back. After a tick of the consumer, the
series of a key has the value of its element at every step of the epoch; the series of an event
buffer has the times that were accepted for it from the step before the epoch on; nothing else is
stored, and the restarts are the steps that went back. The history does not depend on where the
consumer ticked before. -/
theorem history_synchronized
    (built : (ofConfig config reader none (Producer.unwired config directory)).result = .ok pipeline)
    {schedule : Schedule Job} (keeps : Consumer.Keeping schedule) (calls : List Call) (now : Nat)
    (faithful : ∀ tick ∈ ticks config pipeline calls,
      (reader.getD pipeline.producer.codec).decode
          (pipeline.producer.codec.encode (tick.delta config pipeline.producer.slots)) =
        .ok (tick.delta config pipeline.producer.slots)) :
    let joined : Pipeline := { pipeline with consumer := { pipeline.consumer with schedule } }
    let history := (joined.after (calls ++ [.consume now])).consumer.history
    let current := epoch Tick.time (ticks config pipeline calls)
    (∀ entry ∈ pipeline.producer.journal (produced calls),
      entry.Placed config pipeline.producer.slots) ∧
    (∀ entry ∈ config.keyed, ∀ (place : Nat) (key : String), entry.2[place]? = some key →
      history.samplesOf key = current.map fun tick =>
        ⟨tick.time, (tick.ledger.values entry.1).getD place .zero⟩) ∧
    (∀ tick ∈ current, ∀ entry ∈ config.keyed,
      (tick.ledger.values entry.1).length = entry.2.length) ∧
    (∀ entry ∈ pipeline.producer.slots, ∀ slot < entry.2,
      history.timesOf ⟨entry.1, slot⟩ = current.flatMap fun tick => tick.ledger.pending entry.1 slot) ∧
    (∀ key ∉ config.keyed.flatMap (·.2), history.samplesOf key = []) ∧
    (∀ key : EventKey, (∀ count, (key.channel, count) ∈ pipeline.producer.slots → count ≤ key.index) →
      history.timesOf key = []) ∧
    history.restarts = descents ((ticks config pipeline calls).map (·.time)) ∧
    (∀ (others : List Call) (later : Nat), produced others = produced calls →
      (joined.after (others ++ [.consume later])).consumer.history = history) := by
  obtain ⟨produces, -, -⟩ := ofConfig_success built
  obtain ⟨valid, -⟩ := Producer.ofConfig_success produces
  obtain ⟨routes, follows⟩ := Producer.Follows.ofConfig produces
  have keyed := ProducerConfig.keyed_nodup valid
  have ports : (pipeline.producer.slots.map (·.1)).Nodup := by
    rw [follows.slots_names]
    exact config.events.keys_nodup
  intro joined history current
  have recent : ∀ tick ∈ current, tick ∈ ticks config pipeline calls :=
    (epoch_suffix Tick.time (ticks config pipeline calls)).subset
  have widths : ∀ tick ∈ current, ∀ entry ∈ config.keyed,
      (tick.ledger.values entry.1).length = entry.2.length :=
    fun tick member => follows.ticks_widths (produced calls) tick (recent tick member)
  have held : history = .gathered ((ticks config pipeline calls).map fun tick =>
      tick.delta config pipeline.producer.slots) := history_gathered built keeps calls now faithful
  have epochs : epoch Delta.time ((ticks config pipeline calls).map fun tick =>
      tick.delta config pipeline.producer.slots) =
      current.map fun tick => tick.delta config pipeline.producer.slots := epoch_map ..
  have samples : ∀ key, history.samplesOf key = current.flatMap fun tick =>
      Table.itemsOf key (tick.ledger.samples config.keyed tick.time) := by
    intro key
    rw [held, History.gathered_samplesOf, epochs, List.flatMap_map]
    rfl
  have times : ∀ key, history.timesOf key = current.flatMap fun tick =>
      Table.itemsOf key (tick.delta config pipeline.producer.slots).trains := by
    intro key
    rw [held, History.gathered_timesOf, epochs, List.flatMap_map]
  refine ⟨follows.journal_placed (produced calls), ?_, widths, ?_, ?_, ?_, ?_, ?_⟩
  · intro entry member place key there
    rw [samples, List.map_eq_flatMap]
    apply List.flatMap_congr
    intro tick step
    exact Ledger.itemsOf_samples keyed (widths tick step) member there tick.time
  · intro entry member slot bound
    rw [times]
    apply List.flatMap_congr
    intro tick _
    exact Ledger.itemsOf_trains config.keyed ports member bound tick.time
  · intro key absent
    rw [samples]
    refine List.flatMap_eq_nil_iff.mpr fun tick step => Table.itemsOf_eq_nil ?_
    rw [Ledger.samples_keys (widths tick step)]
    exact absent
  · intro key absent
    rw [times]
    apply List.flatMap_eq_nil_iff.mpr
    intro tick _
    exact Ledger.itemsOf_trains_eq_nil config.keyed absent tick.time
  · rw [held, History.gathered, List.map_map]
    rfl
  · intro others later same
    have steps : ticks config pipeline others = ticks config pipeline calls := by
      rw [ticks, same, ticks]
    rw [held, ← steps]
    exact history_gathered built keeps others later (steps ▸ faithful)

/-- The clock goes back once, and the consumer comes between two steps. -/
def rewound : List Call :=
  [.produce (.write "pose" [.one, .zero]), .produce (.deliver "spikes" 2 .one),
    .produce (.step (.ofNat 5)), .consume 0, .produce (.deliver "spikes" 1 .zero),
    .produce (.step (.ofNat 4)), .produce (.deliver "spikes" 0 (.ofNat 6)),
    .produce (.step (.ofNat 4))]

def drawn : Schedule Job := [{ name := "summary", job := .redraw .one, interval := 1 }]

theorem rewound_synchronized :
    ∃ pipeline, (ofConfig Producer.sample none none
        (Producer.unwired Producer.sample .unconnected)).result = .ok pipeline ∧
      let joined : Pipeline := { pipeline with consumer := { pipeline.consumer with schedule := drawn } }
      let history := (joined.after (rewound ++ [.consume 3])).consumer.history
      history.samplesOf "x" = [⟨.ofNat 4, .one⟩, ⟨.ofNat 4, .one⟩] ∧
      history.timesOf ⟨"spikes", 0⟩ = [.zero, .ofNat 6] ∧ history.restarts = 1 := by
  have keeps : Consumer.Keeping drawn := by
    intro task member retention
    obtain rfl := List.mem_singleton.mp member
    simp
  have decoded : ((ofConfig Producer.sample none none
      (Producer.unwired Producer.sample .unconnected)).result.toOption.map fun pipeline =>
        let slots := pipeline.producer.slots
        (ticks Producer.sample pipeline rewound).all fun tick =>
          pipeline.producer.codec.decode (pipeline.producer.codec.encode
            (tick.delta Producer.sample slots)) = .ok (tick.delta Producer.sample slots)) =
      some true := by decide +kernel
  have shown : ((ofConfig Producer.sample none none
      (Producer.unwired Producer.sample .unconnected)).result.toOption.map fun pipeline =>
        (pipeline.producer.slots, descents ((ticks Producer.sample pipeline rewound).map (·.time)))) =
      some ([("spikes", 2)], 1) := by decide +kernel
  have recent : ((ofConfig Producer.sample none none
      (Producer.unwired Producer.sample .unconnected)).result.toOption.map fun pipeline =>
        (epoch Tick.time (ticks Producer.sample pipeline rewound)).map fun tick =>
          (tick.time, tick.ledger.values "pose", tick.ledger.pending "spikes" 0)) =
      some [(.ofNat 4, [.one, .zero], [.zero]), (.ofNat 4, [.one, .zero], [.ofNat 6])] := by
    decide +kernel
  cases built : (ofConfig Producer.sample none none
      (Producer.unwired Producer.sample .unconnected)).result with
  | error failure => simp [built, Except.toOption] at decoded
  | ok pipeline =>
    rw [built] at decoded shown recent
    have faithful := fun tick member =>
      of_decide_eq_true (List.all_eq_true.mp (Option.some.inj decoded) tick member)
    obtain ⟨-, samples, -, times, -, -, restarts, -⟩ :=
      history_synchronized built keeps rewound 3 faithful
    obtain ⟨slots, back⟩ := Prod.mk.inj (Option.some.inj shown)
    have steps := Option.some.inj recent
    have pose := samples ("pose", ["x", "y"]) (by decide) 0 "x" rfl
    have spikes := times ("spikes", 2) (by rw [slots]; simp) 0 (by decide)
    have values := congrArg (List.map fun step => (⟨step.1, step.2.1.getD 0 .zero⟩ : Sample)) steps
    have waits := congrArg (List.flatMap fun step => step.2.2) steps
    simp only [List.map_map, Function.comp_def, List.map_cons, List.map_nil, List.getD_cons_zero]
      at values
    simp only [List.flatMap_map, List.flatMap_cons, List.flatMap_nil, List.cons_append,
      List.nil_append] at waits
    refine ⟨pipeline, rfl, ?_, ?_, ?_⟩
    · rw [pose, values]
    · rw [spikes, waits]
    · rw [restarts, back]

end Telemetry.Pipeline
