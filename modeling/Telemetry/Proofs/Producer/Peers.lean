import Telemetry.Proofs.Producer.Journal
import Telemetry.Proofs.Producer.Refusal

/-! Which peers a configuration can be set up with, and under which names the elements of its ports are
published then. -/
namespace Telemetry

section
variable {widths : Table String Nat} {policy : UnconnectedPolicy} {port : String} {fault : Fault}

theorem UnconnectedPolicy.refusal_isConfig (refusal : policy.refusal port = some fault) :
    fault.isConfig := by
  cases policy with
  | warn => cases refusal
  | fail =>
    obtain rfl := Option.some.inj refusal
    rfl

theorem UnconnectedPolicy.refusal_eq_none : policy.refusal port = none ↔ policy = .warn := by
  cases policy <;> simp [refusal]

theorem ContinuousPort.refusal_isConfig {settings : ContinuousPort}
    (refused : settings.refusal widths policy port = some fault) : fault.isConfig := by
  unfold refusal at refused
  cases found : widths.find? port with
  | none =>
    rw [found] at refused
    exact UnconnectedPolicy.refusal_isConfig refused
  | some width =>
    simp only [found, Option.ite_none_left_eq_some] at refused
    cases chosen : settings.initial with
    | none | some initial =>
      rw [chosen] at refused
      obtain rfl := Option.some.inj refused.2
      rfl

theorem ContinuousPort.refusal_eq_none {settings : ContinuousPort} :
    settings.refusal widths policy port = none ↔
      (policy = .warn ∨ widths.contains port) ∧
        ∀ width ∈ widths.find? port, width = settings.keys.length := by
  unfold refusal Table.contains
  cases widths.find? port with
  | none => simp [UnconnectedPolicy.refusal_eq_none]
  | some width => cases settings.initial <;> simp

theorem EventPort.refusal_isConfig {bound : List String}
    (refused : refusal widths policy bound port = some fault) : fault.isConfig := by
  unfold refusal at refused
  split at refused
  · obtain rfl := Option.some.inj refused
    rfl
  · split at refused
    · exact UnconnectedPolicy.refusal_isConfig refused
    · cases refused

theorem EventPort.refusal_eq_none {bound : List String} (free : port ∉ bound) :
    refusal widths policy bound port = none ↔ policy = .warn ∨ widths.contains port := by
  unfold refusal Table.contains
  rw [if_neg free]
  cases widths.find? port with
  | none => simp [UnconnectedPolicy.refusal_eq_none]
  | some width => simp

end

namespace ProducerConfig
variable {config : ProducerConfig} {widths : Table String Nat}

/-- Every port has a peer or may go without, and every continuous port that has one has a key for each of
its elements. -/
def Suits (config : ProducerConfig) (widths : Table String Nat) : Prop :=
  (config.unconnected = .warn ∨
      ∀ port ∈ config.continuous.keys ++ config.events.keys, widths.contains port) ∧
    ∀ entry ∈ config.continuous.entries, ∀ width ∈ widths.find? entry.1, width = entry.2.keys.length

theorem refusal_isConfig {fault : Fault} (refused : config.refusal widths = some fault) :
    fault.isConfig := by
  rcases Option.or_eq_some_iff.mp refused with first | ⟨-, later⟩
  · obtain ⟨entry, -, own⟩ := List.exists_of_findSome?_eq_some first
    exact ContinuousPort.refusal_isConfig own
  · obtain ⟨port, -, own⟩ := List.exists_of_findSome?_eq_some later
    exact EventPort.refusal_isConfig own

theorem refusal_eq_none (apart : ∀ port ∈ config.continuous.keys, port ∉ config.events.keys) :
    config.refusal widths = none ↔ config.Suits widths := by
  have events : ∀ port ∈ config.events.keys,
      (EventPort.refusal widths config.unconnected config.continuous.keys port = none ↔
        config.unconnected = .warn ∨ widths.contains port) :=
    fun port member => EventPort.refusal_eq_none fun shared => apart port shared member
  rw [refusal, Option.or_eq_none_iff, List.findSome?_eq_none_iff, List.findSome?_eq_none_iff, Suits]
  constructor
  · rintro ⟨first, later⟩
    refine ⟨?_, fun entry member => (ContinuousPort.refusal_eq_none.mp (first entry member)).2⟩
    cases policy : config.unconnected with
    | warn => exact .inl rfl
    | fail =>
      refine .inr fun port member => ?_
      rcases List.mem_append.mp member with continuous | event
      · obtain ⟨entry, there, rfl⟩ := List.mem_map.mp continuous
        simpa [policy] using (ContinuousPort.refusal_eq_none.mp (first entry there)).1
      · simpa [policy] using (events port event).mp (later port event)
  · rintro ⟨peered, wide⟩
    constructor
    · intro entry member
      refine ContinuousPort.refusal_eq_none.mpr ⟨peered.imp_right fun all => ?_, wide entry member⟩
      exact all _ (List.mem_append_left _ (List.mem_map_of_mem member))
    · intro port member
      exact (events port member).mpr (peered.imp_right fun all => all _ (List.mem_append_right _ member))

end ProducerConfig

namespace Producer
variable {producer : Producer} {config : ProducerConfig} {routes : List (String × Route)}
  {ledger : Ledger}

/-- Whatever was called before, a step publishes every key once, and under it the element of the port
array that stands at the place of the key. -/
def Labelled (producer : Producer) (config : ProducerConfig) : Prop :=
  ∀ (calls : List Call) (now : Binary64),
    let node := producer.after calls
    let delta := node.dump now
    (step now node).state.sink = (Sink.send (producer.codec.encode delta) node.sink).state ∧
    (delta.continuous.map (·.1)).Nodup ∧
    ∀ entry ∈ config.continuous.entries, ∃ values, node.station.values? entry.1 = some values ∧
      values.length = entry.2.keys.length ∧
      ∀ (place : Nat) key value, entry.2.keys[place]? = some key → values[place]? = some value →
        (key, [⟨now, value⟩]) ∈ delta.continuous

theorem Follows.labelled (follows : producer.Follows config routes ledger)
    (valid : config.validate = .ok ()) : producer.Labelled config := by
  intro calls now node delta
  have reached := follows.after calls
  have dumped : delta.continuous = _ := congrArg Delta.continuous (reached.dump_eq now)
  rw [dumped]
  refine ⟨?_, ?_, ?_⟩
  · rw [← (follows.after_fixed calls).1]
    exact congrArg Producer.sink (step_eq (reached.station.beginTick now).1).2
  · rw [Ledger.delta, Ledger.samples_keys reached.widths]
    exact ProducerConfig.keyed_nodup valid
  · intro entry member
    have keyed : (entry.1, entry.2.keys) ∈ config.keyed := List.mem_map_of_mem member
    exact ⟨_, reached.station.values?_eq (List.mem_map_of_mem member), reached.widths _ keyed,
      fun place key value named held => Ledger.mem_samples keyed named held now⟩

theorem Follows.channels_size (follows : producer.Follows config routes ledger) :
    producer.channels.size = config.channelCount := by
  have events := congrArg List.length follows.grouped
  rw [List.length_map, List.length_map] at events
  rw [ChannelMap.size, ProducerConfig.channelCount, follows.keyed, follows.routed, List.length_zipIdx,
    List.length_map, events, ProducerConfig.keyed, List.flatMap_map, Table.values, List.flatMap_map]

/-- Setting up a producer from a valid configuration without shared port names succeeds with the peers
that suit it and with no others. What is wrong is wrong with the configuration. -/
theorem ofConfig_answers_iff {config : ProducerConfig} (valid : config.validate = .ok ())
    (apart : ∀ port ∈ config.continuous.keys, port ∉ config.events.keys) (widths : Table String Nat)
    (sink : Sink) :
    let outcome := ofConfig config sink (unwired config (.ofWidths widths))
    ((∃ producer, outcome.result = .ok producer) ↔ config.Suits widths) ∧
    (∀ failure, outcome.result = .error failure →
      ∃ fault, failure = .fault fault ∧ fault.isConfig) ∧
    ∀ producer, outcome.result = .ok producer →
      producer.channels.size = config.channelCount ∧ producer.Labelled config := by
  intro outcome
  have answers : outcome.result.map (fun _ => ()) = answerOf (config.refusal widths) :=
    ofConfig_answers valid widths sink
  rw [← ProducerConfig.refusal_eq_none apart]
  refine ⟨?_, ?_, ?_⟩
  · cases answer : outcome.result <;> cases refusal : config.refusal widths <;>
      simp_all [answerOf, Except.map]
  · intro failure failed
    rw [failed] at answers
    cases refusal : config.refusal widths with
    | none => simp [refusal, answerOf, Except.map] at answers
    | some fault =>
      rw [refusal] at answers
      exact ⟨fault, Except.error.inj answers, ProducerConfig.refusal_isConfig refusal⟩
  · intro producer built
    obtain ⟨routes, follows⟩ := Follows.ofConfig built
    exact ⟨follows.channels_size, follows.labelled valid⟩

/-- No port may go without a peer. -/
def tethered : ProducerConfig where
  timestep := .one
  unconnected := .fail
  continuous := { entries := [("pose", { keys := ["yaw", "pitch"] })] }
  events := { entries := [("spikes", { keys := 3 })] }

theorem tethered_answers :
    (∃ producer, (ofConfig tethered (.channel { address := "inproc://pose" })
        (unwired tethered (.ofWidths { entries := [("pose", 2), ("spikes", 5)] }))).result = .ok producer ∧
      producer.channels.size = 3 ∧ producer.Labelled tethered) ∧
    ¬∃ producer, (ofConfig tethered (.channel { address := "inproc://pose" })
        (unwired tethered (.ofWidths { entries := [("pose", 2)] }))).result = .ok producer := by
  have valid : tethered.validate = .ok () := by decide +kernel
  have apart : ∀ port ∈ tethered.continuous.keys, port ∉ tethered.events.keys := by decide
  obtain ⟨suited, -, published⟩ := ofConfig_answers_iff valid apart
    { entries := [("pose", 2), ("spikes", 5)] } (.channel { address := "inproc://pose" })
  obtain ⟨unsuited, -, -⟩ := ofConfig_answers_iff valid apart { entries := [("pose", 2)] }
    (.channel { address := "inproc://pose" })
  constructor
  · obtain ⟨producer, built⟩ := suited.mpr ⟨.inr (by decide), by decide⟩
    exact ⟨producer, built, published producer built⟩
  · rw [unsuited]
    rintro ⟨lenient | peered, -⟩
    · cases lenient
    · exact absurd (peered "spikes" (by decide)) (by decide)

end Producer
end Telemetry
