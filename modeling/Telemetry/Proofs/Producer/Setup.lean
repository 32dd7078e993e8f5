import Telemetry.Proofs.Producer.Refusal

/-! What is left to go wrong once a configuration is valid. Without peers a producer is set up unless a
continuous port and an event port share a name: channel names and port names are two different
namespaces, and the validation looks at the channel names only. -/
namespace Telemetry.Producer

theorem findSome?_shared (bound names : List String) :
    names.findSome? (EventPort.refusal .empty .warn bound) =
      (names.find? (bound.contains ·)).map fun port => .config (.publishedTwice port) := by
  induction names with
  | nil => rfl
  | cons name names ih =>
    by_cases twice : name ∈ bound
    · simp [EventPort.refusal, twice]
    · simp [EventPort.refusal, UnconnectedPolicy.refusal, twice, ih]

/-- Without peers, and where that is accepted, a shared name is the only refusal. -/
theorem refusal_unpeered {config : ProducerConfig} (lenient : config.unconnected = .warn) :
    config.refusal .empty =
      (config.events.keys.find? (config.continuous.keys.contains ·)).map
        fun port => .config (.publishedTwice port) := by
  have continuous : (config.continuous.entries.findSome? fun entry =>
      entry.2.refusal .empty config.unconnected entry.1) = none := by
    simp [ContinuousPort.refusal, UnconnectedPolicy.refusal, lenient]
  rw [ProducerConfig.refusal, continuous, Option.none_or, lenient, findSome?_shared]

theorem wire_answers {config : ProducerConfig} (valid : config.validate = .ok ())
    (lenient : config.unconnected = .warn) :
    (Wiring.wire config (unwired config .unconnected)).result =
      match config.events.keys.find? (config.continuous.keys.contains ·) with
      | none => .ok ()
      | some port => .error (.fault (.config (.publishedTwice port))) := by
  have wired : (Wiring.wire config (unwired config .unconnected)).result = _ :=
    wire_result valid .empty
  rw [wired, refusal_unpeered lenient]
  cases config.events.keys.find? (config.continuous.keys.contains ·) <;> rfl

/-- Setting up a producer without peers from a valid configuration, whatever it publishes on: the first
event port that shares its name with a continuous port is refused, and nothing else can be. -/
theorem ofConfig_refuses_shared_port {config : ProducerConfig} (valid : config.validate = .ok ())
    (lenient : config.unconnected = .warn) (sink : Sink) :
    let outcome := ofConfig config sink (unwired config .unconnected)
    match config.events.keys.find? (config.continuous.keys.contains ·) with
    | none => ∃ producer, outcome.result = .ok producer
    | some port => outcome.result = .error (.fault (.config (.publishedTwice port))) := by
  have wired := wire_answers valid lenient
  obtain ⟨⟨codec, chosen⟩, -⟩ := config.validate_parts valid
  simp only [ofConfig, valid, chosen, Except.mapError, Action.settle_ok_then]
  have opening : (Action.log .info "Opening buffered ports..."
      (unwired config .unconnected)).result = .ok () := rfl
  rw [Action.bind_of_ok opening, Action.log_run]
  cases shared : config.events.keys.find? (config.continuous.keys.contains ·) with
  | none =>
    rw [shared] at wired
    dsimp only
    rw [Action.bind_of_ok wired]
    exact ⟨_, rfl⟩
  | some port =>
    rw [shared] at wired
    dsimp only
    rw [Action.bind_of_error wired]

/-- One name for a continuous port with another key and for an event port. -/
def sharedPort : ProducerConfig where
  timestep := .one
  continuous := { entries := [("reward", { keys := ["curr"] })] }
  events := { entries := [("reward", { keys := 1 })] }

theorem sharedPort_refused :
    sharedPort.validate = .ok () ∧ sharedPort.unconnected = .warn ∧
      (ofConfig sharedPort (.channel { address := "inproc://rewards" })
        (unwired sharedPort .unconnected)).result = .error (.fault (.config (.publishedTwice "reward"))) := by
  have valid : sharedPort.validate = .ok () := by decide +kernel
  exact ⟨valid, rfl, ofConfig_refuses_shared_port valid rfl _⟩

/-- A valid configuration need not be one that can be set up. -/
theorem validate_incomplete :
    ¬∀ (config : ProducerConfig) (sink : Sink), config.validate = .ok () →
      config.unconnected = .warn →
        ∃ producer, (ofConfig config sink (unwired config .unconnected)).result = .ok producer := by
  intro complete
  obtain ⟨producer, answer⟩ :=
    complete sharedPort (.channel { address := "inproc://rewards" }) (by decide +kernel) rfl
  have refused : (ofConfig sharedPort (.channel { address := "inproc://rewards" })
      (unwired sharedPort .unconnected)).result.toOption.isNone := by decide +kernel
  simp [answer, Except.toOption] at refused

end Telemetry.Producer
