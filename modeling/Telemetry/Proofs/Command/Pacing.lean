import Telemetry.Command.Monitor
import Telemetry.Command.Synthetic
import Telemetry.Proofs.Action
import Telemetry.Proofs.Config
import Telemetry.Proofs.Duration

/-! Time settings that stop a command. A timestep is checked to be finite and positive, and the duration of a
monitor to be finite and not negative; what has no duration in whole nanoseconds passes these checks and
ends the command later. -/
namespace Telemetry.Command

namespace Terminal
variable {α β σ : Type}

/-- The lines printed before stay. -/
def Grows (action : Action Terminal α) : Prop :=
  ∀ terminal, ∃ lines, (action terminal).state.output = terminal.output ++ lines

namespace Grows

theorem of_same {action : Action Terminal α}
    (same : ∀ terminal, (action terminal).state.output = terminal.output) : Grows action :=
  fun terminal => ⟨[], (same terminal).trans (List.append_nil _).symm⟩

theorem pure (a : α) : Grows (pure a : Action Terminal α) := .of_same fun _ => rfl

theorem log (level : Level) (text : String) : Grows (Action.log level text : Action Terminal Unit) :=
  .of_same fun _ => rfl

theorem print (line : String) : Grows (print line) := fun _ => ⟨[line], rfl⟩

theorem bind {first : Action Terminal α} {next : α → Action Terminal β} (begins : Grows first)
    (goes : ∀ a, Grows (next a)) : Grows (first >>= next) := by
  intro terminal
  obtain ⟨lines, printed⟩ := begins terminal
  cases answer : (first terminal).result with
  | error failure => exact ⟨lines, by rw [Action.bind_of_error answer, printed]⟩
  | ok a =>
    obtain ⟨more, later⟩ := goes a (first terminal).state
    exact ⟨lines ++ more, by rw [Action.bind_of_ok answer, later, printed, List.append_assoc]⟩

/-- A line stands before all that is printed after it. -/
theorem after_line {next : Unit → Action Terminal α} (goes : Grows (next ())) (line : String)
    (terminal : Terminal) :
    ∃ lines, ((Terminal.print line >>= next) terminal).state.output = terminal.output ++ line :: lines := by
  have printed : (Terminal.print line terminal).result = .ok () := rfl
  obtain ⟨lines, later⟩ := goes (Terminal.print line terminal).state
  rw [Action.bind_of_ok printed]
  exact ⟨lines, later.trans (List.append_assoc _ [line] lines)⟩

theorem report (fault : Fault) : Grows (report fault) := .of_same fun _ => rfl

theorem inside (action : Action σ α) (state : σ) : Grows (inside action state) := by
  refine .of_same fun terminal => ?_
  rw [Terminal.inside, Action.logAll_then]
  cases (action state).result with
  | ok a => rfl
  | error failure => cases failure <;> rfl

theorem writeStats (host : Host) (path : Option String) (value : Json.Value) (code : Nat) :
    Grows (writeStats host path value code) := by
  refine .of_same fun terminal => ?_
  cases path with
  | none => rfl
  | some path =>
    simp only [Terminal.writeStats]
    cases host.fileWrite path <;> rfl

end Grows

theorem inside_of_ok {action : Action σ α} {state : σ} {a : α} (ok : (action state).result = .ok a)
    (terminal : Terminal) :
    Terminal.inside action state terminal =
      ⟨terminal, .ok ((action state).state, .ok a), (action state).log ++ []⟩ := by
  rw [inside, Action.logAll_then, ok]
  rfl

end Terminal

theorem pacing_beyond {timestep : Binary64} (positive : Binary64.zero < timestep)
    (beyond : 2 ^ 64 ≤ timestep.value) : pacing timestep = .error .durationTooLong := by
  rw [pacing, Duration.ofSeconds_beyond (Binary64.le_of_lt positive) beyond]
  rfl

section
variable {timestep : Binary64} (finite : timestep.isFinite = true) (positive : Binary64.zero < timestep)
include finite positive

theorem pacing_tiny (tiny : timestep.value * 10 ^ 9 ≤ 1 / 2) : pacing timestep = .error .zeroPeriod := by
  have nonneg := Binary64.le_of_lt positive
  have below : timestep.value < 2 ^ 64 := by linarith
  obtain ⟨period, converted, -, none⟩ := Duration.ofSeconds_below finite nonneg below
  obtain rfl := none.mpr tiny
  rw [pacing, converted]
  rfl

theorem pacing_between (above : 1 / 2 < timestep.value * 10 ^ 9) (below : timestep.value < 2 ^ 64) :
    ∃ period, pacing timestep = .ok period ∧ period ≠ .zero ∧
      |(period.nanoseconds : ℚ) - timestep.value * 10 ^ 9| ≤ 1 / 2 := by
  have nonneg := Binary64.le_of_lt positive
  obtain ⟨period, converted, close, none⟩ := Duration.ofSeconds_below finite nonneg below
  have some : period ≠ .zero := fun zero => not_le.mpr above (none.mp zero)
  refine ⟨period, ?_, some, close⟩
  rw [pacing, converted]
  simp [bind, Except.bind, some, pure, Except.pure]

theorem pacing_success {period : Duration} (ok : pacing timestep = .ok period) :
    (1 / 2 < timestep.value * 10 ^ 9 ∧ timestep.value < 2 ^ 64) ∧
      |(period.nanoseconds : ℚ) - timestep.value * 10 ^ 9| ≤ 1 / 2 := by
  have above : 1 / 2 < timestep.value * 10 ^ 9 := by
    refine not_le.mp fun tiny => ?_
    exact nomatch ok.symm.trans (pacing_tiny finite positive tiny)
  have below : timestep.value < 2 ^ 64 := by
    refine not_le.mp fun beyond => ?_
    exact nomatch ok.symm.trans (pacing_beyond positive beyond)
  obtain ⟨other, paced, -, close⟩ := pacing_between finite positive above below
  obtain rfl := Except.ok.inj (ok.symm.trans paced)
  exact ⟨⟨above, below⟩, close⟩

end

section Synthetic
variable {host : Host} {config : ProducerConfig} {producer : Producer}
  (opened : (openProducer host config (Producer.unwired config .unconnected)).result = .ok producer)
include opened

/-- Without a pacing nothing is printed, also where no tick would wait for it. -/
theorem runSynthetic_stops {broken : Breach} (stuck : pacing config.timestep = .error broken)
    (arguments : SyntheticArguments) (terminal : Terminal) :
    (runSynthetic host arguments config terminal).result = .error (.breach broken) ∧
      (runSynthetic host arguments config terminal).state = terminal := by
  have started := Terminal.inside_of_ok opened terminal
  rw [runSynthetic, Action.bind_of_ok (congrArg Outcome.result started), started]
  simp only [stuck, Except.mapError, Action.settle_error_then, and_self]

theorem runSynthetic_passes {period : Duration} (paced : pacing config.timestep = .ok period)
    (arguments : SyntheticArguments) (terminal : Terminal) :
    ∃ lines, (runSynthetic host arguments config terminal).state.output =
      terminal.output ++ s!"Publishing synthetic telemetry on {producer.sink.address}" :: lines := by
  have started := Terminal.inside_of_ok opened terminal
  rw [runSynthetic, Action.bind_of_ok (congrArg Outcome.result started), started]
  simp only [paced, Except.mapError, Action.settle_ok_then]
  refine Terminal.Grows.after_line (.bind (.inside _ _) fun ran => ?_) _ _
  -- Both the run and the closing of its publisher may fail, and the command goes on either way.
  have ends (stats : ProducerStats) (code : Nat) : Terminal.Grows (do
      Terminal.print (publishedLine stats)
      Terminal.writeStats host arguments.statsOut (totalsToJson stats) code) :=
    .bind (.print _) fun _ => .writeStats _ _ _ _
  cases ran.2 with
  | ok =>
    refine .bind (.pure _) fun code => .bind (.inside _ _) fun closed => ?_
    cases closed.2 with
    | ok => exact ends _ _
    | error fault => exact .bind (.log _ _) fun _ => ends _ _
  | error fault =>
    refine .bind (.report _) fun code => .bind (.inside _ _) fun closed => ?_
    cases closed.2 with
    | ok => exact ends _ _
    | error fault => exact .bind (.log _ _) fun _ => ends _ _

end Synthetic

theorem runMonitor_stops {host : Host} {config : ConsumerConfig}
    (watched : (watch host config {}).result = .ok ()) {arguments : MonitorArguments}
    {seconds : Binary64} (given : arguments.duration = some seconds) {broken : Breach}
    (stuck : Duration.ofSeconds seconds = .error broken) (terminal : Terminal) :
    (runMonitor host arguments config terminal).result = .error (.breach broken) ∧
      (runMonitor host arguments config terminal).state = terminal := by
  have started := Terminal.inside_of_ok watched terminal
  rw [runMonitor, Action.bind_of_ok (congrArg Outcome.result started), started]
  simp only [given, stuck, Except.mapError, Action.settle_error_then, and_self]

/-- Time settings that pass their checks. A timestep has a pacing exactly when it is longer than half a
nanosecond and below the limit of a duration; otherwise the command stops before it prints anything, paced
or not. Seconds have a duration exactly when they are below the limit, and a monitor stops when they are
not. Both are off by half a nanosecond at most. -/
theorem checked_times_stop {config : ProducerConfig} (valid : config.validate = .ok ()) {seconds : Binary64}
    (accepted : acceptsDuration seconds = true) :
    let step := config.timestep.value
    ((∃ period, pacing config.timestep = .ok period) ↔ 1 / 2 < step * 10 ^ 9 ∧ step < 2 ^ 64) ∧
    (∀ period, pacing config.timestep = .ok period →
      |(period.nanoseconds : ℚ) - step * 10 ^ 9| ≤ 1 / 2) ∧
    ((∃ span, Duration.ofSeconds seconds = .ok span) ↔ seconds.value < 2 ^ 64) ∧
    (∀ span, Duration.ofSeconds seconds = .ok span →
      |(span.nanoseconds : ℚ) - seconds.value * 10 ^ 9| ≤ 1 / 2) ∧
    (∀ (host : Host) (producer : Producer),
      (openProducer host config (Producer.unwired config .unconnected)).result = .ok producer →
        ∀ (arguments : SyntheticArguments) (terminal : Terminal),
          let outcome := runSynthetic host arguments config terminal
          (step * 10 ^ 9 ≤ 1 / 2 →
            outcome.result = .error (.breach .zeroPeriod) ∧ outcome.state = terminal) ∧
          (2 ^ 64 ≤ step →
            outcome.result = .error (.breach .durationTooLong) ∧ outcome.state = terminal) ∧
          (1 / 2 < step * 10 ^ 9 → step < 2 ^ 64 → ∃ lines, outcome.state.output =
            terminal.output ++ s!"Publishing synthetic telemetry on {producer.sink.address}" :: lines)) ∧
    ∀ (host : Host) (settings : ConsumerConfig), (watch host settings {}).result = .ok () →
      ∀ (arguments : MonitorArguments) (terminal : Terminal), arguments.duration = some seconds →
        2 ^ 64 ≤ seconds.value →
          let outcome := runMonitor host arguments settings terminal
          outcome.result = .error (.breach .durationTooLong) ∧ outcome.state = terminal := by
  obtain ⟨finite, positive⟩ := ProducerConfig.timestep_positive valid
  obtain ⟨whole, nonneg⟩ : seconds.isFinite = true ∧ Binary64.zero ≤ seconds := by
    simpa [acceptsDuration] using accepted
  intro step
  refine ⟨⟨?_, ?_⟩, ?_, ⟨?_, ?_⟩, ?_, ?_, ?_⟩
  · exact fun ⟨period, paced⟩ => (pacing_success finite positive paced).1
  · intro ⟨above, below⟩
    obtain ⟨period, paced, -⟩ := pacing_between finite positive above below
    exact ⟨period, paced⟩
  · exact fun period paced => (pacing_success finite positive paced).2
  · exact fun ⟨span, converted⟩ => (Duration.ofSeconds_success whole nonneg converted).1
  · intro below
    obtain ⟨span, converted, -⟩ := Duration.ofSeconds_below whole nonneg below
    exact ⟨span, converted⟩
  · exact fun span converted => (Duration.ofSeconds_success whole nonneg converted).2
  · intro host producer opened arguments terminal
    refine ⟨?_, ?_, ?_⟩
    · exact fun tiny => runSynthetic_stops opened (pacing_tiny finite positive tiny) arguments terminal
    · exact fun beyond => runSynthetic_stops opened (pacing_beyond positive beyond) arguments terminal
    · intro above below
      obtain ⟨period, paced, -⟩ := pacing_between finite positive above below
      exact runSynthetic_passes opened paced arguments terminal
  · intro host settings watched arguments terminal given beyond
    exact runMonitor_stops watched given (Duration.ofSeconds_beyond nonneg beyond) terminal

/-- A timestep of a tenth of a nanosecond. -/
def hasty : ProducerConfig where
  timestep := .ofDecimal false 1 (-10)

/-- Seconds at the limit. -/
def endless : Binary64 := .ofNat (2 ^ 64)

/-- A machine on which everything can be opened. -/
def bench : Host where
  fileContent _ := .error "no such file"
  fileWrite _ := .ok ()
  bind _ := .ok ()
  reach _ := .ok ()
  draws _ _ _ := ⟨fun _ _ => .zero, fun _ _ => none⟩
  readings _ := []
  patience := 0

theorem hasty_stops :
    hasty.validate = .ok () ∧ acceptsDuration endless = true ∧
      (∀ span, Duration.ofSeconds endless ≠ .ok span) ∧
      ∀ pacing, (runSynthetic bench ⟨"hasty.json", some 1, none, .zero, pacing, none⟩ hasty {}).result =
        .error (.breach .zeroPeriod) := by
  have valid : hasty.validate = .ok () := by decide +kernel
  have accepted : acceptsDuration endless = true := by decide +kernel
  have tiny : hasty.timestep.value * 10 ^ 9 ≤ 1 / 2 := by decide +kernel
  have long : ¬endless.value < 2 ^ 64 := by decide +kernel
  have started : (openProducer bench hasty
      (Producer.unwired hasty .unconnected)).result.toOption.isSome := by decide +kernel
  obtain ⟨-, -, converts, -, stops, -⟩ := checked_times_stop valid accepted
  refine ⟨valid, accepted, fun span converted => long (converts.mp ⟨span, converted⟩), ?_⟩
  cases opened : (openProducer bench hasty (Producer.unwired hasty .unconnected)).result with
  | error failure => simp [opened, Except.toOption] at started
  | ok producer => exact fun pacing => ((stops bench producer opened _ {}).1 tiny).1

/-- Neither check keeps out what has no duration. -/
theorem checks_incomplete :
    (¬∀ config : ProducerConfig, config.validate = .ok () → ∃ period, pacing config.timestep = .ok period) ∧
      ¬∀ seconds, acceptsDuration seconds = true → ∃ span, Duration.ofSeconds seconds = .ok span := by
  constructor
  · intro paced
    obtain ⟨period, answer⟩ := paced hasty (by decide +kernel)
    have refused : (pacing hasty.timestep).toOption.isNone := by decide +kernel
    simp [answer, Except.toOption] at refused
  · intro converted
    obtain ⟨span, answer⟩ := converted endless (by decide +kernel)
    have refused : (Duration.ofSeconds endless).toOption.isNone := by decide +kernel
    simp [answer, Except.toOption] at refused

end Telemetry.Command
