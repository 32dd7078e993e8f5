import Telemetry.Config
import Telemetry.Proofs.Binary64.Rounding
import Mathlib.Logic.Unique

/-! What a configuration that passed its validation promises. -/
namespace Telemetry

theorem check_then {α β : Type} {first : Except Fault α} {next : α → Except Fault β} {answer : β} :
    (first >>= next) = .ok answer ↔ ∃ value, first = .ok value ∧ next value = .ok answer := by
  cases first with
  | ok value => exact ⟨fun rest => ⟨value, rfl, rest⟩, fun ⟨_, rfl, rest⟩ => rest⟩
  | error fault => exact ⟨nofun, nofun⟩

theorem passed_then {α : Type} {check : Except Fault Unit} {next : Unit → Except Fault α} {answer : α} :
    (check >>= next) = .ok answer ↔ check = .ok () ∧ next () = .ok answer :=
  check_then.trans Unique.exists_iff

theorem each_iff {α : Type} {check : α → Except Fault Unit} {items : List α} :
    items.forM check = .ok () ↔ ∀ item ∈ items, check item = .ok () := by
  induction items with
  | nil => simp [pure, Except.pure]
  | cons item items ih =>
    have first : (item :: items).forM check = (check item >>= fun _ => items.forM check) := rfl
    rw [first, passed_then, ih, List.forall_mem_cons]

theorem ensure_iff {condition : Bool} {cause : ConfigFault} :
    ensure condition cause = .ok () ↔ condition = true := by
  cases condition <;> simp [ensure]

theorem checkPositive_iff {setting : String} {value : Binary64} :
    checkPositive setting value = .ok () ↔ value.isFinite = true ∧ Binary64.zero < value := by
  simp [checkPositive, ensure_iff]

theorem checkNonNegative_iff {setting : String} {value : Binary64} :
    checkNonNegative setting value = .ok () ↔ value.isFinite = true ∧ Binary64.zero ≤ value := by
  simp [checkNonNegative, ensure_iff]

/-- The width and the initial values that are given fit the keys, and there are keys. -/
theorem ContinuousPort.validate_iff {port : String} {config : ContinuousPort} :
    config.validate port = .ok () ↔
      config.keys ≠ [] ∧ (∀ width ∈ config.fallbackWidth, width = config.keys.length) ∧
        ∀ initial ∈ config.initial, initial.length = config.keys.length := by
  obtain ⟨keys, width, initial, params⟩ := config
  cases width with
  | none =>
    cases initial with
    | none => simp [validate, passed_then, ensure_iff, pure, Except.pure]
    | some initial => simp [validate, passed_then, ensure_iff]
  | some width =>
    cases initial with
    | none => simp [validate, passed_then, ensure_iff, pure, Except.pure]
    | some initial => simp [validate, passed_then, ensure_iff]

theorem EventPort.validate_iff {port : String} {config : EventPort} :
    config.validate port = .ok () ↔
      config.keys ≠ 0 ∧ (∀ width ∈ config.fallbackWidth, width = config.keys) ∧
        config.aggregate ≠ some 0 := by
  obtain ⟨keys, width, aggregate, params⟩ := config
  cases width with
  | none => simp [validate, passed_then, ensure_iff]
  | some width => simp [validate, passed_then, ensure_iff]

/-- The codec and every port alone; for the channel names see `channelNames_nodup`. -/
theorem ProducerConfig.validate_parts {config : ProducerConfig} (valid : config.validate = .ok ()) :
    (∃ codec, config.link.codec = .ok codec) ∧
      (∀ entry ∈ config.continuous.entries, entry.2.validate entry.1 = .ok ()) ∧
      ∀ entry ∈ config.events.entries, entry.2.validate entry.1 = .ok () := by
  unfold validate at valid
  obtain ⟨codec, chosen, rest⟩ := check_then.mp valid
  cases total : config.totalTime with
  | none =>
    simp only [total, passed_then, each_iff] at rest
    obtain ⟨-, continuous, events, -⟩ := rest
    exact ⟨⟨codec, chosen⟩, continuous, events⟩
  | some time =>
    simp only [total, passed_then, each_iff] at rest
    obtain ⟨-, -, continuous, events, -⟩ := rest
    exact ⟨⟨codec, chosen⟩, continuous, events⟩

theorem ProducerConfig.timestep_positive {config : ProducerConfig} (valid : config.validate = .ok ()) :
    config.timestep.isFinite = true ∧ Binary64.zero < config.timestep := by
  unfold validate at valid
  obtain ⟨codec, -, rest⟩ := check_then.mp valid
  exact checkPositive_iff.mp (passed_then.mp rest).1

theorem ConsumerConfig.retention_positive {config : ConsumerConfig}
    (valid : config.validate = .ok ()) : Binary64.zero < config.retention := by
  unfold validate at valid
  simp only [passed_then, checkPositive_iff, checkNonNegative_iff] at valid
  obtain ⟨-, -, ⟨finite, positive⟩, ⟨number, nonneg⟩, -⟩ := valid
  exact Binary64.add_pos finite number positive nonneg

end Telemetry
