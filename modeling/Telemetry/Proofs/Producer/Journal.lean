import Telemetry.Proofs.Producer.Step
import Mathlib.Algebra.GroupWithZero.Nat

/-! Any sequence of calls to a producer. The journal has every call with its answer; the ledger, and
with it every delta, follows from the calls that were accepted. -/
namespace Telemetry

namespace Producer

inductive Call
  | write (port : String) (values : List Binary64)
  | deliver (port : String) (index : Nat) (time : Binary64)
  | step (now : Binary64)
  deriving DecidableEq, Repr

/-- A step answers the size of its payload. -/
def Call.perform : Call → Action Producer (Option Nat)
  | write port values => do
    writeContinuous port values
    return none
  | deliver port index time => do
    deliverEvent port index time
    return none
  | step now => do return some (← Producer.step now)

structure Entry where
  call : Call
  answer : Except Failure (Option Nat)

def Entry.accepted (entry : Entry) : Bool := entry.answer.isOk

/-- What was accepted has a place: the values are as many as the keys of the port, the event has a
buffer. -/
def Entry.Placed (config : ProducerConfig) (slots : List (String × Nat)) (entry : Entry) : Prop :=
  entry.accepted →
    match entry.call with
    | .write port values => ∃ keys, (port, keys) ∈ config.keyed ∧ values.length = keys.length
    | .deliver port index _ =>
      ∃ slot count, config.slot? port index = some slot ∧ (port, count) ∈ slots ∧ slot < count
    | .step _ => True

def after : List Call → Producer → Producer
  | [], producer => producer
  | call :: calls, producer => after calls (call.perform producer).state

def journal : List Call → Producer → List Entry
  | [], _ => []
  | call :: calls, producer =>
    ⟨call, (call.perform producer).result⟩ :: journal calls (call.perform producer).state

end Producer

/-- An accepted write or event changes the ledger. After a step nothing waits, sent or not. -/
def Ledger.record (config : ProducerConfig) (ledger : Ledger) (entry : Producer.Entry) : Ledger :=
  match entry.call with
  | .write port values => if entry.accepted then ledger.write port values else ledger
  | .deliver port index time =>
    match config.slot? port index with
    | some slot => if entry.accepted then ledger.accept port slot time else ledger
    | none => ledger
  | .step _ => ledger.clear

/-- A step, with the ledger that it found. -/
structure Tick where
  time : Binary64
  ledger : Ledger
  /-- The sink took the payload. -/
  sent : Bool

def Tick.delta (config : ProducerConfig) (slots : List (String × Nat)) (tick : Tick) : Delta :=
  tick.ledger.delta config.keyed slots tick.time

def Ledger.ticks (config : ProducerConfig) : Ledger → List Producer.Entry → List Tick
  | _, [] => []
  | ledger, entry :: journal =>
    let later := ticks config (ledger.record config entry) journal
    match entry.call with
    | .step now => ⟨now, ledger, entry.accepted⟩ :: later
    | _ => later

namespace Producer
variable {producer : Producer} {config : ProducerConfig} {routes : List (String × Route)}
  {ledger : Ledger}

namespace Call

theorem perform_write (port : String) (values : List Binary64) (producer : Producer) :
    ((write port values).perform producer).state = (writeContinuous port values producer).state ∧
      ((write port values).perform producer).result =
        (writeContinuous port values producer).result.map fun _ => none := by
  rw [perform, Action.then_pure]
  exact ⟨rfl, rfl⟩

theorem perform_deliver (port : String) (index : Nat) (time : Binary64) (producer : Producer) :
    ((deliver port index time).perform producer).state = (deliverEvent port index time producer).state ∧
      ((deliver port index time).perform producer).result =
        (deliverEvent port index time producer).result.map fun _ => none := by
  rw [perform, Action.then_pure]
  exact ⟨rfl, rfl⟩

theorem perform_step (now : Binary64) (producer : Producer) :
    ((step now).perform producer).state = (Producer.step now producer).state ∧
      ((step now).perform producer).result = (Producer.step now producer).result.map some := by
  rw [perform, Action.then_pure]
  exact ⟨rfl, rfl⟩

end Call

theorem Follows.perform (follows : producer.Follows config routes ledger)
    (call : Call) :
    (call.perform producer).state.Follows config routes
      (ledger.record config ⟨call, (call.perform producer).result⟩) := by
  cases call with
  | write port values =>
    obtain ⟨after, answer⟩ := Call.perform_write port values producer
    rw [after, answer]
    rcases follows.writeContinuous port values with ⟨took, -, next⟩ | ⟨failure, refused, kept⟩
    · rw [took]
      exact next
    · rw [refused, kept]
      exact follows
  | deliver port index time =>
    obtain ⟨after, answer⟩ := Call.perform_deliver port index time producer
    rw [after, answer]
    rcases follows.deliverEvent port index time with
      ⟨took, slot, _, slotted, -, -, next⟩ | ⟨failure, refused, kept⟩
    · rw [took]
      simp only [Ledger.record, slotted]
      exact next
    · rw [refused, kept]
      simp only [Ledger.record]
      split <;> exact follows
  | step now =>
    rw [(Call.perform_step now producer).1]
    exact (follows.step now).1

theorem Follows.after (follows : producer.Follows config routes ledger)
    (calls : List Call) :
    (producer.after calls).Follows config routes
      ((producer.journal calls).foldl (Ledger.record config) ledger) := by
  induction calls generalizing producer ledger with
  | nil => exact follows
  | cons call calls ih => exact ih (follows.perform call)

theorem ticks_cons (config : ProducerConfig) (ledger : Ledger) (entry : Entry) (entries : List Entry) :
    ledger.ticks config (entry :: entries) =
      ledger.ticks config [entry] ++ (ledger.record config entry).ticks config entries := by
  obtain ⟨call, answer⟩ := entry
  cases call <;> rfl

theorem Follows.perform_fixed (follows : producer.Follows config routes ledger) (call : Call) :
    (call.perform producer).state.codec = producer.codec ∧
      (call.perform producer).state.slots = producer.slots := by
  cases call with
  | write port values =>
    rw [(Call.perform_write port values producer).1]
    exact ⟨rfl, rfl⟩
  | deliver port index time =>
    rw [(Call.perform_deliver port index time producer).1]
    exact ⟨rfl, rfl⟩
  | step now =>
    rw [(Call.perform_step now producer).1, (step_eq (follows.station.beginTick now).1).2]
    exact ⟨rfl, rfl⟩

theorem Follows.perform_placed (follows : producer.Follows config routes ledger) (call : Call) :
    Entry.Placed config producer.slots ⟨call, (call.perform producer).result⟩ := by
  intro accepted
  cases call with
  | write port values =>
    rcases follows.writeContinuous port values with ⟨-, fits, -⟩ | ⟨failure, refused, -⟩
    · exact fits
    · rw [Entry.accepted, (Call.perform_write port values producer).2, refused] at accepted
      cases accepted
  | deliver port index time =>
    rcases follows.deliverEvent port index time with
      ⟨-, slot, count, slotted, counted, bound, -⟩ | ⟨failure, refused, -⟩
    · exact ⟨slot, count, slotted, counted, bound⟩
    · rw [Entry.accepted, (Call.perform_deliver port index time producer).2, refused] at accepted
      cases accepted
  | step now => trivial

theorem Follows.journal_placed (follows : producer.Follows config routes ledger) (calls : List Call) :
    ∀ entry ∈ producer.journal calls, entry.Placed config producer.slots := by
  induction calls generalizing producer ledger with
  | nil => simp [journal]
  | cons call calls ih =>
    have later := ih (follows.perform call)
    rw [(follows.perform_fixed call).2] at later
    exact List.forall_mem_cons.mpr ⟨follows.perform_placed call, later⟩

theorem Follows.ticks_widths (follows : producer.Follows config routes ledger) (calls : List Call) :
    ∀ tick ∈ ledger.ticks config (producer.journal calls), ∀ entry ∈ config.keyed,
      (tick.ledger.values entry.1).length = entry.2.length := by
  induction calls generalizing producer ledger with
  | nil => simp [journal, Ledger.ticks]
  | cons call calls ih =>
    intro tick member
    rw [journal, ticks_cons, List.mem_append] at member
    rcases member with now | later
    · cases call with
      | step time =>
        obtain rfl := List.mem_singleton.mp now
        exact follows.widths
      | _ => simp [Ledger.ticks] at now
    · exact ih (follows.perform call) tick later

theorem Follows.after_fixed (follows : producer.Follows config routes ledger)
    (calls : List Call) :
    (producer.after calls).codec = producer.codec ∧
      (producer.after calls).slots = producer.slots := by
  induction calls generalizing producer ledger with
  | nil => exact ⟨rfl, rfl⟩
  | cons call calls ih =>
    obtain ⟨codec, slots⟩ := follows.perform_fixed call
    rw [← codec, ← slots]
    exact ih (follows.perform call)

def Tick.count (codec : Codec) (config : ProducerConfig) (slots : List (String × Nat))
    (stats : ProducerStats) (tick : Tick) : ProducerStats :=
  let delta := tick.delta config slots
  stats.record tick.time (codec.encode delta).length delta.eventCount

theorem foldl_count (codec : Codec) (config : ProducerConfig) (slots : List (String × Nat))
    (ticks : List Tick) (stats : ProducerStats) :
    ticks.foldl (Tick.count codec config slots) stats =
      { ticks := stats.ticks + ticks.length
        bytes := stats.bytes + (ticks.map fun tick => (codec.encode (tick.delta config slots)).length).sum
        events := stats.events + (ticks.map fun tick => (tick.delta config slots).eventCount).sum
        lastTime := (ticks.getLast?.map (·.time)).or stats.lastTime } := by
  induction ticks generalizing stats with
  | nil => rfl
  | cons tick ticks ih =>
    rw [List.foldl_cons, ih, List.getLast?_cons]
    simp only [Tick.count, ProducerStats.record, List.length_cons, List.map_cons, List.sum_cons,
      ProducerStats.mk.injEq]
    refine ⟨by omega, by omega, by omega, ?_⟩
    cases ticks.getLast? <;> rfl

theorem Follows.stats_perform (follows : producer.Follows config routes ledger) (call : Call) :
    (call.perform producer).state.stats =
      ((ledger.ticks config [⟨call, (call.perform producer).result⟩]).filter (·.sent)).foldl
        (Tick.count producer.codec config producer.slots) producer.stats := by
  cases call with
  | write port values =>
    rw [(Call.perform_write port values producer).1]
    rfl
  | deliver port index time =>
    rw [(Call.perform_deliver port index time producer).1]
    rfl
  | step now =>
    obtain ⟨after, answer⟩ := Call.perform_step now producer
    obtain ⟨answered, stepped⟩ := step_eq (follows.station.beginTick now).1
    rw [after, answer, answered, stepped]
    cases (Sink.send (producer.payload now) producer.sink).result with
    | ok =>
      rw [payload, follows.dump_eq]
      rfl
    | error failure => rfl

theorem Follows.stats_after (follows : producer.Follows config routes ledger)
    (calls : List Call) :
    (producer.after calls).stats =
      ((ledger.ticks config (producer.journal calls)).filter (·.sent)).foldl
        (Tick.count producer.codec config producer.slots) producer.stats := by
  induction calls generalizing producer ledger with
  | nil => rfl
  | cons call calls ih =>
    obtain ⟨codec, slots⟩ := follows.perform_fixed call
    rw [Producer.after, ih (follows.perform call), journal, ticks_cons, List.filter_append,
      List.foldl_append, follows.stats_perform, codec, slots]

end Producer
end Telemetry
