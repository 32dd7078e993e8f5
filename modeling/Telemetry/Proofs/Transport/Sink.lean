import Telemetry.Transport.Sink
import Telemetry.Proofs.Action

/-! Sending may fail, but it breaks no contract, whatever the kind and the state of the sink. What a sink
holds grows by each payload that it takes, and by nothing else. -/
namespace Telemetry
open Telemetry.Action (Unbroken)

theorem Channel.send_unbroken (payload : Bytes) : (send payload).Unbroken := by
  apply Unbroken.bind .read
  intro channel
  split
  · exact .write _
  · exact .fail _

theorem Publisher.send_unbroken (payload : Bytes) : (send payload).Unbroken := by
  apply Unbroken.bind .read
  intro publisher
  dsimp only
  split
  · exact .bind (.fail _) fun _ => .bind (.write _) fun _ => by
      split
      · exact .bind (.log _ _) fun _ => .done _
      · exact .done _
  · apply Unbroken.bind (.write _)
    intro _
    split
    · exact .bind (.log _ _) fun _ => .done _
    · exact .done _

theorem Capture.send_unbroken (payload : Bytes) : (send payload).Unbroken := by
  apply Unbroken.bind .read
  intro capture
  dsimp only
  split
  · exact .bind (.write _) fun _ => .fail _
  · exact .write _

theorem Sink.send_unbroken (payload : Bytes) : (send payload).Unbroken := by
  intro sink broken
  cases sink with
  | channel channel => exact Channel.send_unbroken payload channel broken
  | socket publisher =>
    exact Unbroken.bind (Publisher.send_unbroken payload) (fun _ => .done ()) publisher broken
  | capture capture => exact Capture.send_unbroken payload capture broken

theorem Channel.queue_send (payload : Bytes) (channel : Channel) :
    (send payload channel).result = .ok () ∧
        (send payload channel).state.queue = channel.queue ++ [payload] ∨
      ∃ failure, (send payload channel).result = .error failure ∧
        (send payload channel).state.queue = channel.queue := by
  rw [send, Action.read_then]
  split
  · exact .inl ⟨rfl, rfl⟩
  · exact .inr ⟨_, rfl, rfl⟩

theorem Capture.payloads_send (payload : Bytes) (capture : Capture) :
    (send payload capture).result = .ok () ∧
        (send payload capture).state.payloads = capture.payloads ++ [payload] ∨
      ∃ failure, (send payload capture).result = .error failure ∧
        (send payload capture).state.payloads = capture.payloads := by
  rw [send, Action.read_then]
  cases capture.refusal capture.sends with
  | some fault => exact .inr ⟨_, rfl, rfl⟩
  | none => exact .inl ⟨rfl, rfl⟩

namespace Sink

/-- Sends one payload after the other, up to the first that fails. -/
def sendAll : List Bytes → Action Sink Unit
  | [] => Action.done ()
  | payload :: payloads => do
    send payload
    sendAll payloads

/-- What a sink holds of the payloads it took; a socket holds none. -/
def held? : Sink → Option (List Bytes)
  | channel c => some c.queue
  | socket _ => none
  | capture c => some c.payloads

theorem held?_send (payload : Bytes) (sink : Sink) :
    (send payload sink).result = .ok () ∧
        (send payload sink).state.held? = sink.held?.map (· ++ [payload]) ∨
      ∃ failure, (send payload sink).result = .error failure ∧
        (send payload sink).state.held? = sink.held? := by
  cases sink with
  | channel channel =>
    rcases Channel.queue_send payload channel with ⟨took, held⟩ | ⟨failure, failed, held⟩
    · exact .inl ⟨took, congrArg some held⟩
    · exact .inr ⟨failure, failed, congrArg some held⟩
  | socket publisher =>
    cases answer : (send payload (socket publisher)).result with
    | ok => exact .inl ⟨rfl, rfl⟩
    | error failure => exact .inr ⟨failure, rfl, rfl⟩
  | capture capture =>
    rcases Capture.payloads_send payload capture with ⟨took, held⟩ | ⟨failure, failed, held⟩
    · exact .inl ⟨took, congrArg some held⟩
    · exact .inr ⟨failure, failed, congrArg some held⟩

theorem held?_send_ok {payload : Bytes} {sink : Sink} (took : (send payload sink).result = .ok ()) :
    (send payload sink).state.held? = sink.held?.map (· ++ [payload]) := by
  rcases held?_send payload sink with ⟨-, held⟩ | ⟨failure, failed, -⟩
  · exact held
  · exact nomatch took.symm.trans failed

theorem held?_send_error {payload : Bytes} {sink : Sink} {failure : Failure}
    (failed : (send payload sink).result = .error failure) :
    (send payload sink).state.held? = sink.held? := by
  rcases held?_send payload sink with ⟨took, -⟩ | ⟨-, -, held⟩
  · exact nomatch took.symm.trans failed
  · exact held

theorem sendAll_cons_of_ok {payload : Bytes} {sink : Sink} (took : (send payload sink).result = .ok ())
    (payloads : List Bytes) :
    (sendAll (payload :: payloads) sink).result = (sendAll payloads (send payload sink).state).result ∧
      (sendAll (payload :: payloads) sink).state = (sendAll payloads (send payload sink).state).state := by
  rw [sendAll, Action.bind_of_ok took]
  exact ⟨rfl, rfl⟩

theorem sendAll_cons_success {payload : Bytes} {payloads : List Bytes} {sink : Sink}
    (took : (sendAll (payload :: payloads) sink).result = .ok ()) :
    (send payload sink).result = .ok () := by
  obtain ⟨⟨⟩, first, -⟩ := Action.bind_success took
  exact first

theorem held?_sendAll {payloads : List Bytes} {sink : Sink}
    (took : (sendAll payloads sink).result = .ok ()) :
    (sendAll payloads sink).state.held? = sink.held?.map (· ++ payloads) := by
  induction payloads generalizing sink with
  | nil => cases held : sink.held? <;> simp [sendAll, held]
  | cons payload payloads ih =>
    have first := sendAll_cons_success took
    obtain ⟨answer, after⟩ := sendAll_cons_of_ok first payloads
    rw [after, ih (answer ▸ took), held?_send_ok first, Option.map_map]
    simp [Function.comp_def]

end Sink

end Telemetry
