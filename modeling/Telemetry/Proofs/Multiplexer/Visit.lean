import Telemetry.Multiplexer
import Telemetry.Proofs.Action
import Telemetry.Proofs.Codec

/-! What a tick does with one message: the subscription drops it, cannot decode it, or gives it to its
handler, which takes or rejects it. -/
namespace Telemetry
variable {σ : Type}

/-- What stays of a subscription while its source is drained. -/
structure Inlet where
  address : String
  topic : Bytes
  codec : Option Codec
  deriving DecidableEq, Repr

def Subscription.inlet (subscription : Subscription) : Inlet :=
  ⟨subscription.source.address, subscription.topic, subscription.codec⟩

inductive Verdict
  | delivered
  | filtered
  | failed (fault : Fault)
  deriving DecidableEq, Repr

namespace Verdict

def fault? : Verdict → Option Fault
  | failed fault => some fault
  | _ => none

def answer : Verdict → Except Failure Bool
  | delivered => .ok true
  | filtered => .ok false
  | failed fault => .error (.fault fault)

end Verdict

namespace Inlet

def Reads (inlet : Inlet) (body : Bytes) (payload : Payload) : Prop :=
  match inlet.codec with
  | none => payload = .raw body
  | some codec => ∃ delta, codec.decode body = .ok delta ∧ payload = .delta delta

/-- A message gets a verdict, and the handler a new state if it saw the message. -/
inductive Judges (inlet : Inlet) (handle : Payload → Action σ Unit) (state : σ) (message : Bytes) :
    Verdict → σ → Prop
  | filtered (other : ¬inlet.topic <+: message) : Judges inlet handle state message .filtered state
  | undecodable {body codec cause} (split : message = inlet.topic ++ body)
      (chosen : inlet.codec = some codec) (refused : codec.decode body = .error cause) :
      Judges inlet handle state message (.failed (.deserialization codec.name cause)) state
  | delivered {body payload} (split : message = inlet.topic ++ body)
      (read : inlet.Reads body payload) (taken : (handle payload state).result = .ok ()) :
      Judges inlet handle state message .delivered (handle payload state).state
  | rejected {body payload fault} (split : message = inlet.topic ++ body)
      (read : inlet.Reads body payload)
      (refused : (handle payload state).result = .error (.fault fault)) :
      Judges inlet handle state message (.failed fault) (handle payload state).state

end Inlet

theorem Inlet.unreadable (inlet : Inlet) {body : Bytes}
    (unreadable : ¬∃ payload, inlet.Reads body payload) :
    ∃ codec cause, inlet.codec = some codec ∧ codec.decode body = .error cause := by
  obtain ⟨address, topic, codec⟩ := inlet
  cases codec with
  | none => exact absurd ⟨.raw body, rfl⟩ unreadable
  | some codec =>
    cases decoded : codec.decode body with
    | ok delta => exact absurd ⟨.delta delta, delta, decoded, rfl⟩ unreadable
    | error cause => exact ⟨codec, cause, rfl, decoded⟩

/-- A handler that breaks no contract on what it is given, from states of this kind on. -/
def Inlet.Calm (inlet : Inlet) (handle : Payload → Action σ Unit) (kind : σ → Prop) : Prop :=
  ∀ body payload state, inlet.Reads body payload → kind state →
    (∀ broken, (handle payload state).result ≠ .error (.breach broken)) ∧
      kind (handle payload state).state

namespace Subscription
variable {subscription : Subscription}

theorem decode_other {message : Bytes} (other : ¬subscription.topic <+: message) (state : σ) :
    subscription.decode message state = ⟨state, .ok none, []⟩ := by
  have absent : subscription.topic.isPrefixOf message = false := by
    simpa [← List.isPrefixOf_iff_prefix] using other
  simp only [decode, absent]
  rfl

theorem decode_read {body : Bytes} {payload : Payload} (read : subscription.inlet.Reads body payload)
    (state : σ) :
    subscription.decode (subscription.topic ++ body) state = ⟨state, .ok (some payload), []⟩ := by
  have present : subscription.topic.isPrefixOf (subscription.topic ++ body) = true := by simp
  simp only [Inlet.Reads, inlet] at read
  simp only [decode, present, List.drop_left]
  cases chosen : subscription.codec with
  | none =>
    simp only [chosen] at read
    rw [read]
    rfl
  | some codec =>
    simp only [chosen] at read
    obtain ⟨delta, decoded, rfl⟩ := read
    have accepted := Codec.accept_ok decoded state
    change (codec.accept body >>= fun delta => pure (some (Payload.delta delta))) state = _
    rw [Action.bind_of_ok (by rw [accepted]), accepted]
    rfl

theorem decode_refused {body : Bytes} {codec : Codec} {cause : Wire.DecodeFault}
    (chosen : subscription.codec = some codec) (refused : codec.decode body = .error cause)
    (state : σ) :
    (subscription.decode (subscription.topic ++ body) state).state = state ∧
      (subscription.decode (subscription.topic ++ body) state).result =
        .error (.fault (.deserialization codec.name cause)) := by
  have present : subscription.topic.isPrefixOf (subscription.topic ++ body) = true := by simp
  obtain ⟨kept, error⟩ := Codec.accept_error refused state
  simp only [decode, present, List.drop_left, chosen]
  change ((codec.accept body >>= fun delta => pure (some (Payload.delta delta))) state).state = _ ∧
    ((codec.accept body >>= fun delta => pure (some (Payload.delta delta))) state).result = _
  rw [Action.bind_of_error error]
  exact ⟨kept, rfl⟩

theorem dispatch_read {body : Bytes} {payload : Payload}
    (read : subscription.inlet.Reads body payload) (handle : Payload → Action σ Unit) (state : σ) :
    (subscription.dispatch handle (subscription.topic ++ body) state).state =
        (handle payload state).state ∧
      (subscription.dispatch handle (subscription.topic ++ body) state).result =
        (handle payload state).result.map fun _ => true := by
  have decoded := decode_read read state
  rw [dispatch, Action.bind_of_ok (by rw [decoded]), decoded]
  change ((handle payload >>= fun _ => pure true) state).state = _ ∧
    ((handle payload >>= fun _ => pure true) state).result = _
  cases answer : (handle payload state).result with
  | ok =>
    rw [Action.bind_of_ok answer]
    exact ⟨rfl, rfl⟩
  | error failure =>
    rw [Action.bind_of_error answer]
    exact ⟨rfl, rfl⟩

theorem dispatch_judges {handle : Payload → Action σ Unit} {kind : σ → Prop}
    (calm : subscription.inlet.Calm handle kind) {state : σ} (fit : kind state) (message : Bytes) :
    ∃ verdict, (subscription.dispatch handle message state).result = verdict.answer ∧
      subscription.inlet.Judges handle state message verdict
        (subscription.dispatch handle message state).state ∧
      kind (subscription.dispatch handle message state).state := by
  by_cases starts : subscription.topic <+: message
  · obtain ⟨body, rfl⟩ := starts
    by_cases readable : ∃ payload, subscription.inlet.Reads body payload
    · obtain ⟨payload, read⟩ := readable
      obtain ⟨whole, stays⟩ := calm body payload state read fit
      obtain ⟨after, answered⟩ := dispatch_read read handle state
      rw [after, answered]
      cases answer : (handle payload state).result with
      | ok => exact ⟨.delivered, rfl, .delivered rfl read answer, stays⟩
      | error failure =>
        cases failure with
        | fault fault => exact ⟨.failed fault, rfl, .rejected rfl read answer, stays⟩
        | breach broken => exact absurd answer (whole broken)
    · obtain ⟨codec, cause, chosen, refused⟩ := subscription.inlet.unreadable readable
      obtain ⟨kept, error⟩ := decode_refused chosen refused state
      rw [dispatch, Action.bind_of_error error, kept]
      exact ⟨_, rfl, .undecodable rfl chosen refused, fit⟩
  · have dropped := decode_other starts state
    rw [dispatch, Action.bind_of_ok (by rw [dropped]), dropped]
    exact ⟨.filtered, rfl, .filtered starts, fit⟩

end Subscription

end Telemetry
