import Telemetry.Codec
import Telemetry.Proofs.Action
import Telemetry.Proofs.Binary64.Order

/-! Whatever is decoded has finite times, whichever codec decodes it. A payload that arrives is decoded, and
only a log record is made of one that cannot be. -/
namespace Telemetry

theorem Delta.isFinite_of_mem_times {delta : Delta} (finite : delta.nonFiniteTime? = none)
    {time : Binary64} (member : time ∈ delta.times) : time.isFinite := by
  simpa using List.find?_eq_none.mp finite time member

theorem Delta.number_of_finite {delta : Delta} (finite : delta.nonFiniteTime? = none) :
    delta.time.isNaN = false :=
  Binary64.isNaN_of_isFinite (isFinite_of_mem_times finite (by simp [times]))

theorem Wire.readDelta_finite {allowance : Allowance} {nodes : List Node} {delta : Delta}
    (decoded : readDelta allowance nodes = .ok delta) : delta.nonFiniteTime? = none := by
  unfold readDelta at decoded
  simp only [bind, Except.bind, throw, throwThe, MonadExceptOf.throw, pure, Except.pure] at decoded
  grind

theorem Codec.decode_finite {codec : Codec} {payload : Bytes} {delta : Delta}
    (decoded : codec.decode payload = .ok delta) : delta.nonFiniteTime? = none := by
  cases codec with
  | json =>
    simp only [decode, Wire.JsonText.decodeIncremental] at decoded
    split at decoded
    · rename_i read
      split at decoded
      · cases decoded
        exact Wire.readDelta_finite read
      · cases decoded
    · cases decoded
  | indexedJson =>
    simp only [decode, Wire.JsonText.decodeIndexed] at decoded
    split at decoded
    · unfold Except.mapError at decoded
      split at decoded
      · cases decoded
      · rename_i read
        cases decoded
        exact Wire.readDelta_finite read
    · cases decoded
  | msgpack => exact Wire.readDelta_finite decoded

theorem Codec.accept_ok {σ : Type} {codec : Codec} {body : Bytes} {delta : Delta}
    (decoded : codec.decode body = .ok delta) (state : σ) :
    codec.accept body state = ⟨state, .ok delta, []⟩ := by
  simp [accept, decoded]

theorem Codec.accept_error {σ : Type} {codec : Codec} {body : Bytes} {cause : Wire.DecodeFault}
    (refused : codec.decode body = .error cause) (state : σ) :
    (codec.accept body state).state = state ∧
      (codec.accept body state).result = .error (.fault (.deserialization codec.name cause)) := by
  simp [accept, refused, Action.bind_of_ok]

end Telemetry
