import Telemetry.Proofs.Consumer.Feeds
import Telemetry.Proofs.Multiplexer.Drain

/-! The classes of messages. A message alone decides whether it is filtered, fails or is delivered, and
a consumer reads the deltas of those that are delivered and nothing else. -/
namespace Telemetry

namespace Inlet
variable {inlet : Inlet} {message : Bytes}

/-- What becomes of a message: nothing when it is filtered, a fault, or the payload to deliver. -/
def classify (inlet : Inlet) (message : Bytes) : Except Fault (Option Payload) :=
  if inlet.topic <+: message then
    let body := message.drop inlet.topic.length
    match inlet.codec with
    | none => .ok (some (.raw body))
    | some codec =>
      match codec.decode body with
      | .ok delta => .ok (some (.delta delta))
      | .error cause => .error (.deserialization codec.name cause)
  else .ok none

def verdict (inlet : Inlet) (message : Bytes) : Verdict :=
  match inlet.classify message with
  | .ok none => .filtered
  | .ok (some _) => .delivered
  | .error fault => .failed fault

/-- The delta that is delivered, if one is. -/
def delta? (inlet : Inlet) (message : Bytes) : Option Delta :=
  match inlet.classify message with
  | .ok (some (.delta delta)) => some delta
  | _ => none

theorem classify_other (other : ¬inlet.topic <+: message) : inlet.classify message = .ok none := by
  rw [classify, if_neg other]

theorem classify_refused {body : Bytes} {codec : Codec} {cause : Wire.DecodeFault}
    (chosen : inlet.codec = some codec) (refused : codec.decode body = .error cause) :
    inlet.classify (inlet.topic ++ body) = .error (.deserialization codec.name cause) := by
  simp [classify, chosen, refused]

theorem classify_read {body : Bytes} {payload : Payload} (read : inlet.Reads body payload) :
    inlet.classify (inlet.topic ++ body) = .ok (some payload) := by
  unfold Reads at read
  split at read
  next none => simp [classify, none, read]
  next codec chosen =>
    obtain ⟨delta, decoded, rfl⟩ := read
    simp [classify, chosen, decoded]

theorem classify_cases (inlet : Inlet) (message : Bytes) :
    inlet.classify message = .ok none ∨ (∃ fault, inlet.classify message = .error fault) ∨
      ∃ body payload, inlet.Reads body payload ∧ inlet.classify message = .ok (some payload) := by
  by_cases starts : inlet.topic <+: message
  · obtain ⟨body, rfl⟩ := starts
    by_cases readable : ∃ payload, inlet.Reads body payload
    · obtain ⟨payload, read⟩ := readable
      exact .inr (.inr ⟨body, payload, read, classify_read read⟩)
    · obtain ⟨codec, cause, chosen, refused⟩ := inlet.unreadable readable
      exact .inr (.inl ⟨_, classify_refused chosen refused⟩)
  · exact .inl (classify_other starts)

theorem Reads.number {body : Bytes} {delta : Delta} (read : inlet.Reads body (.delta delta)) :
    delta.time.isNaN = false := by
  unfold Reads at read
  split at read
  · cases read
  · obtain ⟨other, decoded, same⟩ := read
    rw [Payload.delta.inj same]
    exact Delta.number_of_finite (Codec.decode_finite decoded)

theorem Reads.exists_delta {body : Bytes} {payload : Payload} (read : inlet.Reads body payload)
    (coded : inlet.codec.isSome) : ∃ delta, payload = .delta delta := by
  obtain ⟨codec, chosen⟩ := Option.isSome_iff_exists.mp coded
  simp only [Reads, chosen] at read
  obtain ⟨delta, -, same⟩ := read
  exact ⟨delta, same⟩

theorem number_of_delta? {delta : Delta} (found : inlet.delta? message = some delta) :
    delta.time.isNaN = false := by
  rcases inlet.classify_cases message with other | ⟨fault, refused⟩ | ⟨body, payload, read, answer⟩
  · simp [delta?, other] at found
  · simp [delta?, refused] at found
  · cases payload with
    | raw body => simp [delta?, answer] at found
    | delta other =>
      obtain rfl : other = delta := by simpa [delta?, answer] using found
      exact read.number

/-- Under a codec exactly the delivered messages have a delta. -/
theorem isSome_delta? (coded : inlet.codec.isSome) (message : Bytes) :
    (inlet.delta? message).isSome ↔ inlet.verdict message = .delivered := by
  rcases inlet.classify_cases message with other | ⟨fault, refused⟩ | ⟨body, payload, read, answer⟩
  · simp [delta?, verdict, other]
  · simp [delta?, verdict, refused]
  · obtain ⟨delta, rfl⟩ := read.exists_delta coded
    simp [delta?, verdict, answer]

/-- Under a codec the handler of a consumer rejects nothing that was decoded. -/
theorem Judges.settles {verdict : Verdict} {earlier : List Delta} {next : History}
    (judged : inlet.Judges Consumer.handle (.gathered earlier) message verdict next)
    (coded : inlet.codec.isSome) (numbers : ∀ delta ∈ earlier, delta.time.isNaN = false) :
    verdict = inlet.verdict message ∧
      next = .gathered (earlier ++ (inlet.delta? message).toList) := by
  have handled {body : Bytes} {delta : Delta} (read : inlet.Reads body (.delta delta)) :
      (Consumer.handle (.delta delta) (.gathered earlier)).result = .ok () ∧
        (Consumer.handle (.delta delta) (.gathered earlier)).state = .gathered (earlier ++ [delta]) := by
    have number := read.number
    exact Consumer.handle_delta (by grind)
  cases judged with
  | filtered other => simp [Inlet.verdict, delta?, classify_other other]
  | undecodable split chosen refused =>
    simp [Inlet.verdict, delta?, split, classify_refused chosen refused]
  | delivered split read taken =>
    obtain ⟨delta, rfl⟩ := read.exists_delta coded
    simp [Inlet.verdict, delta?, split, classify_read read, (handled read).2]
  | rejected split read refused =>
    obtain ⟨delta, rfl⟩ := read.exists_delta coded
    simp [(handled read).1] at refused

end Inlet

namespace Visit
variable {inlets : List Inlet} {visits : List Visit}

def delta? (visit : Visit) : Option Delta := visit.inlet.delta? visit.message

/-- The visits to one subscription. -/
def own (index : Nat) (visits : List Visit) : List Visit := visits.filter (·.index = index)

theorem own_append (index : Nat) (visits more : List Visit) :
    own index (visits ++ more) = own index visits ++ own index more :=
  List.filter_append ..

/-- Every visit is in one class. -/
theorem length_eq_countP (visits : List Visit) :
    visits.length = visits.countP (·.verdict = .delivered) + visits.countP (·.verdict = .filtered) +
      visits.countP (·.verdict.fault?.isSome) := by
  induction visits with
  | nil => rfl
  | cons visit visits ih =>
    cases judged : visit.verdict <;> simp [judged, Verdict.fault?, ih] <;> omega

theorem length_failures (visits : List Visit) :
    (visits.filterMap failure?).length = visits.countP (·.verdict.fault?.isSome) := by
  simp [List.length_filterMap_eq_countP, failure?]

namespace Served
variable {σ : Type} {handle : Nat → Payload → Action σ Unit} {state last : σ}

theorem registered (served : Served handle inlets state visits last) :
    ∀ visit ∈ visits, inlets[visit.index]? = some visit.inlet := by
  induction served with
  | done => simp
  | visit registered judged rest ih => exact List.forall_mem_cons.mpr ⟨registered, ih⟩

/-- Further subscriptions do not matter to visits that were made before. -/
theorem widen (served : Served handle inlets state visits last) (more : List Inlet) :
    Served handle (inlets ++ more) state visits last := by
  induction served with
  | done state => exact .done state
  | visit registered judged rest ih =>
    have place := (List.getElem?_eq_some_iff.mp registered).1
    exact .visit (by rwa [List.getElem?_append_left place]) judged ih

theorem own_beyond (served : Served handle inlets state visits last) {index : Nat}
    (beyond : inlets.length ≤ index) : own index visits = [] := by
  refine List.filter_eq_nil_iff.mpr fun visit member => ?_
  have place := (List.getElem?_eq_some_iff.mp (served.registered visit member)).1
  simp only [decide_eq_true_eq]
  omega

end Served

/-- A consumer reads the deltas of the visits in turn. -/
theorem Served.reads {start last : History}
    (served : Served (fun _ => Consumer.handle) inlets start visits last)
    (coded : ∀ inlet ∈ inlets, inlet.codec.isSome) {earlier : List Delta}
    (numbers : ∀ delta ∈ earlier, delta.time.isNaN = false) (gathered : start = .gathered earlier) :
    (∀ visit ∈ visits, visit.verdict = visit.inlet.verdict visit.message) ∧
      last = .gathered (earlier ++ visits.filterMap delta?) := by
  induction served generalizing earlier with
  | done state => exact ⟨by simp, by simpa using gathered⟩
  | @visit state next last visit visits registered judged rest ih =>
    have own := coded visit.inlet (List.mem_of_getElem? registered)
    obtain ⟨verdict, after⟩ := (gathered ▸ judged).settles own numbers
    have more : ∀ delta ∈ earlier ++ visit.delta?.toList, delta.time.isNaN = false := by
      intro delta member
      rcases List.mem_append.mp member with old | new
      · exact numbers delta old
      · exact Inlet.number_of_delta? (Option.mem_toList.mp new)
    obtain ⟨others, final⟩ := ih more after
    refine ⟨List.forall_mem_cons.mpr ⟨verdict, others⟩, ?_⟩
    cases found : visit.delta? <;> simp [final, found]

end Visit
end Telemetry
