import Telemetry.Proofs.Station.Refusal

/-! How often a port is published. A request publishes its own port, at most once, and only while the
name is free. The name stays free when the port has no peer and the station insists on one, so every
such refusal costs a publication. -/
namespace Telemetry.Station

def Request.kind : Request → PortKind
  | continuousInput _ => .continuousInput
  | continuousOutput _ => .continuousOutput
  | eventInput _ => .eventInput
  | eventOutput _ _ => .eventOutput

def Request.params : Request → Params
  | continuousInput binding | continuousOutput binding => binding.params
  | eventInput binding => binding.params
  | eventOutput _ params => params

def Request.publication (request : Request) : Publication := ⟨request.port, request.kind, request.params⟩

def publications (station : Station) (port : String) : Nat :=
  station.published.countP (·.port = port)

/-- Requests one after another; a refusal does not keep the next one from being made. -/
def serve : List Request → Action Station (List (Except Failure Unit))
  | [] => Action.done []
  | request :: requests => do
    let answer ← Action.attempt request.bind
    let answers ← serve requests
    return answer :: answers

variable {α β : Type} {station : Station} {publication : Publication}

/-- What binding a port may do to the names and to the publications. -/
inductive Publishes (station : Station) (publication : Publication) : Except Failure α → Station → Prop
  /-- Refused before the middleware heard of the port. -/
  | silent {failure : Failure} (peer : ∀ port, failure ≠ .fault (.unconnectedPort port)) :
      Publishes station publication (.error failure) station
  /-- Published without a peer; the name stays free. -/
  | unpeered (alone : station.directory station.published publication = none)
      (insists : station.policy = .fail) (free : station.widths.contains publication.port = false) :
      Publishes station publication (.error (.fault (.unconnectedPort publication.port)))
        { station with published := station.published ++ [publication] }
  /-- Published, and the name is taken from now on. -/
  | settled {result : Except Failure α}
      (peer : ∀ port, result ≠ .error (.fault (.unconnectedPort port))) (width : PortWidth)
      (recorder : Recorder) (arrays : Table String Nat) (routes : Table String Route)
      (free : station.widths.contains publication.port = false) :
      Publishes station publication result
        { station with
          widths := station.widths.insert publication.port width
          published := station.published ++ [publication]
          recorder, arrays, routes }

theorem Publishes.taken (a : α) (width : PortWidth)
    (free : station.widths.contains publication.port = false) :
    Publishes station publication (.ok a)
      { station with
        widths := station.widths.insert publication.port width
        published := station.published ++ [publication] } :=
  .settled (by simp) width _ _ _ free

/-- An operation on the arrays, routes and buffers, which never misses a peer. -/
def Aside (action : Action Station α) : Prop :=
  ∀ station, (∃ recorder arrays routes,
      (action station).state = { station with recorder, arrays, routes }) ∧
    ∀ port, (action station).result ≠ .error (.fault (.unconnectedPort port))

theorem resolveWidth_publishes (station : Station) (publication : Publication) (fallback : Option Nat) :
    Publishes station publication (resolveWidth publication fallback station).result
      (resolveWidth publication fallback station).state := by
  cases taken : station.widths.contains publication.port with
  | true =>
    rw [resolveWidth_taken publication taken]
    exact .silent (by simp)
  | false =>
    cases fallback with
    | none =>
      rw [resolveWidth_unsized taken]
      exact .silent (by simp)
    | some fallback =>
      rw [resolveWidth_free taken]
      dsimp only
      split
      · exact .taken _ _ taken
      · exact .taken _ _ taken
      · exact .unpeered ‹_› ‹_› taken

theorem bindEventOutput_publishes (station : Station) (port : String) (params : Params) :
    Publishes station ⟨port, .eventOutput, params⟩ (bindEventOutput port params station).result
      (bindEventOutput port params station).state := by
  cases taken : station.widths.contains port with
  | true =>
    rw [bindEventOutput_taken taken]
    exact .silent (by simp)
  | false =>
    rw [bindEventOutput_free taken]
    dsimp only
    split
    · exact .taken _ _ taken
    · exact .taken _ _ taken
    · exact .unpeered ‹_› ‹_› taken

theorem Publishes.andThen {first : Action Station α} {next : α → Action Station β}
    (publishes : Publishes station publication (first station).result (first station).state)
    (aside : ∀ a, Aside (next a)) :
    Publishes station publication ((first >>= next) station).result ((first >>= next) station).state := by
  cases answer : (first station).result with
  | error failure =>
    rw [Action.bind_of_error answer]
    rw [answer] at publishes
    generalize (first station).state = after at publishes ⊢
    cases publishes with
    | silent peer => exact .silent peer
    | unpeered alone insists free => exact .unpeered alone insists free
    | settled peer width recorder arrays routes free =>
      exact .settled (by simpa using peer) width recorder arrays routes free
  | ok a =>
    rw [Action.bind_of_ok answer]
    rw [answer] at publishes
    generalize (first station).state = after at publishes ⊢
    cases publishes with
    | settled peer width recorder arrays routes free =>
      obtain ⟨⟨recorder, arrays, routes, left⟩, missed⟩ := aside a _
      rw [left]
      exact .settled missed width recorder arrays routes free

theorem Aside.pure (a : α) : Aside (pure a) := fun _ => ⟨⟨_, _, _, rfl⟩, fun _ => nofun⟩

theorem startValues_aside (port : String) (width : Nat) (initial : Option (List Binary64)) :
    Aside (startValues port width initial) := by
  intro station
  cases initial with
  | none => exact Aside.pure _ station
  | some initial =>
    rw [startValues]
    split
    · exact Aside.pure _ station
    · exact ⟨⟨_, _, _, rfl⟩, by simp⟩

theorem prepareContinuous_publishes (station : Station) (binding : ContinuousBinding) (kind : PortKind) :
    Publishes station ⟨binding.port, kind, binding.params⟩ (prepareContinuous binding kind station).result
      (prepareContinuous binding kind station).state :=
  (resolveWidth_publishes station _ _).andThen fun _ => startValues_aside _ _ _

theorem bindEventInput_publishes (station : Station) (binding : EventBinding) :
    Publishes station ⟨binding.port, .eventInput, binding.params⟩ (bindEventInput binding station).result
      (bindEventInput binding station).state := by
  unfold bindEventInput
  by_cases zero : binding.grouping = .aggregate 0
  · simp only [zero, if_true, Action.refuse_then]
    exact .silent (by simp)
  · simp only [zero, if_false]
    refine (resolveWidth_publishes station _ _).andThen fun width station => ?_
    cases binding.grouping.bufferCount width.size with
    | ok | error =>
      refine ⟨⟨_, _, _, rfl⟩, fun _ answer => ?_⟩
      cases answer

theorem Request.bind_publishes (station : Station) (request : Request) :
    Publishes station request.publication (request.bind station).result (request.bind station).state := by
  cases request with
  | continuousInput binding =>
    refine Publishes.andThen (.andThen (prepareContinuous_publishes station binding _) ?_) fun _ => .pure _
    exact fun _ _ => ⟨⟨_, _, _, rfl⟩, fun _ => nofun⟩
  | continuousOutput binding =>
    refine Publishes.andThen (.andThen (prepareContinuous_publishes station binding _) ?_) fun _ => .pure _
    exact fun _ _ => ⟨⟨_, _, _, rfl⟩, fun _ => nofun⟩
  | eventInput binding =>
    exact (bindEventInput_publishes station binding).andThen fun _ => .pure _
  | eventOutput port params =>
    exact (bindEventOutput_publishes station port params).andThen fun _ => .pure _

/-- A publication is accounted for by the refusal that it ended in, or by the name that it took. -/
theorem Publishes.counted {result : Except Failure Unit} {after : Station}
    (publishes : Publishes station publication result after) (port : String) :
    after.publications port + (station.widths.contains port).toNat =
      station.publications port + [result].count (.error (.fault (.unconnectedPort port))) +
        (after.widths.contains port).toNat := by
  cases publishes with
  | silent peer => simp [peer port]
  | unpeered alone insists free =>
    simp only [publications, List.countP_append, List.countP_singleton, List.count_singleton, beq_iff_eq,
      decide_eq_true_eq, Except.error.injEq, Failure.fault.injEq, Fault.unconnectedPort.injEq]
  | settled peer width recorder arrays routes free =>
    simp only [publications, List.countP_append, List.countP_singleton, List.count_singleton, beq_iff_eq,
      decide_eq_true_eq, peer port, if_false, Table.contains, Table.find?_insert]
    by_cases same : port = publication.port
    · subst same
      simp [Table.contains] at free
      simp [free]
    · simp [same, Ne.symm same]

/-- Every publication is that of a request, in the order of the requests. -/
theorem Publishes.published {result : Except Failure Unit} {after : Station}
    (publishes : Publishes station publication result after) :
    ∃ fresh, after.published = station.published ++ fresh ∧ fresh.Sublist [publication] := by
  cases publishes with
  | silent peer => exact ⟨[], (List.append_nil _).symm, List.nil_sublist _⟩
  | unpeered alone insists free => exact ⟨[publication], rfl, List.Sublist.refl _⟩
  | settled peer width recorder arrays routes free => exact ⟨[publication], rfl, List.Sublist.refl _⟩

/-- No port is refused for want of a peer: the station does without, or there always is one. -/
def Lenient (station : Station) : Prop :=
  station.policy = .warn ∨ ∀ earlier publication, station.directory earlier publication ≠ none

theorem Publishes.lenient {result : Except Failure Unit} {after : Station}
    (publishes : Publishes station publication result after) (lenient : station.Lenient) :
    (∀ port, result ≠ .error (.fault (.unconnectedPort port))) ∧ after.Lenient := by
  cases publishes with
  | silent peer => exact ⟨by simpa using peer, lenient⟩
  | unpeered alone insists free =>
    rcases lenient with warns | peered
    · simp [insists] at warns
    · exact absurd alone (peered _ _)
  | settled peer width recorder arrays routes free => exact ⟨peer, lenient⟩

/-- Requests, each with its answer, and the station they leave. -/
inductive Serves : Station → List Request → List (Except Failure Unit) → Station → Prop
  | nil (station : Station) : Serves station [] [] station
  | cons {station middle after : Station} {request : Request} {requests : List Request}
      {answer : Except Failure Unit} {answers : List (Except Failure Unit)}
      (first : Publishes station request.publication answer middle)
      (rest : Serves middle requests answers after) :
      Serves station (request :: requests) (answer :: answers) after

theorem serve_serves (requests : List Request) (station : Station) :
    ∃ answers, (serve requests station).result = .ok answers ∧
      Serves station requests answers (serve requests station).state := by
  induction requests generalizing station with
  | nil => exact ⟨[], rfl, .nil station⟩
  | cons request requests ih =>
    obtain ⟨answers, served, rest⟩ := ih (request.bind station).state
    rw [serve, Action.attempt_then, Action.bind_of_ok served]
    exact ⟨_, rfl, .cons (Request.bind_publishes station request) rest⟩

namespace Serves
variable {after : Station} {requests : List Request} {answers : List (Except Failure Unit)}

theorem length_answers (serves : Serves station requests answers after) :
    answers.length = requests.length := by
  induction serves with
  | nil => rfl
  | cons first rest ih => simp [ih]

theorem counted (serves : Serves station requests answers after) (port : String) :
    after.publications port + (station.widths.contains port).toNat =
      station.publications port + answers.count (.error (.fault (.unconnectedPort port))) +
        (after.widths.contains port).toNat := by
  induction serves with
  | nil => simp
  | cons first rest ih =>
    have step := first.counted port
    rw [List.count_singleton] at step
    rw [List.count_cons]
    omega

theorem published (serves : Serves station requests answers after) :
    ∃ fresh, after.published = station.published ++ fresh ∧
      fresh.Sublist (requests.map Request.publication) := by
  induction serves with
  | nil => exact ⟨[], (List.append_nil _).symm, List.Sublist.refl _⟩
  | cons first rest ih =>
    obtain ⟨fresh, grown, single⟩ := first.published
    obtain ⟨later, final, others⟩ := ih
    exact ⟨fresh ++ later, by rw [final, grown, List.append_assoc], single.append others⟩

theorem unrefused (serves : Serves station requests answers after) (lenient : station.Lenient)
    (port : String) : answers.count (.error (.fault (.unconnectedPort port))) = 0 := by
  induction serves with
  | nil => rfl
  | cons first rest ih =>
    obtain ⟨peer, still⟩ := first.lenient lenient
    rw [List.count_cons_of_ne (peer port), ih still]

end Serves

/-- Whatever is asked of a fresh station, a port is published once for every request that was refused
since it has no peer, and once more when it is bound. It is published at most once when no port is
refused for that reason. -/
theorem publications_counted (directory : Directory) (policy : UnconnectedPolicy) (recorder : Recorder)
    (requests : List Request) :
    let fresh := ofDirectory directory policy recorder
    let outcome := serve requests fresh
    ∃ answers, outcome.result = .ok answers ∧ answers.length = requests.length ∧
      outcome.state.published.Sublist (requests.map Request.publication) ∧
      (∀ port, outcome.state.publications port =
        answers.count (.error (.fault (.unconnectedPort port))) +
          (outcome.state.widths.contains port).toNat) ∧
      (policy = .warn ∨ (∀ earlier publication, directory earlier publication ≠ none) →
        ∀ port, outcome.state.publications port ≤ 1) := by
  intro fresh outcome
  obtain ⟨answers, served, serves⟩ := serve_serves requests fresh
  have counted : ∀ port, outcome.state.publications port =
      answers.count (.error (.fault (.unconnectedPort port))) +
        (outcome.state.widths.contains port).toNat := by
    intro port
    have total : outcome.state.publications port + 0 = 0 + _ + _ := serves.counted port
    rwa [Nat.zero_add, Nat.add_zero] at total
  obtain ⟨published, grown, own⟩ := serves.published
  refine ⟨answers, served, serves.length_answers, ?_, counted, fun lenient port => ?_⟩
  · rw [grown]
    exact own
  · rw [counted port, serves.unrefused lenient port, Nat.zero_add]
    exact Bool.toNat_le _

/-- A port without a peer, for a station that insists on one. -/
def lonely : Request := .eventInput { port := "activity_in", fallbackWidth := some 4 }

/-- Asked for twice, a port may be published twice. -/
theorem refusal_republishes :
    ¬∀ (directory : Directory) (policy : UnconnectedPolicy) (recorder : Recorder)
      (requests : List Request) (port : String),
      (serve requests (.ofDirectory directory policy recorder)).state.publications port ≤ 1 := by
  intro once
  exact absurd (once .unconnected .fail .singleStep [lonely, lonely] "activity_in") (by decide +kernel)

end Telemetry.Station
