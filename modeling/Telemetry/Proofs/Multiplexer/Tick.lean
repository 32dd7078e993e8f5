import Telemetry.Proofs.Multiplexer.Drain

/-! What a tick does to subscriptions inside one process: each of them is drained up to its first
failing message, and the next tick finds the rest. -/
namespace Telemetry
variable {σ : Type}

/-- The visits to a subscription are its messages in order, up to the first failing one. -/
structure Subscription.Drained (subscription : Subscription) (taken : List Visit) : Prop where
  positions : taken.map (·.position) = List.range taken.length
  messages : taken.map (·.message) = subscription.source.queued.take taken.length
  unfailing : ∀ visit ∈ taken.dropLast, visit.verdict.fault? = none
  exhausted : taken.length = subscription.source.queued.length ∨
    ∃ visit ∈ taken.getLast?, visit.verdict.fault?.isSome

theorem Subscription.Drained.failures {subscription : Subscription} {taken : List Visit}
    (drained : subscription.Drained taken) :
    taken.filterMap Visit.failure? = (taken.getLast?.bind Visit.failure?).toList := by
  cases final : taken.getLast? with
  | none => simp [List.getLast?_eq_none_iff.mp final]
  | some last =>
    have split := List.dropLast_append_getLast? last final
    have passed : taken.dropLast.filterMap Visit.failure? = [] := by
      apply List.filterMap_eq_nil_iff.mpr
      intro visit early
      simp [Visit.failure?, drained.unfailing visit early]
    rw [← split, List.filterMap_append, passed]
    cases stopped : last.failure? <;> simp [stopped]

namespace Seat.Story
variable {index position : Nat} {seat final : Seat} {visits : List Visit}

theorem positions (story : seat.Story index position visits final) :
    visits.map (·.position) = List.range' position visits.length := by
  induction story with
  | ended => rfl
  | visit waiting verdict later ih => simp [ih, List.range'_succ]

theorem subscription_eq (story : seat.Story index position visits final) :
    final.subscription = seat.subscription.drop visits.length := by
  induction story with
  | ended => simp
  | visit waiting verdict later ih => simp [ih, after, Nat.add_comm]

theorem after_visit {message : Bytes} {rest : List Bytes} {verdict : Verdict}
    (waiting : seat.pending = message :: rest)
    (later : (seat.after verdict).Story index position visits final) :
    verdict.fault?.isSome ∧ visits = [] ∨
      verdict.fault? = none ∧ (seat.after verdict).pending = rest := by
  have left := pending_after waiting verdict
  cases stopped : verdict.fault? with
  | none => exact .inr ⟨rfl, by simpa [stopped] using left⟩
  | some fault => exact .inl ⟨rfl, (later.of_idle (by simpa [stopped] using left)).1⟩

theorem messages (story : seat.Story index position visits final) :
    visits.map (·.message) = seat.pending.take visits.length := by
  induction story with
  | ended => simp
  | visit waiting verdict later ih =>
    rw [waiting]
    rcases later.after_visit waiting with ⟨-, rfl⟩ | ⟨-, left⟩
    · rfl
    · simp [ih, left]

theorem unfailing (story : seat.Story index position visits final) :
    ∀ visit ∈ visits.dropLast, visit.verdict.fault? = none := by
  induction story with
  | ended => simp
  | @visit _ _ _ visits _ _ waiting verdict later ih =>
    rcases later.after_visit waiting with ⟨-, rfl⟩ | ⟨passed, -⟩
    · simp
    · cases visits with
      | nil => simp
      | cons next rest => simpa [passed] using ih

theorem exhausted (story : seat.Story index position visits final) :
    visits.length = seat.pending.length ∨ ∃ visit ∈ visits.getLast?, visit.verdict.fault?.isSome := by
  induction story with
  | ended idle => simp [idle]
  | @visit _ _ _ visits _ _ waiting verdict later ih =>
    rcases later.after_visit waiting with ⟨stopped, rfl⟩ | ⟨-, left⟩
    · exact .inr ⟨_, rfl, stopped⟩
    · rw [waiting, List.length_cons, List.length_cons, ← left]
      rcases ih with whole | ⟨last, final, stopped⟩
      · exact .inl (congrArg (· + 1) whole)
      · exact .inr ⟨last, by simp [List.getLast?_cons, Option.mem_def.mp final], stopped⟩

theorem drained {subscription : Subscription}
    (story : (⟨subscription, false⟩ : Seat).Story index 0 visits final) :
    subscription.Drained visits where
  positions := story.positions.trans List.range_eq_range'.symm
  messages := story.messages
  unfailing := story.unfailing
  exhausted := story.exhausted

end Seat.Story

theorem cycle_idle (handle : Nat → Payload → Action σ Unit) (index : Nat) {seats : List Seat}
    (idle : ∀ seat ∈ seats, seat.subscription.source.InProcess ∧ seat.pending = []) (state : σ) :
    cycle handle index seats state = ⟨state, .ok (seats, {}, false), []⟩ := by
  induction seats generalizing index with
  | nil => rfl
  | cons seat seats ih =>
    obtain ⟨⟨inside, empty⟩, others⟩ := List.forall_mem_cons.mp idle
    have turned := seat.turn_idle inside empty (handle index) state
    have cycled := ih (index + 1) others
    rw [cycle, Action.bind_of_ok (by rw [turned]), turned]
    dsimp only
    rw [Action.bind_of_ok (by rw [cycled]), cycled]
    rfl

namespace Multiplexer
variable {multiplexer : Multiplexer}

def seats (multiplexer : Multiplexer) : List Seat :=
  multiplexer.subscriptions.map fun subscription => ⟨subscription, false⟩

theorem seated (inside : ∀ subscription ∈ multiplexer.subscriptions, subscription.source.InProcess) :
    Seated (multiplexer.subscriptions.map Subscription.inlet) 0 multiplexer.seats := by
  refine ⟨by simp [seats, Function.comp_def], ?_⟩
  intro seat member
  obtain ⟨subscription, registered, rfl⟩ := List.mem_map.mp member
  exact inside subscription registered

theorem weight_seats
    (inside : ∀ subscription ∈ multiplexer.subscriptions, subscription.source.InProcess) :
    weight multiplexer.seats = multiplexer.backlog := by
  have counted : ∀ (subscriptions : List Subscription) (polls : Nat),
      (∀ subscription ∈ subscriptions, subscription.source.InProcess) →
      subscriptions.foldl (fun polls s => polls + s.source.backlog) polls =
        polls + (subscriptions.map fun s => s.source.queued.length).sum := by
    intro subscriptions polls inside
    induction subscriptions generalizing polls with
    | nil => rfl
    | cons subscription subscriptions ih =>
      obtain ⟨first, others⟩ := List.forall_mem_cons.mp inside
      simp only [List.foldl_cons, List.map_cons, List.sum_cons]
      rw [ih _ others, Source.backlog_eq first, Nat.add_assoc]
  rw [backlog, counted _ _ inside, Nat.zero_add]
  simp [weight, seats, Seat.pending, Function.comp_def]

theorem tick_idle (handle : Nat → Payload → Action σ Unit)
    (inside : ∀ subscription ∈ multiplexer.subscriptions, subscription.source.InProcess)
    (empty : ∀ subscription ∈ multiplexer.subscriptions, subscription.source.queued = []) (state : σ) :
    multiplexer.tick handle state = ⟨state, .ok (multiplexer, {}), []⟩ := by
  have idle : ∀ seat ∈ multiplexer.seats, seat.subscription.source.InProcess ∧ seat.pending = [] := by
    intro seat member
    obtain ⟨subscription, registered, rfl⟩ := List.mem_map.mp member
    exact ⟨inside subscription registered, empty subscription registered⟩
  have cycled := cycle_idle handle 0 idle state
  have drained : drain handle (multiplexer.backlog + 1) multiplexer.seats state =
      ⟨state, .ok (multiplexer.seats, {}), []⟩ := by
    rw [drain, Action.bind_of_ok (by rw [cycled]), cycled]
    rfl
  have same : multiplexer.seats.map (·.subscription) = multiplexer.subscriptions := by
    simp [seats, Function.comp_def]
  rw [tick]
  change (drain handle (multiplexer.backlog + 1) multiplexer.seats >>= _) state = _
  rw [Action.bind_of_ok (by rw [drained]), drained]
  simp [same]

theorem tick_rounds {handle : Nat → Payload → Action σ Unit} {kind : σ → Prop}
    (inside : ∀ subscription ∈ multiplexer.subscriptions, subscription.source.InProcess)
    (calm : ∀ (index : Nat) (inlet : Inlet),
      (multiplexer.subscriptions.map Subscription.inlet)[index]? = some inlet →
        inlet.Calm (handle index) kind)
    (state : σ) (fit : kind state) :
    ∃ visits final next, Rounds 0 multiplexer.seats visits final ∧
      Visit.Served handle (multiplexer.subscriptions.map Subscription.inlet) state visits next ∧
      kind next ∧ ∃ log,
        (∀ cycles, multiplexer.backlog < cycles → drain handle cycles multiplexer.seats state =
          ⟨next, .ok (final, Visit.tally visits), log⟩) ∧
        (multiplexer.tick handle state).state = next ∧
        (multiplexer.tick handle state).result =
          .ok ({ multiplexer with subscriptions := final.map (·.subscription) }, Visit.tally visits) := by
  obtain ⟨visits, final, next, rounds, served, stays, log, drained⟩ :=
    drain_rounds calm 0 (seated inside) fit
  rw [weight_seats inside] at drained
  have ran := drained (multiplexer.backlog + 1) (Nat.lt_succ_self _)
  refine ⟨visits, final, next, rounds, served, stays, log, drained, ?_⟩
  rw [tick]
  change ((drain handle (multiplexer.backlog + 1) multiplexer.seats >>= _) state).state = _ ∧
    ((drain handle (multiplexer.backlog + 1) multiplexer.seats >>= _) state).result = _
  rw [Action.bind_of_ok (by rw [ran]), ran]
  exact ⟨rfl, rfl⟩

theorem drained_of_rounds {visits : List Visit} {final : List Seat}
    (rounds : Rounds 0 multiplexer.seats visits final) {index : Nat} {subscription : Subscription}
    (there : multiplexer.subscriptions[index]? = some subscription) :
    subscription.Drained (visits.filter (·.index = index)) ∧
      (final.map (·.subscription))[index]? =
        some (subscription.drop (visits.filter (·.index = index)).length) := by
  have placed : multiplexer.seats[index]? = some ⟨subscription, false⟩ := by simp [seats, there]
  obtain ⟨last, found, story⟩ := rounds.story placed
  refine ⟨story.drained, ?_⟩
  rw [List.getElem?_map, found]
  exact congrArg some story.subscription_eq

/-- A tick over subscriptions inside the process, whose handlers may reject what they are given. There
is a list of visits, in the order of positions and then of subscriptions, that the handlers see and
that the report counts. The visits to a subscription are the messages of its queue up to the first
failing one, the queue keeps the others, and at most the last visit is reported as a failure. A tick
after one that left nothing behind does nothing. -/
theorem tick_serves {handle : Nat → Payload → Action σ Unit}
    (inside : ∀ subscription ∈ multiplexer.subscriptions, subscription.source.InProcess)
    (whole : ∀ index payload state broken,
      (handle index payload state).result ≠ .error (.breach broken)) (state : σ) :
    ∃ visits final next,
      let left : Multiplexer := { multiplexer with subscriptions := final.map (·.subscription) }
      (multiplexer.tick handle state).state = next ∧
      (multiplexer.tick handle state).result = .ok (left, Visit.tally visits) ∧
      (∃ log, ∀ cycles, multiplexer.backlog < cycles → drain handle cycles multiplexer.seats state =
        ⟨next, .ok (final, Visit.tally visits), log⟩) ∧
      Visit.Served handle (multiplexer.subscriptions.map Subscription.inlet) state visits next ∧
      visits.Pairwise Visit.Before ∧
      left.subscriptions.length = multiplexer.subscriptions.length ∧
      (∀ (index : Nat) (subscription : Subscription),
        multiplexer.subscriptions[index]? = some subscription →
        let taken := visits.filter (·.index = index)
        subscription.Drained taken ∧
        left.subscriptions[index]? = some (subscription.drop taken.length) ∧
        taken.filterMap Visit.failure? = (taken.getLast?.bind Visit.failure?).toList) ∧
      ((∀ subscription ∈ left.subscriptions, subscription.source.queued = []) →
        ∀ (other : Nat → Payload → Action σ Unit) (later : σ),
          left.tick other later = ⟨later, .ok (left, {}), []⟩) := by
  have calm : ∀ (index : Nat) (inlet : Inlet),
      (multiplexer.subscriptions.map Subscription.inlet)[index]? = some inlet →
        inlet.Calm (handle index) fun _ => True :=
    fun index _ _ _ payload state _ _ => ⟨whole index payload state, trivial⟩
  obtain ⟨visits, final, next, rounds, served, -, log, drained, after, answer⟩ :=
    tick_rounds inside calm state trivial
  obtain ⟨registered, stay⟩ := rounds.seated (seated inside)
  refine ⟨visits, final, next, after, answer, ⟨log, drained⟩, served, rounds.ordered, ?_, ?_, ?_⟩
  · simpa using congrArg List.length registered
  · intro index subscription there taken
    obtain ⟨drained, left⟩ := drained_of_rounds rounds there
    exact ⟨drained, left, drained.failures⟩
  · intro empty other later
    refine tick_idle other ?_ empty later
    intro subscription member
    obtain ⟨seat, there, rfl⟩ := List.mem_map.mp member
    exact stay seat there

/-- Keeps what it sees and rejects a body without content. -/
def collect (index : Nat) (payload : Payload) : Action (List (Nat × Payload)) Unit := fun seen =>
  ⟨seen ++ [(index, payload)], if payload = .raw [] then .error (.fault (.io "empty")) else .ok (), []⟩

/-- The first subscription fails at its second message, the second one has a topic. -/
def burst : Multiplexer where
  subscriptions :=
    [⟨.channel { address := "inproc://a", queue := [[1], [], [2]] }, [], none⟩,
      ⟨.channel { address := "inproc://b", queue := [[7, 3], [8, 4], [7, 5]] }, [7], none⟩]

theorem tick_burst : (∀ subscription ∈ burst.subscriptions, subscription.source.InProcess) ∧
    (∀ index payload state broken,
      (collect index payload state).result ≠ .error (.breach broken)) ∧
    (burst.tick collect []).state = [(0, .raw [1]), (1, .raw [3]), (0, .raw []), (1, .raw [5])] ∧
    ∃ visits : List Visit, visits.Pairwise Visit.Before ∧
      Visit.tally visits = ⟨3, 1, [("inproc://a", .io "empty")]⟩ ∧
      ∀ (index : Nat) (subscription : Subscription), burst.subscriptions[index]? = some subscription →
        subscription.Drained (visits.filter (·.index = index)) := by
  have inside : ∀ subscription ∈ burst.subscriptions, subscription.source.InProcess := by
    simp [burst, Source.InProcess]
  have whole : ∀ index payload state broken,
      (collect index payload state).result ≠ .error (.breach broken) := by
    intro index payload state broken
    simp only [collect]
    split <;> simp
  obtain ⟨visits, final, next, -, answer, -, -, ordered, -, each, -⟩ := tick_serves inside whole []
  have answered : (burst.tick collect []).result.map (·.2) =
      .ok ⟨3, 1, [("inproc://a", .io "empty")]⟩ := by
    decide +kernel
  have counted : Visit.tally visits = ⟨3, 1, [("inproc://a", .io "empty")]⟩ := by
    rw [answer] at answered
    exact Except.ok.inj answered
  exact ⟨inside, whole, by decide +kernel, visits, ordered, counted,
    fun index subscription there => (each index subscription there).1⟩

end Multiplexer
end Telemetry
