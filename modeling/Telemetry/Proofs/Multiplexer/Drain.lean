import Telemetry.Proofs.Multiplexer.Visit
import Mathlib.Algebra.GroupWithZero.Nat
import Mathlib.Data.List.Basic

/-! How a tick drains sources inside one process. A cycle visits every seat that has a message once,
so the messages come in the order of their positions in the queues. Every cycle but the last one
takes a message, so a tick ends with a cycle that found nothing. -/
namespace Telemetry
variable {σ : Type}

namespace Source

def InProcess : Source → Prop
  | channel _ => True
  | _ => False

def queued : Source → List Bytes
  | channel c => c.queue
  | _ => []

def drop (taken : Nat) : Source → Source
  | channel c => channel { c with queue := c.queue.drop taken }
  | source => source

@[simp] theorem drop_zero (source : Source) : source.drop 0 = source := by
  cases source <;> rfl

@[simp] theorem drop_drop (source : Source) (first second : Nat) :
    (source.drop first).drop second = source.drop (first + second) := by
  cases source <;> simp [drop]

@[simp] theorem queued_drop (source : Source) (taken : Nat) :
    (source.drop taken).queued = source.queued.drop taken := by
  cases source <;> simp [drop, queued]

@[simp] theorem address_drop (source : Source) (taken : Nat) :
    (source.drop taken).address = source.address := by
  cases source <;> rfl

@[simp] theorem inProcess_drop (source : Source) (taken : Nat) :
    (source.drop taken).InProcess ↔ source.InProcess := by
  cases source <;> rfl

theorem poll_nothing {source : Source} (inside : source.InProcess) (empty : source.queued = []) :
    source.poll = ⟨source, .ok none, []⟩ := by
  cases source with
  | channel channel =>
    simp only [queued] at empty
    simp [poll, dispatch, Channel.poll, empty]
  | socket | replay => exact inside.elim

theorem poll_message {source : Source} {message : Bytes} {rest : List Bytes}
    (waiting : source.queued = message :: rest) :
    source.poll = ⟨source.drop 1, .ok (some message), []⟩ := by
  cases source with
  | channel channel =>
    simp only [queued] at waiting
    simp [poll, dispatch, Channel.poll, waiting, drop]
  | socket | replay => simp [queued] at waiting

theorem backlog_eq {source : Source} (inside : source.InProcess) :
    source.backlog = source.queued.length := by
  cases source with
  | channel => rfl
  | socket | replay => exact inside.elim

end Source

def Subscription.drop (taken : Nat) (subscription : Subscription) : Subscription :=
  { subscription with source := subscription.source.drop taken }

@[simp] theorem Subscription.drop_zero (subscription : Subscription) :
    subscription.drop 0 = subscription := by
  simp [drop]

@[simp] theorem Subscription.drop_drop (subscription : Subscription) (first second : Nat) :
    (subscription.drop first).drop second = subscription.drop (first + second) := by
  simp [drop]

@[simp] theorem Subscription.inlet_drop (subscription : Subscription) (taken : Nat) :
    (subscription.drop taken).inlet = subscription.inlet := by
  simp [drop, inlet]

/-- A message that was taken from the queue of a subscription. -/
structure Visit where
  position : Nat
  index : Nat
  inlet : Inlet
  message : Bytes
  verdict : Verdict
  deriving DecidableEq, Repr

namespace Visit

/-- Visits go by position first and then by subscription. -/
def Before (a b : Visit) : Prop :=
  a.position < b.position ∨ a.position = b.position ∧ a.index < b.index

def failure? (visit : Visit) : Option (String × Fault) :=
  visit.verdict.fault?.map fun fault => (visit.inlet.address, fault)

def tally (visits : List Visit) : TickReport where
  delivered := visits.countP (·.verdict = .delivered)
  filtered := visits.countP (·.verdict = .filtered)
  failures := visits.filterMap failure?

theorem tally_append (visits more : List Visit) :
    tally (visits ++ more) = tally visits ++ tally more := by
  simp only [tally, List.countP_append, List.filterMap_append]
  rfl

/-- The handlers see the visits in turn, each handler those of its own subscription. -/
inductive Served (handle : Nat → Payload → Action σ Unit) (inlets : List Inlet) :
    σ → List Visit → σ → Prop
  | done (state : σ) : Served handle inlets state [] state
  | visit {state next last : σ} {visit : Visit} {visits : List Visit}
      (registered : inlets[visit.index]? = some visit.inlet)
      (judged : visit.inlet.Judges (handle visit.index) state visit.message visit.verdict next)
      (rest : Served handle inlets next visits last) :
      Served handle inlets state (visit :: visits) last

theorem Served.append {handle : Nat → Payload → Action σ Unit} {inlets : List Inlet}
    {state next last : σ} {visits more : List Visit} (first : Served handle inlets state visits next)
    (second : Served handle inlets next more last) :
    Served handle inlets state (visits ++ more) last := by
  induction first with
  | done => exact second
  | visit registered judged rest ih => exact .visit registered judged (ih second)

end Visit

namespace Seat

def pending (seat : Seat) : List Bytes :=
  if seat.suspended then [] else seat.subscription.source.queued

def after (verdict : Verdict) (seat : Seat) : Seat where
  subscription := seat.subscription.drop 1
  suspended := verdict.fault?.isSome

theorem pending_after {seat : Seat} {message : Bytes} {rest : List Bytes}
    (waiting : seat.pending = message :: rest) (verdict : Verdict) :
    (seat.after verdict).pending = if verdict.fault?.isSome then [] else rest := by
  obtain ⟨subscription, suspended⟩ := seat
  cases suspended with
  | true => simp [pending] at waiting
  | false =>
    have queued : subscription.source.queued = message :: rest := waiting
    simp [pending, after, Subscription.drop, queued]

theorem turn_idle {seat : Seat} (inside : seat.subscription.source.InProcess)
    (idle : seat.pending = []) (handle : Payload → Action σ Unit) (state : σ) :
    seat.turn handle state = ⟨state, .ok (seat, {}, false), []⟩ := by
  obtain ⟨subscription, suspended⟩ := seat
  cases suspended with
  | true => rfl
  | false =>
    have polled := Source.poll_nothing inside idle
    simp only [turn, polled]
    rfl

theorem turn_visit {seat : Seat} {message : Bytes} {rest : List Bytes}
    (waiting : seat.pending = message :: rest) {handle : Payload → Action σ Unit} {kind : σ → Prop}
    (calm : seat.subscription.inlet.Calm handle kind) {state : σ} (fit : kind state)
    (position index : Nat) :
    ∃ verdict next, seat.subscription.inlet.Judges handle state message verdict next ∧ kind next ∧
      ∃ log, seat.turn handle state =
        ⟨next, .ok (seat.after verdict,
          Visit.tally [⟨position, index, seat.subscription.inlet, message, verdict⟩], true), log⟩ := by
  obtain ⟨subscription, suspended⟩ := seat
  cases suspended with
  | true => simp [pending] at waiting
  | false =>
    have polled := Source.poll_message waiting
    have left : (subscription.drop 1).inlet.Calm handle kind := by simpa using calm
    obtain ⟨verdict, answer, judged, stays⟩ := Subscription.dispatch_judges left fit message
    rw [Subscription.inlet_drop] at judged
    rw [Subscription.drop] at answer judged stays
    simp only [turn, polled, Bool.false_eq_true, if_false, Action.logAll_then, Action.attempt_then,
      answer]
    cases verdict with
    | delivered => exact ⟨.delivered, _, judged, stays, _, rfl⟩
    | filtered => exact ⟨.filtered, _, judged, stays, _, rfl⟩
    | failed fault =>
      have address := Source.address_drop subscription.source 1
      refine ⟨.failed fault, _, judged, stays, ?_⟩
      simp only [Visit.tally, Visit.failure?, Subscription.inlet, ← address]
      exact ⟨_, rfl⟩

/-- One poll of a seat takes the next message, if there is one. -/
inductive Turned (position index : Nat) (seat : Seat) : List Visit → Seat → Prop
  | idle (idle : seat.pending = []) : Turned position index seat [] seat
  | visit {message : Bytes} {rest : List Bytes} (waiting : seat.pending = message :: rest)
      (verdict : Verdict) :
      Turned position index seat [⟨position, index, seat.subscription.inlet, message, verdict⟩]
        (seat.after verdict)

end Seat

theorem Seat.turn_turned {handle : Nat → Payload → Action σ Unit} {inlets : List Inlet}
    {kind : σ → Prop} {seat : Seat} {index : Nat} (inside : seat.subscription.source.InProcess)
    (registered : inlets[index]? = some seat.subscription.inlet)
    (calm : seat.subscription.inlet.Calm (handle index) kind) (position : Nat) {state : σ}
    (fit : kind state) :
    ∃ visits next after, seat.Turned position index visits after ∧
      Visit.Served handle inlets state visits next ∧ kind next ∧
      ∃ log, seat.turn (handle index) state =
        ⟨next, .ok (after, Visit.tally visits, !visits.isEmpty), log⟩ := by
  cases waiting : seat.pending with
  | nil =>
    have ran := turn_idle inside waiting (handle index) state
    exact ⟨[], state, seat, .idle waiting, .done state, fit, [], ran⟩
  | cons message rest =>
    obtain ⟨verdict, next, judged, stays, log, ran⟩ := turn_visit waiting calm fit position index
    exact ⟨_, next, _, .visit waiting verdict, .visit registered judged (.done next), stays, log, ran⟩

namespace Seat.Turned
variable {position index : Nat} {seat next : Seat} {visits : List Visit}

theorem inlet_eq (turned : seat.Turned position index visits next) :
    next.subscription.inlet = seat.subscription.inlet := by
  cases turned with
  | idle => rfl
  | visit => exact Subscription.inlet_drop _ _

theorem inProcess (turned : seat.Turned position index visits next) :
    next.subscription.source.InProcess ↔ seat.subscription.source.InProcess := by
  cases turned with
  | idle => rfl
  | visit => exact Source.inProcess_drop _ _

theorem weight_le (turned : seat.Turned position index visits next) :
    next.pending.length + visits.length ≤ seat.pending.length := by
  cases turned with
  | idle => simp
  | visit waiting verdict =>
    rw [pending_after waiting, waiting]
    split <;> simp

theorem mem (turned : seat.Turned position index visits next) {visit : Visit}
    (member : visit ∈ visits) : visit.position = position ∧ visit.index = index := by
  cases turned with
  | idle => simp at member
  | visit => simp_all

theorem ordered (turned : seat.Turned position index visits next) :
    visits.Pairwise Visit.Before := by
  cases turned with
  | idle => exact .nil
  | visit => exact List.pairwise_singleton _ _

end Seat.Turned

inductive Round (position : Nat) : Nat → List Seat → List Visit → List Seat → Prop
  | nil (index : Nat) : Round position index [] [] []
  | cons {index : Nat} {seat next : Seat} {seats final : List Seat} {visits more : List Visit}
      (turned : seat.Turned position index visits next)
      (rest : Round position (index + 1) seats more final) :
      Round position index (seat :: seats) (visits ++ more) (next :: final)

def weight (seats : List Seat) : Nat := (seats.map (·.pending.length)).sum

def Seated (inlets : List Inlet) (index : Nat) (seats : List Seat) : Prop :=
  seats.map (·.subscription.inlet) = inlets.drop index ∧
    ∀ seat ∈ seats, seat.subscription.source.InProcess

namespace Round
variable {position index : Nat} {seats final : List Seat} {visits : List Visit}

theorem seated {inlets : List Inlet} (round : Round position index seats visits final)
    (placed : Seated inlets index seats) : Seated inlets index final := by
  obtain ⟨registered, inside⟩ := placed
  suffices same : final.map (·.subscription.inlet) = seats.map (·.subscription.inlet) ∧
      ∀ seat ∈ final, seat.subscription.source.InProcess from ⟨same.1.trans registered, same.2⟩
  clear registered
  induction round with
  | nil => simp
  | cons turned rest ih =>
    obtain ⟨head, tail⟩ := List.forall_mem_cons.mp inside
    obtain ⟨inlets, sources⟩ := ih tail
    exact ⟨by simp [turned.inlet_eq, inlets],
      List.forall_mem_cons.mpr ⟨turned.inProcess.mpr head, sources⟩⟩

theorem mem (round : Round position index seats visits final) {visit : Visit}
    (member : visit ∈ visits) : visit.position = position ∧ index ≤ visit.index := by
  induction round with
  | nil => simp at member
  | cons turned rest ih =>
    rcases List.mem_append.mp member with here | later
    · obtain ⟨position, index⟩ := turned.mem here
      exact ⟨position, Nat.le_of_eq index.symm⟩
    · obtain ⟨position, index⟩ := ih later
      exact ⟨position, Nat.le_of_succ_le index⟩

theorem ordered (round : Round position index seats visits final) :
    visits.Pairwise Visit.Before := by
  induction round with
  | nil => exact .nil
  | cons turned rest ih =>
    refine List.pairwise_append.mpr ⟨turned.ordered, ih, ?_⟩
    intro first here second later
    obtain ⟨level, place⟩ := turned.mem here
    obtain ⟨same, beyond⟩ := rest.mem later
    exact .inr ⟨level.trans same.symm, by omega⟩

theorem weight_le (round : Round position index seats visits final) :
    weight final + visits.length ≤ weight seats := by
  induction round with
  | nil => exact Nat.le_refl _
  | cons turned rest ih =>
    have lighter := turned.weight_le
    simp only [weight, List.map_cons, List.sum_cons, List.length_append] at ih ⊢
    omega

theorem turned (round : Round position index seats visits final) {place : Nat} {seat : Seat}
    (there : seats[place]? = some seat) :
    ∃ next, final[place]? = some next ∧
      seat.Turned position (index + place) (visits.filter (·.index = index + place)) next := by
  induction round generalizing place with
  | nil => simp at there
  | @cons index head next seats final visits more turned rest ih =>
    cases place with
    | zero =>
      obtain rfl : head = seat := by simpa using there
      have own : visits.filter (·.index = index) = visits :=
        List.filter_eq_self.mpr fun visit here => by simp [(turned.mem here).2]
      have none : more.filter (·.index = index) = [] :=
        List.filter_eq_nil_iff.mpr fun visit later => by
          have beyond := (rest.mem later).2
          simp only [decide_eq_true_eq]
          omega
      exact ⟨next, rfl, by simpa [own, none] using turned⟩
    | succ place =>
      obtain ⟨after, found, turn⟩ := ih (by simpa using there)
      have none : visits.filter (·.index = index + (place + 1)) = [] :=
        List.filter_eq_nil_iff.mpr fun visit here => by
          have first := (turned.mem here).2
          simp only [decide_eq_true_eq]
          omega
      rw [List.filter_append, none, List.nil_append, ← Nat.add_assoc, Nat.add_right_comm]
      exact ⟨after, found, turn⟩

end Round

theorem cycle_round {handle : Nat → Payload → Action σ Unit} {inlets : List Inlet}
    {kind : σ → Prop}
    (calm : ∀ (index : Nat) (inlet : Inlet), inlets[index]? = some inlet →
      inlet.Calm (handle index) kind)
    (position index : Nat) {seats : List Seat} (placed : Seated inlets index seats) {state : σ}
    (fit : kind state) :
    ∃ visits final next, Round position index seats visits final ∧
      Visit.Served handle inlets state visits next ∧ kind next ∧
      ∃ log, cycle handle index seats state =
        ⟨next, .ok (final, Visit.tally visits, !visits.isEmpty), log⟩ := by
  induction seats generalizing index state with
  | nil => exact ⟨[], [], state, .nil index, .done state, fit, [], rfl⟩
  | cons seat seats ih =>
    obtain ⟨registered, inside⟩ := placed
    obtain ⟨first, others⟩ := List.forall_mem_cons.mp inside
    have own : inlets[index]? = some seat.subscription.inlet := by
      rw [← List.head?_drop, ← registered]
      rfl
    have remaining : seats.map (·.subscription.inlet) = inlets.drop (index + 1) := by
      rw [← List.tail_drop, ← registered]
      rfl
    obtain ⟨visits, middle, after, turned, served, stays, log, ran⟩ :=
      seat.turn_turned first own (calm index _ own) position fit
    obtain ⟨more, final, next, round, rest, fits, logs, cycled⟩ := ih (index + 1) ⟨remaining, others⟩ stays
    refine ⟨visits ++ more, after :: final, next, .cons turned round, served.append rest, fits, ?_⟩
    have found : (!(visits ++ more).isEmpty) = (!visits.isEmpty || !more.isEmpty) := by
      cases visits <;> rfl
    rw [cycle, Action.bind_of_ok (by rw [ran]), ran]
    dsimp only
    rw [Action.bind_of_ok (by rw [cycled]), cycled, Visit.tally_append, found]
    exact ⟨_, rfl⟩

/-- Cycles, the last of which finds nothing. -/
inductive Rounds : Nat → List Seat → List Visit → List Seat → Prop
  | last {position : Nat} {seats final : List Seat} (round : Round position 0 seats [] final) :
      Rounds position seats [] final
  | more {position : Nat} {seats middle final : List Seat} {visits later : List Visit}
      (round : Round position 0 seats visits middle) (rest : Rounds (position + 1) middle later final) :
      Rounds position seats (visits ++ later) final

/-- The visits to the subscription of one seat: it takes its messages in order until one fails. -/
inductive Seat.Story (index : Nat) : Nat → Seat → List Visit → Seat → Prop
  | ended {position : Nat} {seat : Seat} (idle : seat.pending = []) :
      Story index position seat [] seat
  | visit {position : Nat} {seat final : Seat} {visits : List Visit} {message : Bytes}
      {rest : List Bytes} (waiting : seat.pending = message :: rest) (verdict : Verdict)
      (later : Story index (position + 1) (seat.after verdict) visits final) :
      Story index position seat
        (⟨position, index, seat.subscription.inlet, message, verdict⟩ :: visits) final

theorem Seat.Story.of_idle {index position : Nat} {seat final : Seat} {visits : List Visit}
    (story : seat.Story index position visits final) (idle : seat.pending = []) :
    visits = [] ∧ final = seat := by
  cases story with
  | ended => exact ⟨rfl, rfl⟩
  | visit waiting => simp [idle] at waiting

theorem Seat.Turned.story {index position : Nat} {seat next final : Seat} {visits later : List Visit}
    (turned : seat.Turned position index visits next)
    (story : next.Story index (position + 1) later final) :
    seat.Story index position (visits ++ later) final := by
  cases turned with
  | idle idle =>
    obtain ⟨rfl, rfl⟩ := story.of_idle idle
    exact .ended idle
  | visit waiting verdict => exact .visit waiting verdict story

namespace Rounds
variable {position : Nat} {seats final : List Seat} {visits : List Visit}

theorem seated {inlets : List Inlet} (rounds : Rounds position seats visits final)
    (placed : Seated inlets 0 seats) : Seated inlets 0 final := by
  induction rounds with
  | last round => exact round.seated placed
  | more round rest ih => exact ih (round.seated placed)

theorem mem (rounds : Rounds position seats visits final) {visit : Visit} (member : visit ∈ visits) :
    position ≤ visit.position := by
  induction rounds with
  | last => simp at member
  | more round rest ih =>
    rcases List.mem_append.mp member with here | later
    · exact Nat.le_of_eq (round.mem here).1.symm
    · exact Nat.le_of_succ_le (ih later)

theorem ordered (rounds : Rounds position seats visits final) : visits.Pairwise Visit.Before := by
  induction rounds with
  | last => exact .nil
  | more round rest ih =>
    refine List.pairwise_append.mpr ⟨round.ordered, ih, ?_⟩
    intro first here second later
    have now := (round.mem here).1
    have next := rest.mem later
    exact .inl (by omega)

theorem story (rounds : Rounds position seats visits final) {index : Nat} {seat : Seat}
    (there : seats[index]? = some seat) :
    ∃ last, final[index]? = some last ∧
      seat.Story index position (visits.filter (·.index = index)) last := by
  induction rounds generalizing seat with
  | last round =>
    obtain ⟨next, found, turned⟩ := round.turned there
    rw [Nat.zero_add] at turned
    cases turned with
    | idle idle => exact ⟨seat, found, .ended idle⟩
  | more round rest ih =>
    obtain ⟨next, found, turned⟩ := round.turned there
    obtain ⟨last, ending, later⟩ := ih found
    rw [Nat.zero_add] at turned
    exact ⟨last, ending, List.filter_append .. ▸ turned.story later⟩

end Rounds

/-- More cycles than messages end in an idle cycle. -/
theorem drain_rounds {handle : Nat → Payload → Action σ Unit} {inlets : List Inlet} {kind : σ → Prop}
    (calm : ∀ (index : Nat) (inlet : Inlet), inlets[index]? = some inlet →
      inlet.Calm (handle index) kind)
    (position : Nat) {seats : List Seat} (placed : Seated inlets 0 seats) {state : σ}
    (fit : kind state) :
    ∃ visits final next, Rounds position seats visits final ∧
      Visit.Served handle inlets state visits next ∧ kind next ∧
      ∃ log, ∀ cycles, weight seats < cycles →
        drain handle cycles seats state = ⟨next, .ok (final, Visit.tally visits), log⟩ := by
  induction size : weight seats using Nat.strongRecOn generalizing position seats state with
  | ind size ih =>
  obtain ⟨visits, middle, next, round, served, stays, log, ran⟩ := cycle_round calm position 0 placed fit
  by_cases idle : visits = []
  · subst idle
    refine ⟨[], middle, next, .last round, served, stays, log ++ [], ?_⟩
    intro cycles enough
    obtain ⟨spare, rfl⟩ := Nat.exists_eq_add_one_of_ne_zero (Nat.ne_of_gt (Nat.zero_lt_of_lt enough))
    rw [drain, Action.bind_of_ok (by rw [ran]), ran]
    rfl
  · have lighter := round.weight_le
    have counted := List.length_pos_iff.mpr idle
    obtain ⟨later, final, last, rounds, rest, fits, logs, drained⟩ :=
      ih (weight middle) (by omega) (position + 1) (round.seated placed) stays rfl
    refine ⟨visits ++ later, final, last, .more round rounds, served.append rest, fits,
      log ++ (logs ++ []), ?_⟩
    intro cycles enough
    obtain ⟨spare, rfl⟩ := Nat.exists_eq_add_one_of_ne_zero (Nat.ne_of_gt (Nat.zero_lt_of_lt enough))
    have ran' := drained spare (by omega)
    have found : (!visits.isEmpty) = true := by simpa using idle
    rw [drain, Action.bind_of_ok (by rw [ran]), ran]
    simp only [found, if_true]
    rw [Action.bind_of_ok (by rw [ran']), ran', Visit.tally_append]
    rfl

end Telemetry
