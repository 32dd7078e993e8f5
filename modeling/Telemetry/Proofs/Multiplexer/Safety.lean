import Telemetry.Proofs.Multiplexer.Visit

/-! A tick answers whatever arrives, on sources of every kind, as long as no handler breaks a contract
on a payload that was decoded for it. -/
namespace Telemetry
variable {σ : Type} {kind : σ → Prop}

theorem Channel.poll_unbroken : Channel.poll.Unbroken := by
  refine .bind .read fun channel => ?_
  cases channel.queue with
  | nil => exact .done none
  | cons payload queue => exact .bind (.write _) fun _ => .done _

theorem Subscriber.poll_unbroken : Subscriber.poll.Unbroken := by
  refine .bind .read fun subscriber => ?_
  cases subscriber.isOpen with
  | false => exact fun _ _ equal => nomatch equal
  | true =>
    cases subscriber.queue with
    | nil => exact .done none
    | cons frame queue =>
      refine .bind (.write _) fun _ => ?_
      split
      · exact .bind (.log _ _) fun _ => .done _
      · exact .done _

theorem Replay.poll_unbroken : Replay.poll.Unbroken := by
  refine .bind .read fun replay => ?_
  cases replay.arrivals with
  | nil => exact .bind (.write _) fun _ => .done none
  | cons arrival arrivals =>
    cases arrival with
    | message payload => exact .bind (.write _) fun _ => .done _
    | nothing => exact .bind (.write _) fun _ => .done _
    | failure fault => exact .bind (.write _) fun _ => .fail fault
    | stop => exact .bind (.write _) fun _ => .done _

theorem Source.poll_unbroken : Source.poll.Unbroken := by
  intro source
  cases source with
  | channel channel => exact Channel.poll_unbroken channel
  | socket subscriber => exact Subscriber.poll_unbroken subscriber
  | replay replay => exact Replay.poll_unbroken replay

theorem Seat.turn_answers {handle : Payload → Action σ Unit}
    (calm : ∀ inlet : Inlet, inlet.Calm handle kind) (seat : Seat) :
    Action.Answers kind (seat.turn handle) := by
  intro state fit
  obtain ⟨subscription, suspended⟩ := seat
  cases suspended with
  | true => exact ⟨⟨_, rfl⟩, fit⟩
  | false =>
    have whole := Source.poll_unbroken subscription.source
    simp only [turn, Bool.false_eq_true, if_false, Action.logAll_then]
    cases polled : subscription.source.poll.result with
    | error failure =>
      cases failure with
      | fault fault => exact ⟨⟨_, rfl⟩, fit⟩
      | breach broken => exact absurd polled (whole broken)
    | ok found =>
      cases found with
      | none => exact ⟨⟨_, rfl⟩, fit⟩
      | some message =>
        obtain ⟨verdict, answer, -, stays⟩ := Subscription.dispatch_judges
          (calm { subscription with source := subscription.source.poll.state }.inlet) fit message
        simp only [Action.attempt_then, answer]
        cases verdict with
        | delivered => exact ⟨⟨_, rfl⟩, stays⟩
        | filtered => exact ⟨⟨_, rfl⟩, stays⟩
        | failed fault => exact ⟨⟨_, rfl⟩, stays⟩

section
variable {handle : Nat → Payload → Action σ Unit}

theorem cycle_answers (calm : ∀ index (inlet : Inlet), inlet.Calm (handle index) kind)
    (index : Nat) (seats : List Seat) : Action.Answers kind (cycle handle index seats) := by
  induction seats generalizing index with
  | nil => exact .pure _
  | cons seat seats ih =>
    exact .bind (seat.turn_answers (calm index)) fun _ => .bind (ih (index + 1)) fun _ => .pure _

theorem drain_answers (calm : ∀ index (inlet : Inlet), inlet.Calm (handle index) kind)
    (cycles : Nat) (seats : List Seat) : Action.Answers kind (drain handle cycles seats) := by
  induction cycles generalizing seats with
  | zero => exact .pure _
  | succ cycles ih =>
    refine .bind (cycle_answers calm 0 seats) fun ⟨seats, report, found⟩ => ?_
    cases found with
    | false => exact .pure _
    | true => exact .bind (ih seats) fun _ => .pure _

theorem Multiplexer.tick_answers (calm : ∀ index (inlet : Inlet), inlet.Calm (handle index) kind)
    (multiplexer : Multiplexer) : Action.Answers kind (multiplexer.tick handle) :=
  .bind (drain_answers calm _ _) fun _ => .pure _

end

end Telemetry
