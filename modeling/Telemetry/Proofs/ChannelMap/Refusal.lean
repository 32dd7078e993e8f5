import Telemetry.Proofs.ChannelMap.Mapping

/-! What a refused mapping leaves behind. Keys are claimed one after another before any of them is
mapped. A key that is claimed already ends this, and the keys in front of it stay claimed: they are
mapped to nothing and can be mapped no more. Nothing else is different afterwards. -/
namespace Telemetry.ChannelMap

inductive Request
  | continuous (keys : List String) (buffers : List Nat)
  | events (channel : String) (buffers : List Nat)
  deriving DecidableEq, Repr

namespace Request

def names : Request → List String
  | continuous keys _ => keys
  | events channel _ => [channel]

def map : Request → Action ChannelMap Unit
  | continuous keys buffers => mapContinuous keys buffers
  | events channel buffers => mapEvents channel buffers

end Request

/-- The channel map that some requests make, refused ones included. -/
def ofRequests (requests : List Request) : ChannelMap :=
  requests.foldl (fun channels request => (request.map channels).state) {}

inductive Call
  | map (request : Request)
  | delta (buffers : List Buffer) (now : Binary64)
  | size

inductive Answer
  | mapped (result : Except Failure Unit)
  | delta (delta : Delta)
  | size (size : Nat)
  deriving DecidableEq

namespace Call

def names : Call → List String
  | map request => request.names
  | delta _ _ | size => []

def answer (channels : ChannelMap) : Call → Answer
  | map request => .mapped (request.map channels).result
  | delta buffers now => .delta (channels.delta buffers now)
  | size => .size channels.size

/-- Only mapping changes a channel map. -/
def after (channels : ChannelMap) : Call → ChannelMap
  | map request => (request.map channels).state
  | delta _ _ | size => channels

end Call

def answers (channels : ChannelMap) : List Call → List Answer
  | [] => []
  | call :: calls => call.answer channels :: answers (call.after channels) calls

/-- Names that have a buffer. -/
def names (channels : ChannelMap) : List String :=
  channels.continuous.map (·.1) ++ channels.events.map (·.1)

variable {channels left right : ChannelMap} {name : String} {failure : Failure}

/-- What a request does. -/
inductive Maps (channels : ChannelMap) : Request → Except Failure Unit → ChannelMap → Prop
  | miscounted {keys : List String} {buffers : List Nat} (other : keys.length ≠ buffers.length) :
      Maps channels (.continuous keys buffers)
        (.error (.fault (.config (.keyCount keys.length buffers.length)))) channels
  | repeated {front rest : List String} {name : String} (buffers : List Nat) (distinct : front.Nodup)
      (fresh : ∀ name ∈ front, name ∉ channels.claimed) (taken : name ∈ channels.claimed ++ front) :
      Maps channels (.continuous (front ++ name :: rest) buffers)
        (.error (.fault (.config (.mappedTwice name))))
        { channels with claimed := channels.claimed ++ front }
  | continuous {keys : List String} {buffers : List Nat} (same : keys.length = buffers.length)
      (distinct : keys.Nodup) (fresh : ∀ name ∈ keys, name ∉ channels.claimed) :
      Maps channels (.continuous keys buffers) (.ok ())
        { channels with
          continuous := channels.continuous ++ keys.zip buffers
          claimed := channels.claimed ++ keys }
  | taken {channel : String} (buffers : List Nat) (taken : channel ∈ channels.claimed) :
      Maps channels (.events channel buffers) (.error (.fault (.config (.mappedTwice channel)))) channels
  | events {channel : String} (buffers : List Nat) (fresh : channel ∉ channels.claimed) :
      Maps channels (.events channel buffers) (.ok ())
        { channels with
          events := channels.events ++ [(channel, buffers)]
          claimed := channels.claimed ++ [channel] }

theorem Request.map_maps (request : Request) (channels : ChannelMap) :
    Maps channels request (request.map channels).result (request.map channels).state := by
  cases request with
  | continuous keys buffers =>
    rw [map]
    by_cases same : keys.length = buffers.length
    · obtain ⟨distinct, fresh⟩ | ⟨front, name, rest, rfl, distinct, fresh, taken⟩ :=
        claims_split keys channels.claimed
      · rw [mapContinuous_free same distinct fresh]
        exact .continuous same distinct fresh
      · rw [mapContinuous_taken distinct fresh taken same]
        exact .repeated buffers distinct fresh taken
    · rw [mapContinuous_miscounted same]
      exact .miscounted same
  | events channel buffers =>
    rw [map]
    by_cases taken : channel ∈ channels.claimed
    · rw [mapEvents_taken taken]
      exact .taken buffers taken
    · rw [mapEvents_free taken buffers]
      exact .events buffers taken

namespace Maps
variable {request : Request} {result : Except Failure Unit} {after : ChannelMap}

theorem claimed (maps : Maps channels request result after) :
    ∀ name ∈ channels.claimed, name ∈ after.claimed := by
  cases maps <;> simp +contextual

theorem fresh_of_ok (maps : Maps channels request (.ok ()) after) :
    ∀ name ∈ request.names, name ∉ channels.claimed := by
  cases maps with
  | continuous same distinct fresh => exact fresh
  | events buffers fresh => simpa [Request.names] using fresh

/-- Only names that are new get a buffer, and with it they are claimed. -/
theorem mem_names (maps : Maps channels request result after) :
    ∀ name ∈ after.names, name ∈ channels.names ∨ name ∉ channels.claimed ∧ name ∈ after.claimed := by
  intro name member
  cases maps with
  | continuous same distinct fresh =>
    simp only [ChannelMap.names, List.map_append, List.map_fst_zip (Nat.le_of_eq same),
      List.mem_append] at member ⊢
    grind
  | events buffers fresh =>
    simp only [ChannelMap.names, List.map_append, List.map_cons, List.map_nil, List.mem_append,
      List.mem_singleton] at member ⊢
    grind
  | _ => exact .inl member

/-- A request that is refused claims the keys in front of the repeated one. -/
theorem of_error (maps : Maps channels request (.error failure) after) :
    ∃ stranded, after = { channels with claimed := channels.claimed ++ stranded } ∧
      (∀ name ∈ stranded, name ∉ channels.claimed) ∧
      (stranded = [] ∨ ∃ name rest buffers, request = .continuous (stranded ++ name :: rest) buffers ∧
        name ∈ channels.claimed ++ stranded ∧ failure = .fault (.config (.mappedTwice name))) := by
  cases maps with
  | miscounted other => exact ⟨[], by simp, nofun, .inl rfl⟩
  | repeated buffers distinct fresh taken => exact ⟨_, rfl, fresh, .inr ⟨_, _, _, rfl, taken, rfl⟩⟩
  | taken buffers taken => exact ⟨[], by simp, nofun, .inl rfl⟩

end Maps

theorem ofRequests_append_singleton (requests : List Request) (request : Request) :
    ofRequests (requests ++ [request]) = (request.map (ofRequests requests)).state := by
  rw [ofRequests, List.foldl_append]
  rfl

theorem names_claimed (requests : List Request) :
    ∀ name ∈ (ofRequests requests).names, name ∈ (ofRequests requests).claimed := by
  induction requests using List.reverseRecOn with
  | nil => nofun
  | append_singleton requests request ih =>
    intro name member
    rw [ofRequests_append_singleton] at member ⊢
    have maps := request.map_maps (ofRequests requests)
    rcases maps.mem_names name member with old | ⟨-, new⟩
    · exact maps.claimed name (ih name old)
    · exact new

/-- The name is claimed, but it has no buffer. -/
def Strands (channels : ChannelMap) (name : String) : Prop :=
  name ∈ channels.claimed ∧ name ∉ channels.names

theorem Strands.after (strands : channels.Strands name) (call : Call) :
    (call.after channels).Strands name := by
  cases call with
  | map request =>
    have maps := request.map_maps channels
    refine ⟨maps.claimed name strands.1, fun member => ?_⟩
    rcases maps.mem_names name member with old | ⟨unclaimed, -⟩
    · exact strands.2 old
    · exact unclaimed strands.1
  | delta buffers now => exact strands
  | size => exact strands

theorem Strands.afterAll (strands : channels.Strands name) (calls : List Call) :
    (calls.foldl Call.after channels).Strands name := by
  induction calls generalizing channels with
  | nil => exact strands
  | cons call calls ih => exact ih (strands.after call)

theorem Strands.refuses (strands : channels.Strands name) (request : Request)
    (named : name ∈ request.names) : (request.map channels).result ≠ .ok () := by
  intro ok
  have maps := request.map_maps channels
  rw [ok] at maps
  exact maps.fresh_of_ok name named strands.1

/-- The same channels are mapped, and the same names are claimed but for some that nobody uses. -/
structure Alike (unused : List String) (left right : ChannelMap) : Prop where
  continuous : left.continuous = right.continuous
  events : left.events = right.events
  claimed : ∀ name ∉ unused, name ∈ left.claimed ↔ name ∈ right.claimed

section
variable {unused : List String}

theorem claim_agrees (used : name ∉ unused) : (claim name).Agrees (Alike unused) := by
  intro left right alike
  by_cases taken : name ∈ left.claimed
  · rw [claim_taken taken, claim_taken ((alike.claimed name used).mp taken)]
    exact ⟨rfl, alike⟩
  · rw [claim_free taken, claim_free (mt (alike.claimed name used).mpr taken)]
    exact ⟨rfl, alike.continuous, alike.events, fun other free => by simp [alike.claimed other free]⟩

theorem claimAll_agrees {names : List String} (used : ∀ name ∈ names, name ∉ unused) :
    (claimAll names).Agrees (Alike unused) := by
  induction names with
  | nil => exact .done ()
  | cons name names ih =>
    obtain ⟨first, others⟩ := List.forall_mem_cons.mp used
    exact .bind (claim_agrees first) fun _ => ih others

theorem Request.map_agrees {request : Request} (used : ∀ name ∈ request.names, name ∉ unused) :
    request.map.Agrees (Alike unused) := by
  cases request with
  | continuous keys buffers =>
    have mapped : (claimAll keys >>= fun _ => Action.change fun channels =>
        { channels with continuous := channels.continuous ++ keys.zip buffers }).Agrees (Alike unused) :=
      .bind (claimAll_agrees used) fun _ => .change fun left right alike =>
        { alike with continuous := congrArg (· ++ _) alike.continuous }
    by_cases same : keys.length = buffers.length
    · simp only [map, mapContinuous, same, ne_eq, not_true_eq_false, if_false]
      exact mapped
    · simp only [map, mapContinuous, ne_eq, same, not_false_eq_true, if_true]
      exact .bind (.refuse _) fun _ => mapped
  | events channel buffers =>
    exact .bind (claim_agrees (used channel (List.mem_singleton_self channel))) fun _ =>
      .change fun left right alike => { alike with events := congrArg (· ++ _) alike.events }

theorem Alike.call (alike : Alike unused left right) {call : Call}
    (used : ∀ name ∈ call.names, name ∉ unused) :
    call.answer left = call.answer right ∧ Alike unused (call.after left) (call.after right) := by
  cases call with
  | map request =>
    obtain ⟨answer, after⟩ := Request.map_agrees used left right alike
    exact ⟨congrArg Answer.mapped answer, after⟩
  | delta buffers now =>
    have same : left.delta buffers now = right.delta buffers now := by
      simp only [delta, alike.continuous, alike.events]
    exact ⟨congrArg Answer.delta same, alike⟩
  | size =>
    have same : left.size = right.size := by
      simp only [size, alike.continuous, alike.events]
    exact ⟨congrArg Answer.size same, alike⟩

theorem Alike.answers (alike : Alike unused left right) {calls : List Call}
    (used : ∀ call ∈ calls, ∀ name ∈ call.names, name ∉ unused) :
    answers left calls = answers right calls := by
  induction calls generalizing left right with
  | nil => rfl
  | cons call calls ih =>
    obtain ⟨first, others⟩ := List.forall_mem_cons.mp used
    obtain ⟨answer, after⟩ := alike.call first
    exact congrArg₂ List.cons answer (ih after others)

end

/-- A refused request maps nothing, and later calls answer as if it had not been made unless they name a
key that stood in front of the repeated one. Such a key had no channel and could be mapped before the
request; it has none after it, and every request for it is refused. So the request can be told from none at
all exactly when the repeated key was not the first. -/
theorem refused_mapping_strands {requests : List Request} {request : Request} {failure : Failure}
    (refused : (request.map (ofRequests requests)).result = .error failure) :
    let before := ofRequests requests
    let after := (request.map before).state
    ∃ stranded : List String,
      (stranded = [] ∨ ∃ name rest buffers, request = .continuous (stranded ++ name :: rest) buffers ∧
        name ∈ before.claimed ++ stranded ∧ failure = .fault (.config (.mappedTwice name))) ∧
      (∀ calls, (∀ call ∈ calls, ∀ name ∈ call.names, name ∉ stranded) →
        answers after calls = answers before calls) ∧
      ((∀ calls, answers after calls = answers before calls) ↔ stranded = []) ∧
      ∀ name ∈ stranded, name ∉ before.names ∧
        (∀ buffers, ((Request.events name buffers).map before).result = .ok ()) ∧
        ∀ calls : List Call, let later := calls.foldl Call.after after
          name ∉ later.names ∧ ∀ other : Request, name ∈ other.names → (other.map later).result ≠ .ok () := by
  intro before after
  have maps := request.map_maps before
  rw [refused] at maps
  obtain ⟨stranded, left, fresh, which⟩ := maps.of_error
  replace left : after = { before with claimed := before.claimed ++ stranded } := left
  have alike : Alike stranded after before :=
    { continuous := by rw [left], events := by rw [left], claimed := fun name used => by simp [left, used] }
  have mappable : ∀ name ∈ stranded, ∀ buffers, ((Request.events name buffers).map before).result = .ok () := by
    intro name front buffers
    exact congrArg Outcome.result (mapEvents_free (fresh name front) buffers)
  have unmapped : ∀ name ∈ stranded, name ∉ before.names := fun name front member =>
    fresh name front (names_claimed requests name member)
  have lost : ∀ name ∈ stranded, after.Strands name := fun name front =>
    ⟨by simp [left, front], left ▸ unmapped name front⟩
  refine ⟨stranded, which, fun calls used => alike.answers used, ⟨fun same => ?_, fun none calls => ?_⟩,
    fun name front => ⟨unmapped name front, mappable name front, fun calls => ?_⟩⟩
  · -- A stranded key gives itself away: it could be mapped before, and is refused after.
    refine List.eq_nil_iff_forall_not_mem.mpr fun name front => ?_
    have answer := same [.map (.events name [])]
    simp only [answers, Call.answer, List.cons.injEq, Answer.mapped.injEq] at answer
    exact (lost name front).refuses (.events name []) (List.mem_singleton_self name)
      (answer.1.trans (mappable name front []))
  · exact alike.answers fun _ _ name _ => none ▸ List.not_mem_nil
  · have later := (lost name front).afterAll calls
    exact ⟨later.2, later.refuses⟩

/-- After a mapping of `reward`, the request for `rate` and `reward` is refused. It can be told only by a
call for `rate`, which had no channel before and cannot get one any more. -/
theorem repeated_key_strands :
    let before := ofRequests [.continuous ["reward"] [0]]
    let request : Request := .continuous ["rate", "reward"] [1, 0]
    let after := (request.map before).state
    (request.map before).result = .error (.fault (.config (.mappedTwice "reward"))) ∧
      (∀ calls, (∀ call ∈ calls, "rate" ∉ call.names) → answers after calls = answers before calls) ∧
      ((Request.events "rate" [1]).map before).result = .ok () ∧
      ∀ calls : List Call, ∀ other : Request, "rate" ∈ other.names →
        (other.map (calls.foldl Call.after after)).result ≠ .ok () := by
  intro before request after
  have refused : (request.map before).result = .error (.fault (.config (.mappedTwice "reward"))) := by decide
  obtain ⟨stranded, which, kept, told, lost⟩ := refused_mapping_strands refused
  have some : stranded ≠ [] := fun none =>
    absurd (told.mpr none [.map (.events "rate" [1])]) (by decide)
  have rate : stranded = ["rate"] := by
    obtain none | ⟨name, rest, buffers, split, -, -⟩ := which
    · exact absurd none some
    · match stranded with
      | [] => exact absurd rfl some
      | first :: others => simp_all [request, List.cons_eq_append_iff]
  subst rate
  obtain ⟨-, mappable, later⟩ := lost "rate" (List.mem_singleton_self _)
  refine ⟨refused, fun calls used => kept calls ?_, mappable [1], fun calls => (later calls).2⟩
  intro call member name named
  exact fun front => used call member (List.mem_singleton.mp front ▸ named)

/-- A refused request does not always leave the channel map as it was. -/
theorem refused_mapping_observed :
    ¬ ∀ (requests : List Request) (request : Request) (failure : Failure),
      (request.map (ofRequests requests)).result = .error failure →
        ∀ calls, answers (request.map (ofRequests requests)).state calls =
          answers (ofRequests requests) calls := by
  intro unchanged
  have same := unchanged [.continuous ["reward"] [0]] (.continuous ["rate", "reward"] [1, 0])
    (.fault (.config (.mappedTwice "reward"))) (by decide) [.map (.continuous ["rate"] [1])]
  revert same
  decide

end Telemetry.ChannelMap
