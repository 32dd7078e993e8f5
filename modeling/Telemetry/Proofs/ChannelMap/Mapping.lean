import Telemetry.ChannelMap
import Telemetry.Proofs.Action
import Mathlib.Data.List.Induction
import Mathlib.Data.List.Nodup

/-! What a mapping does. Keys are claimed one after another as far as the first that is claimed already,
and none of them is mapped if there is such a key. -/
namespace Telemetry.ChannelMap
variable {channels : ChannelMap} {name : String} {keys front : List String} {buffers : List Nat}

theorem claim_free (free : name ∉ channels.claimed) :
    claim name channels = ⟨{ channels with claimed := channels.claimed ++ [name] }, .ok (), []⟩ := by
  rw [claim, Action.read_then]
  simp [free]

theorem claim_taken (taken : name ∈ channels.claimed) :
    claim name channels = ⟨channels, .error (.fault (.config (.mappedTwice name))), []⟩ := by
  rw [claim, Action.read_then]
  simp [taken]

/-- New keys at the front are claimed, and the others are claimed after them. -/
theorem claimAll_front (distinct : front.Nodup) (fresh : ∀ key ∈ front, key ∉ channels.claimed)
    (rest : List String) :
    claimAll (front ++ rest) channels =
      claimAll rest { channels with claimed := channels.claimed ++ front } := by
  induction front generalizing channels with
  | nil => simp
  | cons key front ih =>
    obtain ⟨single, others⟩ := List.nodup_cons.mp distinct
    obtain ⟨first, later⟩ := List.forall_mem_cons.mp fresh
    let claimed : ChannelMap := { channels with claimed := channels.claimed ++ [key] }
    have unclaimed : ∀ other ∈ front, other ∉ claimed.claimed := by
      intro other member
      have different : other ≠ key := fun same => single (same ▸ member)
      simp [claimed, later other member, different]
    calc
      claimAll (key :: front ++ rest) channels = claimAll (front ++ rest) claimed := by
        rw [List.cons_append, claimAll, Action.bind_of_ok (congrArg Outcome.result (claim_free first)),
          claim_free first]
        rfl
      _ = _ := by simp [ih others unclaimed, claimed]

theorem claimAll_free (distinct : keys.Nodup) (fresh : ∀ key ∈ keys, key ∉ channels.claimed) :
    claimAll keys channels = ⟨{ channels with claimed := channels.claimed ++ keys }, .ok (), []⟩ := by
  have all := claimAll_front distinct fresh []
  rwa [List.append_nil] at all

theorem claimAll_taken (distinct : front.Nodup) (fresh : ∀ key ∈ front, key ∉ channels.claimed)
    (taken : name ∈ channels.claimed ++ front) (rest : List String) :
    claimAll (front ++ name :: rest) channels =
      ⟨{ channels with claimed := channels.claimed ++ front },
        .error (.fault (.config (.mappedTwice name))), []⟩ := by
  let claimed : ChannelMap := { channels with claimed := channels.claimed ++ front }
  have refused : claim name claimed = _ := claim_taken taken
  rw [claimAll_front distinct fresh, claimAll, Action.bind_of_error (congrArg Outcome.result refused), refused]

/-- All keys are new, or there is a first one that is claimed already. -/
theorem claims_split (keys claimed : List String) :
    (keys.Nodup ∧ ∀ key ∈ keys, key ∉ claimed) ∨
      ∃ front name rest, keys = front ++ name :: rest ∧ front.Nodup ∧ (∀ key ∈ front, key ∉ claimed) ∧
        name ∈ claimed ++ front := by
  induction keys using List.reverseRecOn with
  | nil => exact .inl ⟨List.nodup_nil, nofun⟩
  | append_singleton keys key ih =>
    obtain ⟨distinct, fresh⟩ | ⟨front, name, rest, rfl, known⟩ := ih
    · by_cases taken : key ∈ claimed ++ keys
      · exact .inr ⟨keys, key, [], rfl, distinct, fresh, taken⟩
      · rw [List.mem_append, not_or] at taken
        refine .inl ⟨?_, ?_⟩
        · rw [← List.concat_eq_append]
          exact distinct.concat taken.2
        · rw [List.forall_mem_append, List.forall_mem_singleton]
          exact ⟨fresh, taken.1⟩
    · exact .inr ⟨front, name, rest ++ [key], by simp, known⟩

theorem mapContinuous_miscounted (other : keys.length ≠ buffers.length) :
    mapContinuous keys buffers channels =
      ⟨channels, .error (.fault (.config (.keyCount keys.length buffers.length))), []⟩ := by
  simp [mapContinuous, other]

theorem mapContinuous_free (same : keys.length = buffers.length) (distinct : keys.Nodup)
    (fresh : ∀ key ∈ keys, key ∉ channels.claimed) :
    mapContinuous keys buffers channels =
      ⟨{ channels with
          continuous := channels.continuous ++ keys.zip buffers
          claimed := channels.claimed ++ keys }, .ok (), []⟩ := by
  have claimed := claimAll_free distinct fresh
  simp only [mapContinuous, same, ne_eq, not_true_eq_false, if_false]
  rw [Action.bind_of_ok (congrArg Outcome.result claimed), claimed]
  rfl

/-- The keys in front of one that is claimed already are claimed, and no key is mapped. -/
theorem mapContinuous_taken (distinct : front.Nodup) (fresh : ∀ key ∈ front, key ∉ channels.claimed)
    (taken : name ∈ channels.claimed ++ front) {rest : List String}
    (same : (front ++ name :: rest).length = buffers.length) :
    mapContinuous (front ++ name :: rest) buffers channels =
      ⟨{ channels with claimed := channels.claimed ++ front },
        .error (.fault (.config (.mappedTwice name))), []⟩ := by
  have refused := claimAll_taken distinct fresh taken rest
  simp only [mapContinuous, same, ne_eq, not_true_eq_false, if_false]
  rw [Action.bind_of_error (congrArg Outcome.result refused), refused]

theorem mapEvents_free (free : name ∉ channels.claimed) (buffers : List Nat) :
    mapEvents name buffers channels =
      ⟨{ channels with
          events := channels.events ++ [(name, buffers)]
          claimed := channels.claimed ++ [name] }, .ok (), []⟩ := by
  have claimed := claim_free free
  rw [mapEvents, Action.bind_of_ok (congrArg Outcome.result claimed), claimed]
  rfl

theorem mapEvents_taken (taken : name ∈ channels.claimed) :
    mapEvents name buffers channels = ⟨channels, .error (.fault (.config (.mappedTwice name))), []⟩ := by
  have refused := claim_taken taken
  rw [mapEvents, Action.bind_of_error (congrArg Outcome.result refused), refused]

theorem mapContinuous_success (ok : (mapContinuous keys buffers channels).result = .ok ()) :
    keys.length = buffers.length ∧ (mapContinuous keys buffers channels).state =
      { channels with
        continuous := channels.continuous ++ keys.zip buffers
        claimed := channels.claimed ++ keys } := by
  by_cases same : keys.length = buffers.length
  · obtain ⟨distinct, fresh⟩ | ⟨front, name, rest, rfl, distinct, fresh, taken⟩ :=
      claims_split keys channels.claimed
    · rw [mapContinuous_free same distinct fresh]
      exact ⟨same, rfl⟩
    · rw [mapContinuous_taken distinct fresh taken same] at ok
      cases ok
  · rw [mapContinuous_miscounted same] at ok
    cases ok

theorem mapEvents_success (ok : (mapEvents name buffers channels).result = .ok ()) :
    (mapEvents name buffers channels).state =
      { channels with
        events := channels.events ++ [(name, buffers)]
        claimed := channels.claimed ++ [name] } := by
  by_cases taken : name ∈ channels.claimed
  · rw [mapEvents_taken taken] at ok
    cases ok
  · rw [mapEvents_free taken buffers]

end Telemetry.ChannelMap
