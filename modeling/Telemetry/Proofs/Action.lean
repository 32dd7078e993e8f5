import Telemetry.Action

/-! How operations compose. The second operation of a sequence sees the state and the answer of
the first one, and a sequence that answers has run both. -/
namespace Telemetry.Action
variable {σ ρ α β : Type}

@[simp] theorem pure_run (a : α) (state : σ) : (pure a : Action σ α) state = ⟨state, .ok a, []⟩ := rfl

@[simp] theorem done_run (a : α) (state : σ) : done a state = ⟨state, .ok a, []⟩ := rfl

@[simp] theorem fail_run (fault : Fault) (state : σ) :
    (fail fault : Action σ α) state = ⟨state, .error (.fault fault), []⟩ := rfl

@[simp] theorem refuse_run (cause : ConfigFault) (state : σ) :
    (refuse cause : Action σ α) state = ⟨state, .error (.fault (.config cause)), []⟩ := rfl

@[simp] theorem breach_run (broken : Breach) (state : σ) :
    (breach broken : Action σ α) state = ⟨state, .error (.breach broken), []⟩ := rfl

@[simp] theorem write_run (next state : σ) : write next state = ⟨next, .ok (), []⟩ := rfl

@[simp] theorem change_run (f : σ → σ) (state : σ) : change f state = ⟨f state, .ok (), []⟩ := rfl

@[simp] theorem log_run (level : Level) (text : String) (state : σ) :
    log level text state = ⟨state, .ok (), [⟨level, text⟩]⟩ := rfl

@[simp] theorem settle_ok (a : α) (state : σ) : settle (.ok a) state = ⟨state, .ok a, []⟩ := rfl

@[simp] theorem settle_error (failure : Failure) (state : σ) :
    (settle (.error failure) : Action σ α) state = ⟨state, .error failure, []⟩ := rfl

@[simp] theorem settle_state (result : Except Failure α) (state : σ) :
    (settle result state).state = state := by
  cases result <;> rfl

@[simp] theorem attempt_run (action : Action σ α) (state : σ) :
    attempt action state = ⟨(action state).state, .ok (action state).result, (action state).log⟩ := rfl

@[simp] theorem within_run (part : ρ → σ) (replace : ρ → σ → ρ) (action : Action σ α) (state : ρ) :
    action.within part replace state =
      ⟨replace state (action (part state)).state, (action (part state)).result,
        (action (part state)).log⟩ := rfl

@[simp] theorem pure_then (a : α) (next : α → Action σ β) (state : σ) :
    (pure a >>= next) state = next a state := rfl

@[simp] theorem read_then (next : σ → Action σ β) (state : σ) :
    (read >>= next) state = next state state := rfl

@[simp] theorem write_then (written state : σ) (next : Unit → Action σ β) :
    (write written >>= next) state = next () written := rfl

@[simp] theorem change_then (f : σ → σ) (next : Unit → Action σ β) (state : σ) :
    (change f >>= next) state = next () (f state) := rfl

@[simp] theorem fail_then (fault : Fault) (next : α → Action σ β) (state : σ) :
    (fail fault >>= next) state = ⟨state, .error (.fault fault), []⟩ := rfl

@[simp] theorem refuse_then (cause : ConfigFault) (next : α → Action σ β) (state : σ) :
    (refuse cause >>= next) state = ⟨state, .error (.fault (.config cause)), []⟩ := rfl

@[simp] theorem breach_then (broken : Breach) (next : α → Action σ β) (state : σ) :
    (breach broken >>= next) state = ⟨state, .error (.breach broken), []⟩ := rfl

@[simp] theorem settle_ok_then (a : α) (next : α → Action σ β) (state : σ) :
    (settle (.ok a) >>= next) state = next a state := rfl

@[simp] theorem settle_error_then (failure : Failure) (next : α → Action σ β) (state : σ) :
    (settle (.error failure) >>= next) state = ⟨state, .error failure, []⟩ := rfl

theorem logAll_then (records : Log) (next : Unit → Action σ β) (state : σ) :
    (logAll records >>= next) state =
      ⟨(next () state).state, (next () state).result, records ++ (next () state).log⟩ := rfl

theorem attempt_then (action : Action σ α) (next : Except Failure α → Action σ β) (state : σ) :
    (attempt action >>= next) state =
      ⟨(next (action state).result (action state).state).state,
        (next (action state).result (action state).state).result,
        (action state).log ++ (next (action state).result (action state).state).log⟩ := rfl

theorem bind_of_ok {first : Action σ α} {state : σ} {a : α} (ok : (first state).result = .ok a)
    (next : α → Action σ β) :
    (first >>= next) state =
      ⟨(next a (first state).state).state, (next a (first state).state).result,
        (first state).log ++ (next a (first state).state).log⟩ := by
  change andThen first next state = _
  simp only [andThen, ok]

theorem bind_of_error {first : Action σ α} {state : σ} {failure : Failure}
    (error : (first state).result = .error failure) (next : α → Action σ β) :
    (first >>= next) state = ⟨(first state).state, .error failure, (first state).log⟩ := by
  change andThen first next state = _
  simp only [andThen, error]

theorem then_pure (first : Action σ α) (f : α → β) (state : σ) :
    (first >>= fun a => pure (f a)) state =
      ⟨(first state).state, (first state).result.map f, (first state).log ++ []⟩ := by
  cases answer : (first state).result with
  | ok a =>
    rw [bind_of_ok answer]
    rfl
  | error failure =>
    rw [bind_of_error answer, List.append_nil]
    rfl

theorem bind_success {first : Action σ α} {next : α → Action σ β} {state : σ} {b : β}
    (ok : ((first >>= next) state).result = .ok b) :
    ∃ a, (first state).result = .ok a ∧ (next a (first state).state).result = .ok b ∧
      ((first >>= next) state).state = (next a (first state).state).state := by
  cases answer : (first state).result with
  | error failure => simp [bind_of_error answer] at ok
  | ok a =>
    rw [bind_of_ok answer] at ok ⊢
    exact ⟨a, rfl, ok, rfl⟩

theorem bind_failure {first : Action σ α} {next : α → Action σ β} {state : σ} {failure : Failure}
    (failed : ((first >>= next) state).result = .error failure) :
    (first state).result = .error failure ∧ ((first >>= next) state).state = (first state).state ∨
      ∃ a, (first state).result = .ok a ∧
        (next a (first state).state).result = .error failure ∧
        ((first >>= next) state).state = (next a (first state).state).state := by
  cases answer : (first state).result with
  | error other =>
    rw [bind_of_error answer] at failed ⊢
    exact .inl ⟨by simpa using failed, rfl⟩
  | ok a =>
    rw [bind_of_ok answer] at failed ⊢
    exact .inr ⟨a, rfl, failed, rfl⟩

/-- The operation answers or fails, but never breaks a contract. -/
def Unbroken (action : Action σ α) : Prop :=
  ∀ state broken, (action state).result ≠ .error (.breach broken)

namespace Unbroken

theorem done (a : α) : Unbroken (done a : Action σ α) := by
  simp [Unbroken]

theorem fail (fault : Fault) : Unbroken (fail fault : Action σ α) := by
  simp [Unbroken]

theorem read : Unbroken (read : Action σ σ) := fun _ _ equal => nomatch equal

theorem write (written : σ) : Unbroken (write written) := by
  simp [Unbroken]

theorem log (level : Level) (text : String) : Unbroken (log level text : Action σ Unit) := by
  simp [Unbroken]

theorem bind {first : Action σ α} {next : α → Action σ β} (begins : first.Unbroken)
    (goes : ∀ a, (next a).Unbroken) : (first >>= next).Unbroken := by
  intro state broken
  cases answer : (first state).result with
  | ok a =>
    rw [bind_of_ok answer]
    exact goes a (first state).state broken
  | error failure =>
    rw [bind_of_error answer]
    have sound := begins state broken
    rw [answer] at sound
    simpa using sound

end Unbroken

/-- From a state of the kind on the operation answers, and leaves a state of the kind. -/
def Answers (kind : σ → Prop) (action : Action σ α) : Prop :=
  ∀ state, kind state → (∃ a, (action state).result = .ok a) ∧ kind (action state).state

namespace Answers
variable {kind : σ → Prop}

theorem pure (a : α) : Answers kind (pure a : Action σ α) := fun _ fit => ⟨⟨a, rfl⟩, fit⟩

theorem change {f : σ → σ} (stays : ∀ state, kind state → kind (f state)) :
    Answers kind (change f) := fun state fit => ⟨⟨(), rfl⟩, stays state fit⟩

theorem bind {first : Action σ α} {next : α → Action σ β} (begins : Answers kind first)
    (goes : ∀ a, Answers kind (next a)) : Answers kind (first >>= next) := by
  intro state fit
  obtain ⟨⟨a, answer⟩, stays⟩ := begins state fit
  rw [bind_of_ok answer]
  exact goes a (first state).state stays

end Answers

/-- On two states of the kind the operation answers the same, and leaves two states of the kind. -/
def Agrees (alike : σ → σ → Prop) (action : Action σ α) : Prop :=
  ∀ left right, alike left right →
    (action left).result = (action right).result ∧ alike (action left).state (action right).state

namespace Agrees
variable {alike : σ → σ → Prop}

theorem done (a : α) : Agrees alike (done a : Action σ α) := fun _ _ same => ⟨rfl, same⟩

theorem refuse (cause : ConfigFault) : Agrees alike (refuse cause : Action σ α) :=
  fun _ _ same => ⟨rfl, same⟩

theorem change {f : σ → σ} (stays : ∀ left right, alike left right → alike (f left) (f right)) :
    Agrees alike (change f) := fun left right same => ⟨rfl, stays left right same⟩

theorem bind {first : Action σ α} {next : α → Action σ β} (begins : Agrees alike first)
    (goes : ∀ a, Agrees alike (next a)) : Agrees alike (first >>= next) := by
  intro left right same
  obtain ⟨answer, stays⟩ := begins left right same
  cases result : (first left).result with
  | error failure =>
    rw [bind_of_error result, bind_of_error (answer ▸ result)]
    exact ⟨rfl, stays⟩
  | ok a =>
    rw [bind_of_ok result, bind_of_ok (answer ▸ result)]
    exact goes a _ _ stays

end Agrees

end Telemetry.Action
