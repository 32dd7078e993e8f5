import Telemetry.Fault

/-! Operations on a state that may stop short and that keep a log. What an operation changed
before it stopped stays changed, and what it logged stays logged. -/
namespace Telemetry

inductive Level
  | error
  | warn
  | info
  | debug
  deriving DecidableEq, Repr

def Level.name : Level → String
  | .error => "ERROR"
  | .warn => "WARN"
  | .info => "INFO"
  | .debug => "DEBUG"

structure LogRecord where
  level : Level
  text : String
  deriving DecidableEq, Repr

abbrev Log := List LogRecord

structure Outcome (σ : Type) (α : Type) where
  state : σ
  result : Except Failure α
  log : Log := []

abbrev Action (σ : Type) (α : Type) := σ → Outcome σ α

namespace Action
variable {σ α β : Type}

def done (a : α) : Action σ α := fun state => ⟨state, .ok a, []⟩

def stop (failure : Failure) : Action σ α := fun state => ⟨state, .error failure, []⟩

/-- The second operation runs on the state the first one left, unless that one stopped. -/
def andThen (first : Action σ α) (next : α → Action σ β) : Action σ β := fun state =>
  let outcome := first state
  match outcome.result with
  | .error failure => ⟨outcome.state, .error failure, outcome.log⟩
  | .ok a =>
    let last := next a outcome.state
    ⟨last.state, last.result, outcome.log ++ last.log⟩

instance : Monad (Action σ) where
  pure := done
  bind := andThen

def fail (fault : Fault) : Action σ α := stop (.fault fault)

def refuse (cause : ConfigFault) : Action σ α := fail (.config cause)

def breach (breach : Breach) : Action σ α := stop (.breach breach)

def read : Action σ σ := fun state => ⟨state, .ok state, []⟩

def write (state : σ) : Action σ Unit := fun _ => ⟨state, .ok (), []⟩

def change (f : σ → σ) : Action σ Unit := fun state => ⟨f state, .ok (), []⟩

def log (level : Level) (text : String) : Action σ Unit := fun state =>
  ⟨state, .ok (), [⟨level, text⟩]⟩

def logAll (records : Log) : Action σ Unit := fun state => ⟨state, .ok (), records⟩

/-- The result of an operation as a value. -/
def attempt (action : Action σ α) : Action σ (Except Failure α) := fun state =>
  let outcome := action state
  ⟨outcome.state, .ok outcome.result, outcome.log⟩

/-- Stops with the failure that a value holds, if it holds one. -/
def settle : Except Failure α → Action σ α
  | .ok a => done a
  | .error failure => stop failure

def within {ρ : Type} (part : ρ → σ) (replace : ρ → σ → ρ) (action : Action σ α) : Action ρ α :=
  fun state =>
    let outcome := action (part state)
    ⟨replace state outcome.state, outcome.result, outcome.log⟩

end Action
end Telemetry
